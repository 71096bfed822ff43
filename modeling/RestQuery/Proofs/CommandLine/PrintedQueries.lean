import RestQuery.CommandLine.Run
import RestQuery.Proofs.Binding.OntoBuilder
import RestQuery.Proofs.Json.Queries

/-!
# Printed queries

What the `parse` command prints in JSON is an object whose `query` member is the structured query,
with the diagnostics beside it when they are asked for. A query string only yields texts, so nothing
of the query is lost between printing and reading.
-/

namespace RestQuery

open Json (Tree)

theorem FieldFilter.IsRead.lacksFloats {filter : FieldFilter} (isRead : filter.IsRead) :
    ∀ scalar ∈ filter.operand.scalars, scalar.isFloat = false := by
  intro scalar scalarMem
  cases isRead with
  | single field operator text notRange notList =>
      obtain rfl := List.mem_singleton.mp scalarMem
      rfl
  | range field low high =>
      rcases List.mem_pair.mp scalarMem with rfl | rfl <;> rfl
  | oneOf field texts nonempty =>
      rcases List.mem_map.mp scalarMem with ⟨text, -, rfl⟩
      rfl
  | noneOf field texts nonempty =>
      rcases List.mem_map.mp scalarMem with ⟨text, -, rfl⟩
      rfl

theorem lacksFloats_parseQueryString (raw : String) : (parseQueryString raw).query.LacksFloats :=
  fun _ filterMem => (isRead_parseQueryString filterMem).1.lacksFloats

namespace CommandLine

theorem exists_toTree_parsedJson (parsed : Parsed) (diagnostics : Bool) :
    ∃ fields, (parsedJson parsed diagnostics).toTree = .record fields ∧
      (Tree.record fields).fields? [["query"]] = some [some parsed.query.toJson.toTree] := by
  cases diagnostics with
  | true => exact ⟨_, rfl, rfl⟩
  | false => exact ⟨_, rfl, rfl⟩

/--
A structured query without doubles survives its JSON text. In particular the `parse` command prints
an object whose `query` member is read back as what the query string was read as.
-/
theorem query_of_json :
    (∀ query : Query, query.LacksFloats → Query.ofJsonText? query.toJson.render = some query) ∧
      ∀ (readYaml : String → Except ConfigError ServiceConfig)
        (contents : String → Option String) (verbose diagnostics : Bool) (raw : String),
        ∃ text fields member,
          runWith readYaml contents ⟨verbose, .json, .parse raw diagnostics⟩ = .ok text ∧
            Tree.ofText? text = some (.record fields) ∧
            (Tree.record fields).fields? [["query"]] = some [some member] ∧
            Query.ofTree? member = some (parseQueryString raw).query := by
  constructor
  · intro query lacksFloats
    rw [Query.ofJsonText?, Tree.ofText?_render, Option.bind_some]
    exact Query.ofTree?_toTree lacksFloats
  · intro readYaml contents verbose diagnostics raw
    rcases exists_toTree_parsedJson (parseQueryString raw) diagnostics with
      ⟨fields, isRecord, hasQuery⟩
    refine ⟨_, fields, _, rfl, ?_, hasQuery, ?_⟩
    · rw [Tree.ofText?_renderPretty, isRecord]
    · exact Query.ofTree?_toTree (lacksFloats_parseQueryString raw)

/-- A range with one bound and a limit that is given twice: no builder takes it, JSON does. -/
def brokenQuery : Query where
  filters := [⟨"na\"me", .between, .single (.int (-5)), true⟩, ⟨"tag", .oneOf, .list [], false⟩]
  orders := [⟨"age", ⟨"sideways"⟩⟩]
  projection := some []
  directives := [⟨.limit, "x"⟩, ⟨.limit, "7"⟩]

theorem query_of_json_brokenQuery :
    brokenQuery.LacksFloats ∧
      Query.ofJsonText? brokenQuery.toJson.render = some brokenQuery := by
  have lacksFloats : brokenQuery.LacksFloats := by
    simp [Query.LacksFloats, brokenQuery, Operand.scalars, Scalar.isFloat]
  exact ⟨lacksFloats, query_of_json.1 brokenQuery lacksFloats⟩

end CommandLine

end RestQuery
