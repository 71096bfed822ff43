import RestQuery.CommandLine.Run
import RestQuery.Proofs.Binding.ReceivedCalls
import RestQuery.Proofs.Json.ReadBack
import RestQuery.Proofs.Relay.Recorded
import RestQuery.Proofs.Service.Exchanges

/-!
# Printed addresses

The `compile` command and a client put an address together in different ways. The command prints the
base address in front of a path that has its query string behind it; a client sends the path behind
its base address and keeps the query string beside it, to be attached when the request is made.

A successful command has bound the query, compiled the builder and loaded the configuration, and
`exists_steps_of_run` gives these steps back. A client starts from the same builder: a catalog
decides whether a query is bound, but not what is bound. So `target_of_printed` finds in the printed
text the address, the path and the query string of the client's call. How the configuration is read
is left open: whatever reader of YAML is given, the command and the client have the same
configuration.
-/

namespace RestQuery

open Json (Tree)

section

variable {Failure Other Value Result : Type}

theorem exists_of_bind_ok {first : Except Failure Value} {next : Value → Except Failure Result}
    {result : Result} (succeeds : (first >>= next) = .ok result) :
    ∃ value, first = .ok value ∧ next value = .ok result := by
  cases first with
  | error failure => cases succeeds
  | ok value => exact ⟨value, rfl, succeeds⟩

theorem exists_of_map_ok {first : Except Failure Value} {change : Value → Result}
    {result : Result} (succeeds : first.map change = .ok result) :
    ∃ value, first = .ok value ∧ change value = result := by
  cases first with
  | error failure => cases succeeds
  | ok value => exact ⟨value, rfl, Except.ok.inj succeeds⟩

theorem ok_of_mapError_ok {first : Except Failure Value} {change : Failure → Other} {value : Value}
    (succeeds : first.mapError change = .ok value) : first = .ok value := by
  cases first with
  | error failure => cases succeeds
  | ok value => exact congrArg Except.ok (Except.ok.inj succeeds)

theorem ok_of_toOption {first : Except Failure Value} {value : Value}
    (succeeds : first.toOption = some value) : first = .ok value := by
  cases first with
  | error failure => cases succeeds
  | ok found => exact congrArg Except.ok (Option.some.inj succeeds)

end

/-- A query string is attached in the same way whatever stands in front of the path. -/
theorem withQuery_append (base path query : String) :
    withQuery (base ++ path) query = base ++ withQuery path query := by
  unfold withQuery
  split
  · rfl
  · simp only [String.append_assoc]

theorem withQuery_eq (location query : String) :
    withQuery location query = location ++ if query = "" then "" else "?" ++ query := by
  unfold withQuery
  by_cases isEmpty : query = ""
  · simp [isEmpty]
  · simp [isEmpty, String.append_assoc]

/-- A catalog decides whether a query is bound, but not what is bound. -/
theorem bind_of_ok {Target : Type} [Bindable Target] {query : Query} {target : Target}
    {catalog : Option Catalog} {columns : List String}
    (binds : (bind query target catalog).projection = .ok columns) :
    (bind query target catalog).target = (bind query target none).target ∧
      columns = query.select := by
  rcases runAll_of_bind_ok binds with ⟨runs, isSelect⟩
  have withoutCatalog : bind query target none = bindCalls query target [] := rfl
  refine ⟨?_, isSelect⟩
  simp only [withoutCatalog, bindCalls, runs]

namespace Builder

/-- A query string has been bound to the builder, with its columns checked or not. -/
def IsBoundTo (raw collection : String) (builder : Builder) : Prop :=
  ∃ (catalog : Option Catalog) (columns : List String),
    (bind (parseQueryString raw).query (new collection) catalog).projection = .ok columns ∧
      (bind (parseQueryString raw).query (new collection) catalog).target = builder

theorem isBoundTo_iff (raw collection : String) (builder : Builder) :
    builder.IsBoundTo raw collection ↔ builder = recorded collection raw := by
  constructor
  · intro isBound
    rcases isBound with ⟨catalog, columns, binds, isTarget⟩
    rw [← isTarget, (bind_of_ok binds).1, recorded]
  · intro isTarget
    refine ⟨none, (parseQueryString raw).query.select, ?_, isTarget.symm⟩
    rw [bind_parseQueryString]

end Builder

namespace Json

theorem itemsToJson?_texts (levels : Nat) (texts : List String) :
    Tree.itemsToJson? levels (itemTrees (texts.map .text)) = some (texts.map .text) := by
  induction texts with
  | nil => rfl
  | cons text rest ih =>
      simp [itemTrees, Tree.itemsToJson?, toTree, Tree.toJson?, partsText?_textParts, ih]

theorem toJson?_ofTexts (levels : Nat) (texts : List String) :
    (ofTexts texts).toTree.toJson? (levels + 1) = some (ofTexts texts) := by
  simp only [ofTexts, ofList, toTree, Tree.toJson?, itemsToJson?_texts, Option.map_some]

theorem toJson?_text (levels : Nat) (text : String) :
    (Json.text text).toTree.toJson? levels = some (.text text) := by
  simp only [toTree, Tree.toJson?, partsText?_textParts, Option.map_some]

end Json

namespace CommandLine

/-- The printed object has its keys in ascending order once it is read. -/
theorem CompiledQuery.read?_renderPretty (compiled : CompiledQuery) :
    Json.read? compiled.toJson.renderPretty =
      some (.object [("path", .text compiled.path), ("projection", .ofTexts compiled.projection),
        ("query", .text compiled.query), ("url", .text compiled.url)]) := by
  rw [Json.read?, Tree.ofText?_renderPretty, Option.bind_some, CompiledQuery.toJson, Json.toTree]
  simp only [Json.fieldTrees, Json.maxDepth, Tree.toJson?, Tree.fieldsToJson?,
    Json.partsText?_textParts, Json.toJson?_text, Json.toJson?_ofTexts]
  rfl

variable {readYaml : String → Except ConfigError ServiceConfig}
  {contents : String → Option String} {path : String} {verbose : Bool}
  {raw collection : String} {known : Option (List String)} {text : String}

theorem exists_config_of_baseAddress {address : String}
    (resolves : baseAddress readYaml contents (some path) = .ok address) :
    ∃ config, ServiceConfig.loadWith readYaml contents path = .ok config ∧
      config.baseUrl = .ok address := by
  simp only [baseAddress] at resolves
  split at resolves
  · cases resolves
  · rename_i config loads
    exact ⟨config, loads, ok_of_mapError_ok resolves⟩

theorem ok_of_compileRequest {request : Request} {columns : List String}
    (compiles : compileRequest raw collection known = .ok (request, columns)) :
    (recorded collection raw).compile = .ok request ∧
      columns = (parseQueryString raw).query.select := by
  rcases exists_of_bind_ok compiles with ⟨projection, projects, afterProjection⟩
  rcases exists_of_bind_ok afterProjection with ⟨compiled, builderCompiles, returned⟩
  cases returned
  rcases bind_of_ok projects with ⟨sameTarget, isSelect⟩
  refine ⟨?_, isSelect⟩
  rw [recorded, ← sameTarget]
  exact builderCompiles

/-- A command that succeeds has bound the query, compiled the builder and resolved its address. -/
theorem exists_steps_of_run
    (prints : runWith readYaml contents
      ⟨verbose, .json, .compile raw collection known (some path)⟩ = .ok text) :
    ∃ config baseUrl request columns,
      ServiceConfig.loadWith readYaml contents path = .ok config ∧
        config.baseUrl = .ok baseUrl ∧
        compileRequest raw collection known = .ok (request, columns) ∧
        text = (CompiledQuery.toJson
          ⟨request.path, request.query, baseUrl ++ request.url, columns⟩).renderPretty := by
  rcases exists_of_map_ok prints with ⟨shown, compiles, isText⟩
  rcases exists_of_bind_ok compiles with ⟨⟨request, columns⟩, requested, afterRequest⟩
  rcases exists_of_bind_ok afterRequest with ⟨baseUrl, resolves, returned⟩
  rcases exists_config_of_baseAddress resolves with ⟨config, loads, hasBaseUrl⟩
  cases returned
  exact ⟨config, baseUrl, request, columns, loads, hasBaseUrl, ok_of_mapError_ok requested,
    isText.symm⟩

/--
The printed address is the one that a client of the same configuration requests. Whatever catalog
the client checks the columns against, it gets the same builder, and to get the rows it makes a
single call: the printed path behind the base address, with the printed query string beside it.
-/
theorem target_of_printed
    (prints : runWith readYaml contents
      ⟨verbose, .json, .compile raw collection known (some path)⟩ = .ok text) :
    ∃ config baseUrl connection builder printedPath printedQuery, ∃ call : SentRequest,
      ServiceConfig.loadWith readYaml contents path = .ok config ∧
        config.baseUrl = .ok baseUrl ∧
        Connection.ofConfig config = .ok connection ∧
        (∀ other : Builder, other.IsBoundTo raw collection ↔ other = builder) ∧
        (∀ transport : Transport, ∃ result, connection.get builder transport =
          (result, ⟨transport.queue.tail, transport.calls ++ [call]⟩)) ∧
        call.url = baseUrl ++ printedPath ∧ call.payload = .query printedQuery ∧
        call.target = baseUrl ++ printedPath ++
          (if printedQuery = "" then "" else "?" ++ printedQuery) ∧
        Json.read? text = some (.object [("path", .text printedPath),
          ("projection", .ofTexts (parseQueryString raw).query.select),
          ("query", .text printedQuery), ("url", .text call.target)]) := by
  rcases exists_steps_of_run prints with
    ⟨config, baseUrl, request, columns, loads, hasBaseUrl, requested, rfl⟩
  rcases ok_of_compileRequest requested with ⟨compiles, isSelect⟩
  let connection : Connection := ⟨config, baseUrl⟩
  have connects : Connection.ofConfig config = .ok connection := by
    rw [Connection.ofConfig, hasBaseUrl]
    rfl
  have target : (connection.readCall request).target = baseUrl ++ request.url :=
    withQuery_append baseUrl request.path request.query
  refine ⟨config, baseUrl, connection, recorded collection raw, request.path, request.query,
    connection.readCall request, loads, hasBaseUrl, connects, Builder.isBoundTo_iff raw collection,
    ?_, rfl, rfl, withQuery_eq _ _, ?_⟩
  · intro transport
    exact ⟨_, connection.get_of_compile transport compiles⟩
  · rw [CompiledQuery.read?_renderPretty, target, isSelect]

/-- A configuration whose host is a folded block. -/
def foldedText : String :=
  "host: >-\n  localhost\nport: 8080\ndatabase: shop\n"

def foldedFile (path : String) : Option String :=
  if path = "shop.yml" then some foldedText else none

/-- Reads the folded configuration as what it says. -/
def readFolded (text : String) : Except ConfigError ServiceConfig :=
  if text = foldedText then
    .ok { ServiceConfig.default with
      hosts := some (.one "localhost"), port := some 8080, database := "shop" }
  else .error .invalidYaml

theorem target_of_printed_foldedFile :
    let shown := Command.compile "age=gte:18&_field=id" "users" (some ["id"]) (some "shop.yml")
    ∃ compiled : CompiledQuery,
      runWith readFolded foldedFile ⟨false, .json, shown⟩ = .ok compiled.toJson.renderPretty ∧
        compiled.url = "http://localhost:8080/api/shop/users/query?age=gte:18" ∧
        ∃ (connection : Connection) (builder : Builder) (call : SentRequest),
          builder.IsBoundTo "age=gte:18&_field=id" "users" ∧
          (∃ result, connection.get builder .idle = (result, ⟨[], [call]⟩)) ∧
          call.target = compiled.url := by
  intro shown
  have compiles : (compileQuery readFolded foldedFile "age=gte:18&_field=id" "users" (some ["id"])
      (some "shop.yml")).toOption.map (·.url) =
        some "http://localhost:8080/api/shop/users/query?age=gte:18" := by decide +kernel
  rcases Option.map_eq_some_iff.mp compiles with ⟨compiled, succeeds, isUrl⟩
  have prints : runWith readFolded foldedFile ⟨false, .json, shown⟩ =
      .ok compiled.toJson.renderPretty := by
    simp only [runWith, shown, ok_of_toOption succeeds]
    rfl
  rcases target_of_printed prints with
    ⟨config, baseUrl, connection, builder, printedPath, printedQuery, call, -, -, -, isBound,
      makesCall, -, -, -, isPrinted⟩
  refine ⟨compiled, prints, isUrl, connection, builder, call, (isBound builder).mpr rfl,
    makesCall .idle, ?_⟩
  rw [CompiledQuery.read?_renderPretty] at isPrinted
  simp only [Option.some.injEq, Json.object.injEq, List.cons.injEq, Prod.mk.injEq,
    Json.text.injEq] at isPrinted
  exact isPrinted.2.2.2.1.2.symm

end CommandLine

end RestQuery
