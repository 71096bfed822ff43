import RestQuery.Proofs.Decimal.Unsigned
import RestQuery.Proofs.Wire.Directives

/-!
# Directives of a query that is put together call by call

A structured query is built by calls, of which three kinds store a directive. What is stored is a
map that keeps the last value for each kind, and a paging value is looked at only when it is asked
for. `directives_of_calls` brings the two sides together: which text stands after any calls, and
which number each text is. A number that was set as a number comes back whatever was stored before.
-/

namespace RestQuery

/-- A call that adds to a query. -/
inductive QueryCall where
  | filter (filter : FieldFilter)
  | order (key : SortKey)
  | project (columns : List String)
  | limit (count : UInt64)
  | offset (count : UInt64)
  | setDirective (kind : DirectiveKind) (value : String)

namespace QueryCall

/-- The query after a call. -/
def run (query : Query) : QueryCall → Query
  | filter added => query.filter added
  | order key => query.order key
  | project columns => query.project columns
  | limit count => query.limit count
  | offset count => query.offset count
  | setDirective kind value => query.setDirective kind value

/-- The query after calls, one after another. -/
def runAll (query : Query) (calls : List QueryCall) : Query :=
  calls.foldl run query

/-- The directive that a call stores, with numbers in decimal digits. -/
def stored? : QueryCall → Option (DirectiveKind × String)
  | filter _ | order _ | project _ => none
  | limit count => some (.limit, count.toNat.repr)
  | offset count => some (.offset, count.toNat.repr)
  | setDirective kind value => some (kind, value)

theorem directives_run (query : Query) (call : QueryCall) :
    (call.run query).directives =
      call.stored?.elim query.directives fun stored =>
        putDirective stored.1 stored.2 query.directives := by
  cases call <;> rfl

theorem directives_runAll (calls : List QueryCall) :
    (runAll .empty calls).directives = putDirectives (calls.filterMap stored?) := by
  induction calls using List.reverseRecOn with
  | nil => rfl
  | append_singleton earlier call ih =>
      rw [runAll, List.foldl_append, List.foldl_cons, List.foldl_nil, ← runAll, directives_run, ih,
        List.filterMap_append]
      cases stored : call.stored? with
      | none => simp [stored]
      | some directive => simp [stored, putDirectives_concat]

end QueryCall

namespace Query

/-- What is stored for a kind is found there, whatever was stored before. -/
theorem directive?_setDirective (kind : DirectiveKind) (value : String) (query : Query) :
    (query.setDirective kind value).directive? kind = some value := by
  unfold directive? setDirective
  induction query.directives with
  | nil => simp [putDirective]
  | cons directive rest ih =>
      rw [putDirective]
      by_cases same : directive.kind = kind
      · simp [same]
      · simpa [same] using ih

theorem paging?_eq_some_iff {query : Query} {kind : DirectiveKind} {count : UInt64} :
    query.paging? kind = some count ↔
      ∃ text, query.directive? kind = some text ∧ WritesCount count text.toList := by
  simp only [paging?, Option.bind_eq_some_iff, readUnsigned?_trimChars_eq_some_iff]

theorem paging?_setDirective_repr (kind : DirectiveKind) (count : UInt64) (query : Query) :
    (query.setDirective kind count.toNat.repr).paging? kind = some count := by
  rw [paging?, directive?_setDirective]
  exact readUnsigned?_repr count

end Query

/--
After any calls a query holds one directive for each kind that was set, in the order in which the
kinds were first set, with the value that was set last. A limit or an offset is a number exactly if
its text is one of 64 bits between blanks, and a number that was set is read back.
-/
theorem directives_of_calls (calls : List QueryCall) :
    KeepsLast (calls.filterMap QueryCall.stored?)
        ((QueryCall.runAll .empty calls).directives.map fun directive =>
          (directive.kind, directive.value)) ∧
      (∀ (query : Query) (call : QueryCall), call.stored? = none →
        (call.run query).directives = query.directives) ∧
      (∀ (query : Query) (count : UInt64),
        (query.limit count).limit? = some count ∧ (query.offset count).offset? = some count) ∧
      ∀ (query : Query) (count : UInt64),
        (query.limit? = some count ↔
          ∃ text, query.directive? .limit = some text ∧ WritesCount count text.toList) ∧
        (query.offset? = some count ↔
          ∃ text, query.directive? .offset = some text ∧ WritesCount count text.toList) := by
  refine ⟨?_, ?_, ?_, ?_⟩
  · rw [QueryCall.directives_runAll]
    exact keepsLast_putDirectives _
  · intro query call storesNothing
    rw [QueryCall.directives_run, storesNothing]
    rfl
  · intro query count
    exact ⟨query.paging?_setDirective_repr .limit count,
      query.paging?_setDirective_repr .offset count⟩
  · intro query count
    exact ⟨Query.paging?_eq_some_iff, Query.paging?_eq_some_iff⟩

/-- Leading zeros and blanks do not count, and the first number beyond 64 bits is none. -/
example :
    ((Query.empty.setDirective .limit "\u00a0+007\t").limit?,
      (Query.empty.setDirective .limit "18446744073709551616").limit?) = (some 7, none) := by
  decide +kernel

end RestQuery
