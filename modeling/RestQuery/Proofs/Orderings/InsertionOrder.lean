import RestQuery.Builder.Script
import RestQuery.Proofs.Binding.Orders
import RestQuery.Proofs.Text.Trimming

/-!
# Orderings of a builder in insertion order

Only three kinds of steps touch the orderings of a builder: ordering by a column, binding a query
that has orderings of its own, and starting over. `Step.asked` collects what steps ask for, and
`orders_of_steps` says that a builder holds exactly this as a map: each column once, where it was
first asked for, in the direction that was asked for last. Whatever else happens in between leaves
the orderings as they are, groups included, whose orderings stay with the group.

A direction is mostly given as a token. `SpellsAscending` lists the tokens that ascend; all others
descend.
-/

namespace RestQuery

open Builder (orderColumn)

/-- A token that ascends: `1` or `asc` in letters of any case, between blanks. -/
inductive SpellsAscending (token : String) : Prop where
  | one (trims : Text.TrimsTo token.toList ['1'])
  | word {first second third : Char} (trims : Text.TrimsTo token.toList [first, second, third])
      (isA : first = 'a' ∨ first = 'A') (isS : second = 's' ∨ second = 'S')
      (isC : third = 'c' ∨ third = 'C')

theorem toNat_toLower (char : Char) :
    char.toLower.toNat =
      if 65 ≤ char.toNat ∧ char.toNat ≤ 90 then char.toNat + 32 else char.toNat := by
  have bounds : 'A'.val.toNat = 65 ∧ 'Z'.val.toNat = 90 := by decide
  have inRange : char.val ≥ 'A'.val ∧ char.val ≤ 'Z'.val ↔
      65 ≤ char.toNat ∧ char.toNat ≤ 90 := by
    simp only [ge_iff_le, UInt32.le_iff_toNat_le, bounds, Char.toNat]
  by_cases capital : char.val ≥ 'A'.val ∧ char.val ≤ 'Z'.val
  · have distance : ('a'.val - 'A'.val).toNat = 32 := by decide
    have lowered : char.toLower.val = char.val + ('a'.val - 'A'.val) :=
      congrArg Char.val (dif_pos capital)
    have small := inRange.mp capital
    rw [if_pos small, Char.toNat, lowered, UInt32.toNat_add, distance]
    exact Nat.mod_eq_of_lt (by unfold Char.toNat at small; omega)
  · have kept : char.toLower = char := dif_neg capital
    rw [kept, if_neg fun small => capital (inRange.mpr small)]

theorem toLower_eq_iff {char small capital : Char} (pair : capital.toNat + 32 = small.toNat)
    (isLetter : 97 ≤ small.toNat ∧ small.toNat ≤ 122) :
    char.toLower = small ↔ char = small ∨ char = capital := by
  simp only [← Char.toNat_inj, toNat_toLower]
  split <;> omega

theorem ofToken_eq_ascending_iff {token : String} :
    SortOrder.ofToken token = .ascending ↔ SpellsAscending token := by
  have isA (char : Char) : char.toLower = 'a' ↔ char = 'a' ∨ char = 'A' :=
    toLower_eq_iff (by decide) (by decide)
  have isS (char : Char) : char.toLower = 's' ↔ char = 's' ∨ char = 'S' :=
    toLower_eq_iff (by decide) (by decide)
  have isC (char : Char) : char.toLower = 'c' ↔ char = 'c' ∨ char = 'C' :=
    toLower_eq_iff (by decide) (by decide)
  have ascends : SortOrder.ofToken token = .ascending ↔
      Text.trimChars token.toList = ['1'] ∨
        (Text.trimChars token.toList).map Char.toLower = ['a', 's', 'c'] := by
    simp only [SortOrder.ofToken]
    split <;> simp_all
  rw [ascends]
  constructor
  · rintro (isOne | isWord)
    · exact .one (Text.trimsTo_iff.mpr isOne)
    · rcases trimmed : Text.trimChars token.toList with
        _ | ⟨first, _ | ⟨second, _ | ⟨third, _ | ⟨fourth, more⟩⟩⟩⟩
      all_goals simp only [trimmed, List.map_cons, List.map_nil, List.cons.injEq, reduceCtorEq,
        and_false, and_true] at isWord
      exact .word (Text.trimsTo_iff.mpr trimmed) ((isA _).mp isWord.1) ((isS _).mp isWord.2.1)
        ((isC _).mp isWord.2.2)
  · rintro (trims | ⟨trims, firstIsA, secondIsS, thirdIsC⟩)
    · exact .inl (Text.trimChars_of_trimsTo trims)
    · right
      rw [Text.trimChars_of_trimsTo trims, List.map_cons, List.map_cons, List.map_singleton,
        (isA _).mpr firstIsA, (isS _).mpr secondIsS, (isC _).mpr thirdIsC]

/-- A call that orders a builder by a column. -/
inductive OrderCall where
  /-- The direction is given as a token. -/
  | written (column token : String)
  | ascending (column : String)
  | descending (column : String)

namespace OrderCall

def column : OrderCall → String
  | written column _ => column
  | ascending column => column
  | descending column => column

/-- The call sorts by its column in ascending order. -/
def Ascends : OrderCall → Prop
  | written _ token => SpellsAscending token
  | ascending _ => True
  | descending _ => False

/-- The direction that the call sorts in. -/
def order : OrderCall → SortOrder
  | written _ token => .ofToken token
  | ascending _ => .ascending
  | descending _ => .descending

theorem order_eq_ascending_iff (call : OrderCall) : call.order = .ascending ↔ call.Ascends := by
  cases call with
  | written column token => exact ofToken_eq_ascending_iff
  | ascending column => exact iff_of_true rfl trivial
  | descending column => exact iff_of_false nofun id

/-- The call as a step of a builder. -/
def step (call : OrderCall) : Step :=
  .orderBy call.column call.order

end OrderCall

namespace Step

/-- The orderings that a step asks for, with columns as a builder stores them. -/
def orderings : Step → List (String × SortOrder)
  | orderBy column order => [(orderColumn column, order)]
  | bind raw =>
      (parseQueryString raw).query.orders.map fun key =>
        (orderColumn key.field, key.direction.resolve)
  | _ => []

/-- The step gives a fresh builder. -/
def startsOver : Step → Bool
  | newQuery => true
  | _ => false

/-- The orderings that steps ask for since they last started over. -/
def asked (steps : List Step) : List (String × SortOrder) :=
  steps.foldl (fun before step => if step.startsOver then [] else before ++ step.orderings) []

theorem asked_concat (steps : List Step) (step : Step) :
    asked (steps ++ [step]) = if step.startsOver then [] else asked steps ++ step.orderings := by
  simp [asked]

/-- Orderings stored one by one. -/
def storeOrders (present orderings : List (String × SortOrder)) : List (String × SortOrder) :=
  orderings.foldl (fun orders ordering => putOrder ordering.1 ordering.2 orders) present

theorem storeOrders_append (present first second : List (String × SortOrder)) :
    storeOrders present (first ++ second) = storeOrders (storeOrders present first) second := by
  simp [storeOrders]

/-- What a single step does to the orderings of any builder. -/
theorem orders_run (builder : Builder) (step : Step) :
    (run builder step).1.orders =
      if step.startsOver then [] else storeOrders builder.orders step.orderings := by
  cases step with
  | addFilter filter =>
      rw [run, Builder.addFilter]
      cases Builder.conditionOf filter <;> rfl
  | bind raw =>
      have read : ∀ filter ∈ (parseQueryString raw).query.filters, filter.IsRead :=
        fun filter filterMem => (isRead_parseQueryString filterMem).1
      rw [run, bind_of_isRead read]
      simp only [Query.recordedOn, recordOrders, startsOver, orderings, storeOrders,
        List.foldl_map, Bool.false_eq_true, ↓reduceIte]
  | _ => rfl

theorem runAll_concat (builder : Builder) (steps : List Step) (step : Step) :
    runAll builder (steps ++ [step]) = (run (runAll builder steps) step).1 := by
  induction steps generalizing builder with
  | nil => rfl
  | cons first rest ih => exact ih (run builder first).1

/-- The orderings of a builder are those that were asked for, stored one by one. -/
theorem orders_runAll (collection : String) (steps : List Step) :
    (runAll (.new collection) steps).orders = storeOrders [] (asked steps) := by
  induction steps using List.reverseRecOn with
  | nil => rfl
  | append_singleton earlier step ih =>
      rw [runAll_concat, orders_run, ih, asked_concat]
      cases step.startsOver with
      | true => rfl
      | false => exact (storeOrders_append _ _ _).symm

theorem keepsLast_storeOrders (orderings : List (String × SortOrder)) :
    KeepsLast orderings (storeOrders [] orderings) := by
  simp only [storeOrders, putOrder_eq_upsert]
  exact keepsLast_foldl_upsert orderings

theorem natural_notMem_orderings (step : Step) : "natural" ∉ step.orderings.map Prod.fst := by
  have stored (column : String) : orderColumn column ≠ "natural" := by
    unfold orderColumn
    split
    · decide
    · assumption
  cases step with
  | orderBy column order => simpa [orderings] using (stored column).symm
  | bind raw => simp [orderings, stored]
  | _ => simp [orderings]

theorem natural_notMem_asked (steps : List Step) : "natural" ∉ (asked steps).map Prod.fst := by
  induction steps using List.reverseRecOn with
  | nil => simp [asked]
  | append_singleton earlier step ih =>
      rw [asked_concat]
      split
      · simp
      · rw [List.map_append, List.mem_append, not_or]
        exact ⟨ih, natural_notMem_orderings step⟩

end Step

/--
After any steps the orderings of a builder hold every column that was asked for once, in the order
in which the columns were first asked for, each with the sign of the direction that was asked for
last. The natural order of storage is stored under its own name, and no other step changes the
orderings.
-/
theorem orders_of_steps (collection : String) (steps : List Step) :
    let orders := (Step.runAll (.new collection) steps).orders.map fun order =>
      (order.1, order.2.sign)
    KeepsLast ((Step.asked steps).map fun order => (order.1, order.2.sign)) orders ∧
      "natural" ∉ orders.map Prod.fst ∧
      (∀ order ∈ orders, order.2 = 1 ∨ order.2 = -1) ∧
      (∀ call : OrderCall, call.step.orderings = [(orderColumn call.column, call.order)] ∧
        (call.order = .ascending ↔ call.Ascends)) ∧
      ∀ (builder : Builder) (step : Step), step.orderings = [] → step.startsOver = false →
        (Step.run builder step).1.orders = builder.orders := by
  intro orders
  have keeps : KeepsLast ((Step.asked steps).map fun order => (order.1, order.2.sign)) orders := by
    have stored := Step.keepsLast_storeOrders (Step.asked steps)
    rw [← Step.orders_runAll collection] at stored
    exact stored.map id SortOrder.sign fun _ _ _ _ same => same
  refine ⟨keeps, ?_, ?_, ?_, ?_⟩
  · rw [keeps.keys, List.mem_eraseDups, List.map_map]
    exact Step.natural_notMem_asked steps
  · intro order orderMem
    rcases List.mem_map.mp orderMem with ⟨⟨column, direction⟩, -, rfl⟩
    cases direction with
    | ascending => exact .inl rfl
    | descending => exact .inr rfl
  · exact fun call => ⟨rfl, call.order_eq_ascending_iff⟩
  · intro builder step asksNothing goesOn
    rw [Step.orders_run, goesOn, asksNothing]
    rfl

end RestQuery
