import RestQuery.Proofs.Wire.Events

/-!
# Parameters as a multimap

Parameters can start from nothing, from pairs or from a query string, and are changed by appending
a value to a key and by setting the values of a key. A start from pairs is itself a run of appended
values, so what holds after any changes holds for every start.

`Holds` says what a key should hold: the values that were set last and those that were appended
since. `parameters_of_changes` shows that every key that was introduced holds just this, that the
others hold nothing, and that keys stand in the order in which they were introduced.
-/

namespace RestQuery

/-- A change of parameters. -/
inductive ParameterChange where
  /-- Adds a value to a key. -/
  | append (key value : String)
  /-- Sets the values of a key. -/
  | insert (key : String) (values : Values)

namespace ParameterChange

/-- The key that is changed. -/
def key : ParameterChange → String
  | append key _ => key
  | insert key _ => key

/-- The parameters after a change. -/
def run (params : Parameters) : ParameterChange → Parameters
  | append key value => params.append key value
  | insert key values => params.insert key values

/-- The parameters after changes, one after another. -/
def runAll (params : Parameters) (changes : List ParameterChange) : Parameters :=
  changes.foldl run params

/-- The values that changes append to a key. -/
def appendedTo (key : String) (changes : List ParameterChange) : List String :=
  changes.flatMap fun
    | append other value => if other = key then [value] else []
    | insert _ _ => []

/-- The values that a key should hold after changes. -/
inductive Holds (key : String) : List ParameterChange → List String → Prop where
  /-- The values of a key were never set. -/
  | appended {changes : List ParameterChange} (neverSet : ∀ values, insert key values ∉ changes) :
      Holds key changes (appendedTo key changes)
  /-- The values of a key were set, and not again later. -/
  | inserted {earlier later : List ParameterChange} {values : Values}
      (setLast : ∀ other, insert key other ∉ later) :
      Holds key (earlier ++ insert key values :: later) (values.toList ++ appendedTo key later)

end ParameterChange

/-- What parameters start from. -/
inductive ParameterStart where
  | empty
  | ofPairs (pairs : List (String × String))
  | ofQueryString (raw : String)

namespace ParameterStart

/-- The parameters at the start. -/
def params : ParameterStart → Parameters
  | empty => .empty
  | ofPairs pairs => .ofPairs pairs
  | ofQueryString raw => .ofQueryString raw

/-- The pairs that a start collects. -/
def pairs : ParameterStart → List (String × String)
  | empty => []
  | ofPairs pairs => pairs
  | ofQueryString raw =>
      (writtenPairs raw).map fun pair => (Percent.decode pair.1, Percent.decode pair.2)

/-- Changes after a start, where collecting pairs is appending them. -/
def history (start : ParameterStart) (changes : List ParameterChange) : List ParameterChange :=
  start.pairs.map (fun pair => .append pair.1 pair.2) ++ changes

end ParameterStart

namespace ParameterChange

theorem runAll_concat (params : Parameters) (changes : List ParameterChange)
    (change : ParameterChange) :
    runAll params (changes ++ [change]) = change.run (runAll params changes) := by
  simp [runAll]

/-- A start and changes after it are one run of changes from nothing. -/
theorem runAll_history (start : ParameterStart) (changes : List ParameterChange) :
    runAll .empty (start.history changes) = runAll start.params changes := by
  have collected : ∀ pairs : List (String × String),
      (pairs.map fun pair => append pair.1 pair.2).foldl run .empty = .ofPairs pairs := by
    intro pairs
    rw [List.foldl_map]
    rfl
  have started : start.params = .ofPairs start.pairs := by
    cases start <;> rfl
  rw [ParameterStart.history, runAll, List.foldl_append, collected, ← started]
  rfl

/-- The values that a change gives to a key without values. -/
def alone : ParameterChange → Values
  | append _ value => .one value
  | insert _ values => values

/-- The values that a change makes of those that its key has. -/
def onto (before : Values) : ParameterChange → Values
  | append _ value => before.push value
  | insert _ values => values

theorem entries_run (params : Parameters) (change : ParameterChange) :
    (change.run params).entries =
      upsert change.key change.onto change.alone params.entries := by
  cases change <;> exact Parameters.updateEntry_eq_upsert _ _ _ _

theorem keys_run (params : Parameters) (change : ParameterChange) :
    (change.run params).entries.map Prod.fst =
      params.entries.map Prod.fst ++
        if change.key ∈ params.entries.map Prod.fst then [] else [change.key] := by
  rw [entries_run, map_fst_upsert]

theorem get?_run (params : Parameters) (change : ParameterChange) (key : String) :
    (change.run params).get? key =
      if key = change.key then some ((params.get? change.key).elim change.alone change.onto)
      else params.get? key := by
  rw [Parameters.get?, entries_run, lookup_upsert]
  rfl

theorem appendedTo_concat (key : String) (changes : List ParameterChange)
    (change : ParameterChange) :
    appendedTo key (changes ++ [change]) =
      appendedTo key changes ++ appendedTo key [change] := by
  simp [appendedTo]

theorem appendedTo_append (key value : String) : appendedTo key [append key value] = [value] := by
  simp [appendedTo]

theorem appendedTo_of_key_ne {key : String} {change : ParameterChange} (other : key ≠ change.key) :
    appendedTo key [change] = [] := by
  cases change with
  | append changedKey value =>
      have notKey : ¬ changedKey = key := fun same => other same.symm
      simp [appendedTo, notKey]
  | insert changedKey values => rfl

namespace Holds

variable {key : String} {changes : List ParameterChange} {values : List String}

/-- A change that does not set the values of a key adds what it appends to the key. -/
theorem concat (holds : Holds key changes values) (change : ParameterChange)
    (setsNothing : ∀ other, change ≠ insert key other) :
    Holds key (changes ++ [change]) (values ++ appendedTo key [change]) := by
  have notChange : ∀ other, insert key other ∉ [change] := by
    intro other isChange
    exact setsNothing other (List.mem_singleton.mp isChange).symm
  cases holds with
  | appended neverSet =>
      rw [← appendedTo_concat]
      apply appended
      intro other
      rw [List.mem_append, not_or]
      exact ⟨neverSet other, notChange other⟩
  | @inserted earlier later values setLast =>
      rw [List.append_assoc, List.append_assoc, List.cons_append, ← appendedTo_concat]
      apply inserted
      intro other
      rw [List.mem_append, not_or]
      exact ⟨setLast other, notChange other⟩

theorem concat_append (holds : Holds key changes values) (value : String) :
    Holds key (changes ++ [append key value]) (values ++ [value]) := by
  have grown := holds.concat (append key value) (by simp)
  rwa [appendedTo_append] at grown

theorem concat_insert (changes : List ParameterChange) (values : Values) :
    Holds key (changes ++ [insert key values]) values.toList := by
  have set : Holds key (changes ++ [insert key values]) (values.toList ++ appendedTo key []) :=
    inserted (by simp)
  simpa [appendedTo] using set

theorem concat_of_key_ne (holds : Holds key changes values) {change : ParameterChange}
    (other : key ≠ change.key) : Holds key (changes ++ [change]) values := by
  have kept := holds.concat change (by
    rintro values rfl
    exact other rfl)
  rwa [appendedTo_of_key_ne other, List.append_nil] at kept

end Holds

/-- After any changes a key holds what it should, which is nothing if it was never changed. -/
theorem holds_runAll (changes : List ParameterChange) (key : String) :
    Holds key changes (((runAll .empty changes).get? key).elim [] Values.toList) := by
  induction changes using List.reverseRecOn with
  | nil => exact .appended (by simp)
  | append_singleton earlier change ih =>
      rw [runAll_concat, get?_run]
      by_cases same : key = change.key
      · subst same
        rw [if_pos rfl, Option.elim_some]
        cases change with
        | append key value =>
            have grown := ih.concat_append value
            -- A first value stays alone, a further one makes a list.
            cases before : (runAll .empty earlier).get? key with
            | none =>
                simp only [ParameterChange.key, before] at grown ⊢
                exact grown
            | some values =>
                simpa only [ParameterChange.key, before, Option.elim_some, onto,
                  Values.toList_push] using grown
        | insert key values =>
            have replaced : ∀ before : Option Values,
                before.elim (alone (insert key values)) (onto · (insert key values)) = values := by
              intro before
              cases before <;> rfl
            rw [replaced]
            exact Holds.concat_insert earlier values
      · rw [if_neg same]
        exact ih.concat_of_key_ne same

theorem keys_runAll (changes : List ParameterChange) :
    (runAll .empty changes).entries.map Prod.fst = (changes.map key).eraseDups := by
  induction changes using List.reverseRecOn with
  | nil => rfl
  | append_singleton earlier change ih =>
      rw [runAll_concat, keys_run, ih, List.map_append, List.map_singleton, eraseDups_concat]
      simp only [List.mem_eraseDups]

end ParameterChange

namespace Parameters

theorem get?_eq_none_iff {params : Parameters} {key : String} :
    params.get? key = none ↔ key ∉ params.entries.map Prod.fst := by
  rw [get?, List.lookup_eq_none_iff]
  constructor
  · rintro differs known
    rcases List.mem_map.mp known with ⟨entry, entryMem, rfl⟩
    simpa using differs entry entryMem
  · intro absent entry entryMem
    have differs : key ≠ entry.1 := by
      rintro rfl
      exact absent (List.mem_map_of_mem entryMem)
    simpa using differs

/-- The number of values of all keys. -/
def valueCount (params : Parameters) : Nat :=
  (params.entries.flatMap fun entry => entry.2.toList).length

theorem valueCount_append (key value : String) (params : Parameters) :
    (params.append key value).valueCount = params.valueCount + 1 := by
  unfold valueCount append
  induction params.entries with
  | nil => rfl
  | cons entry rest ih =>
      rw [updateEntry]
      by_cases same : entry.1 = key
      · simp [same]
        omega
      · simp only [same, ↓reduceIte, List.flatMap_cons, List.length_append, ih]
        omega

/-- No pair is lost when pairs are collected. -/
theorem valueCount_ofPairs (pairs : List (String × String)) :
    (ofPairs pairs).valueCount = pairs.length := by
  induction pairs using List.reverseRecOn with
  | nil => rfl
  | append_singleton earlier pair ih =>
      rw [ofPairs, List.foldl_append, ← ofPairs, List.foldl_cons, List.foldl_nil,
        valueCount_append, ih, List.length_append, List.length_singleton]

end Parameters

/--
After any changes from any start, every key stands once, in the order in which the keys were
introduced. A key that was introduced holds the values that were set last and those that were
appended since, another key has no values, and a change of one key leaves the others alone. No pair
that is collected is lost.
-/
theorem parameters_of_changes (start : ParameterStart) (changes : List ParameterChange) :
    let reached := ParameterChange.runAll start.params changes
    let introduced := (start.history changes).map ParameterChange.key
    (reached.entries.map Prod.fst).Nodup ∧
      reached.entries.map Prod.fst = introduced.eraseDups ∧
      (∀ key, reached.get? key = none ↔ key ∉ introduced) ∧
      (∀ key values, reached.get? key = some values →
        ParameterChange.Holds key (start.history changes) values.toList) ∧
      (∀ (params : Parameters) (change : ParameterChange) (key : String), key ≠ change.key →
        (change.run params).get? key = params.get? key) ∧
      ∀ pairs, (Parameters.ofPairs pairs).valueCount = pairs.length := by
  intro reached introduced
  have fromNothing : reached = ParameterChange.runAll .empty (start.history changes) :=
    (ParameterChange.runAll_history start changes).symm
  have keys : reached.entries.map Prod.fst = introduced.eraseDups := by
    rw [fromNothing, ParameterChange.keys_runAll]
  refine ⟨?_, keys, ?_, ?_, ?_, Parameters.valueCount_ofPairs⟩
  · rw [keys]
    exact nodup_eraseDups introduced
  · intro key
    rw [Parameters.get?_eq_none_iff, keys, List.mem_eraseDups]
  · intro key values found
    have holds := ParameterChange.holds_runAll (start.history changes) key
    rwa [← fromNothing, found] at holds
  · intro params change key other
    rw [ParameterChange.get?_run, if_neg other]

end RestQuery
