import Mathlib.Data.List.Basic
import Mathlib.Data.List.Induction

/-!
# Grouping by first appearance

Repeated keys are brought together in three places: the values of a parameter, the directives of
a query and the orderings of a builder. Each time a key stands where it first appeared.
`foldl_upsert` says so once for all of them: entries that are stored one by one are the distinct
keys in order of first appearance, each with what its own values gather to.

`regroup` is the same rearrangement of a whole list. It depends only on which items share a key,
and does nothing to a list whose groups are already together.
-/

namespace RestQuery

variable {Item Key Given Stored : Type} [DecidableEq Key]

theorem eraseDups_concat (keys : List Key) (key : Key) :
    (keys ++ [key]).eraseDups = keys.eraseDups ++ if key ∈ keys then [] else [key] := by
  rw [List.eraseDups_append]
  by_cases known : key ∈ keys <;> simp [List.removeAll, known, List.eraseDups_cons]

theorem nodup_eraseDups (keys : List Key) : keys.eraseDups.Nodup := by
  induction keys using List.reverseRecOn with
  | nil => simp
  | append_singleton rest key ih =>
      rw [eraseDups_concat]
      by_cases known : key ∈ rest
      · simpa [known] using ih
      · simp only [known, ↓reduceIte, List.nodup_append, List.mem_eraseDups]
        refine ⟨ih, by simp, ?_⟩
        rintro other otherMem _ fresh rfl
        exact known (List.mem_singleton.mp fresh ▸ otherMem)

theorem eraseDups_append_of_disjoint {left right : List Key}
    (disjoint : ∀ key ∈ left, key ∉ right) :
    (left ++ right).eraseDups = left.eraseDups ++ right.eraseDups := by
  have allNew : right.removeAll left = right := by
    rw [List.removeAll, List.filter_eq_self]
    intro key keyMem
    have notLeft : key ∉ left := fun known => disjoint key known keyMem
    simpa using notLeft
  rw [List.eraseDups_append, allNew]

/-- A partial renaming that tells keys apart keeps the order of first appearance. -/
theorem filterMap_eraseDups {Name : Type} [DecidableEq Name] {rename : Key → Option Name}
    {keys : List Key}
    (injective : ∀ left ∈ keys, ∀ right ∈ keys, ∀ name,
      rename left = some name → rename right = some name → left = right) :
    keys.eraseDups.filterMap rename = (keys.filterMap rename).eraseDups := by
  induction keys using List.reverseRecOn with
  | nil => rfl
  | append_singleton rest key ih =>
      have restInjective := fun left leftMem right rightMem =>
        injective left (List.mem_append_left _ leftMem) right (List.mem_append_left _ rightMem)
      rw [eraseDups_concat, List.filterMap_append, List.filterMap_append, ih restInjective]
      cases renamed : rename key with
      | none => by_cases known : key ∈ rest <;> simp [known, renamed]
      | some name =>
          have sameKnown : name ∈ rest.filterMap rename ↔ key ∈ rest := by
            rw [List.mem_filterMap]
            constructor
            · rintro ⟨other, otherMem, otherName⟩
              have sameKey := injective other (List.mem_append_left _ otherMem) key (by simp) name
                otherName renamed
              exact sameKey ▸ otherMem
            · intro known
              exact ⟨key, known, renamed⟩
          have single : [key].filterMap rename = [name] := by simp [renamed]
          rw [single, eraseDups_concat]
          by_cases known : key ∈ rest
          · simp [known, sameKnown.mpr known]
          · have nameFresh : name ∉ rest.filterMap rename := fun present =>
              known (sameKnown.mp present)
            simp only [known, nameFresh, ↓reduceIte, single]

/-- Brings items with equal keys together, groups in the order in which their keys first appear. -/
def regroup (key : Item → Key) (items : List Item) : List Item :=
  (items.map key).eraseDups.flatMap fun group => items.filter (key · = group)

variable {key : Item → Key}

@[simp]
theorem regroup_nil : regroup key [] = [] := rfl

/-- The first item's group comes first, and what is left is regrouped. -/
theorem regroup_cons (item : Item) (rest : List Item) :
    regroup key (item :: rest) =
      item :: rest.filter (key · = key item) ++ regroup key (rest.filter (key · ≠ key item)) := by
  have restKeys : (rest.map key).filter (fun other => !other == key item) =
      (rest.filter (key · ≠ key item)).map key := by
    rw [List.filter_map]
    congr 1
    apply List.filter_congr
    intro other _
    by_cases same : key other = key item <;> simp [same]
  rw [regroup, List.map_cons, List.eraseDups_cons, List.flatMap_cons, restKeys]
  congr 1
  · simp
  · rw [regroup]
    apply List.flatMap_congr
    intro group groupMem
    rw [List.mem_eraseDups, List.mem_map] at groupMem
    rcases groupMem with ⟨member, memberMem, rfl⟩
    have otherGroup : key member ≠ key item := by
      simpa using (List.mem_filter.mp memberMem).2
    rw [List.filter_cons_of_neg (by simpa using Ne.symm otherGroup), List.filter_filter]
    apply List.filter_congr
    intro other _
    by_cases same : key other = key member <;> simp [same, otherGroup]

theorem mem_regroup {items : List Item} {item : Item} :
    item ∈ regroup key items ↔ item ∈ items := by
  simp only [regroup, List.mem_flatMap, List.mem_eraseDups, List.mem_map, List.mem_filter,
    decide_eq_true_eq]
  constructor
  · rintro ⟨_, -, itemMem, -⟩
    exact itemMem
  · intro itemMem
    exact ⟨key item, ⟨item, itemMem, rfl⟩, itemMem, rfl⟩

/-- Regrouping depends only on which items share a key. -/
theorem regroup_congr {Other : Type} [DecidableEq Other] {other : Item → Other}
    {items : List Item}
    (same : ∀ left ∈ items, ∀ right ∈ items, key left = key right ↔ other left = other right) :
    regroup key items = regroup other items := by
  -- The first group leaves the rest scattered, so the induction is on the number of items.
  induction size : items.length using Nat.strongRecOn generalizing items with
  | ind count ih =>
      rcases items with _ | ⟨item, rest⟩
      · rfl
      have sameGroup : rest.filter (key · = key item) = rest.filter (other · = other item) := by
        apply List.filter_congr
        intro member memberMem
        simp [same member (List.mem_cons_of_mem _ memberMem) item (by simp)]
      have sameRest : rest.filter (key · ≠ key item) = rest.filter (other · ≠ other item) := by
        apply List.filter_congr
        intro member memberMem
        simp [same member (List.mem_cons_of_mem _ memberMem) item (by simp)]
      have shorter : (rest.filter (other · ≠ other item)).length < count := by
        have filtered := List.length_filter_le (other · ≠ other item) rest
        rw [← size, List.length_cons]
        omega
      rw [regroup_cons, regroup_cons, sameGroup, sameRest]
      rw [ih _ shorter _ rfl]
      intro left leftMem right rightMem
      exact same left (List.mem_cons_of_mem _ (List.mem_of_mem_filter leftMem)) right
        (List.mem_cons_of_mem _ (List.mem_of_mem_filter rightMem))

theorem regroup_map {Source : Type} (make : Source → Item) (sources : List Source) :
    regroup key (sources.map make) =
      (regroup (fun source => key (make source)) sources).map make := by
  simp only [regroup, List.map_map, List.map_flatMap, List.filter_map]
  rfl

theorem regroup_append {left right : List Item}
    (disjoint : ∀ first ∈ left, ∀ second ∈ right, key first ≠ key second) :
    regroup key (left ++ right) = regroup key left ++ regroup key right := by
  have keysDisjoint : ∀ group ∈ left.map key, group ∉ right.map key := by
    intro group groupMem inRight
    rcases List.mem_map.mp groupMem with ⟨first, firstMem, rfl⟩
    rcases List.mem_map.mp inRight with ⟨second, secondMem, same⟩
    exact disjoint first firstMem second secondMem same.symm
  have leftGroups : ∀ group ∈ (left.map key).eraseDups,
      (left ++ right).filter (key · = group) = left.filter (key · = group) := by
    intro group groupMem
    rcases List.mem_map.mp (List.mem_eraseDups.mp groupMem) with ⟨first, firstMem, rfl⟩
    rw [List.filter_append, List.append_right_eq_self, List.filter_eq_nil_iff]
    intro second secondMem
    simpa using Ne.symm (disjoint first firstMem second secondMem)
  have rightGroups : ∀ group ∈ (right.map key).eraseDups,
      (left ++ right).filter (key · = group) = right.filter (key · = group) := by
    intro group groupMem
    rcases List.mem_map.mp (List.mem_eraseDups.mp groupMem) with ⟨second, secondMem, rfl⟩
    rw [List.filter_append, List.append_left_eq_self, List.filter_eq_nil_iff]
    intro first firstMem
    simpa using disjoint first firstMem second secondMem
  rw [regroup, List.map_append, eraseDups_append_of_disjoint keysDisjoint, List.flatMap_append,
    List.flatMap_congr leftGroups, List.flatMap_congr rightGroups, regroup, regroup]

theorem regroup_of_const {items : List Item} {group : Key}
    (same : ∀ item ∈ items, key item = group) : regroup key items = items := by
  rcases items with _ | ⟨item, rest⟩
  · rfl
  · have restSame : ∀ member ∈ rest, key member = key item := by
      intro member memberMem
      rw [same member (List.mem_cons_of_mem _ memberMem), same item (by simp)]
    rw [regroup_cons, List.filter_eq_self.mpr (by simpa using restSame),
      List.filter_eq_nil_iff.mpr (by simpa using restSame)]
    simp

/-- A list that is made of groups with distinct keys stays as it is. -/
theorem regroup_flatMap {groups : List Key} (nodup : groups.Nodup) {members : Key → List Item}
    (membersKey : ∀ group, ∀ item ∈ members group, key item = group) :
    regroup key (groups.flatMap members) = groups.flatMap members := by
  induction groups with
  | nil => rfl
  | cons group rest ih =>
      rw [List.nodup_cons] at nodup
      rw [List.flatMap_cons, regroup_append, regroup_of_const (membersKey group), ih nodup.2]
      intro first firstMem second secondMem sameKey
      rcases List.mem_flatMap.mp secondMem with ⟨other, otherMem, memberOfOther⟩
      rw [membersKey group first firstMem, membersKey other second memberOfOther] at sameKey
      exact nodup.1 (sameKey ▸ otherMem)

theorem regroup_of_nodup {items : List Item} (nodup : (items.map key).Nodup) :
    regroup key items = items := by
  induction items with
  | nil => rfl
  | cons item rest ih =>
      rw [List.map_cons, List.nodup_cons] at nodup
      have disjoint : ∀ first ∈ [item], ∀ second ∈ rest, key first ≠ key second := by
        intro first firstMem second secondMem sameKey
        rw [List.mem_singleton.mp firstMem] at sameKey
        exact nodup.1 (sameKey ▸ List.mem_map_of_mem secondMem)
      have single : regroup key [item] = [item] :=
        regroup_of_const fun member memberMem => congrArg key (List.mem_singleton.mp memberMem)
      rw [← List.singleton_append, regroup_append disjoint, ih nodup.2, single]

theorem filter_eraseDups (accepts : Key → Bool) (keys : List Key) :
    keys.eraseDups.filter accepts = (keys.filter accepts).eraseDups := by
  rw [← List.filterMap_eq_filter]
  apply filterMap_eraseDups
  intro left _ right _ name leftKept rightKept
  simp only [Option.guard_eq_some_iff] at leftKept rightKept
  rw [leftKept.1, rightKept.1]

/-- Choosing whole groups before or after they are brought together makes no difference. -/
theorem filter_regroup (accepts : Key → Bool) (items : List Item) :
    (regroup key items).filter (fun item => accepts (key item)) =
      regroup key (items.filter fun item => accepts (key item)) := by
  have groups : ((items.filter fun item => accepts (key item)).map key).eraseDups =
      (items.map key).eraseDups.filter accepts := by
    rw [filter_eraseDups, List.filter_map]
    rfl
  rw [regroup, regroup, groups, List.filter_flatMap]
  induction (items.map key).eraseDups with
  | nil => rfl
  | cons group rest ih =>
      rw [List.flatMap_cons, List.filter_cons, ih, List.filter_comm]
      split
      · rw [List.flatMap_cons]
      · rename_i refused
        rw [List.filter_eq_nil_iff.mpr, List.nil_append]
        intro item itemMem sameKey
        have accepted := (List.mem_filter.mp itemMem).2
        rw [of_decide_eq_true sameKey] at accepted
        exact refused accepted

/-- The last item of a regrouped list is the last one of the group that appeared last. -/
theorem getLast?_regroup (items : List Item) :
    (regroup key items).getLast? =
      (items.map key).eraseDups.getLast?.bind fun group =>
        (items.filter (key · = group)).getLast? := by
  rcases List.eq_nil_or_concat' (items.map key).eraseDups with noGroups | ⟨earlier, last, groups⟩
  · simp [regroup, noGroups]
  · have lastMem : last ∈ items.map key := by
      rw [← List.mem_eraseDups, groups]
      simp
    rcases List.mem_map.mp lastMem with ⟨member, memberMem, sameKey⟩
    have someMember : items.filter (key · = last) ≠ [] :=
      List.ne_nil_of_mem (List.mem_filter.mpr ⟨memberMem, by simpa using sameKey⟩)
    rw [regroup, groups, List.flatMap_append, List.flatMap_singleton,
      List.getLast?_append_of_ne_nil _ someMember]
    simp

/-- Changes what is stored under a key, or stores something new behind the other keys. -/
def upsert (key : Key) (update : Stored → Stored) (fresh : Stored) :
    List (Key × Stored) → List (Key × Stored)
  | [] => [(key, fresh)]
  | (other, stored) :: rest =>
      if other = key then (other, update stored) :: rest
      else (other, stored) :: upsert key update fresh rest

def givenFor (key : Key) (pairs : List (Key × Given)) : List Given :=
  (pairs.filter (·.1 = key)).map (·.2)

theorem givenFor_append (key : Key) (pairs more : List (Key × Given)) :
    givenFor key (pairs ++ more) = givenFor key pairs ++ givenFor key more := by
  simp [givenFor]

theorem givenFor_concat (key : Key) (pairs : List (Key × Given)) (pair : Key × Given) :
    givenFor key (pairs ++ [pair]) =
      givenFor key pairs ++ if pair.1 = key then [pair.2] else [] := by
  by_cases same : pair.1 = key <;> simp [givenFor, same]

theorem givenFor_eq_nil {key : Key} {pairs : List (Key × Given)} :
    givenFor key pairs = [] ↔ key ∉ pairs.map Prod.fst := by
  rw [givenFor, List.map_eq_nil_iff, List.filter_eq_nil_iff]
  constructor
  · intro noneFor known
    rcases List.mem_map.mp known with ⟨pair, pairMem, same⟩
    exact noneFor pair pairMem (by simpa using same)
  · intro absent pair pairMem same
    exact absent (List.mem_map.mpr ⟨pair, pairMem, by simpa using same⟩)

/-- Sources that give at most one value each give those that are named by the key. -/
theorem givenFor_flatMap {Source : Type} (name? : Source → Option Key) (value : Source → Given)
    (key : Key) (sources : List Source) :
    givenFor key
        (sources.flatMap fun source => (name? source).toList.map fun other => (other, value source)) =
      (sources.filter (name? · = some key)).map value := by
  induction sources with
  | nil => rfl
  | cons source rest ih =>
      rw [List.flatMap_cons, givenFor, List.filter_append, List.map_append, ← givenFor, ← givenFor,
        ih]
      cases named : name? source with
      | none => simp [named, givenFor]
      | some other => by_cases same : other = key <;> simp [named, same, givenFor]

theorem upsert_of_notMem {key : Key} {keys : List Key} (fresh : key ∉ keys)
    (update : Stored → Stored) (new : Stored) (stored : Key → Stored) :
    upsert key update new (keys.map fun other => (other, stored other)) =
      keys.map (fun other => (other, stored other)) ++ [(key, new)] := by
  induction keys with
  | nil => rfl
  | cons first rest ih =>
      simp only [List.mem_cons, not_or] at fresh
      simp [upsert, Ne.symm fresh.1, ih fresh.2]

theorem upsert_of_mem {key : Key} {keys : List Key} (nodup : keys.Nodup) (known : key ∈ keys)
    (update : Stored → Stored) (new : Stored) (stored : Key → Stored) :
    upsert key update new (keys.map fun other => (other, stored other)) =
      keys.map fun other =>
        (other, if other = key then update (stored other) else stored other) := by
  induction keys with
  | nil => simp at known
  | cons first rest ih =>
      rw [List.nodup_cons] at nodup
      by_cases same : first = key
      · have restOther : ∀ other ∈ rest, other ≠ key := by
          rintro other otherMem rfl
          exact nodup.1 (same ▸ otherMem)
        simp only [List.map_cons, upsert, same, ↓reduceIte, List.cons.injEq, true_and]
        apply List.map_congr_left
        intro other otherMem
        simp [restOther other otherMem]
      · have knownRest : key ∈ rest := by simpa [Ne.symm same] using known
        simp [upsert, same, ih nodup.2 knownRest]

/--
Entries that are stored one by one are the distinct keys in order of first appearance, each with
what the values given for it gather to.
-/
theorem foldl_upsert (update : Given → Stored → Stored) (fresh : Given → Stored)
    (gather : List Given → Stored) (first : ∀ given, gather [given] = fresh given)
    (further : ∀ earlier given, earlier ≠ [] →
      gather (earlier ++ [given]) = update given (gather earlier))
    (pairs : List (Key × Given)) :
    pairs.foldl (fun entries pair => upsert pair.1 (update pair.2) (fresh pair.2) entries) [] =
      (pairs.map Prod.fst).eraseDups.map fun key => (key, gather (givenFor key pairs)) := by
  -- From the end: what is stored under a key depends on all earlier values for it.
  induction pairs using List.reverseRecOn with
  | nil => rfl
  | append_singleton rest pair ih =>
      rw [List.foldl_append, ih, List.map_append, List.map_singleton, eraseDups_concat]
      simp only [List.foldl_cons, List.foldl_nil, givenFor_concat]
      by_cases known : pair.1 ∈ rest.map Prod.fst
      · rw [upsert_of_mem (nodup_eraseDups _) (List.mem_eraseDups.mpr known), if_pos known,
          List.append_nil]
        apply List.map_congr_left
        intro key _
        by_cases same : key = pair.1
        · have earlier : givenFor key rest ≠ [] := by
            rw [Ne, givenFor_eq_nil, same]
            exact fun absent => absent known
          rw [if_pos same, if_pos same.symm, further _ _ earlier]
        · rw [if_neg same, if_neg (Ne.symm same), List.append_nil]
      · rw [upsert_of_notMem (by simpa using known), if_neg known, List.map_append]
        congr 1
        · apply List.map_congr_left
          intro key keyMem
          have other : pair.1 ≠ key := by
            rintro rfl
            exact known (List.mem_eraseDups.mp keyMem)
          rw [if_neg other, List.append_nil]
        · simp [givenFor_eq_nil.mpr known, first]

/-- Of the values that are stored under a key the last one stands. -/
theorem foldl_upsert_last (fallback : Given) (pairs : List (Key × Given)) :
    pairs.foldl (fun entries pair => upsert pair.1 (fun _ => pair.2) pair.2 entries) [] =
      (pairs.map Prod.fst).eraseDups.map fun key =>
        (key, (givenFor key pairs).getLastD fallback) := by
  apply foldl_upsert (fun given _ => given) id (fun given => given.getLastD fallback)
  · intro given
    rfl
  · intro earlier given _
    simp [List.getLastD_eq_getLast?]

/-- Storing under a key leaves the keys as they are, or adds the key behind them. -/
theorem map_fst_upsert (key : Key) (update : Stored → Stored) (fresh : Stored)
    (entries : List (Key × Stored)) :
    (upsert key update fresh entries).map Prod.fst =
      entries.map Prod.fst ++ if key ∈ entries.map Prod.fst then [] else [key] := by
  induction entries with
  | nil => rfl
  | cons entry rest ih =>
      rw [upsert]
      by_cases same : entry.1 = key
      · simp [same]
      · have other : ¬ key = entry.1 := fun isEntry => same isEntry.symm
        simp only [same, other, ↓reduceIte, List.map_cons, List.mem_cons, ih, false_or,
          List.cons_append]

theorem lookup_cons_eq_ite (entry : Key × Stored) (rest : List (Key × Stored)) (key : Key) :
    (entry :: rest).lookup key = if key = entry.1 then some entry.2 else rest.lookup key := by
  rcases entry with ⟨present, stored⟩
  by_cases same : key = present
  · simp [same]
  · have differs : (key == present) = false := beq_false_of_ne same
    simp [List.lookup_cons, same, differs]

/-- Storing under a key changes what is found under this key alone. -/
theorem lookup_upsert (key other : Key) (update : Stored → Stored) (fresh : Stored)
    (entries : List (Key × Stored)) :
    (upsert key update fresh entries).lookup other =
      if other = key then some ((entries.lookup key).elim fresh update)
      else entries.lookup other := by
  induction entries with
  | nil => simp [upsert, lookup_cons_eq_ite]
  | cons entry rest ih =>
      rw [upsert]
      by_cases same : entry.1 = key
      · by_cases isKey : other = key <;> simp [lookup_cons_eq_ite, same, isKey]
      · have notEntry : ¬ key = entry.1 := fun isEntry => same isEntry.symm
        rw [if_neg same, lookup_cons_eq_ite, lookup_cons_eq_ite, lookup_cons_eq_ite, ih,
          if_neg notEntry]
        by_cases isEntry : other = entry.1
        · simp [isEntry, same]
        · simp [isEntry]

/-- The entries hold every key once, in order of first appearance, with the value given last. -/
structure KeepsLast (pairs entries : List (Key × Given)) : Prop where
  nodup : (entries.map Prod.fst).Nodup
  keys : entries.map Prod.fst = (pairs.map Prod.fst).eraseDups
  values : ∀ key value, (key, value) ∈ entries ↔ (givenFor key pairs).getLast? = some value

theorem keepsLast_foldl_upsert (pairs : List (Key × Given)) :
    KeepsLast pairs
      (pairs.foldl (fun entries pair => upsert pair.1 (fun _ => pair.2) pair.2 entries) []) := by
  rcases pairs with _ | ⟨first, rest⟩
  · exact ⟨List.nodup_nil, rfl, by simp [givenFor]⟩
  · generalize given : first :: rest = pairs
    have keys : (((pairs.map Prod.fst).eraseDups.map fun key =>
        (key, (givenFor key pairs).getLastD first.2)).map Prod.fst) =
          (pairs.map Prod.fst).eraseDups := by
      simp [Function.comp_def]
    rw [foldl_upsert_last first.2]
    refine ⟨by rw [keys]; exact nodup_eraseDups _, keys, ?_⟩
    intro key value
    have isStored : (key, value) ∈ ((pairs.map Prod.fst).eraseDups.map fun key =>
        (key, (givenFor key pairs).getLastD first.2)) ↔
          key ∈ pairs.map Prod.fst ∧ (givenFor key pairs).getLastD first.2 = value := by
      simp only [List.mem_map (b := (key, value)), List.mem_eraseDups, Prod.mk.injEq]
      constructor
      · rintro ⟨other, otherMem, rfl, isLast⟩
        exact ⟨otherMem, isLast⟩
      · rintro ⟨keyMem, isLast⟩
        exact ⟨key, keyMem, rfl, isLast⟩
    rw [isStored, List.getLastD_eq_getLast?]
    by_cases known : key ∈ pairs.map Prod.fst
    · have someGiven : givenFor key pairs ≠ [] := by
        rw [Ne, givenFor_eq_nil]
        exact fun absent => absent known
      rw [List.getLast?_eq_some_getLast someGiven]
      simp [known]
    · rw [givenFor_eq_nil.mpr known]
      simp [known]

theorem KeepsLast.find?_eq {pairs entries : List (Key × Given)} (keeps : KeepsLast pairs entries)
    (key : Key) :
    (entries.find? (·.1 = key)).map Prod.snd = (givenFor key pairs).getLast? := by
  cases found : entries.find? (·.1 = key) with
  | none =>
      have noLast : ∀ value, (givenFor key pairs).getLast? ≠ some value := by
        intro value isLast
        simpa using List.find?_eq_none.mp found (key, value) ((keeps.values key value).mpr isLast)
      exact (Option.eq_none_iff_forall_ne_some.mpr noLast).symm
  | some entry =>
      have isKey : entry.1 = key := by simpa using List.find?_some found
      have isLast := (keeps.values entry.1 entry.2).mp (List.mem_of_find?_eq_some found)
      rw [← isKey, isLast]
      rfl

/-- Renaming keys that it tells apart leaves a map that keeps what was given last. -/
theorem KeepsLast.map {Name Shown : Type} [DecidableEq Name] {pairs entries : List (Key × Given)}
    (keeps : KeepsLast pairs entries) (rename : Key → Name) (convert : Given → Shown)
    (injective : ∀ left ∈ pairs.map Prod.fst, ∀ right ∈ pairs.map Prod.fst,
      rename left = rename right → left = right) :
    KeepsLast (pairs.map fun pair => (rename pair.1, convert pair.2))
      (entries.map fun entry => (rename entry.1, convert entry.2)) := by
  have keys : (entries.map fun entry => (rename entry.1, convert entry.2)).map Prod.fst =
      ((pairs.map fun pair => (rename pair.1, convert pair.2)).map Prod.fst).eraseDups := by
    have renamed : (pairs.map Prod.fst).eraseDups.filterMap (some ∘ rename) =
        ((pairs.map Prod.fst).filterMap (some ∘ rename)).eraseDups := by
      apply filterMap_eraseDups
      intro left leftMem right rightMem name isLeft isRight
      exact injective left leftMem right rightMem (Option.some.inj (isLeft.trans isRight.symm))
    rw [← keeps.keys] at renamed
    simpa [Function.comp_def] using renamed
  have given : ∀ key ∈ pairs.map Prod.fst,
      givenFor (rename key) (pairs.map fun pair => (rename pair.1, convert pair.2)) =
        (givenFor key pairs).map convert := by
    intro key keyMem
    rw [givenFor, List.filter_map, List.map_map, givenFor, List.map_map]
    congr 1
    apply List.filter_congr
    intro pair pairMem
    have sameKey : rename pair.1 = rename key ↔ pair.1 = key :=
      ⟨injective pair.1 (List.mem_map_of_mem pairMem) key keyMem, congrArg rename⟩
    simp [sameKey]
  refine ⟨by rw [keys]; exact nodup_eraseDups _, keys, ?_⟩
  intro name value
  constructor
  · intro isEntry
    rcases List.mem_map.mp isEntry with ⟨⟨key, stored⟩, entryMem, same⟩
    simp only [Prod.mk.injEq] at same
    rcases same with ⟨rfl, rfl⟩
    have isLast := (keeps.values key stored).mp entryMem
    have known : key ∈ pairs.map Prod.fst := by
      rw [← List.mem_eraseDups, ← keeps.keys]
      exact List.mem_map_of_mem entryMem
    rw [given key known, List.getLast?_map, isLast]
    rfl
  · intro isLast
    have known : name ∈ (pairs.map fun pair => (rename pair.1, convert pair.2)).map Prod.fst := by
      by_contra absent
      simp [givenFor_eq_nil.mpr absent] at isLast
    simp only [List.map_map, List.mem_map, Function.comp_apply] at known
    rcases known with ⟨pair, pairMem, rfl⟩
    rw [given pair.1 (List.mem_map_of_mem pairMem), List.getLast?_map,
      Option.map_eq_some_iff] at isLast
    rcases isLast with ⟨stored, isLast, rfl⟩
    exact List.mem_map.mpr ⟨(pair.1, stored), (keeps.values pair.1 stored).mpr isLast, rfl⟩

end RestQuery
