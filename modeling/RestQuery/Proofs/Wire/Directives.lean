import RestQuery.Proofs.Wire.Fragments
import RestQuery.Proofs.Wire.WrittenPairs

/-!
# Which value of a directive stands

A directive can be given more than once and in several spellings, since the case of its name and a
mark in front do not count. The values are brought together by spelling before they are read, so
the one that stands is the last value of the spelling that was introduced last. `last_spelling_wins`
says so for every directive and for the projection. It is the last value in the text as soon as no
other spelling begins behind the one it is written in.
-/

namespace RestQuery

theorem putDirective_map (kind : DirectiveKind) (value : String)
    (entries : List (DirectiveKind × String)) :
    putDirective kind value (entries.map fun entry => ⟨entry.1, entry.2⟩) =
      (upsert kind (fun _ => value) value entries).map fun entry => ⟨entry.1, entry.2⟩ := by
  induction entries with
  | nil => rfl
  | cons entry rest ih =>
      simp only [List.map_cons, putDirective, upsert, ih]
      split <;> rfl

theorem putDirectives_eq_foldl (pairs : List (DirectiveKind × String)) :
    putDirectives pairs =
      (pairs.foldl (fun entries pair => upsert pair.1 (fun _ => pair.2) pair.2 entries) []).map
        fun entry => ⟨entry.1, entry.2⟩ := by
  induction pairs using List.reverseRecOn with
  | nil => rfl
  | append_singleton earlier pair ih =>
      rw [putDirectives_concat, ih, putDirective_map, List.foldl_append]
      rfl

/-- Stored directives are a map that keeps what was given last for each kind. -/
theorem keepsLast_putDirectives (pairs : List (DirectiveKind × String)) :
    KeepsLast pairs
      ((putDirectives pairs).map fun directive => (directive.kind, directive.value)) := by
  rw [putDirectives_eq_foldl, List.map_map]
  simpa [Function.comp_def] using keepsLast_foldl_upsert pairs

theorem nodup_kind_putDirectives (pairs : List (DirectiveKind × String)) :
    ((putDirectives pairs).map Directive.kind).Nodup := by
  simpa [Function.comp_def] using (keepsLast_putDirectives pairs).nodup

theorem find?_putDirectives (kind : DirectiveKind) (pairs : List (DirectiveKind × String)) :
    ((putDirectives pairs).find? (·.kind = kind)).map Directive.value =
      (givenFor kind pairs).getLast? := by
  rw [← (keepsLast_putDirectives pairs).find?_eq kind, List.find?_map, Option.map_map]
  rfl

theorem ofName?_eq_some_iff {name : String} {kind : DirectiveKind} :
    DirectiveKind.ofName? name = some kind ↔ name = kind.name :=
  find?_name_eq_some_iff DirectiveKind.ofName?_name

/-- What selects no outcome of a fragment selects from what is set as a whole. -/
theorem filterMap_pairEvents {Selected : Type} {select : Event → Option Selected}
    (noOutcome : ∀ event, event.isOutcome = true → select event = none) (form : ValueForm)
    (key value : String) :
    (pairEvents form key value).filterMap select =
      (assignedEvents form key value).filterMap select := by
  rw [pairEvents_eq, List.filterMap_append, List.append_right_eq_self, List.filterMap_eq_nil_iff]
  intro event eventMem
  exact noOutcome event (isOutcome_of_mem_events eventMem)

theorem filterMap_directive?_pairEvents (form : ValueForm) (key value : String) :
    (pairEvents form key value).filterMap Event.directive? =
      ((directiveName? key).bind DirectiveKind.ofName?).toList.map fun kind =>
        (kind, form.text value) := by
  have unnamed : DirectiveKind.ofName? "field" = none := by decide
  rw [filterMap_pairEvents]
  · unfold assignedEvents
    cases directiveName? key with
    | none => rfl
    | some name =>
        by_cases projects : name = "field"
        · simp [projects, unnamed, Event.directive?]
        · cases kind : DirectiveKind.ofName? name <;> simp [projects, kind, Event.directive?]
  · intro event isOutcome
    cases event <;> simp_all [Event.isOutcome, Event.directive?]

theorem filterMap_projection?_pairEvents (form : ValueForm) (key value : String) :
    (pairEvents form key value).filterMap Event.projection? =
      if directiveName? key = some "field" then
        [distinctColumns ((Text.split ',' value).map form.text)]
      else [] := by
  rw [filterMap_pairEvents]
  · unfold assignedEvents
    cases directiveName? key with
    | none => rfl
    | some name =>
        by_cases projects : name = "field"
        · simp [projects, Event.projection?]
        · cases kind : DirectiveKind.ofName? name <;> simp [projects, Event.projection?]
  · intro event isOutcome
    cases event <;> simp_all [Event.isOutcome, Event.projection?]

/-- The segments that name a directive, with decoded keys, in the order of the text. -/
def segmentsNaming (name raw : String) : List (String × String) :=
  (decodedPairs raw).filter fun pair => directiveName? (bareKey pair.1) = some name

/-- The last value of the spelling that is introduced last. -/
def standingValue? (name raw : String) : Option String :=
  ((segmentsNaming name raw).map Prod.fst).eraseDups.getLast?.bind fun spelling =>
    (givenFor spelling (segmentsNaming name raw)).getLast?

theorem getLast?_regroup_decodedPairs (name raw : String) :
    (((regroup Prod.fst (decodedPairs raw)).filter fun pair =>
      directiveName? (bareKey pair.1) = some name).map Prod.snd).getLast? =
        standingValue? name raw := by
  have chosen : ((regroup Prod.fst (decodedPairs raw)).filter fun pair =>
      directiveName? (bareKey pair.1) = some name) = regroup Prod.fst (segmentsNaming name raw) :=
    filter_regroup (fun key => decide (directiveName? (bareKey key) = some name)) _
  rw [chosen, List.getLast?_map, getLast?_regroup, standingValue?, segmentsNaming]
  cases spelling : (((decodedPairs raw).filter fun pair =>
    directiveName? (bareKey pair.1) = some name).map Prod.fst).eraseDups.getLast? with
  | none => rfl
  | some spelling => simp [givenFor, List.getLast?_map]

theorem directive?_parseQueryString (kind : DirectiveKind) (raw : String) :
    (parseQueryString raw).query.directive? kind =
      (standingValue? kind.name raw).map Percent.decode := by
  have named : ∀ key : String,
      (directiveName? key).bind DirectiveKind.ofName? = some kind ↔
        directiveName? key = some kind.name := by
    intro key
    simp [Option.bind_eq_some_iff, ofName?_eq_some_iff]
  rw [parseQueryString_eq, Parsed.ofEvents_eq, Query.directive?, find?_putDirectives,
    Parameters.filterMap_events (fun _ => rfl)]
  simp only [filterMap_directive?_pairEvents, givenFor_flatMap, named]
  rw [← getLast?_regroup_decodedPairs, List.getLast?_map, List.getLast?_map, Option.map_map]
  rfl

theorem projection_parseQueryString (raw : String) :
    (parseQueryString raw).query.projection =
      (standingValue? "field" raw).map fun value =>
        distinctColumns ((Text.split ',' value).map Percent.decode) := by
  have selected : ∀ pairs : List (String × String),
      (pairs.flatMap fun pair =>
        (pairEvents .written (bareKey pair.1) pair.2).filterMap Event.projection?) =
      (pairs.filter fun pair => directiveName? (bareKey pair.1) = some "field").map fun pair =>
        distinctColumns ((Text.split ',' pair.2).map Percent.decode) := by
    intro pairs
    induction pairs with
    | nil => rfl
    | cons pair rest ih =>
        rw [List.flatMap_cons, ih, filterMap_projection?_pairEvents, List.filter_cons]
        by_cases projects : directiveName? (bareKey pair.1) = some "field"
        · simp only [projects, ↓reduceIte, decide_true, List.map_cons, List.singleton_append]
          rfl
        · simp [projects]
  have noMarks : ∀ key, Event.projection? (.negatedKey key) = none := fun _ => rfl
  rw [parseQueryString_eq, Parsed.ofEvents_eq]
  simp only [Parameters.filterMap_events noMarks, selected]
  rw [← getLast?_regroup_decodedPairs, List.getLast?_map, List.getLast?_map, Option.map_map]
  rfl

theorem standingValue?_eq_none_iff {name raw : String} :
    standingValue? name raw = none ↔ segmentsNaming name raw = [] := by
  rw [← getLast?_regroup_decodedPairs, List.getLast?_eq_none_iff, List.map_eq_nil_iff,
    List.filter_eq_nil_iff, segmentsNaming, List.filter_eq_nil_iff]
  simp only [mem_regroup]

theorem standingValue?_of_getLast? {name raw : String} {last : String × String}
    (isLast : (segmentsNaming name raw).getLast? = some last)
    (introducedLast : ((segmentsNaming name raw).map Prod.fst).eraseDups.getLast? = some last.1) :
    standingValue? name raw = some last.2 := by
  rcases List.getLast?_eq_some_iff.mp isLast with ⟨earlier, segments⟩
  rw [standingValue?, introducedLast, Option.bind_some, segments, givenFor_concat, if_pos rfl]
  simp

/--
The value of a directive is the last one of the spelling that is introduced last. It is unset only
if no segment names the directive, and the last segment gives it if its spelling is that one.
-/
theorem last_spelling_wins (raw : String) :
    (∀ kind : DirectiveKind, (parseQueryString raw).query.directive? kind =
      (standingValue? kind.name raw).map Percent.decode) ∧
      ((parseQueryString raw).query.projection =
        (standingValue? "field" raw).map fun value =>
          distinctColumns ((Text.split ',' value).map Percent.decode)) ∧
      ∀ name, (standingValue? name raw = none ↔ segmentsNaming name raw = []) ∧
        ∀ last, (segmentsNaming name raw).getLast? = some last →
          ((segmentsNaming name raw).map Prod.fst).eraseDups.getLast? = some last.1 →
            standingValue? name raw = some last.2 :=
  ⟨fun kind => directive?_parseQueryString kind raw, projection_parseQueryString raw,
    fun _ => ⟨standingValue?_eq_none_iff, fun _ => standingValue?_of_getLast?⟩⟩

/-- A spelling that comes between two others of its kind hides the last one. -/
theorem directive?_limit_between_spellings :
    (segmentsNaming "limit" "_limit=1&_LIMIT=2&_limit=3").getLast? = some ("_limit", "3") ∧
      (parseQueryString "_limit=1&_LIMIT=2&_limit=3").query.directive? .limit = some "2" := by
  decide +kernel

end RestQuery
