import RestQuery.Proofs.Json.ReadBack
import RestQuery.Query.Json

/-!
# Structured queries read back from JSON

Each reader of a part of a query gives back what its writer wrote, on the level of trees. Records
meet their fields in the order of declaration, so every field finds its slot free. Doubles are left
out: a reader of numbers rounds twice, and what is not finite is not written at all.
-/

namespace RestQuery

open Json (Tree textParts)

namespace Json.Tree

@[simp]
theorem text?_toTree (text : String) : text? (Json.text text).toTree = some text :=
  partsText?_textParts text

@[simp]
theorem unitName?_toTree (text : String) : unitName? (Json.text text).toTree = some text :=
  partsText?_textParts text

@[simp]
theorem bool?_toTree (value : Bool) : bool? (Json.bool value).toTree = some value := rfl

@[simp]
theorem variant?_toTree (name : String) (content : Json) :
    variant? (Json.object [(name, content)]).toTree = some (name, content.toTree) := by
  simp [variant?, toTree, fieldTrees]

theorem listOf?_toTree {Value : Type} {encode : Value → Json} {read? : Tree → Option Value}
    (items : List Value) (readBack : ∀ item ∈ items, read? (encode item).toTree = some item) :
    listOf? read? (Json.ofList encode items).toTree = some items := by
  change ((itemTrees (items.map encode)).mapM read?) = some items
  induction items with
  | nil => rfl
  | cons item rest ih =>
      rw [List.forall_mem_cons] at readBack
      rw [List.map_cons, itemTrees, List.mapM_cons, readBack.1, ih readBack.2]
      rfl

theorem listOf?_texts (texts : List String) :
    listOf? text? (Json.ofTexts texts).toTree = some texts :=
  listOf?_toTree texts fun text _ => text?_toTree text

/-- A value that is never written as `null` is read back where it is given, and is absent else. -/
theorem optionOf?_toTree {Value : Type} {encode : Value → Json} {read? : Tree → Option Value}
    (notNull : ∀ value, (encode value).toTree ≠ .null)
    (readBack : ∀ value, read? (encode value).toTree = some value) (value : Option Value) :
    optionOf? read? (Json.ofOption encode value).toTree = some value := by
  cases value with
  | none => rfl
  | some value =>
      rw [Json.ofOption, optionOf?, readBack, Option.map_some]
      exact notNull value

theorem optionOf?_text (text : Option String) :
    optionOf? text? (Json.ofOption Json.text text).toTree = some text := by
  apply optionOf?_toTree
  · intro value isNull
    cases isNull
  · exact text?_toTree

end Json.Tree

open Json.Tree

def Scalar.isFloat : Scalar → Bool
  | .float _ => true
  | _ => false

theorem Scalar.ofTree?_toTree {scalar : Scalar} (notFloat : scalar.isFloat = false) :
    Scalar.ofTree? scalar.toJson.toTree = some scalar := by
  cases scalar with
  | float value => cases notFloat
  | bool value => rfl
  | text value =>
      change (Json.partsText? (textParts value)).map Scalar.text = some (.text value)
      rw [Json.partsText?_textParts, Option.map_some]
  | int value =>
      have numeral := Json.ofNumeral?_ofInt value.minValue_le_toInt value.toInt_le
      change Scalar.ofTree? (.number (.ofInt value.toInt)) = some (.int value)
      simp only [Scalar.ofTree?, numeral, value.toInt_le, ↓reduceIte, Int64.ofInt_toInt]

theorem Operator.ofTree?_toTree (operator : Operator) :
    Operator.ofTree? operator.toJson.toTree = some operator := by
  simp [Operator.ofTree?, Operator.toJson]

theorem Operand.ofTree?_toTree {operand : Operand}
    (lacksFloats : ∀ scalar ∈ operand.scalars, scalar.isFloat = false) :
    Operand.ofTree? operand.toJson.toTree = some operand := by
  cases operand with
  | single scalar =>
      have read := Scalar.ofTree?_toTree (lacksFloats scalar (by simp [Operand.scalars]))
      simp [Operand.ofTree?, Operand.toJson, read]
  | pair low high =>
      have readLow := Scalar.ofTree?_toTree (lacksFloats low (by simp [Operand.scalars]))
      have readHigh := Scalar.ofTree?_toTree (lacksFloats high (by simp [Operand.scalars]))
      have bounds : (Json.list [low.toJson, high.toJson]).toTree =
          .list [low.toJson.toTree, high.toJson.toTree] := rfl
      rw [Operand.ofTree?, Operand.toJson, variant?_toTree, bounds]
      simp [readLow, readHigh]
  | list items =>
      have read := listOf?_toTree items fun item itemMem =>
        Scalar.ofTree?_toTree (lacksFloats item itemMem)
      simp [Operand.ofTree?, Operand.toJson, read]

theorem FieldFilter.ofTree?_toTree {filter : FieldFilter}
    (lacksFloats : ∀ scalar ∈ filter.operand.scalars, scalar.isFloat = false) :
    FieldFilter.ofTree? filter.toJson.toTree = some filter := by
  have slots : filter.toJson.toTree.fields? [["field"], ["operator"], ["value"], ["negated"]] =
      some [some (Json.text filter.field).toTree, some filter.operator.toJson.toTree,
        some filter.operand.toJson.toTree, some (Json.bool filter.negated).toTree] := rfl
  have operator := Operator.ofTree?_toTree filter.operator
  have operand := Operand.ofTree?_toTree lacksFloats
  rw [FieldFilter.ofTree?, slots]
  simp [Fields.required?, Fields.defaulted?, operator, operand]

theorem SortKey.ofTree?_toTree (key : SortKey) : SortKey.ofTree? key.toJson.toTree = some key := by
  have slots : key.toJson.toTree.fields? [["field"], ["direction"]] =
      some [some (Json.text key.field).toTree, some (Json.text key.direction.token).toTree] := rfl
  rw [SortKey.ofTree?, slots]
  simp [Fields.required?]

theorem Directive.ofTree?_toTree (directive : Directive) :
    Directive.ofTree? directive.toJson.toTree = some directive := by
  have slots : directive.toJson.toTree.fields? [["kind"], ["value"]] =
      some [some directive.kind.toJson.toTree, some (Json.text directive.value).toTree] := rfl
  rw [Directive.ofTree?, slots]
  simp [Fields.required?, DirectiveKind.ofTree?, DirectiveKind.toJson]

namespace Query

/-- No filter compares with a double. -/
def LacksFloats (query : Query) : Prop :=
  ∀ filter ∈ query.filters, ∀ scalar ∈ filter.operand.scalars, scalar.isFloat = false

/-- A query without doubles is read back from its tree. -/
theorem ofTree?_toTree {query : Query} (lacksFloats : query.LacksFloats) :
    Query.ofTree? query.toJson.toTree = some query := by
  have filters := listOf?_toTree query.filters fun filter filterMem =>
    FieldFilter.ofTree?_toTree (lacksFloats filter filterMem)
  have orders := listOf?_toTree query.orders fun key _ => SortKey.ofTree?_toTree key
  have directives := listOf?_toTree query.directives fun directive _ =>
    Directive.ofTree?_toTree directive
  rcases query with ⟨queryFilters, queryOrders, projection, queryDirectives⟩
  cases projection with
  | none =>
      have slots : (Query.toJson ⟨queryFilters, queryOrders, none, queryDirectives⟩).toTree.fields?
          [["filters"], ["orders"], ["projection"], ["directives"]] =
          some [some (Json.ofList FieldFilter.toJson queryFilters).toTree,
            some (Json.ofList SortKey.toJson queryOrders).toTree, none,
            some (Json.ofList Directive.toJson queryDirectives).toTree] := rfl
      rw [Query.ofTree?, slots]
      simp [Fields.defaulted?, filters, orders, directives]
  | some columns =>
      have slots :
          (Query.toJson ⟨queryFilters, queryOrders, some columns, queryDirectives⟩).toTree.fields?
            [["filters"], ["orders"], ["projection"], ["directives"]] =
          some [some (Json.ofList FieldFilter.toJson queryFilters).toTree,
            some (Json.ofList SortKey.toJson queryOrders).toTree,
            some (Json.ofTexts columns).toTree,
            some (Json.ofList Directive.toJson queryDirectives).toTree] := rfl
      have projected : optionOf? (listOf? text?) (Json.ofTexts columns).toTree =
          some (some columns) := by
        change ((Json.ofTexts columns).toTree.listOf? text?).map some = some (some columns)
        rw [listOf?_texts, Option.map_some]
      rw [Query.ofTree?, slots]
      simp [Fields.defaulted?, filters, orders, projected, directives]

end Query

end RestQuery
