import Mathlib.Data.List.Forall2
import RestQuery.Builder.CacheKey
import RestQuery.Proofs.Json.Queries

/-!
# What the cache key depends on

The digested text is JSON and JSON is read back, so builders with the same text have the same tree,
and a tree tells the parts that it was written for. Scalars are the exception: all doubles that are
not finite are written `null`. So the comparison of scalars is a parameter of what it means for
conditions to agree. Without floats it is equality, and the text is the same for two builders just
when all keyed parts are the same.

Of a group only its conditions and its junction are written. The rest of its builder is as free as
the collection, the cursor options and the flags of the builder around it.
-/

namespace RestQuery

open Json (Tree textParts textParts_inj)

/-- Conditions of the same form and the same parts, with scalars compared by a relation. -/
inductive Condition.Agrees (same : Scalar → Scalar → Prop) : Condition → Condition → Prop where
  | basic {column operator : String} {left right : Scalar} {junction : Junction}
      (value : same left right) :
      Agrees same (.basic column operator left junction) (.basic column operator right junction)
  | oneOf {column : String} {left right : List Scalar} {junction : Junction}
      (values : List.Forall₂ same left right) :
      Agrees same (.oneOf column left junction) (.oneOf column right junction)
  | noneOf {column : String} {left right : List Scalar} {junction : Junction}
      (values : List.Forall₂ same left right) :
      Agrees same (.noneOf column left junction) (.noneOf column right junction)
  | null {column : String} {junction : Junction} :
      Agrees same (.null column junction) (.null column junction)
  | notNull {column : String} {junction : Junction} :
      Agrees same (.notNull column junction) (.notNull column junction)
  | between {column : String} {leftLow leftHigh rightLow rightHigh : Scalar} {junction : Junction}
      {outside : Bool} (low : same leftLow rightLow) (high : same leftHigh rightHigh) :
      Agrees same (.between column leftLow leftHigh junction outside)
        (.between column rightLow rightHigh junction outside)
  /-- Of a group its conditions count, and nothing else that its builder holds. -/
  | nested {left right : Builder} {junction : Junction}
      (conditions : List.Forall₂ (Agrees same) left.conditions right.conditions) :
      Agrees same (.nested left junction) (.nested right junction)

/-- The builders agree in everything that the cache key depends on. -/
structure Builder.SameContent (same : Scalar → Scalar → Prop) (left right : Builder) : Prop where
  conditions : List.Forall₂ (Condition.Agrees same) left.conditions right.conditions
  columns : left.columns = right.columns
  groups : left.groups = right.groups
  orders : left.orders = right.orders
  offset : left.offset = right.offset
  limit : left.limit = right.limit
  aggregate : left.aggregate = right.aggregate

mutual

/-- The scalars of a condition, those of a group at any depth included. -/
def Condition.scalars : Condition → List Scalar
  | .basic _ _ value _ => [value]
  | .oneOf _ values _ => values
  | .noneOf _ values _ => values
  | .null _ _ => []
  | .notNull _ _ => []
  | .between _ low high _ _ => [low, high]
  | .nested ⟨_, _, conditions, _, _, _, _, _, _, _, _, _⟩ _ => conditionScalars conditions

def conditionScalars : List Condition → List Scalar
  | [] => []
  | condition :: rest => condition.scalars ++ conditionScalars rest

end

/-- No scalar of the builder is a double, at whatever depth it stands. -/
def Builder.LacksFloats (builder : Builder) : Prop :=
  ∀ scalar ∈ conditionScalars builder.conditions, scalar.isFloat = false

mutual

/-- Changes every group, at any depth, in all but its conditions. -/
def Condition.regroup (change : Builder → Builder) : Condition → Condition
  | .nested ⟨collection, columns, conditions, groups, orders, limit, offset, aggregate, distinct,
      timeout, hint, paginating⟩ junction =>
      .nested
        { change ⟨collection, columns, conditions, groups, orders, limit, offset, aggregate,
            distinct, timeout, hint, paginating⟩ with
          conditions := regroupAll change conditions }
        junction
  | condition => condition

def regroupAll (change : Builder → Builder) : List Condition → List Condition
  | [] => []
  | condition :: rest => condition.regroup change :: regroupAll change rest

end

theorem eq_of_forall₂_eq {Value : Type} {left right : List Value}
    (values : List.Forall₂ Eq left right) : left = right := by
  rwa [List.forall₂_eq_eq_eq] at values

mutual

theorem Condition.toJson_eq_of_agrees : ∀ {left right : Condition}, left.Agrees Eq right →
    left.toJson = right.toJson
  | _, _, .basic value => by rw [value]
  | _, _, .oneOf values => by rw [eq_of_forall₂_eq values]
  | _, _, .noneOf values => by rw [eq_of_forall₂_eq values]
  | _, _, .null => rfl
  | _, _, .notNull => rfl
  | _, _, .between low high => by rw [low, high]
  | .nested ⟨_, _, _, _, _, _, _, _, _, _, _, _⟩ _, .nested ⟨_, _, _, _, _, _, _, _, _, _, _, _⟩ _,
      .nested conditions => by
      rw [Condition.toJson, Condition.toJson, conditionsToJson_eq_of_agree conditions]

theorem conditionsToJson_eq_of_agree : ∀ {left right : List Condition},
    List.Forall₂ (Condition.Agrees Eq) left right →
    conditionsToJson left = conditionsToJson right
  | _, _, .nil => rfl
  | _, _, .cons condition rest => by
      rw [conditionsToJson, conditionsToJson, Condition.toJson_eq_of_agrees condition,
        conditionsToJson_eq_of_agree rest]

end

theorem Builder.cacheText_eq_of_sameContent {left right : Builder}
    (content : left.SameContent Eq right) : left.cacheText = right.cacheText := by
  unfold cacheText cacheJson conditionsJson ordersJson
  rw [conditionsToJson_eq_of_agree content.conditions, content.columns, content.groups,
    content.orders, content.offset, content.limit, content.aggregate]

mutual

theorem Condition.agrees_regroup (change : Builder → Builder) : ∀ condition : Condition,
    (condition.regroup change).Agrees Eq condition
  | .basic _ _ _ _ => .basic rfl
  | .oneOf _ _ _ => .oneOf (List.forall₂_refl _)
  | .noneOf _ _ _ => .noneOf (List.forall₂_refl _)
  | .null _ _ => .null
  | .notNull _ _ => .notNull
  | .between _ _ _ _ _ => .between rfl rfl
  | .nested ⟨_, _, conditions, _, _, _, _, _, _, _, _, _⟩ _ =>
      .nested (agree_regroupAll change conditions)

theorem agree_regroupAll (change : Builder → Builder) : ∀ conditions : List Condition,
    List.Forall₂ (Condition.Agrees Eq) (regroupAll change conditions) conditions
  | [] => .nil
  | condition :: rest =>
      .cons (condition.agrees_regroup change) (agree_regroupAll change rest)

end

/-- Different values have different trees. -/
def TellsApart {Value : Type} (encode : Value → Json) : Prop :=
  Function.Injective fun value => (encode value).toTree

section Parts

variable {Value : Type} {encode : Value → Json}

theorem itemTrees_map_eq {left right : List Value}
    (same : Json.itemTrees (left.map encode) = Json.itemTrees (right.map encode)) :
    List.Forall₂ (fun left right => (encode left).toTree = (encode right).toTree) left right := by
  rw [Json.itemTrees_eq_map, Json.itemTrees_eq_map, List.map_map, List.map_map,
    ← List.forall₂_eq_eq_eq, List.forall₂_map_left_iff, List.forall₂_map_right_iff] at same
  exact same

theorem tellsApart_ofList (tellsApart : TellsApart encode) : TellsApart (Json.ofList encode) := by
  intro left right same
  simp only [Json.ofList, Json.toTree, Tree.list.injEq] at same
  exact eq_of_forall₂_eq ((itemTrees_map_eq same).imp fun _ _ sameItem => tellsApart sameItem)

theorem tellsApart_ofOption (tellsApart : TellsApart encode)
    (notNull : ∀ value, (encode value).toTree ≠ .null) : TellsApart (Json.ofOption encode) := by
  intro left right same
  cases left with
  | none =>
      cases right with
      | none => rfl
      | some right => exact absurd same.symm (notNull right)
  | some left =>
      cases right with
      | none => exact absurd same (notNull left)
      | some right => exact congrArg some (tellsApart same)

theorem tellsApart_text : TellsApart Json.text := by
  intro left right same
  exact textParts_inj (Tree.text.inj same)

theorem tellsApart_int : TellsApart Json.int := by
  intro left right same
  exact Numeral.ofInt_inj (Tree.number.inj same)

theorem tellsApart_ofTexts : TellsApart Json.ofTexts :=
  tellsApart_ofList tellsApart_text

theorem tellsApart_ofUnsigned : TellsApart Json.ofUnsigned := by
  intro left right same
  exact UInt64.toNat_inj.mp (Int.ofNat.inj (tellsApart_int same))

theorem tellsApart_orderToJson : TellsApart orderToJson := by
  intro left right same
  simp only [orderToJson, SortOrder.toJson, Json.toTree, Json.itemTrees, Tree.list.injEq,
    List.cons.injEq, Tree.text.injEq, Tree.number.injEq, and_true] at same
  refine Prod.ext (textParts_inj same.1) ?_
  have sameSign := Numeral.ofInt_inj same.2
  revert sameSign
  cases left.2 <;> cases right.2 <;> decide

theorem tellsApart_aggregate : TellsApart Aggregate.toJson := by
  intro left right same
  simp only [Aggregate.toJson, Json.toTree, Json.fieldTrees, Tree.record.injEq, List.cons.injEq,
    Prod.mk.injEq, Tree.text.injEq, true_and, and_true] at same
  rcases left with ⟨function, columns⟩
  rcases right with ⟨otherFunction, otherColumns⟩
  rw [Aggregate.mk.injEq]
  exact ⟨textParts_inj same.1, tellsApart_ofTexts same.2⟩

end Parts

/-- The scalars have the same tree, as only doubles that are not finite do. -/
def Scalar.WrittenAlike (left right : Scalar) : Prop :=
  left.toJson.toTree = right.toJson.toTree

section Trees

variable {key left right : String} {leftValue rightValue : Json}
  {leftRest rightRest : List (String × Json)}

theorem toTree_object_eq_iff :
    (Json.object ((key, leftValue) :: leftRest)).toTree =
        (Json.object ((key, rightValue) :: rightRest)).toTree ↔
      leftValue.toTree = rightValue.toTree ∧
        (Json.object leftRest).toTree = (Json.object rightRest).toTree := by
  simp [Json.toTree, Json.fieldTrees]

theorem toTree_text_eq_iff : (Json.text left).toTree = (Json.text right).toTree ↔ left = right :=
  tellsApart_text.eq_iff

theorem toTree_bool_eq_iff {left right : Bool} :
    (Json.bool left).toTree = (Json.bool right).toTree ↔ left = right := by
  simp [Json.toTree]

theorem toTree_pair_eq_iff {leftNext rightNext : Json} :
    (Json.list [leftValue, leftNext]).toTree = (Json.list [rightValue, rightNext]).toTree ↔
      leftValue.toTree = rightValue.toTree ∧ leftNext.toTree = rightNext.toTree := by
  simp [Json.toTree, Json.itemTrees]

theorem toTree_junction_eq_iff {left right : Junction} :
    left.toJson.toTree = right.toJson.toTree ↔ left = right := by
  rw [Junction.toJson, Junction.toJson, toTree_text_eq_iff]
  cases left <;> cases right <;> decide

end Trees

theorem Scalar.forall₂_writtenAlike {left right : List Scalar}
    (same : (Json.ofList Scalar.toJson left).toTree = (Json.ofList Scalar.toJson right).toTree) :
    List.Forall₂ Scalar.WrittenAlike left right :=
  itemTrees_map_eq (Tree.list.inj same)

namespace Condition

/-- What a written condition gives as its type. -/
def typeName : Condition → String
  | basic .. => "basic"
  | oneOf .. => "in"
  | noneOf .. => "not_in"
  | null .. => "null"
  | notNull .. => "not_null"
  | between .. => "between"
  | nested .. => "nested"

theorem exists_toJson_eq (condition : Condition) :
    ∃ fields, condition.toJson = .object (("type", .text condition.typeName) :: fields) := by
  cases condition with
  | nested group junction => rcases group with ⟨⟩; exact ⟨_, rfl⟩
  | _ => exact ⟨_, rfl⟩

theorem typeName_eq_of_toTree {left right : Condition}
    (same : left.toJson.toTree = right.toJson.toTree) : left.typeName = right.typeName := by
  rcases left.exists_toJson_eq with ⟨leftFields, leftEq⟩
  rcases right.exists_toJson_eq with ⟨rightFields, rightEq⟩
  rw [leftEq, rightEq, toTree_object_eq_iff, toTree_text_eq_iff] at same
  exact same.1

mutual

theorem agrees_of_toTree : ∀ left right : Condition,
    left.toJson.toTree = right.toJson.toTree → left.Agrees Scalar.WrittenAlike right
  | basic column operator value junction, right => by
      intro same
      have sameType := typeName_eq_of_toTree same
      cases right with
      | basic otherColumn otherOperator otherValue otherJunction =>
          simp only [toJson, toTree_object_eq_iff, toTree_text_eq_iff, toTree_junction_eq_iff,
            true_and, and_true] at same
          rcases same with ⟨rfl, rfl, sameValue, rfl⟩
          exact .basic sameValue
      | _ => simp [typeName] at sameType
  | oneOf column values junction, right => by
      intro same
      have sameType := typeName_eq_of_toTree same
      cases right with
      | oneOf otherColumn otherValues otherJunction =>
          simp only [toJson, toTree_object_eq_iff, toTree_text_eq_iff, toTree_junction_eq_iff,
            true_and, and_true] at same
          rcases same with ⟨rfl, sameValues, rfl⟩
          exact .oneOf (Scalar.forall₂_writtenAlike sameValues)
      | _ => simp [typeName] at sameType
  | noneOf column values junction, right => by
      intro same
      have sameType := typeName_eq_of_toTree same
      cases right with
      | noneOf otherColumn otherValues otherJunction =>
          simp only [toJson, toTree_object_eq_iff, toTree_text_eq_iff, toTree_junction_eq_iff,
            true_and, and_true] at same
          rcases same with ⟨rfl, sameValues, rfl⟩
          exact .noneOf (Scalar.forall₂_writtenAlike sameValues)
      | _ => simp [typeName] at sameType
  | null column junction, right => by
      intro same
      have sameType := typeName_eq_of_toTree same
      cases right with
      | null otherColumn otherJunction =>
          simp only [toJson, toTree_object_eq_iff, toTree_text_eq_iff, toTree_junction_eq_iff,
            true_and, and_true] at same
          rcases same with ⟨rfl, rfl⟩
          exact .null
      | _ => simp [typeName] at sameType
  | notNull column junction, right => by
      intro same
      have sameType := typeName_eq_of_toTree same
      cases right with
      | notNull otherColumn otherJunction =>
          simp only [toJson, toTree_object_eq_iff, toTree_text_eq_iff, toTree_junction_eq_iff,
            true_and, and_true] at same
          rcases same with ⟨rfl, rfl⟩
          exact .notNull
      | _ => simp [typeName] at sameType
  | between column low high junction outside, right => by
      intro same
      have sameType := typeName_eq_of_toTree same
      cases right with
      | between otherColumn otherLow otherHigh otherJunction otherOutside =>
          simp only [toJson, toTree_object_eq_iff, toTree_text_eq_iff, toTree_junction_eq_iff,
            toTree_pair_eq_iff, toTree_bool_eq_iff, true_and, and_true] at same
          rcases same with ⟨rfl, ⟨sameLow, sameHigh⟩, rfl, rfl⟩
          exact .between sameLow sameHigh
      | _ => simp [typeName] at sameType
  | nested ⟨_, _, conditions, _, _, _, _, _, _, _, _, _⟩ junction, right => by
      intro same
      have sameType := typeName_eq_of_toTree same
      cases right with
      | nested otherGroup otherJunction =>
          rcases otherGroup with ⟨_, _, otherConditions, _, _, _, _, _, _, _, _, _⟩
          simp only [toJson, toTree_object_eq_iff, toTree_junction_eq_iff, true_and,
            and_true] at same
          rcases same with ⟨sameConditions, rfl⟩
          exact .nested (agree_of_itemTrees conditions otherConditions (Tree.list.inj sameConditions))
      | _ => simp [typeName] at sameType

theorem agree_of_itemTrees : ∀ left right : List Condition,
    Json.itemTrees (conditionsToJson left) = Json.itemTrees (conditionsToJson right) →
    List.Forall₂ (Condition.Agrees Scalar.WrittenAlike) left right
  | [], [] => fun _ => .nil
  | [], _ :: _ => fun same => nomatch same
  | _ :: _, [] => fun same => nomatch same
  | left :: leftRest, right :: rightRest => fun same =>
      .cons (left.agrees_of_toTree right (List.cons.inj same).1)
        (agree_of_itemTrees leftRest rightRest (List.cons.inj same).2)

end

end Condition

/-- Builders that are digested from the same text differ at most in doubles that are not finite. -/
theorem Builder.sameContent_of_cacheText {left right : Builder}
    (same : left.cacheText = right.cacheText) : left.SameContent Scalar.WrittenAlike right := by
  -- Both texts are read back as the trees that they were written for.
  have sameTree : left.cacheJson.toTree = right.cacheJson.toTree := by
    apply Option.some.inj
    rw [← Tree.ofText?_render, ← Tree.ofText?_render]
    exact congrArg Tree.ofText? same
  simp only [cacheJson, Json.toTree, Json.itemTrees, Tree.list.injEq, List.cons.injEq,
    and_true] at sameTree
  rcases sameTree with ⟨conditions, columns, groups, orders, offset, limit, aggregate⟩
  refine ⟨?_, ?_, ?_, ?_, ?_, ?_, ?_⟩
  · exact Condition.agree_of_itemTrees _ _ (Tree.list.inj conditions)
  · exact tellsApart_ofOption tellsApart_ofTexts (by rintro _ ⟨⟩) columns
  · exact tellsApart_ofTexts groups
  · exact tellsApart_ofList tellsApart_orderToJson orders
  · exact tellsApart_ofOption tellsApart_ofUnsigned (by rintro _ ⟨⟩) offset
  · exact tellsApart_ofOption tellsApart_ofUnsigned (by rintro _ ⟨⟩) limit
  · exact tellsApart_ofOption tellsApart_aggregate (by rintro _ ⟨⟩) aggregate

namespace Scalar

theorem toTree_float_cases (value : Double) :
    (Json.float value).toTree = .null ∧ value.numeral? = none ∨
      ∃ numeral, (Json.float value).toTree = .number numeral ∧ value.numeral? = some numeral := by
  rw [Json.toTree]
  cases value.numeral? with
  | none => exact Or.inl ⟨rfl, rfl⟩
  | some numeral => exact Or.inr ⟨numeral, rfl, rfl⟩

/-- No other scalar is written like a double: integers lack the point that a double keeps. -/
theorem isFloat_of_writtenAlike {scalar : Scalar} {value : Double}
    (alike : scalar.WrittenAlike (.float value)) : scalar.isFloat = true := by
  unfold WrittenAlike at alike
  cases scalar with
  | float other => rfl
  | int other =>
      rcases toTree_float_cases value with ⟨isNull, -⟩ | ⟨numeral, isNumber, isNumeral⟩
      · exact nomatch alike.trans isNull
      · have whole := Double.isWhole_of_numeral? isNumeral
        rw [← Tree.number.inj (alike.trans isNumber), Numeral.isWhole_ofInt] at whole
        exact absurd whole (by decide)
  | bool other =>
      rcases toTree_float_cases value with ⟨isNull, -⟩ | ⟨numeral, isNumber, -⟩
      · exact nomatch alike.trans isNull
      · exact nomatch alike.trans isNumber
  | text other =>
      rcases toTree_float_cases value with ⟨isNull, -⟩ | ⟨numeral, isNumber, -⟩
      · exact nomatch alike.trans isNull
      · exact nomatch alike.trans isNumber

theorem eq_or_null_of_toTree_float {left right : Double}
    (same : (Json.float left).toTree = (Json.float right).toTree) :
    left = right ∨ left.numeral? = none ∧ right.numeral? = none := by
  rcases toTree_float_cases left with ⟨leftNull, leftNone⟩ | ⟨numeral, leftNumber, leftSome⟩
  · rcases toTree_float_cases right with ⟨-, rightNone⟩ | ⟨numeral, rightNumber, -⟩
    · exact Or.inr ⟨leftNone, rightNone⟩
    · rw [leftNull, rightNumber] at same
      cases same
  · rcases toTree_float_cases right with ⟨rightNull, -⟩ | ⟨other, rightNumber, rightSome⟩
    · rw [leftNumber, rightNull] at same
      cases same
    · rw [leftNumber, rightNumber] at same
      obtain rfl := Tree.number.inj same
      exact Or.inl (Double.numeral?_inj leftSome rightSome)

/-- Scalars that are written alike are the same, unless both are written as `null`. -/
theorem eq_or_null_of_writtenAlike {left right : Scalar} (alike : left.WrittenAlike right) :
    left = right ∨ ∃ leftValue rightValue, left = .float leftValue ∧ right = .float rightValue ∧
      leftValue.numeral? = none ∧ rightValue.numeral? = none := by
  have floatTogether : left.isFloat = right.isFloat := by
    cases left with
    | float value => exact (isFloat_of_writtenAlike alike.symm).symm
    | _ =>
        cases right with
        | float value => exact isFloat_of_writtenAlike alike
        | _ => rfl
  cases isFloat : left.isFloat with
  | false =>
      have leftRead := ofTree?_toTree isFloat
      have rightRead := ofTree?_toTree (floatTogether.symm.trans isFloat)
      rw [alike, rightRead] at leftRead
      exact Or.inl (Option.some.inj leftRead).symm
  | true =>
      cases left with
      | float leftValue =>
          cases right with
          | float rightValue =>
              rcases eq_or_null_of_toTree_float alike with rfl | ⟨leftNone, rightNone⟩
              · exact Or.inl rfl
              · exact Or.inr ⟨leftValue, rightValue, rfl, rfl, leftNone, rightNone⟩
          | _ => cases floatTogether
      | _ => cases isFloat

theorem eq_of_writtenAlike {left right : Scalar} (notFloat : left.isFloat = false)
    (alike : left.WrittenAlike right) : left = right := by
  rcases eq_or_null_of_writtenAlike alike with same | ⟨leftValue, -, rfl, -⟩
  · exact same
  · cases notFloat

end Scalar

section Finer

variable {same finer : Scalar → Scalar → Prop}

theorem forall₂_imp_of_mem {left right : List Scalar}
    (holds : ∀ leftScalar ∈ left, ∀ rightScalar ∈ right,
      same leftScalar rightScalar → finer leftScalar rightScalar)
    (values : List.Forall₂ same left right) : List.Forall₂ finer left right := by
  rw [List.forall₂_iff_zip] at values ⊢
  refine ⟨values.1, ?_⟩
  intro leftScalar rightScalar inZip
  have mem := List.of_mem_zip inZip
  exact holds leftScalar mem.1 rightScalar mem.2 (values.2 inZip)

mutual

/-- Agreement carries over to a relation that holds between the scalars as well. -/
theorem Condition.Agrees.imp : ∀ {left right : Condition},
    (∀ leftScalar ∈ left.scalars, ∀ rightScalar ∈ right.scalars,
      same leftScalar rightScalar → finer leftScalar rightScalar) →
    left.Agrees same right → left.Agrees finer right
  | _, _, holds, .basic value =>
      .basic (holds _ List.mem_cons_self _ List.mem_cons_self value)
  | _, _, holds, .oneOf values => .oneOf (forall₂_imp_of_mem holds values)
  | _, _, holds, .noneOf values => .noneOf (forall₂_imp_of_mem holds values)
  | _, _, _, .null => .null
  | _, _, _, .notNull => .notNull
  | _, _, holds, .between low high =>
      .between (holds _ List.mem_cons_self _ List.mem_cons_self low)
        (holds _ (List.mem_cons_of_mem _ List.mem_cons_self) _
          (List.mem_cons_of_mem _ List.mem_cons_self) high)
  | .nested ⟨_, _, _, _, _, _, _, _, _, _, _, _⟩ _, .nested ⟨_, _, _, _, _, _, _, _, _, _, _, _⟩ _,
      holds, .nested conditions => .nested (agree_imp holds conditions)

theorem agree_imp : ∀ {left right : List Condition},
    (∀ leftScalar ∈ conditionScalars left, ∀ rightScalar ∈ conditionScalars right,
      same leftScalar rightScalar → finer leftScalar rightScalar) →
    List.Forall₂ (Condition.Agrees same) left right →
    List.Forall₂ (Condition.Agrees finer) left right
  | _, _, _, .nil => .nil
  | _, _, holds, .cons condition rest =>
      .cons
        (condition.imp fun _ leftMem _ rightMem =>
          holds _ (List.mem_append_left _ leftMem) _ (List.mem_append_left _ rightMem))
        (agree_imp
          (fun _ leftMem _ rightMem =>
            holds _ (List.mem_append_right _ leftMem) _ (List.mem_append_right _ rightMem))
          rest)

end

end Finer

namespace Builder

/--
Another builder is digested from the same text as one without floats just when both have the same
keyed content. Neither the collection, the cursor options and the flags nor anything but the
conditions of a group, at whatever depth, have a part in the key.
-/
theorem cacheText_eq_iff (left right : Builder) :
    (left.LacksFloats → (left.cacheText = right.cacheText ↔ left.SameContent Eq right)) ∧
      ∀ (change : Builder → Builder) (collection : String) (distinct : Bool)
        (timeout : Option UInt64) (hint : Option String) (paginating : Bool),
        Builder.cacheKey
            { left with
              conditions := regroupAll change left.conditions
              collection, distinct, timeout, hint, paginating } =
          left.cacheKey := by
  constructor
  · intro lacksFloats
    constructor
    · intro sameText
      have content := sameContent_of_cacheText sameText
      refine { content with conditions := agree_imp ?_ content.conditions }
      intro leftScalar leftMem rightScalar _ alike
      exact Scalar.eq_of_writtenAlike (lacksFloats leftScalar leftMem) alike
    · exact cacheText_eq_of_sameContent
  · intro change collection distinct timeout hint paginating
    refine congrArg Md5.hex (cacheText_eq_of_sameContent ?_)
    exact ⟨agree_regroupAll change left.conditions, rfl, rfl, rfl, rfl, rfl, rfl⟩

/-- A search by name in a collection, with a group that was built against another one. -/
def groupedSearch (collection groupCollection name : String) : Builder :=
  { new collection with
    conditions := [.basic "age" ">" (.int 17) .and,
      .nested
        { new groupCollection with
          conditions := [.null "email" .and, .basic "name" "=" (.text name) .or] }
        .and] }

theorem cacheText_eq_iff_groupedSearch :
    (groupedSearch "users" "users" "ann").LacksFloats ∧
      (groupedSearch "users" "users" "ann").cacheText =
        (groupedSearch "posts" "tags" "ann").cacheText ∧
      (groupedSearch "users" "users" "ann").cacheText ≠
        (groupedSearch "users" "users" "bob").cacheText := by
  have lacksFloats : (groupedSearch "users" "users" "ann").LacksFloats := by
    simp [LacksFloats, groupedSearch, conditionScalars, Condition.scalars, Scalar.isFloat, new]
  refine ⟨lacksFloats, ?_, ?_⟩
  · refine ((cacheText_eq_iff _ _).1 lacksFloats).mpr ?_
    exact ⟨.cons (.basic rfl) (.cons (.nested (.cons .null (.cons (.basic rfl) .nil))) .nil),
      rfl, rfl, rfl, rfl, rfl, rfl⟩
  · intro sameText
    have content := ((cacheText_eq_iff _ _).1 lacksFloats).mp sameText
    rcases content.conditions with _ | ⟨-, _ | ⟨group, -⟩⟩
    rcases group with _ | _ | _ | _ | _ | _ | ⟨_ | ⟨-, _ | ⟨name, -⟩⟩⟩
    cases name with
    | basic sameName => exact absurd sameName (by decide)

end Builder

end RestQuery
