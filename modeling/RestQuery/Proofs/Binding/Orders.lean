import RestQuery.Proofs.Binding.OntoBuilder

/-!
# Orderings of a builder

A builder keeps one direction for each column. `mergedOrders` is what becomes of the orderings of
a query: a column stands where it was first named, with the direction that was given last, as a
sign. Merging is all that recording does, and recording what was merged changes nothing more.
-/

namespace RestQuery

open Builder (orderColumn)

/-- Orderings merged by column: the first place and the last direction count. -/
def mergedOrders (orders : List SortKey) : List SortKey :=
  (orders.map (orderColumn ·.field)).eraseDups.filterMap fun column =>
    (orders.filter (orderColumn ·.field = column)).getLast?.map fun order =>
      ⟨column, .ofSortOrder order.direction.resolve⟩

theorem putOrder_eq_upsert (column : String) (order : SortOrder)
    (orders : List (String × SortOrder)) :
    putOrder column order orders = upsert column (fun _ => order) order orders := by
  induction orders with
  | nil => rfl
  | cons entry rest ih => rw [putOrder, upsert, ih]

/-- What a builder records of orderings: distinct columns, each with its last direction. -/
theorem recordOrders_nil (orders : List SortKey) :
    recordOrders orders [] =
      (orders.map (orderColumn ·.field)).eraseDups.map fun column =>
        (column,
          (givenFor column
            (orders.map fun order => (orderColumn order.field, order.direction.resolve))).getLastD
              .ascending) := by
  have stored := foldl_upsert_last .ascending
    (orders.map fun order => (orderColumn order.field, order.direction.resolve))
  rw [List.foldl_map, List.map_map] at stored
  simp only [recordOrders, putOrder_eq_upsert]
  exact stored

theorem map_recordOrders (orders : List SortKey) :
    (recordOrders orders []).map (fun order => ⟨order.1, .ofSortOrder order.2⟩) =
      mergedOrders orders := by
  rw [recordOrders_nil, mergedOrders, List.map_map, ← List.filterMap_eq_map]
  apply List.filterMap_congr
  intro column columnMem
  have given : givenFor column
      (orders.map fun order => (orderColumn order.field, order.direction.resolve)) =
      (orders.filter (orderColumn ·.field = column)).map (·.direction.resolve) := by
    rw [givenFor, List.filter_map, List.map_map]
    rfl
  have someGiven : orders.filter (orderColumn ·.field = column) ≠ [] := by
    rcases List.mem_map.mp (List.mem_eraseDups.mp columnMem) with ⟨order, orderMem, sameColumn⟩
    exact List.ne_nil_of_mem (List.mem_filter.mpr ⟨orderMem, by simpa using sameColumn⟩)
  have isLast := List.getLast?_eq_some_getLast someGiven
  simp only [Function.comp_apply, given, List.getLastD_eq_getLast?, List.getLast?_map, isLast,
    Option.map_some, Option.getD_some]

theorem resolve_ofSortOrder (order : SortOrder) :
    (Direction.ofSortOrder order).resolve = order := by
  cases order <;> decide

theorem orderColumn_orderColumn (column : String) :
    orderColumn (orderColumn column) = orderColumn column := by
  by_cases natural : column = "natural"
  · simp [orderColumn, natural]
  · simp [orderColumn, natural]

theorem recordOrders_concat (orders : List SortKey) (order : SortKey)
    (present : List (String × SortOrder)) :
    recordOrders (orders ++ [order]) present =
      putOrder (orderColumn order.field) order.direction.resolve (recordOrders orders present) := by
  simp [recordOrders]

theorem putOrder_of_notMem {column : String} {orders : List (String × SortOrder)}
    (fresh : column ∉ orders.map Prod.fst) (order : SortOrder) :
    putOrder column order orders = orders ++ [(column, order)] := by
  induction orders with
  | nil => rfl
  | cons entry rest ih =>
      simp only [List.map_cons, List.mem_cons, not_or] at fresh
      rw [putOrder, if_neg (Ne.symm fresh.1), ih fresh.2]
      rfl

theorem recordOrders_of_nodup {orders : List (String × SortOrder)}
    (nodup : (orders.map Prod.fst).Nodup)
    (columns : ∀ order ∈ orders, orderColumn order.1 = order.1) :
    recordOrders (orders.map fun order => ⟨order.1, .ofSortOrder order.2⟩) [] = orders := by
  induction orders using List.reverseRecOn with
  | nil => rfl
  | append_singleton earlier order ih =>
      rw [List.map_append, List.nodup_append] at nodup
      have fresh : order.1 ∉ earlier.map Prod.fst := fun known =>
        nodup.2.2 order.1 known order.1 (by simp) rfl
      have recorded := ih nodup.1 fun other otherMem =>
        columns other (List.mem_append_left _ otherMem)
      have column : orderColumn order.1 = order.1 := columns order (by simp)
      rw [List.map_append, List.map_singleton, recordOrders_concat, recorded, column,
        resolve_ofSortOrder]
      exact putOrder_of_notMem fresh order.2

/-- Recording merged orderings gives what recording them before the merge gives. -/
theorem recordOrders_mergedOrders (orders : List SortKey) :
    recordOrders (mergedOrders orders) [] = recordOrders orders [] := by
  rw [← map_recordOrders]
  apply recordOrders_of_nodup
  · rw [recordOrders_nil, List.map_map]
    simpa [Function.comp_def] using nodup_eraseDups (orders.map (orderColumn ·.field))
  · intro order orderMem
    rw [recordOrders_nil] at orderMem
    rcases List.mem_map.mp orderMem with ⟨column, columnMem, rfl⟩
    rcases List.mem_map.mp (List.mem_eraseDups.mp columnMem) with ⟨given, -, rfl⟩
    exact orderColumn_orderColumn given.field

end RestQuery
