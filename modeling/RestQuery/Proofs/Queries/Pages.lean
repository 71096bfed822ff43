import Mathlib.Logic.ExistsUnique
import RestQuery.Builder

/-!
# Pages

Pages are counted from one, and each asks for the same number of rows. What stands before a page is
kept in 64 bits: a page that would start behind the greatest number starts there instead. Such pages
overlap, but only from the greatest number on. A row below it is on one page and on no other, which
is the one with as many full pages before it as fit before the row (`covers_forPage_iff_div`).
-/

namespace RestQuery.Builder

/-- The row is one of those that are asked for, counted from zero. -/
def Covers (builder : Builder) (row : Nat) : Prop :=
  ∃ offset limit : UInt64, builder.offset = some offset ∧ builder.limit = some limit ∧
    offset.toNat ≤ row ∧ row < offset.toNat + limit.toNat

theorem toNat_pageStart (page perPage : UInt64) :
    (pageStart page perPage).toNat = min ((page.toNat - 1) * perPage.toNat) greatest := by
  apply UInt64.toNat_ofNat_of_lt'
  exact Nat.lt_of_le_of_lt (Nat.min_le_right _ _) (by decide)

theorem covers_forPage_iff (builder : Builder) (page perPage : UInt64) (row : Nat) :
    (builder.forPage page perPage).Covers row ↔
      (pageStart page perPage).toNat ≤ row ∧
        row < (pageStart page perPage).toNat + perPage.toNat := by
  constructor
  · rintro ⟨offset, limit, isOffset, isLimit, within⟩
    cases isOffset
    cases isLimit
    exact within
  · intro within
    exact ⟨_, _, rfl, rfl, within⟩

/-- The page of a row below the greatest number comes after as many pages as fit before the row. -/
theorem covers_forPage_iff_div (builder : Builder) {page perPage : UInt64} {row : Nat}
    (counted : 1 ≤ page.toNat) (positive : 0 < perPage.toNat) (small : row < greatest) :
    (builder.forPage page perPage).Covers row ↔ page.toNat = row / perPage.toNat + 1 := by
  have isQuotient : row / perPage.toNat = page.toNat - 1 ↔
      (page.toNat - 1) * perPage.toNat ≤ row ∧
        row < (page.toNat - 1) * perPage.toNat + perPage.toNat := by
    rw [Nat.div_eq_iff positive]
    omega
  rw [covers_forPage_iff, toNat_pageStart]
  omega

/-- The page of a row below the greatest number has a number of 64 bits, however short pages are. -/
theorem exists_toNat_eq_div {row : Nat} (small : row < greatest) (perPage : UInt64) :
    ∃ page : UInt64, page.toNat = row / perPage.toNat + 1 := by
  refine ⟨UInt64.ofNat (row / perPage.toNat + 1), UInt64.toNat_ofNat_of_lt' ?_⟩
  have quotient : row / perPage.toNat ≤ row := Nat.div_le_self _ _
  exact Nat.lt_of_le_of_lt (Nat.succ_le_succ quotient) (Nat.succ_lt_succ small)

/-- Page zero is the first page. -/
theorem forPage_zero (builder : Builder) (perPage : UInt64) :
    builder.forPage 0 perPage = builder.forPage 1 perPage := rfl

theorem intCast_toNat_pageStart {page : UInt64} (counted : 1 ≤ page.toNat) (perPage : UInt64) :
    ((pageStart page perPage).toNat : Int) =
      min (((page.toNat : Int) - 1) * perPage.toNat) greatest := by
  have fullPages : (((page.toNat - 1) * perPage.toNat : Nat) : Int) =
      ((page.toNat : Int) - 1) * perPage.toNat := by
    rw [Int.natCast_mul, Int.natCast_sub counted]
    rfl
  rw [toNat_pageStart, ← fullPages]
  omega

/--
Pages partition the rows: one below the greatest number of 64 bits is on exactly one page. Page zero
skips and takes what the first page does. Any page from the first on skips the full pages before it,
or the greatest number of rows where these are more.
-/
theorem existsUnique_page (builder : Builder) (perPage : UInt64) :
    (0 < perPage → ∀ row < greatest,
        ∃! page : UInt64, 1 ≤ page ∧ (builder.forPage page perPage).Covers row) ∧
      ((builder.forPage 0 perPage).offset = (builder.forPage 1 perPage).offset ∧
        (builder.forPage 0 perPage).limit = (builder.forPage 1 perPage).limit) ∧
      ∀ page : UInt64, 1 ≤ page → ∃ offset : UInt64,
        (builder.forPage page perPage).offset = some offset ∧
          (builder.forPage page perPage).limit = some perPage ∧
          (offset.toNat : Int) = min (((page.toNat : Int) - 1) * perPage.toNat) greatest := by
  refine ⟨?_, ?_, ?_⟩
  · intro positive row small
    have perPagePositive : 0 < perPage.toNat := UInt64.lt_iff_toNat_lt.mp positive
    rcases exists_toNat_eq_div small perPage with ⟨page, number⟩
    have counted : 1 ≤ page.toNat := by
      rw [number]
      exact Nat.succ_pos _
    refine ⟨page, ⟨UInt64.le_iff_toNat_le.mpr counted, ?_⟩, ?_⟩
    · exact (covers_forPage_iff_div builder counted perPagePositive small).mpr number
    · rintro other ⟨otherCounted, covers⟩
      have otherNumber := (covers_forPage_iff_div builder
        (UInt64.le_iff_toNat_le.mp otherCounted) perPagePositive small).mp covers
      exact UInt64.toNat_inj.mp (otherNumber.trans number.symm)
  · rw [forPage_zero]
    exact ⟨rfl, rfl⟩
  · intro page counted
    exact ⟨pageStart page perPage, rfl, rfl,
      intCast_toNat_pageStart (UInt64.le_iff_toNat_le.mp counted) perPage⟩

/-- The last row below the greatest number, on a page that is not cut off. The page behind it is. -/
theorem existsUnique_page_lastRow :
    let perTen (page : UInt64) := (new "users").forPage page 10
    (0 : UInt64) < 10 ∧ greatest - 1 < greatest ∧
      (∃! page : UInt64, 1 ≤ page ∧ (perTen page).Covers (greatest - 1)) ∧
      (perTen 1844674407370955162).Covers (greatest - 1) ∧
      (1 : UInt64) ≤ 1844674407370955163 ∧
      ∃ offset : UInt64, (perTen 1844674407370955163).offset = some offset ∧
        offset.toNat = greatest := by
  intro perTen
  have positive : (0 : UInt64) < 10 := by decide
  have small : greatest - 1 < greatest := by decide
  have counted : (1 : UInt64) ≤ 1844674407370955163 := by decide
  rcases existsUnique_page (new "users") 10 with ⟨isOnOne, -, starts⟩
  rcases starts 1844674407370955163 counted with ⟨offset, isOffset, -, startsAt⟩
  refine ⟨positive, small, isOnOne positive _ small, ?_, counted, offset, isOffset, ?_⟩
  · exact (covers_forPage_iff_div _ (by decide) (by decide) small).mpr (by decide)
  · exact Int.ofNat.inj (startsAt.trans (by decide))

end RestQuery.Builder
