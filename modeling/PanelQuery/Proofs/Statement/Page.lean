import Mathlib.Data.List.Basic
import Mathlib.Order.CompletePartialOrder
import Mathlib.Order.Interval.Set.Disjoint
import PanelQuery.Proofs.Sql.Hole
import PanelQuery.Statement.Page

/-! # The pages of a list

A page has the rows from its offset on, as many as it is long. Pages of one size, one after the
other, are cut only at the limit of the list, so together they are the rows up to the limit, each
once. Offset, size and limit are 64-bit words: the end of a page stops at the largest of them, and
what is left of the limit is taken only of offsets that do not exceed it. -/

namespace PanelQuery

/-! ## Words -/

namespace Decimal

/-- The sum of two words, or the largest word in place of one that is larger. -/
def saturatingAdd (a b : UInt64) : UInt64 := .ofNat (min (a.toNat + b.toNat) uint64Max)

/-- The difference of two words, unless it is below zero. -/
def checkedSub? (a b : UInt64) : Option UInt64 := if b ≤ a then some (a - b) else none

theorem toNat_le_uint64Max (a : UInt64) : a.toNat ≤ uint64Max := by
  have ha := a.toNat_lt
  rw [uint64Max]
  omega

theorem toNat_ofNat {n : Nat} (h : n ≤ uint64Max) : (UInt64.ofNat n).toNat = n :=
  UInt64.toNat_ofNat_of_lt' (Nat.lt_succ_of_le h)

theorem toNat_saturatingAdd (a b : UInt64) :
    (saturatingAdd a b).toNat = min (a.toNat + b.toNat) uint64Max :=
  toNat_ofNat (min_le_right _ _)

theorem checkedSub?_eq {a b : UInt64} (h : b.toNat ≤ a.toNat) : checkedSub? a b = some (a - b) :=
  if_pos (UInt64.le_iff_toNat_le.mpr h)

end Decimal

open Decimal (uint64Max)

namespace Page

/-- The rows of a page, computed in words. -/
def rowsWord? (limit offset pageSize : UInt64) : Option UInt64 :=
  if 0 < limit ∧ limit < Decimal.saturatingAdd offset pageSize then Decimal.checkedSub? limit offset
  else some pageSize

/-- Words are enough, and no difference is below zero, if the offset does not exceed a limit. -/
theorem rowsWord?_eq {limit offset pageSize : UInt64} (h : 0 < limit → offset ≤ limit) :
    (rowsWord? limit offset pageSize).map UInt64.toNat =
      some (rows limit.toNat offset.toNat pageSize.toNat) := by
  have hcut : (0 < limit ∧ limit < Decimal.saturatingAdd offset pageSize) ↔
      0 < limit.toNat ∧ limit.toNat < min (offset.toNat + pageSize.toNat) uint64Max := by
    rw [UInt64.lt_iff_toNat_lt, UInt64.lt_iff_toNat_lt, Decimal.toNat_saturatingAdd]
    rfl
  unfold rowsWord? rows
  simp only [hcut]
  split
  · next hpos =>
    have hle := UInt64.le_iff_toNat_le.mp (h (UInt64.lt_iff_toNat_lt.mpr hpos.1))
    rw [Decimal.checkedSub?_eq hle, Option.map_some, UInt64.toNat_sub_of_le _ _
      (UInt64.le_iff_toNat_le.mpr hle)]
  · rfl

/-- A page has the rows of its size, or those that are left of the limit. -/
theorem rows_eq_min {limit offset size : Nat} (hpos : 0 < limit) (hmax : limit < uint64Max)
    (hoffset : offset ≤ limit) : rows limit offset size = min size (limit - offset) := by
  unfold rows
  split <;> omega

/-! ## Windows -/

/-- The position of the first row. Without an offset a statement returns rows from the first on. -/
def start (p : Page) : Nat := p.offset.getD 0

/-- The position after the last row. -/
def stop (p : Page) : Nat := p.start + p.limit

/-- The positions of the rows of a page. -/
def window (p : Page) : Set Nat := Set.Ico p.start p.stop

/-- The rows of a page out of all rows that a query has in its order. -/
def select {α : Type} (p : Page) (all : List α) : List α := (all.drop p.start).take p.limit

theorem start_le_stop (p : Page) : p.start ≤ p.stop := Nat.le_add_right _ _

/-- The pages go from one position to another, each from where the one before it stops. -/
def Tile (first : Nat) : List Page → Nat → Prop
  | [], last => first = last
  | p :: pages, last => p.start = first ∧ Tile p.stop pages last

namespace Tile

variable {first last : Nat} {pages : List Page}

theorem snoc {p : Page} (h : Tile first pages p.start) : Tile first (pages ++ [p]) p.stop := by
  induction pages generalizing first with
  | nil => exact ⟨h.symm, rfl⟩
  | cons q pages ih => exact ⟨h.1, ih h.2⟩

theorem le (h : Tile first pages last) : first ≤ last := by
  induction pages generalizing first with
  | nil => exact h.le
  | cons p pages ih => exact h.1 ▸ p.start_le_stop.trans (ih h.2)

/-- The windows cover the positions between the two ends. -/
theorem exists_mem_window (h : Tile first pages last) (row : Nat) :
    (∃ p ∈ pages, row ∈ p.window) ↔ first ≤ row ∧ row < last := by
  induction pages generalizing first with
  | nil =>
    have he : first = last := h
    simp only [List.not_mem_nil, false_and, exists_false, false_iff]
    omega
  | cons p pages ih =>
    obtain ⟨rfl, hrest⟩ := h
    have hp := p.start_le_stop
    have hlast := hrest.le
    rw [List.exists_mem_cons_iff, ih hrest, window, Set.mem_Ico]
    omega

/-- No position is in two windows. -/
theorem pairwise_disjoint (h : Tile first pages last) :
    pages.Pairwise fun a b => Disjoint a.window b.window := by
  induction pages generalizing first with
  | nil => exact .nil
  | cons p pages ih =>
    refine .cons (fun b hb => Set.disjoint_left.mpr fun row hp hrow => ?_) (ih h.2)
    have hstop := ((exists_mem_window h.2 row).mp ⟨b, hb, hrow⟩).1
    exact absurd hp.2 (Nat.not_lt.mpr hstop)

/-- The rows of the pages, one page after the other, are the rows between the two ends. -/
theorem flatMap_select {α : Type} (h : Tile first pages last) (all : List α) :
    pages.flatMap (·.select all) = (all.drop first).take (last - first) := by
  induction pages generalizing first with
  | nil =>
    have he : first = last := h
    rw [he, Nat.sub_self, List.take_zero, List.flatMap_nil]
  | cons p pages ih =>
    obtain ⟨rfl, hrest⟩ := h
    have hsplit : last - p.start = p.limit + (last - p.stop) := by
      have hlast := hrest.le
      unfold stop at *
      omega
    rw [List.flatMap_cons, ih hrest, select, hsplit, List.take_add, List.drop_drop]
    rfl

end Tile

end Page

/-! ## The pages of a query -/

namespace Query

/-- The limit of a list; none counts as the default. -/
def overallLimit (q : Query) : Nat :=
  if q.limit.toNat = 0 then defaultListLimit else q.limit.toNat

/-- The page of the query that starts after `k` pages. -/
def nthPage (q : Query) (k : Nat) : Except Fault Page :=
  Page.ofQuery { q with offset := .ofNat (k * q.pageSize.toNat) }

variable {q : Query}

theorem ofQuery_eq (hsize : q.pageSize ≠ 0) : Page.ofQuery q =
    if q.overallLimit < q.offset.toNat then .error .pageBeyondLimit
    else .ok ⟨Page.rows q.limit.toNat q.offset.toNat q.pageSize.toNat,
      if Page.isByTime q.orderBy then none else some q.offset.toNat⟩ :=
  if_neg fun h => hsize (UInt64.toNat_inj.mp h)

/-- A page is refused if and only if it starts after the limit. -/
theorem page_error_iff (hsize : q.pageSize ≠ 0) (fault : Fault) :
    Page.ofQuery q = .error fault ↔
      fault = .pageBeyondLimit ∧ q.overallLimit < q.offset.toNat := by
  rw [ofQuery_eq hsize]
  split
  · next h => exact ⟨fun he => ⟨(Except.error.inj he).symm, h⟩, fun he => he.1 ▸ rfl⟩
  · next h => exact ⟨nofun, fun he => absurd he.2 h⟩

/-- The page of a query whose offset is within the limit. -/
theorem page_eq (hsize : q.pageSize ≠ 0) (hoffset : q.offset.toNat ≤ q.overallLimit) :
    Page.ofQuery q = .ok ⟨Page.rows q.limit.toNat q.offset.toNat q.pageSize.toNat,
      if Page.isByTime q.orderBy then none else some q.offset.toNat⟩ := by
  rw [ofQuery_eq hsize, if_neg (Nat.not_lt.mpr hoffset)]

/-- The rows of a page that is not refused come out of words, without a difference below zero. -/
theorem page_words (hsize : q.pageSize ≠ 0) {p : Page} (h : Page.ofQuery q = .ok p) :
    (Page.rowsWord? q.limit q.offset q.pageSize).map UInt64.toNat = some p.limit := by
  have hoffset : q.offset.toNat ≤ q.overallLimit := by
    by_contra hlt
    rw [(page_error_iff hsize .pageBeyondLimit).mpr ⟨rfl, Nat.not_le.mp hlt⟩] at h
    cases h
  rw [page_eq hsize hoffset] at h
  cases h
  refine Page.rowsWord?_eq fun hpos => UInt64.le_iff_toNat_le.mpr ?_
  have hlimit : q.limit.toNat ≠ 0 := Nat.ne_of_gt (UInt64.lt_iff_toNat_lt.mp hpos)
  rwa [overallLimit, if_neg hlimit] at hoffset

section

variable (hsize : q.pageSize ≠ 0) (hpos : 0 < q.limit.toNat) (hmax : q.limit.toNat < uint64Max)

include hsize hpos hmax

theorem page_eq_min (hoffset : q.offset.toNat ≤ q.limit.toNat) :
    Page.ofQuery q = .ok ⟨min q.pageSize.toNat (q.limit.toNat - q.offset.toNat),
      if Page.isByTime q.orderBy then none else some q.offset.toNat⟩ := by
  have hoverall : q.overallLimit = q.limit.toNat := if_neg (Nat.ne_of_gt hpos)
  rw [page_eq hsize (hoverall ▸ hoffset), Page.rows_eq_min hpos hmax hoffset]

variable (hkeeps : Page.isByTime q.orderBy = false)

include hkeeps

theorem nthPage_eq {k : Nat} (hk : k * q.pageSize.toNat ≤ q.limit.toNat) :
    q.nthPage k = .ok ⟨min q.pageSize.toNat (q.limit.toNat - k * q.pageSize.toNat),
      some (k * q.pageSize.toNat)⟩ := by
  have hword : (UInt64.ofNat (k * q.pageSize.toNat)).toNat = k * q.pageSize.toNat :=
    Decimal.toNat_ofNat (hk.trans (Decimal.toNat_le_uint64Max _))
  have hpage := page_eq_min (q := { q with offset := .ofNat (k * q.pageSize.toNat) }) hsize hpos
    hmax (by rw [hword]; exact hk)
  rw [nthPage, hpage, hword, hkeeps]
  rfl

/-- Pages that start within the limit go from the first row to where the next one starts, or to the
limit. One page more goes on where the pages before it stop. -/
theorem exists_pages {n : Nat} (hn : (n - 1) * q.pageSize.toNat ≤ q.limit.toNat) :
    ∃ pages, (List.range n).mapM q.nthPage = .ok pages ∧
      Page.Tile 0 pages (min (n * q.pageSize.toNat) q.limit.toNat) := by
  induction n with
  | zero => exact ⟨[], rfl, by simp [Page.Tile]⟩
  | succ n ih =>
    rw [Nat.add_sub_cancel] at hn
    obtain ⟨pages, hpages, htile⟩ := ih ((Nat.mul_le_mul_right _ (Nat.sub_le n 1)).trans hn)
    rw [min_eq_left hn] at htile
    refine ⟨pages ++ [⟨min q.pageSize.toNat (q.limit.toNat - n * q.pageSize.toNat),
      some (n * q.pageSize.toNat)⟩], ?_, ?_⟩
    · rw [List.range_succ, List.mapM_append, hpages, List.mapM_cons,
        nthPage_eq hsize hpos hmax hkeeps hn]
      rfl
    · have hstop : n * q.pageSize.toNat +
          min q.pageSize.toNat (q.limit.toNat - n * q.pageSize.toNat) =
            min ((n + 1) * q.pageSize.toNat) q.limit.toNat := by
        rw [Nat.succ_mul]
        omega
      exact hstop ▸ Page.Tile.snoc htile

end

/-- **Pages tile the limit.** A page is refused exactly if its offset is greater than the limit of
the list; otherwise its rows are computed in words without going below zero. They are as many as the
page size says, or as are left of the limit. In an order that keeps the offset, the pages from
offset to offset go from the first row to the limit without gap: no row is in two of them, every row
up to the limit is in one, and read one after the other they are the first rows of the query. -/
theorem pages_tile (hsize : q.pageSize ≠ 0) :
    (∀ fault, Page.ofQuery q = .error fault ↔
      fault = .pageBeyondLimit ∧ q.overallLimit < q.offset.toNat) ∧
    Fault.pageBeyondLimit.toError = .invalidRequest "max limit exceeded" ∧
    (∀ p, Page.ofQuery q = .ok p →
      (Page.rowsWord? q.limit q.offset q.pageSize).map UInt64.toNat = some p.limit) ∧
    (0 < q.limit.toNat → q.limit.toNat < uint64Max →
      (q.offset.toNat ≤ q.limit.toNat → ∃ p, Page.ofQuery q = .ok p ∧
        p.limit = min q.pageSize.toNat (q.limit.toNat - q.offset.toNat) ∧
        p.sql.text = " LIMIT " ++ toString (p.limit : Int) ++
          if Page.isByTime q.orderBy then "" else " OFFSET " ++ toString (q.offset.toNat : Int)) ∧
      (Page.isByTime q.orderBy = false → ∃ pages,
        (List.range (q.limit.toNat / q.pageSize.toNat + 1)).mapM q.nthPage = .ok pages ∧
        Page.Tile 0 pages q.limit.toNat ∧
        pages.Pairwise (fun a b => Disjoint a.window b.window) ∧
        (∀ row, (∃ p ∈ pages, row ∈ p.window) ↔ row < q.limit.toNat) ∧
        ∀ {α : Type} (all : List α),
          pages.flatMap (·.select all) = all.take q.limit.toNat)) := by
  refine ⟨page_error_iff hsize, rfl, fun p => page_words hsize, fun hpos hmax => ⟨?_, ?_⟩⟩
  · intro hoffset
    refine ⟨_, page_eq_min hsize hpos hmax hoffset, rfl, ?_⟩
    rw [Page.sql]
    split <;>
      simp [Sql.text_append, Sql.text_raw, Sql.text_int_cons, Sql.text_nil, String.append_assoc]
  · intro hkeeps
    have hlast : q.limit.toNat / q.pageSize.toNat * q.pageSize.toNat ≤ q.limit.toNat :=
      Nat.div_mul_le_self _ _
    obtain ⟨pages, hpages, htile⟩ := exists_pages hsize hpos hmax hkeeps
      (n := q.limit.toNat / q.pageSize.toNat + 1) (by rwa [Nat.add_sub_cancel])
    have hsize : 0 < q.pageSize.toNat :=
      Nat.pos_of_ne_zero fun h => hsize (UInt64.toNat_inj.mp h)
    have hover : q.limit.toNat < (q.limit.toNat / q.pageSize.toNat + 1) * q.pageSize.toNat :=
      Nat.lt_mul_of_div_lt (Nat.lt_succ_self _) hsize
    rw [min_eq_right hover.le] at htile
    refine ⟨pages, hpages, htile, htile.pairwise_disjoint, fun row => ?_, fun all => ?_⟩
    · rw [htile.exists_mem_window]
      exact and_iff_right (Nat.zero_le row)
    · rw [htile.flatMap_select, List.drop_zero, Nat.sub_zero]

/-- A list of almost all words, in two pages. -/
def halves : Query where
  signal := .logs
  orderBy := [{ column := "method", order := "ASC" }]
  limit := 18446744073709551614
  pageSize := 9223372036854775808

/-- The second page is cut by two rows. -/
theorem pages_tile_halves : halves.pageSize ≠ 0 ∧ 0 < halves.limit.toNat ∧
    halves.limit.toNat < uint64Max ∧ Page.isByTime halves.orderBy = false ∧
    ∃ pages, (List.range 2).mapM halves.nthPage = .ok pages ∧
      pages.map Page.limit = [9223372036854775808, 9223372036854775806] ∧
      Page.Tile 0 pages 18446744073709551614 ∧
      pages.Pairwise fun a b => Disjoint a.window b.window := by
  have hsize : halves.pageSize ≠ 0 := by decide
  have hpos : 0 < halves.limit.toNat := by decide
  have hmax : halves.limit.toNat < uint64Max := by decide
  obtain ⟨-, -, -, hpages⟩ := pages_tile hsize
  obtain ⟨pages, hrun, htile, hdisjoint, -⟩ := (hpages hpos hmax).2 rfl
  refine ⟨hsize, hpos, hmax, rfl, pages, hrun, ?_, htile, hdisjoint⟩
  cases hrun
  rfl

end Query

end PanelQuery
