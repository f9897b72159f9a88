import Mathlib.Data.Real.Basic
import PanelQuery.Proofs.Agree
import PanelQuery.Proofs.Decimal.Word
import PanelQuery.Rule.Plan

/-! # Ranges of consecutive ticks

The two ends of a range are shifted by different amounts and moved down to whole minutes one by one,
so the length of a range varies with the phase of its tick. There is no gap between two ranges all
the same: the start of the later one is moved down from no later an instant than the end of the
earlier one, and moving down keeps the order. All this is so as long as the instants are words. -/

namespace PanelQuery.Rule

open Decimal (IsInt64 int64Min int64Max clampInt64_of_isInt64 wrapInt64_of_isInt64 wrapInt64_of_lt)

/-! ## Whole minutes -/

/-- The start of the minute that holds `t`, be it a word or not. -/
def wholeMinute (t : Int) : Int := t - t % minuteMs

theorem minuteMs_dvd_wholeMinute (t : Int) : minuteMs ∣ wholeMinute t := Int.dvd_self_sub_emod

theorem wholeMinute_le (t : Int) : wholeMinute t ≤ t := by
  have hphase := Int.emod_nonneg t (show minuteMs ≠ 0 by decide)
  unfold wholeMinute
  omega

theorem lt_wholeMinute_add (t : Int) : t < wholeMinute t + minuteMs := by
  have hphase := Int.emod_lt_of_pos t (show 0 < minuteMs by decide)
  unfold wholeMinute
  omega

/-- No whole minute lies between an instant and its minute. -/
theorem wholeMinute_mono {a b : Int} (h : a ≤ b) : wholeMinute a ≤ wholeMinute b := by
  have ha := minuteMs_dvd_wholeMinute a
  have hb := minuteMs_dvd_wholeMinute b
  have hlow := wholeMinute_le a
  have hhigh := lt_wholeMinute_add b
  generalize wholeMinute a = x at *
  generalize wholeMinute b = y at *
  unfold minuteMs at *
  omega

theorem floorMinute_eq_wrap (t : Int) : floorMinute t = Decimal.wrapInt64 (wholeMinute t) := rfl

theorem floorMinute_eq {t : Int} (h : IsInt64 (wholeMinute t)) : floorMinute t = wholeMinute t :=
  wrapInt64_of_isInt64 h

/-- The words begin within a minute, and what lies there comes out behind all whole minutes. -/
theorem floorMinute_of_not_isInt64 {t : Int} (ht : IsInt64 t) (h : ¬ IsInt64 (wholeMinute t)) :
    floorMinute t = wholeMinute t + 2 ^ 64 := by
  have hle := wholeMinute_le t
  have hlt := lt_wholeMinute_add t
  rw [floorMinute_eq_wrap]
  unfold IsInt64 int64Min int64Max minuteMs at *
  exact wrapInt64_of_lt (by unfold int64Min; omega) (by unfold int64Min; omega)

/-! ## One range -/

theorem lengthMs_nonneg (b : Nat) : 0 ≤ lengthMs b := by
  unfold lengthMs int64Max
  omega

/-- The subtractions that shift the ends of a range do not saturate. -/
structure Unsaturated (tick : Int) (window delay : Nat) : Prop where
  stop : IsInt64 (tick - lengthMs delay)
  start : IsInt64 (tick - lengthMs delay - lengthMs window)

/-- No subtraction leaves the words: neither those that shift the ends nor those that move them down
to whole minutes. The earlier end is the first to leave them. -/
structure Exact (tick : Int) (window delay : Nat) : Prop
    extends Unsaturated tick window delay where
  minute : IsInt64 (wholeMinute (tick - lengthMs delay - lengthMs window))

theorem subtractMs_of_isInt64 {a : Int} {b : Nat} (h : IsInt64 (a - lengthMs b)) :
    subtractMs a b = a - lengthMs b := clampInt64_of_isInt64 h

theorem atTick_of_unsaturated {tick : Int} {window delay : Nat}
    (h : Unsaturated tick window delay) : Range.atTick tick window delay =
      ⟨floorMinute (tick - lengthMs delay - lengthMs window),
        floorMinute (tick - lengthMs delay)⟩ := by
  simp only [Range.atTick, subtractMs_of_isInt64 h.stop, subtractMs_of_isInt64 h.start]

theorem atTick_eq {tick : Int} {window delay : Nat} (h : Exact tick window delay) :
    Range.atTick tick window delay =
      ⟨wholeMinute (tick - lengthMs delay - lengthMs window),
        wholeMinute (tick - lengthMs delay)⟩ := by
  have hwindow := lengthMs_nonneg window
  have hstop : IsInt64 (wholeMinute (tick - lengthMs delay)) :=
    ⟨h.minute.1.trans (wholeMinute_mono (by omega)), (wholeMinute_le _).trans h.stop.2⟩
  rw [atTick_of_unsaturated h.toUnsaturated, floorMinute_eq h.minute, floorMinute_eq hstop]

/-- The range goes over whole minutes. It ends in the minute that is a delay before the tick, and
starts in the minute that is a window earlier. -/
structure Range.Spans (r : Range) (tick window delay : Int) : Prop where
  start_whole : minuteMs ∣ r.start
  stop_whole : minuteMs ∣ r.stop
  ordered : r.start ≤ r.stop
  stop_le : r.stop ≤ tick - delay
  lt_stop : tick - delay < r.stop + minuteMs
  start_le : r.start ≤ tick - delay - window
  lt_start : tick - delay - window < r.start + minuteMs

theorem spans_atTick {tick : Int} {window delay : Nat} (h : Exact tick window delay) :
    (Range.atTick tick window delay).Spans tick (lengthMs window) (lengthMs delay) := by
  have hwindow := lengthMs_nonneg window
  rw [atTick_eq h]
  constructor
  case start_whole => exact minuteMs_dvd_wholeMinute _
  case stop_whole => exact minuteMs_dvd_wholeMinute _
  case ordered => exact wholeMinute_mono (by omega)
  case stop_le => exact wholeMinute_le _
  case lt_stop => exact lt_wholeMinute_add _
  case start_le => exact wholeMinute_le _
  case lt_start => exact lt_wholeMinute_add _

/-- Where nothing saturates, a range is off exactly if it starts before the first whole minute of
the words. -/
theorem spans_atTick_iff {tick : Int} {window delay : Nat} (h : Unsaturated tick window delay) :
    (Range.atTick tick window delay).Spans tick (lengthMs window) (lengthMs delay) ↔
      Exact tick window delay := by
  refine ⟨fun hspans => ⟨h, ?_⟩, spans_atTick⟩
  by_contra hminute
  have hstart := hspans.start_le
  rw [atTick_of_unsaturated h] at hstart
  dsimp only at hstart
  rw [floorMinute_of_not_isInt64 h.start hminute] at hstart
  have hlt := lt_wholeMinute_add (tick - lengthMs delay - lengthMs window)
  unfold minuteMs at hlt
  omega

/-- A window longer than every word counts as the longest word. Nothing saturates then, but the
range starts later than a window before its end. Nor does anything saturate if the end falls before
the first whole minute of the words, but it is moved far behind the tick. -/
theorem overlong_window_not_spanned :
    (Unsaturated 1700000000000 18446744073709551615 0 ∧
      ¬ (Range.atTick 1700000000000 18446744073709551615 0).Spans
        1700000000000 18446744073709551615 0) ∧
    Unsaturated 0 0 9223372036854775807 ∧
      ¬ (Range.atTick 0 0 9223372036854775807).Spans 0 0 9223372036854775807 :=
  ⟨⟨⟨⟨by decide, by decide⟩, ⟨by decide, by decide⟩⟩, fun h => absurd h.start_le (by decide)⟩,
    ⟨⟨by decide, by decide⟩, ⟨by decide, by decide⟩⟩, fun h => absurd h.stop_le (by decide)⟩

/-- The instant lies in the closed range. -/
def Range.Contains (r : Range) (x : ℝ) : Prop := (r.start : ℝ) ≤ x ∧ x ≤ (r.stop : ℝ)

/-! ## Two ranges -/

section Neighbours

variable {a b : Int} {window delay : Nat}

theorem start_mono (ha : Exact a window delay) (hb : Exact b window delay)
    (h : a ≤ b) : (Range.atTick a window delay).start ≤ (Range.atTick b window delay).start := by
  rw [atTick_eq ha, atTick_eq hb]
  exact wholeMinute_mono (by omega)

theorem stop_mono (ha : Exact a window delay) (hb : Exact b window delay)
    (h : a ≤ b) : (Range.atTick a window delay).stop ≤ (Range.atTick b window delay).stop := by
  rw [atTick_eq ha, atTick_eq hb]
  exact wholeMinute_mono (by omega)

/-- A tick at most a window later starts where the range before it has not ended. -/
theorem start_le_stop (ha : Exact a window delay) (hb : Exact b window delay)
    (h : b - a ≤ lengthMs window) :
    (Range.atTick b window delay).start ≤ (Range.atTick a window delay).stop := by
  rw [atTick_eq ha, atTick_eq hb]
  exact wholeMinute_mono (by omega)

end Neighbours

/-! ## Many ranges -/

/-- An instant that is not in the range of the first tick lies after it, and so in a range of the
ticks that follow. -/
theorem exists_contains {window delay : Nat} {first last : Int} {ticks : List Int}
    (hexact : ∀ t ∈ first :: ticks, Exact t window delay)
    (hclose : (first :: ticks).IsChain fun a b : Int => b - a ≤ lengthMs window)
    (hlast : (first :: ticks).getLast? = some last) {x : ℝ}
    (hstart : ((Range.atTick first window delay).start : ℝ) ≤ x)
    (hstop : x ≤ ((Range.atTick last window delay).stop : ℝ)) :
    ∃ t ∈ first :: ticks, (Range.atTick t window delay).Contains x := by
  induction ticks generalizing first with
  | nil =>
    cases hlast
    exact ⟨first, List.mem_cons_self, hstart, hstop⟩
  | cons next ticks ih =>
    by_cases hx : x ≤ ((Range.atTick first window delay).stop : ℝ)
    · exact ⟨first, List.mem_cons_self, hstart, hx⟩
    · rw [List.isChain_cons_cons] at hclose
      obtain ⟨hnear, hclose⟩ := hclose
      have hexact' := fun t ht => hexact t (List.mem_cons_of_mem first ht)
      have hnext : (Range.atTick next window delay).start ≤
          (Range.atTick first window delay).stop :=
        start_le_stop (hexact first List.mem_cons_self) (hexact' next List.mem_cons_self) hnear
      have hstart' : ((Range.atTick next window delay).start : ℝ) ≤ x :=
        le_trans (Int.cast_le.mpr hnext) (le_of_not_ge hx)
      rw [List.getLast?_cons_cons] at hlast
      obtain ⟨t, ht, hcontains⟩ := ih hexact' hclose hlast hstart'
      exact ⟨t, List.mem_cons_of_mem first ht, hcontains⟩

/-- A planned query is one of those that are asked for and not switched off, compiled for the range
of the tick. -/
theorem mem_plan {e : Engine} {tick : Int} {window delay : Nat} {queries : List (String × Query)}
    {planned : List PlannedQuery} (h : plan e tick window delay queries = .ok planned)
    {p : PlannedQuery} (hp : p ∈ planned) :
    ∃ q, (p.name, q) ∈ queries ∧ q.disabled = false ∧
      p.range = Range.atTick tick window delay ∧ e.compile (request p.range q) = .ok p.sql := by
  obtain ⟨⟨name, q⟩, hm, hq⟩ := forall₂_exists_left (mapM_ok_iff.mp h) hp
  obtain ⟨hmem, henabled⟩ := List.mem_filter.mp hm
  dsimp only [planQuery] at hq
  split at hq
  · next sql hsql =>
    cases hq
    exact ⟨q, hmem, by simpa using henabled, rfl, hsql⟩
  · cases hq

/-- The queries of a plan are compiled for the range of the tick. -/
theorem range_of_mem_plan {e : Engine} {tick : Int} {window delay : Nat}
    {queries : List (String × Query)} {planned : List PlannedQuery}
    (h : plan e tick window delay queries = .ok planned) :
    ∀ p ∈ planned, p.range = Range.atTick tick window delay := by
  intro p hp
  obtain ⟨q, -, -, hrange, -⟩ := mem_plan h hp
  exact hrange

/-- **Consecutive evaluations leave no gap.** The range of every tick, and so that of every query
planned for it, goes over whole minutes and lags behind the tick by the delay. Later ticks have no
earlier ranges. If neighbouring ticks are at most a window apart, every instant from the start of
the first range to the end of the last lies in one of the ranges. A window or delay that is longer
than every word counts as the longest. -/
theorem ticks_gapless {window delay : Nat} {ticks : List Int}
    (hexact : ∀ t ∈ ticks, Exact t window delay) (hordered : ticks.IsChain (· ≤ ·)) :
    (∀ t ∈ ticks,
      (Range.atTick t window delay).Spans t (lengthMs window) (lengthMs delay)) ∧
    (∀ t ∈ ticks, ∀ e queries planned, plan e t window delay queries = .ok planned →
      ∀ p ∈ planned, p.range = Range.atTick t window delay) ∧
    ticks.Pairwise (fun a b =>
      (Range.atTick a window delay).start ≤ (Range.atTick b window delay).start ∧
      (Range.atTick a window delay).stop ≤ (Range.atTick b window delay).stop) ∧
    (ticks.IsChain (fun a b : Int => b - a ≤ lengthMs window) →
      ∀ first last, ticks.head? = some first → ticks.getLast? = some last →
      ∀ x : ℝ, ((Range.atTick first window delay).start : ℝ) ≤ x →
        x ≤ ((Range.atTick last window delay).stop : ℝ) →
        ∃ t ∈ ticks, (Range.atTick t window delay).Contains x) := by
  refine ⟨fun t ht => spans_atTick (hexact t ht), fun t _ e queries planned h =>
    range_of_mem_plan h, ?_, ?_⟩
  · have hsorted : ticks.Pairwise (· ≤ ·) := List.isChain_iff_pairwise.mp hordered
    refine hsorted.imp_of_mem fun {a b} ha hb hab => ?_
    exact ⟨start_mono (hexact a ha) (hexact b hb) hab, stop_mono (hexact a ha) (hexact b hb) hab⟩
  · intro hclose first last hfirst hlast x hstart hstop
    obtain ⟨rest, rfl⟩ := List.head?_eq_some_iff.mp hfirst
    exact exists_contains hexact hclose hlast hstart hstop

/-- Ticks around the epoch that are not on whole minutes, the last two a window apart. -/
def unevenTicks : List Int := [-100000, -30000, 90000]

/-- With two minutes of window and a millisecond of delay they are read from four minutes before the
epoch to a minute after it. -/
theorem ticks_gapless_uneven :
    (∀ t ∈ unevenTicks, Exact t 120000 1) ∧ unevenTicks.IsChain (· ≤ ·) ∧
    unevenTicks.IsChain (fun a b : Int => b - a ≤ lengthMs 120000) ∧
    (Range.atTick (-100000) 120000 1).Spans (-100000) 120000 1 ∧
    Range.atTick (-100000) 120000 1 = ⟨-240000, -120000⟩ ∧
    ∀ x : ℝ, -240000 ≤ x → x ≤ 60000 →
      ∃ t ∈ unevenTicks, (Range.atTick t 120000 1).Contains x := by
  have hexact : ∀ t ∈ unevenTicks, Exact t 120000 1 := by
    intro t ht
    simp only [unevenTicks, List.mem_cons, List.not_mem_nil, or_false] at ht
    rcases ht with rfl | rfl | rfl <;>
      exact ⟨⟨⟨by decide, by decide⟩, ⟨by decide, by decide⟩⟩, ⟨by decide, by decide⟩⟩
  have hordered : unevenTicks.IsChain (· ≤ ·) := by decide
  have hclose : unevenTicks.IsChain (fun a b : Int => b - a ≤ lengthMs 120000) := by decide
  obtain ⟨hspans, -, -, hcovered⟩ := ticks_gapless hexact hordered
  refine ⟨hexact, hordered, hclose, hspans _ (by decide), by decide, fun x hstart hstop => ?_⟩
  have hfirst : (Range.atTick (-100000) 120000 1).start = -240000 := by decide
  have hlast : (Range.atTick 90000 120000 1).stop = 60000 := by decide
  refine hcovered hclose (-100000) 90000 rfl rfl x ?_ ?_
  · rw [hfirst]
    exact_mod_cast hstart
  · rw [hlast]
    exact_mod_cast hstop

end PanelQuery.Rule
