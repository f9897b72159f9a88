import PanelQuery.Proofs.Rule.Range

/-! # Points of a rule evaluation

The step of a rule query is as long as requested, a minute, or the step that the range asks for,
whichever is longest. The step that the range asks for is brought down to whole minutes, and a
shorter step gives more points. So a range of more than `maxPoints` minutes is within the points of
a series only if it is so many minutes exactly, or a multiple of them, or if the requested step is
long enough by itself. A range whose length is no word asks for nothing. -/

namespace PanelQuery.Rule

open Decimal (IsInt64 int64Min int64Max isInt64_wrapInt64 wrapInt64_of_isInt64 wrapInt64_of_gt)

/-! ## The length of a range -/

/-- Milliseconds from the start to the end. -/
def Range.length (r : Range) : Int := r.stop - r.start

theorem subtractMs_le {a : Int} (h : IsInt64 a) (b : Nat) : subtractMs a b ≤ a := by
  have hb := lengthMs_nonneg b
  obtain ⟨hmin, hmax⟩ := h
  simp only [subtractMs, Decimal.clampInt64, int64Min, int64Max] at *
  omega

theorem isInt64_subtractMs (a : Int) (b : Nat) : IsInt64 (subtractMs a b) :=
  Decimal.isInt64_clampInt64 _

/-- Between two instants that come out in order there are whole minutes: if the earlier one were
moved around the words and the later one not, they would not be in order. -/
theorem minuteMs_dvd_sub_floorMinute {a b : Int} (ha : IsInt64 a) (hb : IsInt64 b) (hab : a ≤ b)
    (h : floorMinute a ≤ floorMinute b) : minuteMs ∣ floorMinute b - floorMinute a := by
  have hwhole := Int.dvd_sub (minuteMs_dvd_wholeMinute b) (minuteMs_dvd_wholeMinute a)
  have hmono := wholeMinute_mono hab
  by_cases hfirst : IsInt64 (wholeMinute a)
  · have hlast : IsInt64 (wholeMinute b) :=
      ⟨hfirst.1.trans hmono, (wholeMinute_le b).trans hb.2⟩
    rwa [floorMinute_eq hfirst, floorMinute_eq hlast]
  by_cases hlast : IsInt64 (wholeMinute b)
  · rw [floorMinute_of_not_isInt64 ha hfirst, floorMinute_eq hlast] at h
    have hdvd := minuteMs_dvd_wholeMinute a
    have hdvd' := minuteMs_dvd_wholeMinute b
    have hlow := lt_wholeMinute_add a
    have hhigh := wholeMinute_le b
    unfold IsInt64 int64Min int64Max minuteMs at *
    omega
  · rwa [floorMinute_of_not_isInt64 ha hfirst, floorMinute_of_not_isInt64 hb hlast,
      Int.add_sub_add_right]

section

variable {tick : Int} {window delay : Nat}

theorem isInt64_atTick (tick : Int) (window delay : Nat) :
    IsInt64 (Range.atTick tick window delay).start ∧
      IsInt64 (Range.atTick tick window delay).stop :=
  ⟨isInt64_wrapInt64 _, isInt64_wrapInt64 _⟩

theorem minuteMs_dvd_length_atTick
    (h : (Range.atTick tick window delay).start ≤ (Range.atTick tick window delay).stop) :
    minuteMs ∣ (Range.atTick tick window delay).length :=
  minuteMs_dvd_sub_floorMinute (isInt64_subtractMs _ window) (isInt64_subtractMs tick delay)
    (subtractMs_le (isInt64_subtractMs tick delay) window) h

end

/-! ## Steps -/

/-- Steps of so many seconds cut the range into at most `maxPoints` points. -/
def Range.Fits (r : Range) (seconds : Int) : Prop := r.length ≤ maxPoints * 1000 * seconds

instance (r : Range) (seconds : Int) : Decidable (r.Fits seconds) :=
  inferInstanceAs (Decidable (_ ≤ _))

variable {r : Range}

/-- The longer of two steps fits if one of them does. -/
theorem fits_max {a b : Int} : r.Fits (max a b) ↔ r.Fits a ∨ r.Fits b := by
  simp only [Range.Fits, maxPoints]
  omega

/-- The length that has `maxPoints` points with a step of a minute. -/
def pointMinutes : Int := maxPoints * minuteMs

theorem minStep_eq (h : 0 ≤ r.length) (hmax : r.length ≤ int64Max) : minStep r =
    if r.length / (maxPoints * 1000) < 60 then r.length / (maxPoints * 1000)
    else 60 * (r.length / pointMinutes) := by
  have hword : Decimal.wrapInt64 (r.stop - r.start) = r.length :=
    wrapInt64_of_isInt64 ⟨Int.le_trans (by decide) h, hmax⟩
  have hseconds : (r.length.tdiv maxPoints).tdiv 1000 = r.length / (maxPoints * 1000) := by
    have hpoints : 0 ≤ r.length / maxPoints := Int.ediv_nonneg h (by decide)
    rw [Int.tdiv_eq_ediv_of_nonneg h, Int.tdiv_eq_ediv_of_nonneg hpoints,
      Int.ediv_ediv_of_nonneg (by decide)]
  unfold minStep
  dsimp only
  rw [hword, hseconds]
  split
  · rfl
  · next hmin =>
    rw [Int.tmod_eq_emod_of_nonneg (by omega)]
    unfold pointMinutes minuteMs maxPoints at *
    omega

/-- The step that the range asks for fits a range of at most `maxPoints` minutes, and otherwise a
multiple of that length. -/
theorem fits_minStep_iff (h : 0 ≤ r.length) (hmax : r.length ≤ int64Max)
    (hminutes : minuteMs ∣ r.length) :
    r.Fits (max (minStep r) 60) ↔ r.Fits 60 ∨ pointMinutes ∣ r.length := by
  rw [fits_max, minStep_eq h hmax]
  -- a step under a minute leaves the minute to decide; a longer one loses its part of a minute
  unfold Range.Fits pointMinutes minuteMs maxPoints at *
  split <;> omega

/-- It gives fewer than twice as many points. -/
theorem length_lt_minStep (h : 0 ≤ r.length) (hmax : r.length ≤ int64Max) :
    r.length < 2 * (maxPoints * 1000 * max (minStep r) 60) := by
  rw [minStep_eq h hmax]
  unfold pointMinutes minuteMs maxPoints
  split <;> omega

/-- A length below zero asks for less than a second. -/
theorem minStep_nonpos (h : Decimal.wrapInt64 (r.stop - r.start) ≤ 0) : minStep r ≤ 0 := by
  have hpoints := Int.tdiv_le_tdiv (show 0 < maxPoints by decide) h
  have hseconds := Int.tdiv_le_tdiv (show (0 : Int) < 1000 by decide) hpoints
  rw [Int.zero_tdiv, Int.zero_tdiv] at hseconds
  unfold minStep
  dsimp only
  rwa [if_pos (by omega)]

/-- What a range asks for is a word. -/
theorem minStep_le (r : Range) : minStep r ≤ int64Max := by
  rcases Int.le_total (Decimal.wrapInt64 (r.stop - r.start)) 0 with hneg | hpos
  · exact (minStep_nonpos hneg).trans (by decide)
  · have hpoints := Int.tdiv_le_self maxPoints hpos
    have hseconds := Int.tdiv_le_self 1000 (Int.tdiv_nonneg hpos (show 0 ≤ maxPoints by decide))
    have hword := (isInt64_wrapInt64 (r.stop - r.start)).2
    unfold minStep
    dsimp only
    split
    · omega
    · next hmin =>
      have hphase := Int.tmod_nonneg 60 (show 0 ≤
        ((Decimal.wrapInt64 (r.stop - r.start)).tdiv maxPoints).tdiv 1000 by omega)
      omega

theorem toInt_max (a b : Int64) : (max a b).toInt = max a.toInt b.toInt := by
  simp only [max, Int64.le_iff_toInt_le]
  split <;> rfl

/-- The step of a query as a number. -/
theorem toInt_step (r : Range) (q : Query) :
    (step r q).toInt = max q.stepInterval.toInt (max (minStep r) 60) := by
  have hmax := minStep_le r
  have hword : IsInt64 (max (minStep r) 60) := by
    unfold IsInt64 int64Min int64Max at *
    omega
  rw [step, toInt_max, Decimal.toInt_ofInt hword]

/-- A range whose length is no word does not count for the step. -/
theorem toInt_step_overlong (hstart : IsInt64 r.start) (hstop : IsInt64 r.stop)
    (h : int64Max < r.length) (q : Query) : (step r q).toInt = max q.stepInterval.toInt 60 := by
  have hwrap : Decimal.wrapInt64 (r.stop - r.start) ≤ 0 := by
    unfold Range.length IsInt64 int64Min int64Max at *
    rw [wrapInt64_of_gt (by unfold int64Max; omega) (by unfold int64Max; omega)]
    omega
  have hmin := minStep_nonpos hwrap
  rw [toInt_step, max_eq_right (by omega : minStep r ≤ 60)]

/-! ## Plans -/

/-- Only ranges that are in order are planned. -/
theorem ordered_of_compile {e : Engine} {r : Range} (hstart : IsInt64 r.start)
    (hstop : IsInt64 r.stop) {q : Query} {sql : Sql} (h : e.compile (request r q) = .ok sql) :
    r.start ≤ r.stop := by
  have hle := (Engine.compile_ok h).1
  rwa [request, Decimal.toInt_ofInt hstart, Decimal.toInt_ofInt hstop] at hle

/-- **Points of a planned query.** Let the length of the range be a word. A planned query is
compiled with a step that cuts the range into at most `maxPoints` points if and only if steps of a
minute or of the requested length do, or the range is a multiple of `maxPoints` minutes. There are
always fewer than twice as many points. -/
theorem plan_points {e : Engine} {tick : Int} {window delay : Nat}
    {queries : List (String × Query)} {planned : List PlannedQuery}
    (h : plan e tick window delay queries = .ok planned) :
    ∀ p ∈ planned, ∃ q, (p.name, q) ∈ queries ∧ q.disabled = false ∧
      p.range = Range.atTick tick window delay ∧
      e.compile (request p.range q) = .ok p.sql ∧
      (p.range.length ≤ int64Max →
        (p.range.Fits (request p.range q).query.stepInterval.toInt ↔
          p.range.Fits 60 ∨ p.range.Fits q.stepInterval.toInt ∨
            pointMinutes ∣ p.range.length) ∧
        p.range.length < 2 * (maxPoints * 1000 * (request p.range q).query.stepInterval.toInt)) := by
  intro p hp
  obtain ⟨q, hq, henabled, hrange, hcompile⟩ := mem_plan h hp
  refine ⟨q, hq, henabled, hrange, hcompile, fun hmax => ?_⟩
  obtain ⟨hstart, hstop⟩ := isInt64_atTick tick window delay
  rw [← hrange] at hstart hstop
  have hordered := ordered_of_compile hstart hstop hcompile
  have hlow : 0 ≤ p.range.length := Int.sub_nonneg.mpr hordered
  have hminutes : minuteMs ∣ p.range.length := by
    rw [hrange] at hordered ⊢
    exact minuteMs_dvd_length_atTick hordered
  have hstep : (request p.range q).query.stepInterval.toInt =
      max q.stepInterval.toInt (max (minStep p.range) 60) := toInt_step p.range q
  rw [hstep]
  constructor
  · rw [fits_max, fits_minStep_iff hlow hmax hminutes]
    exact or_left_comm
  · have htwice := length_lt_minStep hlow hmax
    unfold maxPoints at *
    omega

/-- Logs counted by the minute. -/
def countByMinute : Query :=
  { name := "A", signal := .logs, aggregateOperator := .count, stepInterval := 60 }

/-- In a window of six hours the step is brought down from seventy-two seconds to a minute, and the
range has three hundred and sixty of them. In the longest window the length of the range is no word,
and the step is a minute too. -/
theorem sixHours_exceed_points :
    (∃ p, plan {} 1700000040000 21600000 0 [("A", countByMinute)] = .ok [p] ∧
      p.range.length = 360 * (1000 * (request p.range countByMinute).query.stepInterval.toInt) ∧
      ¬ p.range.Fits (request p.range countByMinute).query.stepInterval.toInt) ∧
    ∃ p, plan {} 1700000040000 9223372036854775807 0 [("A", countByMinute)] = .ok [p] ∧
      int64Max < p.range.length ∧
      ¬ p.range.Fits (request p.range countByMinute).query.stepInterval.toInt :=
  ⟨⟨_, rfl, by decide, by decide⟩, _, rfl, by decide, by decide⟩

/-- A day is cut into steps of four minutes, again three hundred and sixty of them. -/
theorem plan_points_day : ∃ p,
    plan {} 1700000040000 86400000 0 [("A", countByMinute)] = .ok [p] ∧
      p.range.length ≤ int64Max ∧
      ¬ p.range.Fits (request p.range countByMinute).query.stepInterval.toInt ∧
      p.range.length < 2 * (maxPoints * 1000 * 240) := by
  have hplan : ∃ p, plan {} 1700000040000 86400000 0 [("A", countByMinute)] = .ok [p] :=
    ⟨_, rfl⟩
  obtain ⟨p, h⟩ := hplan
  obtain ⟨q, hq, -, hrange, -, hpoints⟩ := plan_points h p (List.mem_singleton_self p)
  obtain ⟨-, rfl⟩ := Prod.mk.inj (List.mem_singleton.mp hq)
  have hmax : p.range.length ≤ int64Max := by
    rw [hrange]
    decide
  have hstep : (request p.range countByMinute).query.stepInterval.toInt = 240 := by
    rw [hrange]
    decide
  obtain ⟨hfits, htwice⟩ := hpoints hmax
  refine ⟨p, h, hmax, fun hmost => absurd (hfits.mp hmost) ?_, hstep ▸ htwice⟩
  rw [hrange]
  decide

end PanelQuery.Rule
