import PanelQuery.Proofs.Query.Window
import PanelQuery.Proofs.Statement.Rows

/-! # The buckets of a range

A log record is kept under the start of a bucket, which is found by rounding down; the bounds of the
buckets are found by rounding toward zero. Before the epoch the two differ by up to a second, which
the lookback makes up for as long as no bucket is wider than it: no record of the range is in a
bucket outside of the bounds. -/

namespace PanelQuery

open Metrics (floorTo beginsBucket_floorTo)

/-! ## Instants and their buckets -/

namespace Epoch

/-- The start, in seconds, of the bucket of `width` seconds that holds an instant in nanoseconds. -/
def bucketStart (width instant : Int) : Int := floorTo (instant / 1000000000) width

theorem secondsOfNanos_eq (t : Int) : secondsOfNanos t =
    t / 1000000000 + if 0 ≤ t ∨ 1000000000 ∣ t then 0 else 1 :=
  Int.tdiv_eq_ediv

/-- Rounding toward zero gives the second that is begun before the epoch, and the one that has begun
after it. -/
theorem secondsOfNanos_bounds (t : Int) :
    t / 1000000000 ≤ secondsOfNanos t ∧ secondsOfNanos t ≤ t / 1000000000 + 1 := by
  rw [secondsOfNanos_eq]
  split <;> omega

end Epoch

open Epoch (bucketStart)

/-- The bucket starts within the bounds. -/
def BucketRange.Admits (b : BucketRange) (bucket : Int) : Prop :=
  b.first ≤ bucket ∧ bucket ≤ b.last

/-- Every instant of a range is in a bucket within the bounds, if no bucket is wider than the
lookback. -/
theorem NanoRange.admits_bucketStart {r : NanoRange} {instant width : Int}
    (hfirst : r.first ≤ instant) (hlast : instant ≤ r.last) (hpos : 0 < width)
    (hwidth : width ≤ bucketLookback) : r.buckets.Admits (bucketStart width instant) := by
  have hbucket := beginsBucket_floorTo (instant / 1000000000) hpos
  have hlow : r.first / 1000000000 ≤ instant / 1000000000 :=
    Int.ediv_le_ediv (by decide) hfirst
  have hhigh : instant / 1000000000 ≤ r.last / 1000000000 :=
    Int.ediv_le_ediv (by decide) hlast
  constructor
  · have hround := (Epoch.secondsOfNanos_bounds r.first).2
    have hnext := hbucket.lt
    rw [buckets, bucketStart]
    dsimp only
    omega
  · have hround := (Epoch.secondsOfNanos_bounds r.last).1
    exact hbucket.le.trans (hhigh.trans hround)

/-! ## Records of an instant -/

/-- A column of the record has that number, and bounds of the column are true accordingly. -/
def LogRecord.HasNumber (row : LogRecord) (column : String) (value : Int) : Prop :=
  ∀ bound : Int,
    row.columns (Sql.raw (column ++ " >= ") ++ [.int bound]) = decide (bound ≤ value) ∧
    row.columns (Sql.raw (column ++ " <= ") ++ [.int bound]) = decide (value ≤ bound)

/-- A record of an instant, kept under the start of its bucket; its fingerprint was seen in a bucket
of the instant, too. No bucket is wider than the lookback. -/
structure LogRecord.KeptAt (row : LogRecord) (instant : Int) : Prop where
  time : row.HasNumber "timestamp" instant
  bucket : ∃ width, 0 < width ∧ width ≤ bucketLookback ∧
    row.HasNumber "ts_bucket_start" (bucketStart width instant)
  seen : ∃ width, 0 < width ∧ width ≤ bucketLookback ∧ bucketStart width instant ∈ row.seen

theorem LogRecord.HasNumber.holds_between {row : LogRecord} {column : String} {value : Int}
    (h : row.HasNumber column value) (first last : Int) :
    (TimeBounds.between column [.int first] [.int last]).holds row.columns = true ↔
      first ≤ value ∧ value ≤ last := by
  simp [TimeBounds.between, Sql.Condition.holds, Sql.Condition.allHold, (h first).1, (h last).2]

/-- The time bounds of a statement are true of the records of its range. -/
theorem inTime_iff {q : Query} {start stop instant : Int} {options : QueryOptions}
    (htail : options.liveTail = false) {row : LogRecord} (hrow : row.KeptAt instant) :
    q.InTime start stop options row ↔
      Epoch.nanos start ≤ instant ∧ instant ≤ Epoch.nanos stop := by
  have hopen : ¬ options.liveTail = true := by simp [htail]
  obtain ⟨width, hpos, hwidth, hbucket⟩ := hrow.bucket
  obtain ⟨seen, hseenPos, hseenWidth, hseen⟩ := hrow.seen
  constructor
  · intro h
    exact (hrow.time.holds_between _ _).mp (h.columns _ (if_neg hopen) _ List.mem_cons_self)
  · rintro ⟨hfirst, hlast⟩
    have hadmits : ∀ {width}, 0 < width → width ≤ bucketLookback →
        (NanoRange.ofInstants start stop).buckets.Admits (bucketStart width instant) :=
      NanoRange.admits_bucketStart hfirst hlast
    constructor
    · intro time htime
      rw [logBounds, if_neg hopen] at htime
      cases htime
      simp only [NanoRange.bounds, TimeBounds.conditions, List.forall_mem_cons]
      exact ⟨(hrow.time.holds_between _ _).mpr ⟨hfirst, hlast⟩,
        (hbucket.holds_between _ _).mpr (hadmits hpos hwidth), List.forall_mem_nil _⟩
    · intro _
      refine ⟨_, hseen, fun b hb => ?_⟩
      rw [logBuckets, if_neg hopen] at hb
      cases hb
      exact hadmits hseenPos hseenWidth

/-! ## Bounds in a statement -/

theorem ResourceLookup.within_buckets {l : ResourceLookup} {b : BucketRange}
    (h : l.buckets = some b) : ∀ c ∈ bucketConditions b, c.sql.Within l.sql := by
  intro c hc
  have hmem : c ∈ l.conditions := by simp [conditions, h, hc]
  exact ((Sql.Within.conjunction hmem).after _).before _

/-- **No bucket of the range is left out.** The statement has the bounds of the row time and those
of the buckets, and its lookup, if there is one, the same of the latter. Whatever instant lies
between the bounds of the row time, the bucket that holds it starts between those of the buckets,
if it is no wider than the lookback. So of the records that are kept under such buckets, those are
in time whose instants lie between the bounds. -/
theorem buckets_lossless {q : Query} {start stop : Int} {panel : Panel} {options : QueryOptions}
    {t : TableStatement} (h : q.tableStatement .logs start stop panel options = .ok t)
    (htail : options.liveTail = false) :
    ∃ b : BucketRange,
      (∃ main, t.columnConditions =
        TimeBounds.between "timestamp" [.int (Epoch.nanos start)] [.int (Epoch.nanos stop)] ::
        TimeBounds.between "ts_bucket_start" [.int b.first] [.int b.last] :: main) ∧
      (∀ c ∈ t.columnConditions, c.sql.Within t.sql) ∧
      (∀ l, t.lookup = some l → l.buckets = some b ∧ l.sql.Within t.sql ∧
        ∀ c ∈ ResourceLookup.bucketConditions b, c.sql.Within l.sql) ∧
      (∀ instant width, Epoch.nanos start ≤ instant → instant ≤ Epoch.nanos stop →
        0 < width → width ≤ 1800 → b.Admits (bucketStart width instant)) ∧
      ∀ instant (row : LogRecord), row.KeptAt instant → (q.InTime start stop options row ↔
        Epoch.nanos start ≤ instant ∧ instant ≤ Epoch.nanos stop) := by
  have hopen : ¬ options.liveTail = true := by simp [htail]
  obtain ⟨f, hf, hcolumns, hlookup, -⟩ := logs_ok h
  rw [logBounds, if_neg hopen] at hcolumns
  rw [logBuckets, if_neg hopen] at hf
  refine ⟨(NanoRange.ofInstants start stop).buckets, ⟨f.main, hcolumns⟩,
    fun c hc => TableStatement.within_condition hc, fun l hl => ?_, fun instant width hfirst hlast
      hpos hwidth => NanoRange.admits_bucketStart hfirst hlast hpos hwidth,
    fun instant row hrow => inTime_iff htail hrow⟩
  have hb : l.buckets = some (NanoRange.ofInstants start stop).buckets := by
    rcases lookup_ok (rowFilter_ok hf).2 with ⟨hnone, -⟩ | ⟨l', hl', -, hb, -⟩
    · rw [hlookup, hnone] at hl
      cases hl
    · rw [hlookup, hl'] at hl
      cases hl
      exact hb
  exact ⟨hb, TableStatement.within_lookup hl, ResourceLookup.within_buckets hb⟩

/-- A record with these numbers in its columns, seen in its own bucket. -/
def recordAt (instant bucket : Int) : LogRecord where
  columns
    | [.fixed word, .int bound] =>
      if word = "timestamp >= " then decide (bound ≤ instant)
      else if word = "timestamp <= " then decide (instant ≤ bound)
      else if word = "ts_bucket_start >= " then decide (bound ≤ bucket)
      else decide (bucket ≤ bound)
    | _ => true
  labels := fun _ => true
  seen := [bucket]

theorem keptAt_recordAt (instant : Int) {width : Int} (hpos : 0 < width)
    (hwidth : width ≤ bucketLookback) :
    (recordAt instant (bucketStart width instant)).KeptAt instant where
  time _ := ⟨rfl, rfl⟩
  bucket := ⟨width, hpos, hwidth, fun _ => ⟨rfl, rfl⟩⟩
  seen := ⟨width, hpos, hwidth, List.mem_singleton.mpr rfl⟩

/-- The records of one host. -/
def byHost : Query where
  signal := .logs
  filters := some ⟨.and, [⟨{ name := "host", dataType := .scalar .string, kind := .resource },
    .compare .eq, .text "h1"⟩]⟩

/-- Before the epoch the first record of a range may be in the first bucket that is looked at. -/
theorem buckets_lossless_beforeEpoch : ∃ t,
    byHost.tableStatement .logs (-1000000800000000001) (-1000000000000000000) .list {} = .ok t ∧
    ({} : QueryOptions).liveTail = false ∧
    ∃ (b : BucketRange) (l : ResourceLookup), t.lookup = some l ∧ l.buckets = some b ∧
      b.Admits (bucketStart 1800 (-1000000800000000001)) ∧
      b.first = bucketStart 1800 (-1000000800000000001) ∧
      byHost.InTime (-1000000800000000001) (-1000000000000000000) {}
        (recordAt (-1000000800000000001) (bucketStart 1800 (-1000000800000000001))) := by
  have hstatement : ∃ t, byHost.tableStatement .logs (-1000000800000000001)
      (-1000000000000000000) .list {} = .ok t := ⟨_, rfl⟩
  obtain ⟨t, h⟩ := hstatement
  obtain ⟨b, -, -, hlookup, hadmits, hrows⟩ := buckets_lossless h rfl
  cases h
  have hb := (hlookup _ rfl).1
  refine ⟨_, rfl, rfl, b, _, rfl, hb,
    hadmits _ 1800 (by decide) (by decide) (by decide) (by decide), ?_,
    (hrows _ _ (keptAt_recordAt _ (by decide) (by decide))).mpr (by decide)⟩
  rw [← Option.some.inj hb]
  decide

end PanelQuery
