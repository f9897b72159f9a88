import Mathlib.Algebra.BigOperators.Group.Multiset.Basic
import Mathlib.Data.Multiset.Lattice
import Mathlib.Order.Lattice.Nat
import Mathlib.Order.Nat
import PanelQuery.Proofs.Progress.Delivery

/-! # What reports add up to

The counters of a registration are those of all reports counted into it, and the order in which they
came does not show: the sums stop at the largest word, and of the elapsed times the greatest counts.
Counters only grow, so no subscriber ever sees one of them go down, whatever it misses. -/

namespace PanelQuery

namespace Counters

/-- The counters for reports that came in any order. -/
def total (reports : Multiset Counters) : Counters where
  readRows := min (reports.map (·.readRows)).sum Decimal.uint64Max
  readBytes := min (reports.map (·.readBytes)).sum Decimal.uint64Max
  totalRows := min (reports.map (·.totalRows)).sum Decimal.uint64Max
  elapsedMs := (reports.map (·.elapsedMs)).sup

/-- A sum that has stopped at the largest word stays there, so it may be cut off at the end. -/
theorem cappedSum_min (a b : Nat) :
    cappedSum (min a Decimal.uint64Max) b = min (b + a) Decimal.uint64Max := by
  unfold cappedSum
  omega

theorem total_cons (report : Counters) (reports : Multiset Counters) :
    total (report ::ₘ reports) = (total reports).add report := by
  simp only [total, add, cappedSum_min, Multiset.map_cons, Multiset.sum_cons, Multiset.sup_cons,
    mk.injEq, true_and]
  exact max_comm _ _

/-- Reports counted in one after the other. -/
theorem foldl_add (reports : List Counters) :
    reports.foldl add {} = total (reports : Multiset Counters) := by
  induction reports using List.reverseRecOn with
  | nil => rfl
  | append_singleton reports report ih =>
    have hperm : ((reports ++ [report] : List Counters) : Multiset Counters) =
        report ::ₘ (reports : Multiset Counters) := by
      rw [Multiset.cons_coe]
      exact Multiset.coe_eq_coe.mpr (List.perm_append_singleton report reports)
    rw [List.foldl_append, List.foldl_cons, List.foldl_nil, ih, hperm, total_cons]

/-! ## Growth -/

/-- No counter is greater. -/
structure AtMost (c c' : Counters) : Prop where
  readRows : c.readRows ≤ c'.readRows
  readBytes : c.readBytes ≤ c'.readBytes
  totalRows : c.totalRows ≤ c'.totalRows
  elapsedMs : c.elapsedMs ≤ c'.elapsedMs

/-- The sums have not gone beyond the largest word. -/
structure Capped (c : Counters) : Prop where
  readRows : c.readRows ≤ Decimal.uint64Max
  readBytes : c.readBytes ≤ Decimal.uint64Max
  totalRows : c.totalRows ≤ Decimal.uint64Max

variable {c c' c'' : Counters}

theorem AtMost.refl (c : Counters) : c.AtMost c :=
  ⟨Nat.le_refl _, Nat.le_refl _, Nat.le_refl _, Nat.le_refl _⟩

theorem AtMost.trans (h : c.AtMost c') (h' : c'.AtMost c'') : c.AtMost c'' :=
  ⟨h.readRows.trans h'.readRows, h.readBytes.trans h'.readBytes, h.totalRows.trans h'.totalRows,
    h.elapsedMs.trans h'.elapsedMs⟩

theorem le_cappedSum {a : Nat} (h : a ≤ Decimal.uint64Max) (b : Nat) : a ≤ cappedSum a b :=
  Nat.le_min.mpr ⟨Nat.le_add_right a b, h⟩

/-- A report takes nothing away, even if a sum stops. -/
theorem Capped.atMost_add (h : c.Capped) (report : Counters) : c.AtMost (c.add report) :=
  ⟨le_cappedSum h.readRows _, le_cappedSum h.readBytes _, le_cappedSum h.totalRows _,
    Nat.le_max_left _ _⟩

theorem capped_add (c report : Counters) : (c.add report).Capped :=
  ⟨Nat.min_le_right _ _, Nat.min_le_right _ _, Nat.min_le_right _ _⟩

end Counters

namespace System

open Counters (AtMost Capped)

variable {s s' : System} {a : Action} {actions : List Action} {i j : Nat}

/-! ## The counters of a registration -/

/-- The report that a step counts into a registration. -/
def counted (i : Nat) : Action → Option Counters
  | .publish k report => if k = i then some report else none
  | _ => none

/-- The reports counted into a registration during a run, by whomever. -/
def reports (i : Nat) (actions : List Action) : List Counters := actions.filterMap (counted i)

theorem countersAt_of_map {r r' : Registry} {i : Nat} (f : Registration → Registration)
    (h : r'.registrations[i]? = r.registrations[i]?.map f)
    (hf : ∀ g, (f g).counters = g.counters) : r'.countersAt i = r.countersAt i := by
  rw [Registry.countersAt, Registry.countersAt, h]
  cases r.registrations[i]? with
  | none => rfl
  | some g => exact hf g

/-- A fresh registration has counted nothing, as none at its position had. -/
theorem countersAt_append (r : Registry) (running : List (String × Nat)) (i : Nat) :
    { r with running, registrations := r.registrations ++ [({} : Registration)] }.countersAt i =
      r.countersAt i := by
  simp only [Registry.countersAt, List.getElem?_append, List.getElem?_singleton]
  split
  · rfl
  · next hi =>
    rw [List.getElem?_eq_none (Nat.le_of_not_lt hi)]
    split <;> rfl

theorem countersAt_publish {r : Registry} (hi : (r.registrations[i]?).isSome) (k : Nat)
    (report : Counters) : (r.publish k report).countersAt i =
      if k = i then (r.countersAt i).add report else r.countersAt i := by
  obtain ⟨g, hg⟩ := Option.isSome_iff_exists.mp hi
  rw [Registry.countersAt, Registry.registrations_publish, Registry.countersAt, hg]
  by_cases h : k = i
  · simp [h]
  · simp [h, Ne.symm h]

/-- What is found for a report exists, and no sum is beyond the largest word. -/
structure Counting (s : System) : Prop where
  consistent : s.Consistent
  found : ∀ i ∈ s.reporting, (s.registry.registrations[i]?).isSome
  capped : ∀ i, (s.registry.countersAt i).Capped

theorem counting_new (buffer : Nat) : (new buffer).Counting where
  consistent := consistent_new buffer
  found := by simp [new]
  capped i := ⟨Nat.zero_le _, Nat.zero_le _, Nat.zero_le _⟩

/-- A step counts one report in, or none. -/
theorem Counting.countersAt_after (hs : s.Counting) (ha : s.Allowed a) (i : Nat) :
    (s.after a).registry.countersAt i =
      (counted i a).elim (s.registry.countersAt i) (s.registry.countersAt i).add := by
  cases a with
  | start queryId =>
    rw [after_start]
    split
    · rfl
    · exact countersAt_append _ _ i
  | publish k report =>
    rw [counted]
    by_cases hk : k = i
    · subst hk
      rw [if_pos rfl]
      exact (countersAt_publish (hs.found k ha) k report).trans (if_pos rfl)
    · rw [if_neg hk]
      refine countersAt_of_map _ (s.registry.registrations_publish k report i) fun g => ?_
      rw [if_neg (Ne.symm hk)]
  | attach k =>
    refine countersAt_of_map _ (s.registry.registrations_attach k i) fun g => ?_
    split <;> rfl
  | closeAll k =>
    refine countersAt_of_map _ (s.registry.registrations_closeAll k i) fun g => ?_
    split <;> rfl
  | detach k =>
    refine countersAt_of_map _ (s.registry.registrations_detach k i) fun g => ?_
    split <;> rfl
  | findToReport | findToSubscribe | remove | close | take => rfl

theorem found_after (hs : s.Counting) (h : i ∈ (s.after a).reporting) :
    (s.registry.registrations[i]?).isSome := by
  cases a with
  | start queryId =>
    rw [after_start] at h
    split at h <;> exact hs.found i h
  | findToReport queryId =>
    rcases List.mem_append.mp h with hfound | hold
    · exact hs.consistent.running _ (mem_running_of_find? (Option.mem_toList.mp hfound))
    · exact hs.found i hold
  | publish k report => exact hs.found i (List.mem_of_mem_erase h)
  | findToSubscribe | attach | remove | closeAll | detach | close | take => exact hs.found i h

theorem Counting.after (hs : s.Counting) (ha : s.Allowed a) : (s.after a).Counting where
  consistent := hs.consistent.after ha
  found i hi := isSome_registrations_after (found_after hs hi) a
  capped i := by
    rw [hs.countersAt_after ha]
    cases counted i a with
    | none => exact hs.capped i
    | some report => exact Counters.capped_add _ report

/-- Counters only grow. -/
theorem Counting.atMost_after (hs : s.Counting) (ha : s.Allowed a) (i : Nat) :
    (s.registry.countersAt i).AtMost ((s.after a).registry.countersAt i) := by
  rw [hs.countersAt_after ha]
  cases counted i a with
  | none => exact .refl _
  | some report => exact (hs.capped i).atMost_add report

theorem Counting.countersAt_run? (hs : s.Counting) (h : s.run? actions = some s') (i : Nat) :
    s'.registry.countersAt i =
      (reports i actions).foldl Counters.add (s.registry.countersAt i) := by
  induction actions generalizing s with
  | nil =>
    cases h
    rfl
  | cons a actions ih =>
    obtain ⟨next, hstep, hrest⟩ := run?_cons h
    obtain ⟨ha, rfl⟩ := step_ok hstep
    rw [ih (hs.after ha) hrest, hs.countersAt_after ha, reports, reports, List.filterMap_cons]
    cases counted i a <;> rfl

/-! ## What subscribers see of them -/

/-- Snapshots in growing order, none of which is beyond the counters of the registration. -/
structure Ascending (s : System) (j : Nat) (snapshots : List Counters) : Prop where
  pairwise : snapshots.Pairwise AtMost
  reached : ∀ c ∈ snapshots, ∃ i, s.registry.registrationOf j = some i ∧
    c.AtMost (s.registry.countersAt i)

/-- What a step publishes to a subscription are the counters of its registration after it. -/
theorem mem_published (hs : s.Counting) (ha : s.Allowed a) {c : Counters}
    (hc : c ∈ published j s a) : ∃ i, s.registry.registrationOf j = some i ∧
      c = (s.after a).registry.countersAt i := by
  cases a with
  | publish i report =>
    rw [published] at hc
    split at hc
    · next hr =>
      rw [List.mem_singleton.mp hc]
      exact ⟨i, hr.1, ((countersAt_publish (hs.found i ha) i report).trans (if_pos rfl)).symm⟩
    · cases hc
  | start | findToReport | findToSubscribe | attach | remove | closeAll | detach | close | take =>
    cases hc

theorem pairwise_published (s : System) (a : Action) (j : Nat) :
    (published j s a).Pairwise AtMost := by
  unfold published
  split
  · split
    · exact List.pairwise_singleton _ _
    · exact List.Pairwise.nil
  · exact List.Pairwise.nil

theorem Ascending.after {p : List Counters} (hp : s.Ascending j p) (hs : s.Counting)
    (ha : s.Allowed a) : (s.after a).Ascending j (p ++ published j s a) := by
  constructor
  case pairwise =>
    refine List.pairwise_append.mpr ⟨hp.pairwise, pairwise_published s a j, ?_⟩
    intro c hc c' hc'
    obtain ⟨i, hi, hle⟩ := hp.reached c hc
    obtain ⟨k, hk, rfl⟩ := mem_published hs ha hc'
    cases hi.symm.trans hk
    exact hle.trans (hs.atMost_after ha i)
  case reached =>
    intro c hc
    rcases List.mem_append.mp hc with hold | hnew
    · obtain ⟨i, hi, hle⟩ := hp.reached c hold
      exact ⟨i, registrationOf_after hi a, hle.trans (hs.atMost_after ha i)⟩
    · obtain ⟨i, hi, rfl⟩ := mem_published hs ha hnew
      exact ⟨i, registrationOf_after hi a, .refl _⟩

theorem Ascending.run? {p : List Counters} (hp : s.Ascending j p) (hs : s.Counting)
    (h : s.run? actions = some s') : s'.Ascending j (p ++ s.history (published j) actions) := by
  induction actions generalizing s p with
  | nil =>
    cases h
    simpa [history] using hp
  | cons a actions ih =>
    obtain ⟨next, hstep, hrest⟩ := run?_cons h
    obtain ⟨ha, rfl⟩ := step_ok hstep
    rw [history, ← List.append_assoc]
    exact ih (hp.after hs ha) (hs.after ha) hrest

/-- **What reports add up to.** At each moment of every run, the counters of a registration are the
sums, as far as the largest word, and the greatest elapsed time of the reports counted into it, in
whatever order they came and whoever subscribed or left meanwhile; this is also the snapshot of a
query that is running. What a subscriber has taken and what waits for it never goes down in any of
the counters. -/
theorem counters_total {buffer : Nat} (h : (new buffer).run? actions = some s) :
    (∀ i, s.registry.countersAt i = Counters.total (reports i actions : Multiset Counters)) ∧
    (∀ queryId i, s.registry.find? queryId = some i →
      s.registry.snapshot queryId =
        .ok (Counters.total (reports i actions : Multiset Counters))) ∧
    ∀ j, ((new buffer).history (taken j) actions ++ (s.stream j).waiting).Pairwise AtMost := by
  have hcounters : ∀ i, s.registry.countersAt i =
      Counters.total (reports i actions : Multiset Counters) := by
    intro i
    rw [(counting_new buffer).countersAt_run? h, ← Counters.foldl_add]
    rfl
  refine ⟨hcounters, fun queryId i hi => ?_, fun j => ?_⟩
  · rw [Registry.snapshot, Registry.find, hi, ← hcounters]
    rfl
  · have hnone : (new buffer).Ascending j [] := ⟨List.Pairwise.nil, by simp⟩
    have hempty : ((new buffer).stream j).Delivers (max buffer 1) [] [] :=
      ⟨List.Sublist.refl _, List.suffix_refl _, Nat.zero_le _, rfl⟩
    have hpublished := (hnone.run? (counting_new buffer) h).pairwise
    exact hpublished.sublist (delivers_run? (consistent_new buffer) h hempty).order

end System

/-- Two reports overtake each other; with room for one snapshot, the reader misses the one between
those that it takes. -/
def overtaking : List Action :=
  [.start "q", .findToSubscribe "q", .attach 0, .findToReport "q",
    .publish 0 { readRows := 2, elapsedMs := 7 }, .take 0,
    .findToReport "q", .findToReport "q",
    .publish 0 { readRows := Decimal.uint64Max, elapsedMs := 9 },
    .publish 0 { readRows := 5, readBytes := 1, elapsedMs := 3 }, .take 0]

/-- The rows stop at the largest word, and the greatest time counts although it was not the last. -/
theorem counters_total_overtaking : ∃ s : System, (System.new 1).run? overtaking = some s ∧
    s.registry.snapshot "q" = .ok ⟨Decimal.uint64Max, 1, 0, 9⟩ ∧
    (System.new 1).history (System.taken 0) overtaking =
      [⟨2, 0, 0, 7⟩, ⟨Decimal.uint64Max, 1, 0, 9⟩] ∧
    ((System.new 1).history (System.taken 0) overtaking).Pairwise Counters.AtMost := by
  have hrun : ∃ s, (System.new 1).run? overtaking = some s ∧
      s.registry.find? "q" = some 0 ∧ (s.stream 0).waiting = [] := ⟨_, rfl, rfl, rfl⟩
  obtain ⟨s, h, hfound, hwaiting⟩ := hrun
  obtain ⟨-, hsnapshot, hascending⟩ := System.counters_total h
  refine ⟨s, h, ?_, by decide, ?_⟩
  · rw [hsnapshot "q" 0 hfound]
    rfl
  · have hpairwise := hascending 0
    rwa [hwaiting, List.append_nil] at hpairwise

end PanelQuery
