import PanelQuery.Proofs.Filter.Labels

/-! # What hints take away

A test of a label has a predicate, which looks the label up, and may have a hint, a pattern on the
text of all labels by which an index can skip entries. It is said here exactly for which labels a
hint takes away what the predicate admits. A hint that the text has to match does so only where the
tested label is missing. A hint that the text must not match does so wherever the value is found
behind the key, also in another label. -/

namespace PanelQuery

open Sql (Stretch likes likes_anywhere likes_append likes_percent likes_self)
open Sql.Precedence (anyHolds_eq_any)

/-! ## Mentioned texts -/

namespace LabelSet

variable {regex : String → String → Bool} {f : LabelSet} {key : String}

/-- The texts stand in the lowered labels one after the other, each read as a pattern. -/
def mentions (f : LabelSet) (stretches : List String) : Bool :=
  likes ('%' :: stretches.flatMap fun s => s.toList ++ ['%']) f.loweredText

theorem truth_hint (negated : Bool) (stretches : List String) :
    f.truth regex (LabelTest.hintSql negated stretches) = (negated ^^ f.mentions stretches) := by
  have hc : likes (contentOf (.fixed "%" :: stretches.flatMap fun s =>
      [Stretch.given s, .fixed "%"])).toList f.loweredText = f.mentions stretches := by
    simp [mentions, contentOf, Stretch.content, List.flatMap_assoc]
  cases negated
  · exact hc.trans (Bool.false_xor _).symm
  · exact (congrArg Bool.not hc).trans (Bool.true_xor _).symm

theorem mem_of_value? {g : LabelSet} {v : String} (h : g.value? key = some v) :
    (key, v) ∈ g.labels := by
  obtain ⟨front, back, hl, -⟩ := List.lookup_eq_some_iff.mp h
  simp [hl]

theorem mentions_key {v : String} (hv : f.lowered.value? key = some v) :
    f.mentions [key] = true := by
  obtain ⟨before, between, after, ht⟩ := text_of_mem (mem_of_value? hv)
  rw [text_lowered] at ht
  rw [mentions, List.flatMap_singleton, ← List.cons_append, likes_anywhere]
  exact ⟨before, key.toList, between ++ v.toList ++ after, by simp [ht], likes_self _⟩

/-- A label is mentioned with every pattern that a stretch of its value matches. -/
theorem mentions_value {v s : String} (hv : f.lowered.value? key = some v)
    (h : likes ('%' :: s.toList ++ ['%']) v.toList = true) : f.mentions [key, s] = true := by
  obtain ⟨before, between, after, ht⟩ := text_of_mem (mem_of_value? hv)
  rw [text_lowered] at ht
  obtain ⟨front, found, back, hs, hp⟩ := likes_anywhere.mp h
  have hk : likes (key.toList ++ '%' :: s.toList) (key.toList ++ (between ++ front ++ found)) =
      true :=
    likes_append.mpr ⟨_, _, rfl, likes_self _, likes_percent.mpr ⟨between ++ front, found, rfl, hp⟩⟩
  have hm : mentions f [key, s] =
      likes ('%' :: (key.toList ++ '%' :: s.toList) ++ ['%']) f.loweredText := by
    simp [mentions]
  rw [hm, likes_anywhere]
  exact ⟨before, _, back ++ after, by simp [ht, hs], hk⟩

theorem mentions_self {v : String} (hv : f.lowered.value? key = some v) :
    f.mentions [key, v] = true :=
  mentions_value hv (likes_anywhere.mpr ⟨[], v.toList, [], by simp, likes_self _⟩)

end LabelSet

/-! ## What a hint takes away -/

namespace LabelTest

open LabelSet

variable {regex : String → String → Bool} {f : LabelSet} {key : String}

/-- The labels for which the hint of a test fails where the predicate may hold. -/
def Pruned (f : LabelSet) (key : String) : LabelTest → Prop
  | .compare .ne v | .like true _ v => f.mentions [key, v.plain] = true
  | .compare .eq v | .like false _ v =>
    f.lowered.value? key = none ∧ ¬ f.mentions [key, v.plain] = true
  | .member false items =>
    f.lowered.value? key = none ∧ ¬ ∃ v ∈ items, f.mentions [key, v.plain] = true
  | _ => False

theorem holds_of_hint_none {t : LabelTest} (h : t.hint key = none) :
    t.Holds (f.truth regex) key ↔ f.truth regex (t.predicate key) = true := by
  simp [Holds, conditions, h, Sql.Condition.holds]

theorem holds_of_hint {t : LabelTest} {c : Sql.Condition} (h : t.hint key = some c) :
    t.Holds (f.truth regex) key ↔
      f.truth regex (t.predicate key) = true ∧ c.holds (f.truth regex) = true := by
  simp [Holds, conditions, h, Sql.Condition.holds]

/-- A hint that holds wherever the label is present and the predicate holds takes away only labels
without the tested one. -/
theorem and_iff_of_present {P M : Prop} (h : ∀ v, f.lowered.value? key = some v → P → M) :
    P ∧ M ↔ P ∧ ¬ (f.lowered.value? key = none ∧ ¬ M) := by
  refine and_congr_right fun hp => ⟨fun hm hn => hn.2 hm, fun hn => ?_⟩
  by_contra hm
  exact hn ⟨Option.eq_none_iff_forall_ne_some.mpr fun v hv => hm (h v hv hp), hm⟩

theorem value_of_value? {v : String} (h : f.lowered.value? key = some v) :
    f.lowered.value key = v := by
  rw [value, h, Option.getD_some]

theorem holds_iff_eq (v : FilterValue) : (compare .eq v).Holds (f.truth regex) key ↔
    f.truth regex ((compare .eq v).predicate key) = true ∧ ¬ (compare .eq v).Pruned f key := by
  rw [holds_of_hint rfl, Sql.Condition.holds, truth_hint, Bool.false_xor]
  refine and_iff_of_present fun w hw hp => ?_
  rw [truth_compare, value_of_value? hw] at hp
  cases v with
  | text s =>
    obtain rfl : w = s := by simpa [FilterValue.text?, Comparison.relates] using hp
    exact mentions_self hw
  | _ => cases hp

theorem holds_iff_like (anywhere : Bool) (v : FilterValue) :
    (like false anywhere v).Holds (f.truth regex) key ↔
      f.truth regex ((like false anywhere v).predicate key) = true ∧
        ¬ (like false anywhere v).Pruned f key := by
  rw [holds_of_hint rfl, Sql.Condition.holds, truth_hint, Bool.false_xor]
  refine and_iff_of_present fun w hw hp => mentions_value hw ?_
  rw [truth_like, value_of_value? hw, Bool.false_xor] at hp
  cases anywhere with
  | true => exact hp
  | false => exact likes_anywhere.mpr ⟨[], w.toList, [], by simp, hp⟩

theorem holds_iff_member (items : List FilterValue) :
    (member false items).Holds (f.truth regex) key ↔
      f.truth regex ((member false items).predicate key) = true ∧
        ¬ (member false items).Pruned f key := by
  cases items with
  | nil =>
    have hp : ¬ f.truth regex ((member false []).predicate key) = true := by
      rw [truth_member]
      exact nofun
    exact (holds_of_hint_none rfl).trans (iff_of_false hp fun h => hp h.1)
  | cons item items =>
    have hh : (Sql.Condition.group .or ((item :: items).map fun v =>
        .atom (hintSql false [key, v.plain]))).holds (f.truth regex) = true ↔
          ∃ v ∈ item :: items, f.mentions [key, v.plain] = true := by
      rw [Sql.Condition.holds, anyHolds_eq_any, List.any_map, List.any_eq_true]
      simp only [Function.comp_apply, Sql.Condition.holds, truth_hint, Bool.false_xor]
    rw [holds_of_hint rfl, hh]
    refine and_iff_of_present fun w hw hp => ?_
    rw [truth_member, value_of_value? hw, Bool.false_xor, decide_eq_true_eq,
      List.mem_filterMap] at hp
    obtain ⟨v, hv, hs⟩ := hp
    cases v with
    | text s =>
      cases hs
      exact ⟨_, hv, mentions_self hw⟩
    | _ => cases hs

theorem holds_iff (t : LabelTest) : t.Holds (f.truth regex) key ↔
    f.truth regex (t.predicate key) = true ∧ ¬ t.Pruned f key := by
  have hnegated : ∀ v : FilterValue, f.truth regex (hintSql true [key, v.plain]) = true ↔
      ¬ f.mentions [key, v.plain] = true := by simp [truth_hint]
  have hplain : ∀ {t : LabelTest}, t.hint key = none → ¬ t.Pruned f key →
      (t.Holds (f.truth regex) key ↔
        f.truth regex (t.predicate key) = true ∧ ¬ t.Pruned f key) := fun hn hp => by
    rw [holds_of_hint_none hn, and_iff_left hp]
  cases t with
  | compare c v =>
    cases c with
    | eq => exact holds_iff_eq v
    | ne =>
      rw [holds_of_hint rfl, Sql.Condition.holds]
      exact and_congr_right fun _ => hnegated v
    | _ => exact hplain rfl id
  | like negated anywhere v =>
    cases negated with
    | false => exact holds_iff_like anywhere v
    | true =>
      rw [holds_of_hint rfl, Sql.Condition.holds]
      exact and_congr_right fun _ => hnegated v
  | regex negated pattern => exact hplain rfl id
  | member negated items =>
    cases negated with
    | false => exact holds_iff_member items
    | true => exact hplain rfl id
  | presence negated =>
    cases negated with
    | true => exact hplain rfl id
    | false =>
      rw [holds_of_hint rfl, Sql.Condition.holds, truth_hint, Bool.false_xor]
      refine and_congr_right fun hp => iff_of_true ?_ id
      rw [truth_presence, Bool.false_xor] at hp
      obtain ⟨v, hv⟩ := Option.isSome_iff_exists.mp hp
      exact mentions_key hv

end LabelTest

/-- A resource item holds for labels if the predicate of its test does, and its hint takes nothing
away. -/
theorem FilterItem.holdsFor_iff (item : FilterItem) (f : LabelSet)
    (regex : String → String → Bool) :
    item.HoldsFor (f.truth regex) ↔ ∃ t, item.labelTest = .ok t ∧
      f.truth regex (t.predicate (Text.lowercase item.key.name)) = true ∧
        ¬ t.Pruned f (Text.lowercase item.key.name) := by
  simp only [FilterItem.HoldsFor, LabelTest.holds_iff]

/-- Labels with another value are not taken when a further label has the unwanted one. -/
theorem not_holdsFor_otherLabel :
    let key : AttributeKey := ⟨"x", .scalar .string, .resource, false, false⟩
    let item : FilterItem := ⟨key, .compare .ne, .text "abc"⟩
    let f : LabelSet := ⟨[("x", "1"), ("y", "abc")], by decide⟩
    (∃ t, item.labelTest = .ok t ∧ f.truth (fun _ _ => false) (t.predicate "x") = true) ∧
      ¬ item.HoldsFor (f.truth fun _ _ => false) := by
  intro key item f
  refine ⟨⟨.compare .ne (.text "abc"), rfl, by decide⟩, ?_⟩
  rw [FilterItem.holdsFor_iff]
  rintro ⟨t, ht, -, hp⟩
  cases ht
  have hmentions : f.mentions [Text.lowercase "x", Text.lowercase "abc"] = true := by
    decide
  exact hp hmentions

end PanelQuery
