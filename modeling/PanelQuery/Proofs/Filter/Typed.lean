import PanelQuery.Filter.Where
import PanelQuery.Metrics.Lookup
import PanelQuery.Proofs.Filter.Value

/-! # Values that do not fit their key

An item is ill-typed if its value does not fit the declared type of its key, or if membership is
asked of something else than an array; an item that asks for presence has no value to check. The
main table, the body, the resource labels and the metric labels each have a compiler of items. Every
one of them succeeds on no item that is ill-typed. -/

namespace PanelQuery

/-- The value of the item is not one that its operator and the type of its key ask for. -/
inductive FilterItem.IllTyped (item : FilterItem) : Prop
  | value {cause : CastFault} (hop : item.op.isExistence = false)
      (h : item.value.cast item.key.dataType = .error cause)
  | member {negated : Bool} (hop : item.op = .member negated) (h : item.value.isArray = false)

/-! ## Checks -/

/-- A check leaves arrays arrays, and makes none. -/
theorem FilterValue.isArray_cast {t : DataType} {v w : FilterValue} (h : v.cast t = .ok w) :
    w.isArray = v.isArray := by
  have hatom : ∀ {u : FilterValue}, u.isAtom = true → u.isArray = false := by
    intro u hu
    cases u <;> first | rfl | cases hu
  cases v with
  | array items =>
    have hcheck : ∀ s, castOrCheck s (.array items) = .ok w → w.isArray = true := by
      intro s hs
      obtain ⟨_, -, hs⟩ := ok_of_bind hs
      cases hs
      rfl
    cases t with
    | unspecified =>
      cases h
      rfl
    | scalar s | array s => exact hcheck s h
  | _ =>
    rcases cast_cases h with rfl | hw | ⟨u, -, rfl⟩
    · rfl
    · exact hatom hw
    · rfl

namespace FilterItem

variable {item : FilterItem}

theorem valueAs_ok {t : DataType} {v : FilterValue} (h : item.valueAs t = .ok v) :
    item.value.cast t = .ok v := by
  unfold valueAs at h
  split at h
  · next w hw => rwa [Except.ok.inj h] at hw
  · cases h

theorem valueAs_error {t : DataType} {fault : Fault} (h : item.valueAs t = .error fault) :
    ∃ cause, item.value.cast t = .error cause ∧ fault = .castFailed item.key.name cause := by
  unfold valueAs at h
  split at h
  · cases h
  · next cause hc => exact ⟨cause, hc, (Except.error.inj h).symm⟩

theorem itemsOf_ok {v : FilterValue} {items : List FilterValue} (h : item.itemsOf v = .ok items) :
    v.isArray = true := by
  cases v <;> first | rfl | cases h

theorem itemsOf_error {v : FilterValue} {fault : Fault} (h : item.itemsOf v = .error fault) :
    v.isArray = false ∧ fault = .arrayRequired item.op item.key.name := by
  cases v <;> first | exact ⟨rfl, (Except.error.inj h).symm⟩ | cases h

/-- What is tested has passed the checks. -/
theorem test_ok {t : Test} (h : item.test = .ok t) : item.op.isExistence = true ∨
    ∃ v, item.checkedValue = .ok v ∧ ∀ negated, item.op = .member negated → v.isArray = true := by
  have hvalue : ∀ {f : FilterValue → Test}, (item.checkedValue >>= fun v => .ok (f v)) = .ok t →
      (∀ negated, item.op ≠ .member negated) →
      ∃ v, item.checkedValue = .ok v ∧ ∀ negated, item.op = .member negated → v.isArray = true := by
    intro f hf hop
    obtain ⟨v, hv, -⟩ := ok_of_bind hf
    exact ⟨v, hv, fun negated hm => absurd hm (hop negated)⟩
  unfold test at h
  cases hop : item.op with
  | presence negated => exact .inl rfl
  | member negated =>
    simp only [hop] at h
    obtain ⟨v, hv, h⟩ := ok_of_bind h
    obtain ⟨items, hi, -⟩ := ok_of_bind h
    exact .inr ⟨v, hv, fun _ _ => itemsOf_ok hi⟩
  | compare c | like negated | contains negated | regex negated | has negated =>
    simp only [hop] at h
    exact .inr (hop ▸ hvalue h (by simp [hop]))

/-- A test fails for a value that is not of the type of the key or no array, and names the key. -/
theorem test_error {fault : Fault} (h : item.test = .error fault) :
    (∃ cause, item.op.isExistence = false ∧ item.value.cast item.key.dataType = .error cause ∧
        fault = .castFailed item.key.name cause) ∨
      ∃ negated, item.op = .member negated ∧ item.value.isArray = false ∧
        fault = .arrayRequired item.op item.key.name := by
  have hchecked : item.checkedValue = .error fault → ∃ cause,
      item.value.cast item.key.dataType = .error cause ∧ fault = .castFailed item.key.name cause :=
    valueAs_error
  unfold test at h
  cases hop : item.op with
  | presence negated =>
    simp only [hop] at h
    cases h
  | member negated =>
    simp only [hop] at h
    rcases error_of_bind h with hv | ⟨v, hv, h⟩
    · exact .inl ((hchecked hv).imp fun _ hc => ⟨rfl, hc⟩)
    rcases error_of_bind h with hi | ⟨items, -, h⟩
    · obtain ⟨hv', hfault⟩ := itemsOf_error hi
      rw [FilterValue.isArray_cast (valueAs_ok hv)] at hv'
      exact .inr ⟨negated, rfl, hv', hop ▸ hfault⟩
    · cases h
  | compare c | like negated | contains negated | regex negated | has negated =>
    simp only [hop] at h
    rcases error_of_bind h with hv | ⟨v, -, h⟩
    · exact .inl ((hchecked hv).imp fun _ hc => ⟨rfl, hc⟩)
    · cases h

/-- An item can be tested if and only if it is not ill-typed. -/
theorem test_ok_iff : (∃ t, item.test = .ok t) ↔ ¬ item.IllTyped := by
  constructor
  · rintro ⟨t, ht⟩ hill
    rcases test_ok ht with hop | ⟨v, hv, hm⟩
    · cases hill with
      | value hop' _ => rw [hop] at hop'; cases hop'
      | member hop' _ => rw [hop'] at hop; cases hop
    have hcast := valueAs_ok hv
    cases hill with
    | value _ h => rw [hcast] at h; cases h
    | member hop h =>
      rw [← FilterValue.isArray_cast hcast, hm _ hop] at h
      cases h
  · intro hill
    cases ht : item.test with
    | ok t => exact ⟨t, rfl⟩
    | error fault =>
      rcases test_error ht with ⟨cause, hop, hcast, -⟩ | ⟨negated, hop, harray, -⟩
      · exact absurd (.value hop hcast) hill
      · exact absurd (.member hop harray) hill

/-- Presence has no value to check. -/
theorem not_illTyped_of_presence (h : item.op.isExistence = true) : ¬ item.IllTyped := by
  rintro (⟨hop, -⟩ | ⟨hop, -⟩)
  · rw [h] at hop
    cases hop
  · rw [hop] at h
    cases h

end FilterItem

/-! ## Compilers -/

variable {item : FilterItem}

/-- An array field is asked for members of its element type, checked like the type itself. -/
theorem Body.typed_of_condition {sql : Sql} (h : condition item = .ok sql) : ¬ item.IllTyped := by
  have htest : ∀ {f : Test → Except Fault Sql}, item.test >>= f = .ok sql → ¬ item.IllTyped := by
    intro f hf
    obtain ⟨t, ht, -⟩ := ok_of_bind hf
    exact FilterItem.test_ok_iff.mp ⟨t, ht⟩
  unfold condition at h
  obtain ⟨field, -, h⟩ := ok_of_bind h
  cases hop : item.op with
  | presence negated => exact FilterItem.not_illTyped_of_presence (by rw [hop]; rfl)
  | has negated =>
    simp only [hop] at h
    split at h
    · obtain ⟨v, hv, -⟩ := ok_of_bind h
      have hcast := FilterItem.valueAs_ok hv
      rw [FilterValue.cast_element] at hcast
      rintro (⟨-, herror⟩ | ⟨hmember, -⟩)
      · rw [hcast] at herror
        cases herror
      · rw [hop] at hmember
        cases hmember
    · exact htest h
  | compare c | like negated | contains negated | regex negated | member negated =>
    simp only [hop] at h
    split at h
    · cases h
    · exact htest h

theorem Schema.typed_of_itemCondition {s : Schema} {sql : Sql}
    (h : s.itemCondition item = .ok sql) : ¬ item.IllTyped := by
  unfold itemCondition at h
  split at h
  · exact Body.typed_of_condition h
  · obtain ⟨t, ht, -⟩ := ok_of_bind h
    exact FilterItem.test_ok_iff.mp ⟨t, ht⟩

theorem FilterItem.typed_of_labelTest {t : LabelTest} (h : item.labelTest = .ok t) :
    ¬ item.IllTyped := by
  obtain ⟨test, ht, -⟩ := ok_of_bind h
  exact test_ok_iff.mp ⟨test, ht⟩

namespace Metrics

theorem typed_of_labelCondition {p : Option Sql} (h : labelCondition item = .ok p) :
    ¬ item.IllTyped := by
  obtain ⟨t, ht, -⟩ := ok_of_bind h
  exact FilterItem.test_ok_iff.mp ⟨t, ht⟩

/-- A metric label is refused for its value or for its operator. -/
theorem labelCondition_error {fault : Fault} (h : labelCondition item = .error fault) :
    item.test = .error fault ∨ fault = .labelOperator item.op := by
  rcases error_of_bind h with ht | ⟨t, -, ht⟩
  · exact .inl ht
  · cases t <;> cases ht
    exact .inr rfl

end Metrics

end PanelQuery
