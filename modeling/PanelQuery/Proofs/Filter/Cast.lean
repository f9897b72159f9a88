import PanelQuery.Proofs.Agree
import PanelQuery.Proofs.Decimal.Digits
import PanelQuery.Proofs.Decimal.Word
import PanelQuery.Query.Cast

/-! # What a cast gives

A cast of a single value gives a value of exactly the declared type, and to cast that value again
changes nothing. Booleans, integers and texts may also be written as texts in between: they are read
back as what they were. An array is checked item by item and stays as it is. -/

namespace PanelQuery

/-! ## Texts without blanks -/

theorem Text.trim_of_not_blank {s : String} (h : ∀ c ∈ s.toList, isBlank c = false) :
    trim s = s := by
  have hkeep : ∀ cs : List Char, (∀ c ∈ cs, isBlank c = false) → cs.dropWhile isBlank = cs := by
    intro cs hcs
    cases cs with
    | nil => rfl
    | cons c cs =>
      have hc : isBlank c = false := hcs c List.mem_cons_self
      rw [List.dropWhile_cons_of_neg (by simp [hc])]
  have hreverse : ∀ c ∈ s.toList.reverse, isBlank c = false := by
    intro c hc
    exact h c (List.mem_reverse.mp hc)
  rw [trim, trimChars, hkeep _ h, hkeep _ hreverse, List.reverse_reverse, String.ofList_toList]

theorem Text.isBlank_of_isDigit {c : Char} (h : c.isDigit = true) : isBlank c = false := by
  simp only [Char.isDigit, Bool.and_eq_true, decide_eq_true_eq, UInt32.le_iff_toNat_le,
    ge_iff_le] at h
  have hlow : 48 ≤ c.toNat := h.1
  have hhigh : c.toNat ≤ 57 := h.2
  rw [isBlank, List.contains_eq_mem, decide_eq_false_iff_not]
  intro hmem
  simp only [blanks, List.mem_cons, List.not_mem_nil, or_false] at hmem
  omega

/-- A written integer has no white space. -/
theorem Text.trim_toString (n : Int) : trim (toString n) = toString n := by
  refine trim_of_not_blank fun c hc => ?_
  rw [Decimal.toList_toString] at hc
  split at hc
  · exact isBlank_of_isDigit (Decimal.isDigit_digits _ c hc)
  · rcases List.mem_cons.mp hc with rfl | hc
    · rfl
    · exact isBlank_of_isDigit (Decimal.isDigit_digits _ c hc)

namespace FilterValue

variable {t : ScalarType} {d : DataType} {v r : FilterValue}

/-! ## Single values -/

/-- A single value of exactly the type. -/
inductive OfType : ScalarType → FilterValue → Prop
  | string (s : String) : OfType .string (.text s)
  | int64 (n : Int64) : OfType .int64 (.int n)
  | float64 (x : Float) : OfType .float64 (.float x)
  | bool (b : Bool) : OfType .bool (.bool b)

theorem ofType_of_castTo? (h : castTo? t v = some r) : OfType t r := by
  cases t with
  | bool =>
    cases v with
    | bool b =>
      cases h
      exact .bool b
    | text s =>
      rw [castTo?, Option.map_eq_some_iff] at h
      obtain ⟨b, -, rfl⟩ := h
      exact .bool b
    | _ => cases h
  | int64 =>
    cases v with
    | int n =>
      cases h
      exact .int64 n
    | float x =>
      rw [castTo?, Option.map_eq_some_iff] at h
      obtain ⟨n, -, rfl⟩ := h
      exact .int64 n
    | text s =>
      rw [castTo?, Option.map_eq_some_iff] at h
      obtain ⟨n, -, rfl⟩ := h
      exact .int64 n
    | _ => cases h
  | float64 =>
    cases v with
    | float x =>
      cases h
      exact .float64 x
    | int n =>
      cases h
      exact .float64 _
    | text s =>
      rw [castTo?, Option.map_eq_some_iff] at h
      obtain ⟨x, -, rfl⟩ := h
      exact .float64 x
    | _ => cases h
  | string =>
    cases v with
    | text s | int n | float x | bool b =>
      cases h
      exact .string _
    | _ => cases h

theorem OfType.castTo? (h : OfType t r) : castTo? t r = some r := by
  cases h <;> rfl

theorem OfType.isArray (h : OfType t r) : r.isArray = false := by
  cases h <;> rfl

/-- The text of a value of the type is read as the value. A double is left out: its text is the
shortest that is nearest to it, and a reader has to round. -/
theorem OfType.castTo?_plain (h : OfType t r) (ht : t ≠ .float64) :
    FilterValue.castTo? t (.text r.plain) = some r := by
  cases h with
  | string s => rfl
  | int64 n =>
    have hread : Decimal.int64OfText? (Text.trim (toString n.toInt)) = some n := by
      rw [Text.trim_toString, Decimal.int64OfText?, Decimal.integerOf?_toString, Option.bind_some,
        Decimal.int64Of?_toInt]
    rw [FilterValue.castTo?, plain, hread]
    rfl
  | float64 x => exact absurd rfl ht
  | bool b => cases b <;> rfl

theorem castScalar_ok : castScalar t v = .ok r ↔ FilterValue.castTo? t v = some r := by
  unfold castScalar
  cases FilterValue.castTo? t v <;> simp

/-! ## Typed casts -/

theorem cast_eq (hd : d.element = .scalar t) (v : FilterValue) : v.cast d = castOrCheck t v := by
  cases d with
  | unspecified => cases hd
  | scalar s =>
    cases hd
    rfl
  | array s =>
    cases hd
    rfl

theorem cast_ok_iff (hd : d.element = .scalar t) (hv : v.isArray = false) :
    v.cast d = .ok r ↔ FilterValue.castTo? t v = some r := by
  rw [cast_eq hd, ← castScalar_ok]
  cases v with
  | array items => cases hv
  | _ => rfl

/-- An item passes the check if it is a single value that can be cast. -/
theorem castScalar_ok_iff (hd : d.element = .scalar t) :
    castScalar t v = .ok r ↔ v.isArray = false ∧ v.cast d = .ok r := by
  cases v with
  | array items =>
    have hnone : FilterValue.castTo? t (.array items) = none := by cases t <;> rfl
    rw [castScalar_ok, hnone]
    simp [isArray]
  | _ => rw [castScalar_ok, cast_ok_iff hd rfl]; simp [isArray]

theorem checkItems_ok_iff {items : List FilterValue} :
    checkItems t items = .ok () ↔ ∀ item ∈ items, ∃ r, castScalar t item = .ok r := by
  induction items with
  | nil => simp [checkItems]
  | cons item items ih =>
    rw [List.forall_mem_cons, ← ih, checkItems]
    cases castScalar t item with
    | ok w => exact (and_iff_right ⟨w, rfl⟩).symm
    | error e => exact iff_of_false nofun fun h => by obtain ⟨⟨_, hw⟩, -⟩ := h; cases hw

theorem cast_array_iff (hd : d.element = .scalar t) (items : List FilterValue) :
    (FilterValue.array items).cast d = .ok r ↔ r = .array items ∧
      ∀ item ∈ items, item.isArray = false ∧ ∃ w, item.cast d = .ok w := by
  have hitems : checkItems t items = .ok () ↔
      ∀ item ∈ items, item.isArray = false ∧ ∃ w, item.cast d = .ok w := by
    simp only [checkItems_ok_iff, castScalar_ok_iff hd, exists_and_left]
  rw [cast_eq hd, castOrCheck, ← hitems]
  cases checkItems t items with
  | ok u => exact ⟨fun h => ⟨(Except.ok.inj h).symm, rfl⟩, fun h => congrArg Except.ok h.1.symm⟩
  | error e => exact iff_of_false nofun fun h => by cases h.2

/-- **Casts change nothing that was cast.** Under a declared type, what a cast gives for a single
value is a value of exactly that type, or of the type of the elements; to cast it again gives it
again, and so does the cast of its text, unless it is a double. An array is cast if and only if each
of its items is a single value that is cast by itself, and it stays as it is. -/
theorem cast_projects (hd : d ≠ .unspecified) :
    (∀ v r : FilterValue, v.isArray = false → v.cast d = .ok r → ∃ t, d.element = .scalar t ∧
      OfType t r ∧ r.cast d = .ok r ∧ (t ≠ .float64 → (FilterValue.text r.plain).cast d = .ok r)) ∧
    ∀ (items : List FilterValue) (r : FilterValue), (FilterValue.array items).cast d = .ok r ↔
      r = .array items ∧ ∀ item ∈ items, item.isArray = false ∧ ∃ w, item.cast d = .ok w := by
  obtain ⟨t, ht⟩ : ∃ t, d.element = .scalar t := by
    cases d with
    | unspecified => exact absurd rfl hd
    | scalar t | array t => exact ⟨t, rfl⟩
  refine ⟨fun v r hv h => ?_, fun items r => cast_array_iff ht items⟩
  have hr : OfType t r := ofType_of_castTo? ((cast_ok_iff ht hv).mp h)
  refine ⟨t, ht, hr, (cast_ok_iff ht hr.isArray).mpr hr.castTo?, fun hne => ?_⟩
  exact (cast_ok_iff ht rfl).mpr (hr.castTo?_plain hne)

/-- The lowest integer, from a text with blanks and by itself, and in arrays. -/
theorem cast_projects_lowest :
    let d : DataType := .array .int64
    let lowest : FilterValue := .int Int64.minValue
    d ≠ .unspecified ∧ (FilterValue.text "\t-9223372036854775808 ").cast d = .ok lowest ∧
      lowest.cast d = .ok lowest ∧ (FilterValue.text lowest.plain).cast d = .ok lowest ∧
      (FilterValue.array [lowest, .text "+7"]).cast d = .ok (.array [lowest, .text "+7"]) ∧
      ∀ r, (FilterValue.array [lowest, .array []]).cast d ≠ .ok r := by
  intro d lowest
  have hd : d ≠ .unspecified := nofun
  have hcast : (FilterValue.text "\t-9223372036854775808 ").cast d = .ok lowest := rfl
  obtain ⟨hsingle, harray⟩ := cast_projects hd
  obtain ⟨t, ht, -, hself, htext⟩ := hsingle _ _ rfl hcast
  cases ht
  refine ⟨hd, hcast, hself, htext nofun, (harray _ _).mpr ⟨rfl, ?_⟩, fun r hr => ?_⟩
  · intro item hitem
    rcases List.mem_cons.mp hitem with rfl | hitem
    · exact ⟨rfl, lowest, hself⟩
    · rw [List.mem_singleton.mp hitem]
      exact ⟨rfl, .int 7, rfl⟩
  · obtain ⟨hitem, -⟩ := ((harray _ r).mp hr).2 (.array []) (by simp)
    cases hitem

end FilterValue

end PanelQuery
