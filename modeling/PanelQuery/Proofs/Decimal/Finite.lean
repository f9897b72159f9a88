import PanelQuery.Json.Token
import PanelQuery.Proofs.Decimal.Binary64

/-! # Numbers read from a text are finite

Whatever a number looks like, the double it is read as is neither infinite nor undefined: products
and quotients with a power of ten are undefined for no number, and infinite ones are refused. -/

namespace PanelQuery.Decimal

open Float.Model Float.Model.UnpackedFloat

/-! ## Packed numbers -/

theorem isNaN_packComponents (s : Sign) (e : BitVec 11) (m : BitVec 52) :
    (UnpackedFloat.unpack Format.binary64 (packComponents Format.binary64 s e m)).isNaN =
      (e == -1#11 && m != 0#52) := by
  simp only [UnpackedFloat.unpack, unpackMantissa_packComponents, unpackExponent_packComponents]
  split
  · next he =>
    split
    · next hm => simp [he, hm, UnpackedFloat.isNaN]
    · next hm => simp [he, hm, UnpackedFloat.isNaN]
  · next he =>
    have he' : (e == -1#11) = false := by simpa using he
    rw [he', Bool.false_and]
    split
    · split <;> rfl
    · rfl

theorem isFinite_packComponents (s : Sign) (e : BitVec 11) (m : BitVec 52) :
    (UnpackedFloat.unpack Format.binary64 (packComponents Format.binary64 s e m)).isFinite =
      (e != -1#11) := by
  simp only [UnpackedFloat.unpack, unpackMantissa_packComponents, unpackExponent_packComponents]
  split
  · next he =>
    split <;> simp [he, UnpackedFloat.isFinite]
  · next he =>
    have he' : (e != -1#11) = true := by simpa using he
    rw [he']
    split
    · split <;> rfl
    · rfl

/-- A finite number is stored as one, unless its exponent is too large. -/
theorem pack_finite (s : Sign) {m : Nat} {e : Int} (hm : 0 < m) :
    (971 < e ∧ UnpackedFloat.pack Format.binary64 (.finite s m e hm) =
        packComponents Format.binary64 s (-1#11) 0#52) ∨
      ∃ exponent mantissa, exponent ≠ -1#11 ∧
        UnpackedFloat.pack Format.binary64 (.finite s m e hm) =
          packComponents Format.binary64 s exponent mantissa := by
  have hbias : e + Format.binary64.exponentBias + (52 : Nat) = e + 1075 := by
    rw [Int.add_assoc]
    rfl
  simp only [UnpackedFloat.pack, hbias]
  split
  · next hlarge => exact .inl ⟨by omega, rfl⟩
  next hsmall =>
  split
  · refine .inr ⟨_, _, fun he => ?_, rfl⟩
    have hvalue := congrArg BitVec.toNat he
    rw [BitVec.toNat_ofNat, Nat.mod_eq_of_lt (by omega), show (-1#11).toNat = 2047 from rfl]
      at hvalue
    omega
  · exact .inr ⟨_, _, by decide, rfl⟩

/-- Packing makes no number undefined. -/
theorem isNaN_pack {u : UnpackedFloat} (h : u.isNaN = false) :
    (Float.Model.pack u).isNaN = false := by
  change (UnpackedFloat.unpack Format.binary64 (UnpackedFloat.pack Format.binary64 u)).isNaN = false
  cases u with
  | notANumber => cases h
  | infinity s => exact isNaN_packComponents ..
  | zero s => exact isNaN_packComponents ..
  | finite s m e hm =>
    obtain ⟨-, hpack⟩ | ⟨exponent, mantissa, he, hpack⟩ := pack_finite s hm (e := e)
    · rw [hpack, isNaN_packComponents]
      rfl
    · rw [hpack, isNaN_packComponents, beq_eq_false_iff_ne.mpr he, Bool.false_and]

theorem exponent_le_of_unpack {b : BitVec 64} {s : Sign} {m : Nat} {e : Int} {hm : 0 < m}
    (h : UnpackedFloat.unpack Format.binary64 b = .finite s m e hm) : e ≤ 971 := by
  have hstored : ∀ v : BitVec 11, v ≠ -1#11 → v.toNat ≤ 2046 := by
    intro v hv
    have hlt := v.isLt
    by_contra hmax
    exact hv (BitVec.eq_of_toNat_eq (by rw [show (-1#11).toNat = 2047 from rfl]; omega))
  simp only [UnpackedFloat.unpack] at h
  split at h
  · split at h <;> cases h
  next hfinite =>
  have hle := hstored _ hfinite
  split at h
  · next hzero =>
    split at h
    · cases h
    · cases h
      rw [hzero]
      decide
  · cases h
    rw [show (Format.binary64.exponentBias + Format.binary64.mantissaBitsWithoutImplicit : Int) =
      1075 from rfl]
    omega

/-! ## Operations -/

theorem isFinite_iff (x : Float) : x.isFinite = true ↔ x.isInf = false ∧ x.isNaN = false := by
  change x.toModel.unpack.isFinite = true ↔ x.toModel.unpack.isInf = false ∧
    x.toModel.unpack.isNaN = false
  cases x.toModel.unpack <;> simp [UnpackedFloat.isFinite, UnpackedFloat.isInf, UnpackedFloat.isNaN]

theorem isFinite_neg {x : Float} (h : x.isFinite = true) : (-x).isFinite = true := by
  change (UnpackedFloat.unpack Format.binary64
    (UnpackedFloat.pack Format.binary64 x.toModel.unpack.neg)).isFinite = true
  change x.toModel.unpack.isFinite = true at h
  cases hx : x.toModel.unpack with
  | notANumber => rw [hx] at h; cases h
  | infinity s => rw [hx] at h; cases h
  | zero s => exact isFinite_packComponents ..
  | finite s m e hm =>
    obtain ⟨hlarge, -⟩ | ⟨exponent, mantissa, he, hpack⟩ := pack_finite (-s) hm (e := e)
    · exact absurd (exponent_le_of_unpack hx) (by omega)
    · rw [UnpackedFloat.neg, hpack, isFinite_packComponents, bne_iff_ne]
      exact he

theorem isFinite_negateIf {x : Float} (negative : Bool) (h : x.isFinite = true) :
    (negateIf negative x).isFinite = true := by
  cases negative with
  | false => exact h
  | true => exact isFinite_neg h

/-- A finite number other than zero. -/
def isFactor (x : Float) : Bool :=
  match x.toModel.unpack with
  | .finite .. => true
  | _ => false

theorem exists_of_isFactor {x : Float} (h : isFactor x = true) :
    ∃ s m e hm, x.toModel.unpack = .finite s m e hm := by
  unfold isFactor at h
  split at h
  · next s m e hm hx => exact ⟨s, m, e, hm, hx⟩
  · cases h

theorem isNaN_roundWithAccuracy (s : Sign) (m : Nat) (e : Int) (acc : Accuracy) :
    (roundWithAccuracy Format.binary64 s m e acc).isNaN = false := by
  unfold roundWithAccuracy
  dsimp only
  split <;> rfl

theorem isNaN_mul {x y : Float} (hx : x.isNaN = false) (hy : isFactor y = true) :
    (x * y).isNaN = false := by
  obtain ⟨s, m, e, hm, hy⟩ := exists_of_isFactor hy
  have hmul : x * y = ⟨Float.Model.pack
      (UnpackedFloat.mul Format.binary64 x.toModel.unpack y.toModel.unpack)⟩ := rfl
  change x.toModel.unpack.isNaN = false at hx
  rw [hmul, hy]
  refine isNaN_pack ?_
  cases hu : x.toModel.unpack with
  | notANumber => rw [hu] at hx; cases hx
  | infinity s => rfl
  | zero s => rfl
  | finite s m e hm => exact isNaN_roundWithAccuracy ..

theorem isNaN_div {x y : Float} (hx : x.isNaN = false) (hy : isFactor y = true) :
    (x / y).isNaN = false := by
  obtain ⟨s, m, e, hm, hy⟩ := exists_of_isFactor hy
  have hdiv : x / y = ⟨Float.Model.pack
      (UnpackedFloat.div Format.binary64 x.toModel.unpack y.toModel.unpack)⟩ := rfl
  change x.toModel.unpack.isNaN = false at hx
  rw [hdiv, hy]
  refine isNaN_pack ?_
  cases hu : x.toModel.unpack with
  | notANumber => rw [hu] at hx; cases hx
  | infinity s => rfl
  | zero s => rfl
  | finite s m e hm => exact isNaN_roundWithAccuracy ..

/-! ## Integers -/

theorem Normal.isFinite (x : Normal) : x.float.isFinite = true := by
  change x.float.toModel.unpack.isFinite = true
  rw [x.unpack_float]
  rfl

theorem isFinite_floatOfInt {n : Int} (hmin : 0 ≤ n) (hmax : n ≤ uint64Max) :
    (floatOfInt n).isFinite = true := by
  rcases Int.lt_or_eq_of_le hmin with hpos | rfl
  · obtain ⟨x, hx, -⟩ := exists_floatOfInt hpos (by rw [uint64Max] at hmax; omega)
    rw [hx]
    exact x.isFinite
  · decide +kernel

end PanelQuery.Decimal

namespace PanelQuery.Json

open Decimal
open Float.Model Float.Model.UnpackedFloat

/-! ## Numerals -/

/-- A power of ten beyond the exact ones is rounded once. -/
theorem ofScientific_power {n : Nat} (hexact : 22 < n) (hn : n ≤ 2048) :
    Float.ofScientific 1 false n = ⟨Float.Model.pack
      (roundWithAccuracy Format.binary64 .positive (2 ^ 53 * 10 ^ n) (-53) .exact)⟩ := by
  have hlarge : ¬ (n : Int) > 2 ^ 11 := by omega
  have hsmall : ¬ (n : Int) < -(2 ^ 11 + (1 : Nat).log2) := by omega
  have hmul : UnpackedFloat.ofScientific Format.binary64 1 n =
      roundWithAccuracy Format.binary64 .positive (2 ^ 53 * 10 ^ n) (-53 + 0) .exact := by
    simp only [UnpackedFloat.ofScientific, dif_neg Nat.one_ne_zero]
    rw [if_neg hlarge, if_neg hsmall, if_pos (Int.natCast_nonneg n)]
    rfl
  rw [Int.add_zero] at hmul
  rw [Float.ofScientific, dif_neg (fun h => by omega), ← hmul]
  rfl

theorem tenTo_le_tenTo {a b : Nat} (h : a ≤ b) : tenTo a ≤ tenTo b :=
  Nat.pow_le_pow_right (by decide) h

/-- The powers of ten that fit a double are neither zero nor infinite. -/
theorem isFactor_power {n : Nat} (h : n ≤ 308) :
    isFactor (Float.ofScientific 1 false n) = true := by
  have hexact : ∀ n < 23, isFactor (Float.ofScientific 1 false n) = true := by decide +kernel
  by_cases hsmall : n < 23
  · exact hexact n hsmall
  by_cases hlast : n = 308
  · rw [hlast]
    decide +kernel
  -- The last power has one bit more than `exists_rounded` allows.
  have hfull : 2 ^ 53 ≤ 2 ^ 53 * 10 ^ n := Nat.le_mul_of_pos_right _ (Nat.pow_pos (by decide))
  have hne : 2 ^ 53 * 10 ^ n ≠ 0 := by omega
  have hpower : tenTo n ≤ tenTo 307 := tenTo_le_tenTo (by omega)
  have hbits : 2 ^ 53 * 10 ^ n < 2 ^ 1076 := by
    have hlimit : 2 ^ 53 * tenTo 307 < 2 ^ 1076 := by decide +kernel
    exact Nat.lt_of_le_of_lt (Nat.mul_le_mul_left _ hpower) hlimit
  have hlog := (Nat.log2_lt hne).mpr hbits
  have hlow := (Nat.le_log2 hne).mpr hfull
  obtain ⟨x, hx, -⟩ := exists_rounded (e := -53) .exact (by omega : 2 ^ 52 ≤ 2 ^ 53 * 10 ^ n)
    (by omega) (by omega)
  have hfloat : Float.ofScientific 1 false n = x.float := by
    rw [ofScientific_power (by omega) (by omega), hx]
    rfl
  rw [hfloat, isFactor, x.unpack_float]
  rfl

/-- A scaled number is finite: infinite results are refused, and no other can be undefined. -/
theorem isFinite_scale {x y : Float} {e : Int} (hx : x.isFinite = true)
    (h : scale x e = some y) : y.isFinite = true := by
  have hdefined := ((isFinite_iff x).mp hx).2
  have hchecked : ∀ {z : Float}, z.isNaN = false →
      (if z.isInf then none else some z) = some y → y.isFinite = true := by
    intro z hz hy
    split at hy
    · cases hy
    · next hinf =>
      cases hy
      exact (isFinite_iff _).mpr ⟨by simpa using hinf, hz⟩
  unfold scale at h
  dsimp only at h
  split at h
  · split at h
    · next hn => exact hchecked (isNaN_div hdefined (isFactor_power hn)) h
    split at h
    · next hn =>
      exact hchecked (isNaN_div (isNaN_div hdefined (isFactor_power (Nat.le_refl _)))
        (isFactor_power (by omega))) h
    · cases h
      decide +kernel
  split at h
  · cases h
    exact hx
  split at h
  · cases h
  · next he => exact hchecked (isNaN_mul hdefined (isFactor_power (by omega))) h

theorem takeWord_le {n : Nat} (h : n ≤ uint64Max) (ds : List Char) :
    (takeWord n ds).1 ≤ uint64Max := by
  induction ds generalizing n with
  | nil => exact h
  | cons d ds ih =>
    simp only [takeWord]
    split
    · exact h
    · exact ih (by omega)

/-- The value of a numeral is finite. -/
theorem isFinite_floatOf {n : Numeral} {x : Float} (h : floatOf n = some x) :
    x.isFinite = true := by
  simp only [floatOf, Option.map_eq_some_iff] at h
  obtain ⟨y, hy, rfl⟩ := h
  have hword := takeWord_le (takeWord_le (Nat.zero_le _) n.whole) n.fraction
  exact isFinite_negateIf _ (isFinite_scale (isFinite_floatOfInt (by omega) (by omega)) hy)

end PanelQuery.Json
