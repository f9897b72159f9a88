import PanelQuery.Text.Base64Url

/-! # Bytes through base64

Three bytes make four letters of six bits; one or two bytes that are left make two or three letters,
whose unused bits are zero. Reading takes exactly such texts apart again. -/

namespace PanelQuery.Text.Base64Url

/-- The letters in the order of their numbers. -/
def alphabet : List Char :=
  "ABCDEFGHIJKLMNOPQRSTUVWXYZabcdefghijklmnopqrstuvwxyz0123456789-_".toList

theorem letter_mem {n : Nat} (h : n < 64) : letter n ∈ alphabet := by
  have hall : ∀ m < 64, letter m ∈ alphabet := by decide +kernel
  exact hall n h

theorem sextet?_letter {n : Nat} (h : n < 64) : sextet? (letter n) = some n := by
  have hall : ∀ m < 64, sextet? (letter m) = some m := by decide +kernel
  exact hall n h

theorem ofNat_eq_of_toNat {b : UInt8} {n : Nat} (h : n = b.toNat) : UInt8.ofNat n = b := by
  rw [h, UInt8.ofNat_toNat]

/-- Everything written is in the alphabet. -/
theorem mem_alphabet_of_mem_encode (bytes : List UInt8) : ∀ c ∈ encode bytes, c ∈ alphabet := by
  fun_induction encode bytes with
  | case1 a b c rest n ih =>
    have ha := a.toNat_lt
    have hb := b.toNat_lt
    have hc := c.toNat_lt
    simp only [List.forall_mem_cons]
    refine ⟨?_, ?_, ?_, ?_, ih⟩ <;> exact letter_mem (by omega)
  | case2 a b n =>
    have ha := a.toNat_lt
    have hb := b.toNat_lt
    simp only [List.forall_mem_cons]
    refine ⟨?_, ?_, ?_, nofun⟩ <;> exact letter_mem (by omega)
  | case3 a =>
    have ha := a.toNat_lt
    simp only [List.forall_mem_cons]
    refine ⟨?_, ?_, nofun⟩ <;> exact letter_mem (by omega)
  | case4 => exact nofun

/-- Bytes come back from their letters. -/
theorem decode?_encode (bytes : List UInt8) : decode? (encode bytes) = some bytes := by
  fun_induction encode bytes with
  | case1 a b c rest n ih =>
    have ha := a.toNat_lt
    have hb := b.toNat_lt
    have hc := c.toNat_lt
    have hn : n / 262144 * 262144 + n / 4096 % 64 * 4096 + n / 64 % 64 * 64 + n % 64 = n := by
      omega
    rw [decode?, sextet?_letter (by omega), sextet?_letter (by omega), sextet?_letter (by omega),
      sextet?_letter (by omega), ih]
    simp only [Option.bind_eq_bind, Option.bind_some, Option.pure_def, hn]
    rw [ofNat_eq_of_toNat (b := a) (by omega), ofNat_eq_of_toNat (b := b) (by omega),
      ofNat_eq_of_toNat (b := c) (by omega)]
  | case2 a b n =>
    have ha := a.toNat_lt
    have hb := b.toNat_lt
    have hn : n / 1024 * 4096 + n / 16 % 64 * 64 + n % 16 * 4 = n * 4 := by omega
    have hzero : n * 4 % 4 = 0 := by omega
    rw [decode?, sextet?_letter (by omega), sextet?_letter (by omega), sextet?_letter (by omega)]
    simp only [Option.bind_eq_bind, Option.bind_some, Option.pure_def, hn, hzero, if_true]
    rw [ofNat_eq_of_toNat (b := a) (by omega), ofNat_eq_of_toNat (b := b) (by omega)]
  | case3 a =>
    have ha := a.toNat_lt
    have hn : a.toNat / 4 * 64 + a.toNat % 4 * 16 = a.toNat * 16 := by omega
    have hzero : a.toNat * 16 % 16 = 0 := by omega
    rw [decode?, sextet?_letter (by omega), sextet?_letter (by omega)]
    simp only [Option.bind_eq_bind, Option.bind_some, Option.pure_def, hn, hzero, if_true]
    rw [ofNat_eq_of_toNat (b := a) (by omega)]
  | case4 => rfl

end PanelQuery.Text.Base64Url
