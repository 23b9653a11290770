import Mathlib.Algebra.Group.Nat.Defs
import PackageRollup.Text.Basic

/-!
# Numbers in digits

A number is written in decimal digits without a needless zero in front, and the digits denote it
again. A number of sixteen bits is written in four hexadecimal digits.
-/

namespace PackageRollup

theorem CodePoint.isDigit_ofChar {c : Char} (hc : c.isDigit) : (CodePoint.ofChar c).isDigit := by
  simp only [Char.isDigit, Bool.and_eq_true, decide_eq_true_eq, UInt32.le_iff_toNat_le] at hc
  have hval : (CodePoint.ofChar c).val = c.val.toNat := rfl
  simp only [CodePoint.isDigit, Bool.and_eq_true, decide_eq_true_eq, hval]
  exact ⟨hc.1, Nat.lt_succ_of_le hc.2⟩

theorem CodePoint.hexValue?_hexDigit {n : Nat} (hn : n < 16) :
    (CodePoint.hexDigit n).hexValue? = some n := by
  have hall : ∀ m : Fin 16, (CodePoint.hexDigit m).hexValue? = some m.val := by decide
  exact hall ⟨n, hn⟩

namespace Text

variable {n k : Nat}

/-! ## Decimal digits -/

theorem ofNat_ne_nil (n : Nat) : ofNat n ≠ [] := by
  intro h
  exact Nat.toDigits_ne_nil (List.map_eq_nil_iff.mp h)

theorem isDigit_of_mem_ofNat {c : CodePoint} (hc : c ∈ ofNat n) : c.isDigit := by
  obtain ⟨d, hd, rfl⟩ := List.mem_map.mp hc
  exact CodePoint.isDigit_ofChar (Nat.isDigit_of_mem_toDigits (by decide) (by decide) hd)

theorem length_ofNat_le_iff (hk : 0 < k) : (ofNat n).length ≤ k ↔ n < 10 ^ k := by
  rw [ofNat, List.length_map]
  exact Nat.length_toDigits_le_iff (by decide) hk

theorem toNat_map_ofChar (ds : List Char) :
    toNat (ds.map CodePoint.ofChar) = Nat.ofDigitChars 10 ds 0 := by
  rw [toNat, List.foldl_map, Nat.ofDigitChars_eq_foldl]
  rfl

theorem toNat_ofNat (n : Nat) : toNat (ofNat n) = n := by
  rw [ofNat, toNat_map_ofChar, Nat.ofDigitChars_ten_toDigits]

theorem eq_zero_of_head?_toDigits (h : (Nat.toDigits 10 n).head? = some '0') : n = 0 := by
  induction n using Nat.strongRecOn with
  | ind n ih =>
      rw [Nat.toDigits_eq_if (by decide)] at h
      split at h
      next hn => exact Nat.digitChar_eq_zero.mp (Option.some.inj h)
      next hn =>
        have hne : Nat.toDigits 10 (n / 10) ≠ [] := Nat.toDigits_ne_nil
        obtain ⟨d, ds, hds⟩ := List.exists_cons_of_ne_nil hne
        have hzero : n / 10 = 0 := by
          apply ih (n / 10) (by omega)
          rw [hds] at h ⊢
          exact h
        omega

/-- Only zero itself begins with a zero. -/
theorem eq_zero_of_head?_ofNat (h : (ofNat n).head? = some (CodePoint.ofChar '0')) : n = 0 := by
  rw [ofNat, List.head?_map] at h
  obtain ⟨d, hd, hzero⟩ := Option.map_eq_some_iff.mp h
  have hchar : d = '0' := by
    have hval : d.val.toNat = ('0' : Char).val.toNat := congrArg CodePoint.val hzero
    exact Char.ext (UInt32.toNat_inj.mp hval)
  exact eq_zero_of_head?_toDigits (hchar ▸ hd)

/-! ## Hexadecimal digits -/

/-- The last digit comes off the end, as long as there is room for it. -/
theorem ofNatHex_succ (hk : 0 < k) (hn : n < 16 ^ (k + 1)) :
    ofNatHex (k + 1) n = ofNatHex k (n / 16) ++ [CodePoint.hexDigit (n % 16)] := by
  have hlen : (Nat.toDigits 16 (n / 16)).length ≤ k := by
    rw [Nat.length_toDigits_le_iff (by decide) hk]
    rw [Nat.pow_succ] at hn
    omega
  by_cases hsmall : n < 16
  · have hdigits : Nat.toDigits 16 (n / 16) = ['0'] := by
      rw [Nat.div_eq_of_lt hsmall, Nat.toDigits_zero]
    have hwidth : k = k - 1 + 1 := by omega
    have hpad : List.replicate k (CodePoint.ofChar '0')
        = List.replicate (k - 1) (CodePoint.ofChar '0') ++ [CodePoint.ofChar '0'] := by
      rw [← List.replicate_succ', ← hwidth]
    simp [ofNatHex, hdigits, Nat.toDigits_of_lt_base hsmall, Nat.mod_eq_of_lt hsmall, hpad,
      CodePoint.hexDigit]
  · have hdigits := Nat.toDigits_of_base_le (by decide : 1 < 16) (Nat.le_of_not_lt hsmall)
    simp [ofNatHex, hdigits, CodePoint.hexDigit]

theorem ofNatHex_four (hn : n < 0x10000) :
    ofNatHex 4 n = [CodePoint.hexDigit (n / 4096), CodePoint.hexDigit (n / 256 % 16),
      CodePoint.hexDigit (n / 16 % 16), CodePoint.hexDigit (n % 16)] := by
  have hone : ofNatHex 1 (n / 16 / 16 / 16) = [CodePoint.hexDigit (n / 16 / 16 / 16)] := by
    have hlt : n / 16 / 16 / 16 < 16 := by omega
    simp [ofNatHex, Nat.toDigits_of_lt_base hlt, CodePoint.hexDigit]
  rw [ofNatHex_succ (by decide) (by omega), ofNatHex_succ (by decide) (by omega),
    ofNatHex_succ (by decide) (by omega), hone]
  simp [Nat.div_div_eq_div_mul]

end Text

end PackageRollup
