import Mathlib
import ConsulLookup.Number.Binary64

/-! Doubling in binary64, read through the float model of the standard library. -/

namespace ConsulLookup.Binary64

open Float.Model Float.Model.UnpackedFloat

section Unpacking

/-- The sign of the float model for a sign bit. -/
def signOf (negative : Bool) : Sign :=
  if negative then .negative else .positive

/-- The unpacked float of the float model that a decoded word stands for. -/
def Decoded.unpacked : Decoded → UnpackedFloat
  | .finite negative m e =>
    if h : m = 0 then .zero (signOf negative)
    else .finite (signOf negative) m e (Nat.pos_of_ne_zero h)
  | .infinity negative => .infinity (signOf negative)
  | .nan => .notANumber

/-- Putting the leading bit back in front of the 52 fraction bits adds `2 ^ 52`. -/
theorem toNat_leadingBit (f : BitVec 52) : (1#1 ++ f).toNat = f.toNat + 2 ^ 52 := by
  have joined := Nat.two_pow_add_eq_or_of_lt f.isLt 1
  rw [Nat.mul_one] at joined
  rw [BitVec.toNat_append, show (1#1).toNat = 1 from rfl, Nat.shiftLeft_eq, Nat.one_mul]
  omega

/-- The float model unpacks a word to what its fields decode to. -/
theorem unpack_eq_decodeBits (b : BitVec 64) :
    UnpackedFloat.unpack Format.binary64 b = (decodeBits b.toNat).unpacked := by
  -- Each field the model extracts is the arithmetic `decodeBits` does on the word's number.
  have fraction : (@unpackMantissa Format.binary64 b).toNat = b.toNat % 2 ^ 52 := by
    simp [unpackMantissa, BitVec.extractLsb_toNat]
  have field : (@unpackExponent Format.binary64 b).toNat = b.toNat / 2 ^ 52 % 2 ^ 11 := by
    simp [unpackExponent, BitVec.extractLsb_toNat, Nat.shiftRight_eq_div_pow]
  have bit : (@unpackSign Format.binary64 b).toNat = b.toNat / 2 ^ 63 % 2 := by
    simp [unpackSign, BitVec.extractLsb_toNat, Nat.shiftRight_eq_div_pow]
  have sign : Sign.ofBitVec (@unpackSign Format.binary64 b) =
      signOf (b.toNat / 2 ^ 63 % 2 == 1) := by
    by_cases zero : @unpackSign Format.binary64 b = 0#1
    · have clear : b.toNat / 2 ^ 63 % 2 = 0 := by rw [← bit, zero]; rfl
      rw [clear]
      simp [Sign.ofBitVec, signOf, zero]
    · have set : b.toNat / 2 ^ 63 % 2 = 1 := by
        have below := (@unpackSign Format.binary64 b).isLt
        have nonzero : (@unpackSign Format.binary64 b).toNat ≠ 0 := fun none =>
          zero (BitVec.eq_of_toNat_eq (by simpa using none))
        simp only [Nat.reducePow] at below
        omega
      rw [set]
      simp [Sign.ofBitVec, signOf, zero]
  have top : @unpackExponent Format.binary64 b = -1#11 ↔
      b.toNat / 2 ^ 52 % 2 ^ 11 = 2 ^ 11 - 1 := by
    rw [← field, ← BitVec.toNat_inj]
    simp
  have bottom : @unpackExponent Format.binary64 b = 0#11 ↔ b.toNat / 2 ^ 52 % 2 ^ 11 = 0 := by
    rw [← field, ← BitVec.toNat_inj]
    simp
  have empty : @unpackMantissa Format.binary64 b = 0#52 ↔ b.toNat % 2 ^ 52 = 0 := by
    rw [← fraction, ← BitVec.toNat_inj]
    simp
  have normal : (1#1 ++ @unpackMantissa Format.binary64 b).toNat =
      b.toNat % 2 ^ 52 + 2 ^ 52 := by
    rw [← fraction]
    exact toNat_leadingBit _
  -- Both sides now test the same fields in the same order.
  simp only [UnpackedFloat.unpack, decodeBits, sign, top, bottom, empty, Nat.pow_eq]
  simp only [Nat.reducePow] at *
  split_ifs <;> simp_all [Decoded.unpacked, minExponent, Format.exponentBias]

/-- A float's model unpacks to what the float decodes to. -/
theorem toModel_unpack (x : Float) : x.toModel.unpack = (decode x).unpacked :=
  unpack_eq_decodeBits x.toBits.toBitVec

end Unpacking

section Rounding

end Rounding

section Packing

/-- A mantissa and exponent as a binary64 float keeps them: 53 bits from the least exponent on,
or fewer at the least exponent. -/
def Canonical (m : Nat) (e : Int) : Prop :=
  m < 2 ^ 53 ∧ -1074 ≤ e ∧ (2 ^ 52 ≤ m ∨ e = -1074)

end Packing

section Scaling

variable {m : Nat} {e : Int}

end Scaling

section Floats

/-- The words of finite floats decode to canonical mantissas and exponents, below `2 ^ 1024`. -/
theorem canonical_of_decodeBits {n : Nat} {s : Sign} {m : Nat} {e : Int} {positive : 0 < m}
    (unpacked : (decodeBits n).unpacked = .finite s m e positive) : Canonical m e ∧ e ≤ 971 := by
  unfold decodeBits at unpacked
  simp only [Nat.pow_eq, Nat.reducePow] at unpacked
  have fraction := Nat.mod_lt n (show 0 < 4503599627370496 by decide)
  have field := Nat.mod_lt (n / 4503599627370496) (show 0 < 2048 by decide)
  split_ifs at unpacked with top empty bottom
  · simp [Decoded.unpacked] at unpacked
  · simp [Decoded.unpacked] at unpacked
  · -- A subnormal word: the fraction at the least exponent.
    by_cases zero : n % 4503599627370496 = 0
    · simp [Decoded.unpacked, zero] at unpacked
    · simp only [Decoded.unpacked, dif_neg zero, UnpackedFloat.finite.injEq] at unpacked
      obtain ⟨-, rfl, rfl⟩ := unpacked
      exact ⟨⟨by omega, by simp [minExponent], .inr rfl⟩, by simp [minExponent]⟩
  · -- A normal word: the fraction with its leading bit, at the exponent of its field.
    simp only [Decoded.unpacked,
      dif_neg (show n % 4503599627370496 + 4503599627370496 ≠ 0 by omega),
      UnpackedFloat.finite.injEq, Int.ofNat_eq_natCast] at unpacked
    obtain ⟨-, rfl, rfl⟩ := unpacked
    exact ⟨⟨by omega, by omega, .inl (by omega)⟩, by omega⟩

/-- What a finite float unpacks to is canonical, below `2 ^ 1024`. -/
theorem canonical_of_unpack {x : Float} {s : Sign} {m : Nat} {e : Int} {positive : 0 < m}
    (unpacked : x.toModel.unpack = .finite s m e positive) : Canonical m e ∧ e ≤ 971 :=
  canonical_of_decodeBits ((toModel_unpack x).symm.trans unpacked)

end Floats

section Value

/-- The exact rational an unpacked float stands for, when it is finite. -/
def value? : UnpackedFloat → Option ℚ
  | .finite s m e _ => some ((s.apply m : ℤ) * 2 ^ e)
  | .zero _ => some 0
  | _ => none

/-- A decoded word stands for the rational its unpacked form stands for. -/
theorem Decoded.toRat?_eq_value? (d : Decoded) : d.toRat? = value? d.unpacked := by
  cases d with
  | finite negative m e =>
    by_cases zero : m = 0
    · subst zero
      cases negative <;> simp [Decoded.toRat?, Decoded.unpacked, value?]
    · -- The word's magnitude is built on the sign of the exponent, the model's as one power.
      have magnitude : (if e ≥ 0 then ((m * Nat.pow 2 e.toNat : Nat) : ℚ)
          else mkRat (m : ℤ) (Nat.pow 2 (-e).toNat)) = (m : ℚ) * 2 ^ e := by
        split_ifs with nonneg
        · simp only [Nat.pow_eq]
          push_cast
          conv_rhs => rw [← Int.toNat_of_nonneg nonneg]
          rw [zpow_natCast]
        · have flipped : e = -((-e).toNat : ℤ) := by omega
          rw [Rat.mkRat_eq_div]
          simp only [Nat.pow_eq]
          push_cast
          conv_rhs => rw [flipped]
          rw [zpow_neg, zpow_natCast, div_eq_mul_inv]
      simp only [Decoded.toRat?, Decoded.unpacked, dif_neg zero, value?, magnitude]
      cases negative <;> simp [signOf, Sign.apply]
  | infinity negative => rfl
  | nan => rfl

/-- A float stands for the rational its model unpacks to. -/
theorem toRat?_eq_value? (x : Float) : toRat? x = value? x.toModel.unpack := by
  rw [toModel_unpack]
  exact Decoded.toRat?_eq_value? _

/-- A positive mantissa at any exponent stands for a positive rational. -/
theorem value_pos {m : Nat} (positive : 0 < m) (e : Int) : (0 : ℚ) < m * 2 ^ e := by
  have : (0 : ℚ) < m := by exact_mod_cast positive
  positivity

/-- A float that stands for a non-negative rational unpacks to a zero, or to a positive finite
float of that value. -/
theorem unpack_of_nonneg {x : Float} {q : ℚ} (stands : toRat? x = some q) (nonneg : 0 ≤ q) :
    (∃ s, x.toModel.unpack = .zero s ∧ q = 0) ∨
      ∃ m e positive, x.toModel.unpack = .finite .positive m e positive ∧ q = m * 2 ^ e := by
  rw [toRat?_eq_value?] at stands
  cases unpacked : x.toModel.unpack with
  | zero s =>
    rw [unpacked] at stands
    exact .inl ⟨s, rfl, (Option.some.inj stands).symm⟩
  | finite s m e positive =>
    rw [unpacked] at stands
    simp only [value?, Option.some.injEq] at stands
    cases s with
    | positive =>
      exact .inr ⟨m, e, positive, rfl, by rw [← stands]; simp [Sign.apply]⟩
    | negative =>
      -- A negative sign with a positive mantissa stands for a negative rational.
      have magnitude := value_pos positive e
      simp only [Sign.apply, Int.cast_neg, Int.cast_natCast] at stands
      linarith
  | infinity s => simp [unpacked, value?] at stands
  | notANumber => simp [unpacked, value?] at stands

/-- A float that stands for a non-negative rational stands for less than `2 ^ 1024`. -/
theorem value_lt_two_pow {x : Float} {q : ℚ} (stands : toRat? x = some q) (nonneg : 0 ≤ q) :
    q < 2 ^ 1024 := by
  rcases unpack_of_nonneg stands nonneg with ⟨s, -, rfl⟩ | ⟨m, e, _, unpacked, rfl⟩
  · positivity
  · obtain ⟨⟨small, -, -⟩, top⟩ := canonical_of_unpack unpacked
    have short : (m : ℚ) < 2 ^ 53 := by exact_mod_cast small
    calc (m : ℚ) * 2 ^ e < 2 ^ 53 * 2 ^ e := by gcongr
      _ ≤ 2 ^ 53 * 2 ^ ((971 : ℕ) : ℤ) := by gcongr; norm_num; exact top
      _ = 2 ^ 1024 := by rw [zpow_natCast, ← pow_add]

end Value

end ConsulLookup.Binary64
