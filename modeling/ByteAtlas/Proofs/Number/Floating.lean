import ByteAtlas.Number.Floating
import Mathlib

/-!
# The numbers that patterns denote

The number of a pattern is read off its three fields (`FloatFormat.number?`): the sign, the exponent and the fraction.
Reading a pattern gives a mantissa and an exponent for the same number (`Floating.number?_ofBits`), the whole part is
the one below it (`Floating.wholePart_eq_floor`), and the pattern of eight bytes for one of four denotes the same
number (`Floating.number?_widen`).
-/

namespace ByteAtlas

/-- The number that a pattern denotes by its fields: on top the sign, then the exponent, then the fraction behind the
point. In front of the point stands a one, or a zero if no bit of the exponent is set. If all of them are set there is
no number. -/
def FloatFormat.number? (format : FloatFormat) {width : Nat} (bits : BitVec width) : Option ℚ :=
  let sign : ℚ := if bits.getLsbD (format.fractionBits + format.exponentBits) then -1 else 1
  let exponent := bits.extractLsb' format.fractionBits format.exponentBits
  let fraction : ℚ := (bits.extractLsb' 0 format.fractionBits).toNat / 2 ^ format.fractionBits
  if exponent = BitVec.allOnes _ then none
  else if exponent = 0 then some (sign * fraction * 2 ^ (1 - format.bias : ℤ))
  else some (sign * (1 + fraction) * 2 ^ (exponent.toNat - format.bias : ℤ))

namespace Floating

/-- The number that is denoted, if there is one. -/
def number? : Floating → Option ℚ
  | finite negative mantissa exponent => some ((if negative then -1 else 1) * mantissa * 2 ^ exponent)
  | _ => none

theorem number?_ofBits (format : FloatFormat) {width : Nat} (bits : BitVec width) :
    (ofBits format bits.toNat).number? = format.number? bits := by
  have sign : (bits.toNat / Nat.pow 2 (format.fractionBits + format.exponentBits) % 2 == 1) =
      bits.getLsbD (format.fractionBits + format.exponentBits) := by
    rw [← BitVec.testBit_toNat, Nat.testBit_eq_decide_div_mod_eq]
    rfl
  have exponent : bits.toNat / Nat.pow 2 format.fractionBits % Nat.pow 2 format.exponentBits =
      (bits.extractLsb' format.fractionBits format.exponentBits).toNat := by
    rw [BitVec.extractLsb'_toNat, Nat.shiftRight_eq_div_pow]
    rfl
  have fraction : bits.toNat % Nat.pow 2 format.fractionBits = (bits.extractLsb' 0 format.fractionBits).toNat := by
    rw [BitVec.extractLsb'_toNat, Nat.shiftRight_zero]
    rfl
  have full : (bits.extractLsb' format.fractionBits format.exponentBits).toNat = Nat.pow 2 format.exponentBits - 1 ↔
      bits.extractLsb' format.fractionBits format.exponentBits = BitVec.allOnes _ := by
    rw [← BitVec.toNat_inj, BitVec.toNat_allOnes]
    rfl
  have empty : (bits.extractLsb' format.fractionBits format.exponentBits).toNat = 0 ↔
      bits.extractLsb' format.fractionBits format.exponentBits = 0 := by
    rw [← BitVec.toNat_inj]
    rfl
  -- The mantissa has no point: it counts units of the last place of the fraction.
  have unit (e : ℤ) : (2 : ℚ) ^ (e - (format.bias + format.fractionBits)) =
      2 ^ (e - format.bias) / 2 ^ format.fractionBits := by
    rw [← sub_sub, zpow_sub₀ two_ne_zero, zpow_natCast]
  have one : ((Nat.pow 2 format.fractionBits : Nat) : ℚ) = 2 ^ format.fractionBits := by exact_mod_cast rfl
  simp only [ofBits, FloatFormat.number?, sign, exponent, fraction, full, empty]
  split
  · split <;> rfl
  split
  · rw [number?, unit]
    exact congrArg some (by ring)
  · rw [number?, unit, Nat.cast_add, one]
    exact congrArg some (by field_simp)

theorem wholePart_eq_floor (mantissa : Nat) (exponent : ℤ) :
    (wholePart mantissa exponent : ℤ) = ⌊(mantissa * 2 ^ exponent : ℚ)⌋ := by
  cases exponent with
  | ofNat e =>
    have whole : (mantissa * 2 ^ (Int.ofNat e) : ℚ) = ((mantissa * 2 ^ e : Nat) : ℤ) := by
      rw [Int.ofNat_eq_natCast, zpow_natCast]
      push_cast
      rfl
    rw [whole, Int.floor_intCast]
    rfl
  | negSucc e =>
    have parts : (mantissa * 2 ^ (Int.negSucc e) : ℚ) = (mantissa : ℤ) / (2 ^ (e + 1) : Nat) := by
      rw [zpow_negSucc, div_eq_mul_inv]
      push_cast
      rfl
    rw [parts, Rat.floor_intCast_div_natCast]
    rfl

/-- The pattern of eight bytes with some fields, of which the exponent has some bits but not all. -/
lemma ofBits_fields (negative : Bool) {stored fraction : Nat} (some_bit : 0 < stored) (not_all : stored < 2047)
    (fits : fraction < 2 ^ 52) :
    ofBits .binary64 ((if negative then 2 ^ 63 else 0) + (stored * 2 ^ 52 + fraction)) =
      finite negative (2 ^ 52 + fraction) (stored - 1075) := by
  generalize pattern : (if negative then 2 ^ 63 else 0) + (stored * 2 ^ 52 + fraction) = bits
  have fraction_eq : bits % 2 ^ 52 = fraction := by
    rw [← pattern]
    split <;> omega
  have stored_eq : bits / 2 ^ 52 % 2 ^ 11 = stored := by
    rw [← pattern]
    split <;> omega
  have sign_eq : (bits / 2 ^ 63 % 2 == 1) = negative := by
    rw [← pattern, beq_eq_decide]
    cases negative <;> simp <;> omega
  simp only [ofBits, FloatFormat.binary64, FloatFormat.bias, Nat.pow_eq, fraction_eq, stored_eq, sign_eq]
  rw [if_neg (by omega), if_neg (by omega)]
  rfl

/-- Moved up until its leading one is at the top, a mantissa of up to fifty-three bits takes all of them. -/
lemma moved_up_bounds {mantissa : Nat} (nonzero : mantissa ≠ 0) (top : mantissa.log2 ≤ 52) :
    2 ^ 52 ≤ mantissa * 2 ^ (52 - mantissa.log2) ∧ mantissa * 2 ^ (52 - mantissa.log2) < 2 ^ 53 := by
  have scale (bits : Nat) : 2 ^ (mantissa.log2 + bits) * 2 ^ (52 - mantissa.log2) = 2 ^ (52 + bits) := by
    rw [← pow_add]
    congr 1
    omega
  exact ⟨scale 0 ▸ Nat.mul_le_mul_right _ (Nat.log2_self_le nonzero),
    scale 1 ▸ Nat.mul_lt_mul_of_pos_right Nat.lt_log2_self (Nat.two_pow_pos _)⟩

/-- A mantissa of up to fifty-three bits is kept, unless the number is too large or too small for a leading one. -/
lemma number?_binary64 {negative : Bool} {mantissa : Nat} {exponent : ℤ} (fits : mantissa < 2 ^ 53)
    (low : -1022 ≤ mantissa.log2 + exponent) (high : mantissa.log2 + exponent ≤ 1023) :
    FloatFormat.binary64.number? (binary64 negative mantissa exponent) =
      (finite negative mantissa exponent).number? := by
  rw [← number?_ofBits, binary64]
  split
  · next zero =>
    subst zero
    cases negative <;> simp [ofBits, FloatFormat.binary64, number?]
  · next nonzero =>
    have top : mantissa.log2 ≤ 52 := Nat.le_of_lt_succ ((Nat.log2_lt nonzero).2 fits)
    obtain ⟨at_least, below⟩ := moved_up_bounds nonzero top
    obtain ⟨stored, place⟩ : ∃ stored : Nat, (stored : ℤ) = mantissa.log2 + exponent + 1023 :=
      ⟨_, Int.toNat_of_nonneg (by omega)⟩
    simp only [if_pos top, ← place, Int.toNat_natCast, Nat.pow_eq, BitVec.toNat_ofNat]
    rw [Nat.mod_eq_of_lt (by split <;> omega), ofBits_fields negative (by omega) (by omega) (by omega),
      Nat.add_sub_cancel' at_least, place]
    have power : (2 : ℚ) ^ (52 - mantissa.log2) * 2 ^ (mantissa.log2 + exponent + 1023 - 1075 : ℤ) = 2 ^ exponent := by
      rw [← zpow_natCast, ← zpow_add₀ two_ne_zero]
      congr 1
      omega
    rw [number?, number?, Nat.cast_mul, Nat.cast_pow, Nat.cast_ofNat, mul_assoc, mul_assoc, power, mul_assoc]

/-- How large the mantissa and the exponent of a pattern can be. -/
lemma bounds_of_ofBits {format : FloatFormat} {bits : Nat} {negative : Bool} {mantissa : Nat} {exponent : ℤ}
    (read : ofBits format bits = finite negative mantissa exponent) :
    mantissa < 2 * Nat.pow 2 format.fractionBits ∧
      1 ≤ exponent + (format.bias + format.fractionBits) ∧
      exponent + (format.bias + format.fractionBits) < Nat.pow 2 format.exponentBits := by
  have fraction : bits % Nat.pow 2 format.fractionBits < Nat.pow 2 format.fractionBits :=
    Nat.mod_lt _ (Nat.two_pow_pos _)
  have stored : bits / Nat.pow 2 format.fractionBits % Nat.pow 2 format.exponentBits <
      Nat.pow 2 format.exponentBits := Nat.mod_lt _ (Nat.two_pow_pos _)
  simp only [ofBits] at read
  split at read
  · split at read <;> cases read
  · split at read <;> cases read <;> omega

theorem number?_widen (bits : BitVec 32) :
    FloatFormat.binary64.number? (ofBits .binary32 bits.toNat).widen = FloatFormat.binary32.number? bits := by
  rw [← number?_ofBits .binary32]
  cases read : ofBits .binary32 bits.toNat with
  | nan => rfl
  | infinite negative => cases negative <;> rfl
  | finite negative mantissa exponent =>
    obtain ⟨fits, low, high⟩ : mantissa < 2 ^ 24 ∧ 1 ≤ exponent + 150 ∧ exponent + 150 < 2 ^ 8 :=
      bounds_of_ofBits read
    have top : mantissa.log2 < 24 := Nat.log2_eq_log_two ▸ Nat.log_lt_of_lt_pow' (by decide) fits
    exact number?_binary64 (by omega) (by omega) (by omega)

end Floating
end ByteAtlas
