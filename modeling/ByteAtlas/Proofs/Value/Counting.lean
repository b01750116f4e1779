import ByteAtlas.Count
import ByteAtlas.Proofs.Number.Floating
import ByteAtlas.Proofs.Value.Positional

/-!
# Values as counts

A value counts the whole part of the number that it denotes, within the lengths there are (`Value.toCount_eq`), and a
variable counts what its innermost binding does (`Scope.get?_eq_some_iff`).
-/

namespace ByteAtlas

/-- The whole part of a number, cut off towards zero. -/
def truncate (x : ℚ) : ℤ := if 0 ≤ x then ⌊x⌋ else ⌈x⌉

/-- The length nearest to a whole number. -/
def clamp (n : ℤ) : ℤ := min (2 ^ 64 - 1) (max 0 n)

/-- Whole numbers have nothing to cut off. -/
lemma truncate_intCast (n : ℤ) : truncate n = n := by
  rw [truncate, Int.floor_intCast, Int.ceil_intCast, ite_self]

/-- There is no length below zero. -/
lemma clamp_truncate_of_nonpos {x : ℚ} (nonpos : x ≤ 0) : clamp (truncate x) = 0 := by
  have cut : truncate x ≤ 0 := by
    rw [truncate]
    split
    · exact Int.floor_nonpos nonpos
    · exact Int.ceil_le.2 (by exact_mod_cast nonpos)
  rw [clamp, max_eq_left cut]
  rfl

lemma clamp_natCast (n : Nat) : clamp n = (min n maxOffset : Nat) := by
  rw [clamp, max_eq_right (Int.natCast_nonneg n), min_comm]
  push_cast
  rfl

namespace Floating

/-- What is counted of a floating-point number. -/
def toCount : Floating → Nat
  | finite false mantissa exponent => min (wholePart mantissa exponent) maxOffset
  | _ => 0

lemma toCount_eq (f : Floating) : (f.toCount : ℤ) = f.number?.elim 0 fun x => clamp (truncate x) := by
  cases f with
  | nan => rfl
  | infinite negative => rfl
  | finite negative mantissa exponent =>
    have nonneg : (0 : ℚ) ≤ mantissa * 2 ^ exponent := by positivity
    rw [number?, Option.elim_some, mul_assoc]
    cases negative with
    | true =>
      rw [if_pos rfl, neg_one_mul, clamp_truncate_of_nonpos (neg_nonpos.2 nonneg)]
      rfl
    | false =>
      rw [if_neg Bool.false_ne_true, one_mul, truncate, if_pos nonneg, ← wholePart_eq_floor, clamp_natCast]
      rfl

end Floating

namespace Value

/-- The number that a value denotes, if it denotes one. -/
def number? (v : Value) : Option ℚ :=
  match v.base.floatFormat? with
  | none => v.integer?.map Int.cast
  | some format => format.number? v.bits

/-- A floating-point value counts what its pattern is read as. -/
lemma toCount_of_floating {v : Value} {f : Floating} (floating : v.floating? = some f) : v.toCount = f.toCount := by
  obtain ⟨base, bits⟩ := v
  cases base with
  | unsigned w => cases floating
  | signed w => cases floating
  | single | double =>
    simp only [toCount, floating]
    obtain _ | _ | ⟨_ | _, _, _⟩ := f <;> rfl

/-- An integer counts itself, and nothing if it is negative. -/
lemma toCount_of_integer {v : Value} {n : ℤ} (integer : v.integer? = some n) : (v.toCount : ℤ) = clamp n := by
  obtain ⟨base, bits⟩ := v
  cases base with
  | single => cases integer
  | double => cases integer
  | unsigned w =>
    cases integer
    have below : bits.toNat < 2 ^ 64 := bits.isLt.trans_le (Nat.pow_le_pow_right (by decide) (by cases w <;> decide))
    exact (clamp_natCast _).symm ▸ congrArg Nat.cast (Nat.min_eq_left (Nat.le_of_lt_succ below)).symm
  | signed w =>
    cases integer
    have below : bits.toInt < 2 ^ 63 :=
      bits.toInt_lt.trans_le (pow_le_pow_right₀ (by decide) (by cases w <;> decide))
    change (bits.toInt.toNat : ℤ) = clamp bits.toInt
    rw [clamp, min_eq_right (by omega), max_comm, Int.toNat_eq_max]

/-- A value counts the whole part of its number, as far as there are lengths, and nothing if it denotes none. -/
lemma toCount_eq (v : Value) : (v.toCount : ℤ) = v.number?.elim 0 fun x => clamp (truncate x) := by
  rw [number?]
  split
  · next integer =>
    rw [toCount_of_integer (integer?_eq integer), integer?_eq integer]
    exact congrArg clamp (truncate_intCast _).symm
  · next format floating =>
    have read : v.floating? = some (Floating.ofBits format v.bits.toNat) := by
      rw [floating?, floating]
      rfl
    rw [toCount_of_floating read, Floating.toCount_eq, Floating.number?_ofBits]

/-- A value of four bytes denotes the same as the value of eight bytes that it is widened to. -/
lemma number?_toDouble {v : Value} (single : v.base = .single) :
    (⟨.double, v.toDouble⟩ : Value).number? = v.number? := by
  obtain ⟨base, bits⟩ := v
  cases single
  exact Floating.number?_widen bits

end Value

namespace Scope

/-- Whether a name has a value in a scope: in the innermost of the frames that bind it, and there the most recently. -/
def Binds (scope : Scope) (name : String) (value : Value) : Prop :=
  ∃ inside newer older outside, scope.frames = inside ++ (newer ++ (name, value) :: older) :: outside ∧
    (∀ frame ∈ inside, ∀ other, (name, other) ∉ frame) ∧ ∀ other, (name, other) ∉ newer

/-- Names that differ from all the bound ones are not bound. -/
lemma forall_bne_iff {frame : Bindings} {name : String} :
    (∀ binding ∈ frame, (name != binding.1) = true) ↔ ∀ value, (name, value) ∉ frame := by
  constructor
  · intro differ value mem
    exact bne_iff_ne.1 (differ _ mem) rfl
  · rintro unbound ⟨other, value⟩ mem
    exact bne_iff_ne.2 fun same => unbound value (same ▸ mem)

/-- A name is looked up in the frames from the inside out, and in a frame from the most recent binding on. -/
lemma get?_eq_some_iff {scope : Scope} {name : String} {value : Value} :
    scope.get? name = some value ↔ scope.Binds name value := by
  simp only [get?, List.findSome?_eq_some_iff, List.lookup_eq_some_iff, List.lookup_eq_none_iff, forall_bne_iff]
  constructor
  · rintro ⟨inside, frame, outside, frames, ⟨newer, older, rfl, latest⟩, innermost⟩
    exact ⟨inside, newer, older, outside, frames, innermost, latest⟩
  · rintro ⟨inside, newer, older, outside, frames, innermost, latest⟩
    exact ⟨inside, _, outside, frames, ⟨newer, older, rfl, latest⟩, innermost⟩

end Scope

namespace Value

/-- A value counts the whole part of its number, as far as there are lengths, and nothing if it denotes none. So
values that denote the same number count the same, as those of four and of eight bytes can. A variable counts what
its innermost binding does, and nothing if no frame binds it. -/
theorem count_exact :
    (∀ v : Value, (v.toCount : ℤ) = v.number?.elim 0 fun x => min (2 ^ 64 - 1) (max 0 (truncate x))) ∧
      (∀ v other : Value, v.number? = other.number? → v.toCount = other.toCount) ∧
      (∀ v : Value, v.base = .single → (⟨.double, v.toDouble⟩ : Value).number? = v.number?) ∧
      ∀ (scope : Scope) (name : String),
        (∀ value, scope.Binds name value → (Count.var name).resolve scope = value.toCount) ∧
          ((∀ value, ¬scope.Binds name value) → (Count.var name).resolve scope = 0) := by
  refine ⟨toCount_eq, fun v other same => ?_, fun v => number?_toDouble, fun scope name => ⟨?_, ?_⟩⟩
  · have counts := toCount_eq v
    rw [same, ← toCount_eq other] at counts
    exact_mod_cast counts
  · intro value binds
    rw [Count.resolve, Scope.count, Scope.get?_eq_some_iff.2 binds]
    rfl
  · intro unbound
    have none : scope.get? name = none :=
      Option.eq_none_iff_forall_ne_some.2 fun value found => unbound value (Scope.get?_eq_some_iff.1 found)
    rw [Count.resolve, Scope.count, none]
    rfl

/-- Two and a half counts two in four and in eight bytes, also where it hides another binding of its name. -/
theorem count_exact_two_and_a_half :
    (⟨.double, 0x4004000000000000⟩ : Value).toCount = (⟨.single, 0x40200000⟩ : Value).toCount ∧
      (Count.var "n").resolve ⟨[], [[("m", ⟨.unsigned .one, 7⟩), ("n", ⟨.single, 0x40200000⟩)],
        [("n", ⟨.signed .one, 0xff⟩)]]⟩ = 2 ∧
      (Count.var "n").resolve ⟨[("m", ⟨.unsigned .one, 7⟩)], []⟩ = 0 := by
  have widened : (⟨.single, 0x40200000⟩ : Value).toDouble = 0x4004000000000000 := by decide
  refine ⟨widened ▸ count_exact.2.1 _ _ (count_exact.2.2.1 ⟨.single, 0x40200000⟩ rfl), ?_, ?_⟩
  · exact (count_exact.2.2.2 _ "n").1 ⟨.single, 0x40200000⟩ (Scope.get?_eq_some_iff.1 rfl)
  · exact (count_exact.2.2.2 _ "n").2 fun value binds => Option.some_ne_none _ (Scope.get?_eq_some_iff.2 binds).symm

end Value
end ByteAtlas
