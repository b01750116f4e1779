import ByteAtlas.Scalar
import Mathlib

/-!
# Decoding is positional

In either order every byte counts a power of 256 by its place (`ByteOrder.number_eq_positional`), so the buffers of
some width spell the numbers below that power of 256, each exactly once (`ByteOrder.bijOn_number`). Of the reads that
decoding goes by only that is asked which their library promises: what is laid out in a byte order is read back
(`NumberReads.Documented`). Then decoding keeps the number that is spelled as the bits of a value and reads them in two's
complement where the type is signed (`ScalarType.decode_positional`).
-/

namespace ByteAtlas

namespace ByteOrder

/-- The other order. -/
def flip : ByteOrder → ByteOrder
  | big => little
  | little => big

/-- Which power of 256 the byte at a place counts, among so many bytes. -/
def power (order : ByteOrder) (width place : Nat) : Nat :=
  match order with
  | big => width - 1 - place
  | little => place

/-- The sum of some bytes, each times its power of 256. -/
def positional (order : ByteOrder) (bytes : List UInt8) : Nat :=
  ∑ place : Fin bytes.length, bytes[place].toNat * 256 ^ order.power bytes.length place

/-- Bytes are the digits in base 256. -/
lemma littleNumber_eq_ofDigits (bytes : List UInt8) :
    littleNumber bytes = Nat.ofDigits 256 (bytes.map UInt8.toNat) := by
  rw [littleNumber, Nat.ofDigits_eq_foldr, List.foldr_map]
  rfl

/-- The bytes behind the first count as many times more as there are places for them. -/
lemma bigNumber_cons (b : UInt8) (bytes : List UInt8) :
    bigNumber (b :: bytes) = b.toNat * 256 ^ bytes.length + bigNumber bytes := by
  rw [← List.reverse_reverse (b :: bytes), bigNumber_reverse, littleNumber_eq_ofDigits, List.reverse_cons,
    List.map_append, Nat.ofDigits_append, ← littleNumber_eq_ofDigits, ← bigNumber_reverse, List.reverse_reverse]
  simp [Nat.mul_comm, Nat.add_comm]

/-- The first of some bytes, and those behind it. -/
lemma positional_cons (order : ByteOrder) (b : UInt8) (bytes : List UInt8) :
    order.positional (b :: bytes) = b.toNat * 256 ^ order.power (bytes.length + 1) 0 +
      ∑ place : Fin bytes.length, bytes[place].toNat * 256 ^ order.power (bytes.length + 1) (place + 1) :=
  Fin.sum_univ_succ _

theorem number_eq_positional (order : ByteOrder) (bytes : List UInt8) :
    order.number bytes = order.positional bytes := by
  induction bytes with
  | nil => cases order <;> rfl
  | cons b bytes ih =>
    rw [positional_cons]
    cases order with
    | big =>
      have behind (place : Nat) : power big (bytes.length + 1) (place + 1) = power big bytes.length place := by
        simp only [power]
        omega
      simp only [behind]
      rw [number, bigNumber_cons]
      exact congrArg _ ih
    | little =>
      have behind : 256 * positional little bytes =
          ∑ place : Fin bytes.length, bytes[place].toNat * 256 ^ power little (bytes.length + 1) (place + 1) := by
        rw [positional, Finset.mul_sum]
        refine Finset.sum_congr rfl fun place _ => ?_
        rw [power, power, Nat.pow_succ, Nat.mul_left_comm, Nat.mul_comm 256]
      rw [← behind, ← ih, power, Nat.pow_zero, Nat.mul_one]
      rfl

/-- The buffers of some width, and the numbers below that power of 256. -/
lemma bijOn_littleNumber (width : Nat) :
    Set.BijOn littleNumber {bytes | bytes.length = width} (Set.Iio (256 ^ width)) := by
  have digits : Set.BijOn (List.map UInt8.toNat) {bytes | bytes.length = width}
      {digits | digits.length = width ∧ ∀ digit ∈ digits, digit < 256} := by
    refine ⟨fun bytes length => ⟨by simpa using length, ?_⟩, ?_, fun digits ⟨length, small⟩ => ?_⟩
    · intro digit member
      obtain ⟨b, -, rfl⟩ := List.mem_map.1 member
      exact b.toNat_lt
    · exact (List.map_injective_iff.2 fun _ _ => UInt8.toNat.inj).injOn
    · refine ⟨digits.map UInt8.ofNat, by simpa using length, ?_⟩
      have same : ∀ digit ∈ digits, (UInt8.ofNat digit).toNat = digit := fun digit member =>
        UInt8.toNat_ofNat_of_lt' (small digit member)
      rw [List.map_map]
      exact (List.map_congr_left same).trans (List.map_id digits)
  have spelled := (Nat.bijOn_ofDigits (by decide : 1 < 256) width).comp digits
  exact spelled.congr fun bytes _ => (littleNumber_eq_ofDigits bytes).symm

theorem bijOn_number (order : ByteOrder) (width : Nat) :
    Set.BijOn order.number {bytes | bytes.length = width} (Set.Iio (256 ^ width)) := by
  cases order with
  | little => exact bijOn_littleNumber width
  | big =>
    have reversed : Set.BijOn List.reverse {bytes : List UInt8 | bytes.length = width} {bytes | bytes.length = width} := by
      refine ⟨fun bytes length => by simpa using length, List.reverse_injective.injOn, fun bytes length => ?_⟩
      exact ⟨bytes.reverse, by simpa using length, bytes.reverse_reverse⟩
    refine ((bijOn_littleNumber width).comp reversed).congr fun bytes _ => ?_
    rw [Function.comp_apply, ← bigNumber_reverse, List.reverse_reverse]
    rfl

/-- So many bytes of a number, the least significant first. -/
def risingBytes : (width n : Nat) → List UInt8
  | 0, _ => []
  | width + 1, n => UInt8.ofNat n :: risingBytes width (n / 256)

/-- How a number is laid out in so many bytes. -/
def layOut (order : ByteOrder) (width n : Nat) : List UInt8 :=
  match order with
  | big => (risingBytes width n).reverse
  | little => risingBytes width n

lemma length_risingBytes (width n : Nat) : (risingBytes width n).length = width := by
  induction width generalizing n with
  | zero => rfl
  | succ width ih => rw [risingBytes, List.length_cons, ih]

lemma length_layOut (order : ByteOrder) (width n : Nat) : (order.layOut width n).length = width := by
  cases order with
  | big => exact List.length_reverse.trans (length_risingBytes width n)
  | little => exact length_risingBytes width n

lemma littleNumber_risingBytes (width n : Nat) : littleNumber (risingBytes width n) = n % 256 ^ width := by
  induction width generalizing n with
  | zero => exact (Nat.mod_one n).symm
  | succ width ih =>
    rw [risingBytes, Nat.pow_succ', Nat.mod_mul, ← ih]
    exact congrArg (· + _) UInt8.toNat_ofNat'

/-- What is laid out spells the number, as far as the bytes go. -/
lemma number_layOut (order : ByteOrder) (width n : Nat) :
    order.number (order.layOut width n) = n % 256 ^ width := by
  rw [← littleNumber_risingBytes]
  cases order with
  | big => exact bigNumber_reverse _
  | little => rfl

/-- Every buffer is the layout of the number that it spells. -/
lemma layOut_number (order : ByteOrder) (bytes : List UInt8) :
    order.layOut bytes.length (order.number bytes) = bytes := by
  refine (order.bijOn_number bytes.length).injOn (order.length_layOut _ _) rfl ?_
  rw [number_layOut]
  exact Nat.mod_eq_of_lt ((order.bijOn_number bytes.length).mapsTo rfl)

end ByteOrder

section Reads

variable {α : Type} {order : ByteOrder} {width : Nat} {bits : α → BitVec (8 * width)} {read : List UInt8 → Option α}

/-- Whether a read is that of a type in a byte order: it gives back what has been laid out at the front of a buffer,
whatever lies behind it, and gives nothing on a buffer that is too short. -/
structure ReadsBack (order : ByteOrder) (width : Nat) (bits : α → BitVec (8 * width))
    (read : List UInt8 → Option α) : Prop where
  written : ∀ a behind, read (order.layOut width (bits a).toNat ++ behind) = some a
  short : ∀ bytes, bytes.length < width → read bytes = none

/-- What the library of the reads promises: signed integers are laid out in two's complement and floating-point
numbers by their bits. -/
structure NumberReads.Documented (order : ByteOrder) (reads : NumberReads) : Prop where
  u16 : ReadsBack order 2 UInt16.toBitVec reads.u16
  u32 : ReadsBack order 4 UInt32.toBitVec reads.u32
  u64 : ReadsBack order 8 UInt64.toBitVec reads.u64
  i16 : ReadsBack order 2 Int16.toBitVec reads.i16
  i32 : ReadsBack order 4 Int32.toBitVec reads.i32
  i64 : ReadsBack order 8 Int64.toBitVec reads.i64
  f32 : ReadsBack order 4 id reads.f32
  f64 : ReadsBack order 8 id reads.f64

/-- A read of a full buffer gives the bits that count the number which is spelled. -/
lemma ReadsBack.full (reads : ReadsBack order width bits read) (onto : Function.Surjective bits)
    {bytes : List UInt8} (full : bytes.length = width) :
    ∃ a, read bytes = some a ∧ bits a = BitVec.ofNat _ (order.number bytes) := by
  subst full
  obtain ⟨a, same⟩ := onto (BitVec.ofNat _ (order.number bytes))
  refine ⟨a, ?_, same⟩
  have below : order.number bytes < 2 ^ (8 * bytes.length) := by
    rw [pow_mul]
    exact (order.bijOn_number bytes.length).mapsTo rfl
  have laid_out : order.layOut bytes.length (bits a).toNat ++ [] = bytes := by
    rw [same, BitVec.toNat_ofNat, Nat.mod_eq_of_lt below, List.append_nil, ByteOrder.layOut_number]
  rw [← laid_out]
  exact reads.written a []

/-- The number at the front of a buffer is read back, if it is cut to the right type. -/
lemma readsBack_front? (order : ByteOrder) {cut : Nat → α} (back : ∀ a, cut (bits a).toNat = a) :
    ReadsBack order width bits fun bytes => (order.front? width bytes).map cut where
  written a behind := by
    have below : (bits a).toNat < 256 ^ width := by
      have := (bits a).isLt
      rwa [pow_mul] at this
    have full := order.length_layOut width (bits a).toNat
    rw [ByteOrder.front?, if_pos (by rw [List.length_append, full]; exact Nat.le_add_right ..),
      List.take_left' full, ByteOrder.number_layOut, Nat.mod_eq_of_lt below]
    exact congrArg some (back a)
  short bytes few := by
    rw [ByteOrder.front?, if_neg (Nat.not_le.2 few)]
    rfl

/-- The first byte of a buffer is that of a type of a single byte, in either order. -/
lemma readsBack_head? (order : ByteOrder) : ReadsBack order 1 UInt8.toBitVec List.head? where
  written b behind := by
    cases order with
    | big | little => exact congrArg some UInt8.ofNat_toNat
  short bytes few := by
    rw [List.length_eq_zero_iff.1 (Nat.lt_one_iff.1 few)]
    rfl

/-- The reads that count the bytes by their places keep the promise. -/
lemma NumberReads.Documented.standard (order : ByteOrder) : (NumberReads.standard order).Documented order where
  u16 := readsBack_front? order fun _ => UInt16.ofNat_toNat
  u32 := readsBack_front? order fun _ => UInt32.ofNat_toNat
  u64 := readsBack_front? order fun _ => UInt64.ofNat_toNat
  i16 := readsBack_front? order fun n => congrArg Int16.ofBitVec (BitVec.ofNat_toNat 16 n.toBitVec)
  i32 := readsBack_front? order fun n => congrArg Int32.ofBitVec (BitVec.ofNat_toNat 32 n.toBitVec)
  i64 := readsBack_front? order fun n => congrArg Int64.ofBitVec (BitVec.ofNat_toNat 64 n.toBitVec)
  f32 := readsBack_front? order fun bits => BitVec.ofNat_toNat 32 bits
  f64 := readsBack_front? order fun bits => BitVec.ofNat_toNat 64 bits

end Reads

namespace BaseType

/-- What an integer is read as when its bits count a number, in two's complement if it is signed. -/
def reading (base : BaseType) (n : Nat) : ℤ :=
  match base with
  | signed w => if 2 ^ (8 * w.bytes - 1) ≤ n then n - 2 ^ (8 * w.bytes) else n
  | _ => n

/-- The numbers of an integer type. -/
def numbers : BaseType → Set ℤ
  | unsigned w => Set.Ico 0 (2 ^ (8 * w.bytes))
  | signed w => Set.Ico (-2 ^ (8 * w.bytes - 1)) (2 ^ (8 * w.bytes - 1))
  | single | double => ∅

/-- Half of the numbers that some bits can count. -/
lemma two_pow_bits (w : IntWidth) : 2 ^ (8 * w.bytes) = 2 * 2 ^ (8 * w.bytes - 1) := by
  cases w <;> rfl

/-- In two's complement the upper half of some numbers stands for the negative ones. -/
lemma bijOn_twosComplement (half : Nat) :
    Set.BijOn (fun n : Nat => if half ≤ n then (n : ℤ) - 2 * half else n) (Set.Iio (2 * half))
      (Set.Ico (-half) half) := by
  refine ⟨fun n below => ?_, fun n below m below' same => ?_, fun n ⟨low, high⟩ => ?_⟩
  · simp only [Set.mem_Iio, Set.mem_Ico] at below ⊢
    split <;> omega
  · simp only [Set.mem_Iio] at below below' same
    split at same <;> split at same <;> omega
  · refine ⟨(if n < 0 then n + 2 * half else n).toNat, ?_, ?_⟩
    · simp only [Set.mem_Iio]
      split <;> omega
    · simp only
      split <;> split <;> omega

/-- The bits of an integer type count up to all its numbers, each exactly once. -/
lemma bijOn_reading {base : BaseType} (integer : base.floatFormat? = none) :
    Set.BijOn base.reading (Set.Iio (2 ^ (8 * base.width))) base.numbers := by
  cases base with
  | single => cases integer
  | double => cases integer
  | unsigned w =>
    refine ⟨fun n below => ⟨Int.natCast_nonneg n, Int.ofNat_lt.2 below⟩, Nat.cast_injective.injOn, ?_⟩
    intro n ⟨nonneg, below⟩
    lift n to Nat using nonneg
    exact ⟨n, Int.ofNat_lt.1 below, rfl⟩
  | signed w =>
    have halves := bijOn_twosComplement (2 ^ (8 * w.bytes - 1))
    rw [← two_pow_bits] at halves
    have top : (2 : ℤ) ^ (8 * w.bytes) = 2 * (2 ^ (8 * w.bytes - 1) : Nat) := by exact_mod_cast two_pow_bits w
    have bound : (2 : ℤ) ^ (8 * w.bytes - 1) = (2 ^ (8 * w.bytes - 1) : Nat) := by push_cast; rfl
    rw [numbers, bound]
    refine halves.congr fun n _ => ?_
    rw [reading, top]

end BaseType

namespace Value

/-- The number of an integer, whatever it is. -/
def integer? (v : Value) : Option ℤ := (v.unsigned?.map Nat.cast).or v.signed?

lemma integer?_eq {v : Value} (integer : v.base.floatFormat? = none) :
    v.integer? = some (v.base.reading v.bits.toNat) := by
  obtain ⟨base, bits⟩ := v
  cases base with
  | single => cases integer
  | double => cases integer
  | unsigned w => rfl
  | signed w =>
    have half := BaseType.two_pow_bits w
    refine congrArg some ((BitVec.toInt_eq_toNat_cond bits).trans ?_)
    simp only [BaseType.reading, BaseType.width]
    split_ifs <;> push_cast <;> omega

end Value

namespace ScalarType

/-- A buffer of the right width spells a number that the bits of the type can count. -/
lemma bijOn_number (type : ScalarType) :
    Set.BijOn type.order.number {bytes | bytes.length = type.width} (Set.Iio (2 ^ (8 * type.base.width))) := by
  rw [pow_mul]
  exact type.order.bijOn_number type.base.width

/-- The value whose bits count the number that a buffer spells. -/
def spelled (type : ScalarType) (bytes : List UInt8) : Value :=
  ⟨type.base, BitVec.ofNat _ (type.order.number bytes)⟩

/-- The bits of what is spelled count the number. -/
lemma toNat_spelled {type : ScalarType} {bytes : List UInt8} (full : bytes.length = type.width) :
    (type.spelled bytes).bits.toNat = type.order.number bytes := by
  rw [spelled, BitVec.toNat_ofNat]
  exact Nat.mod_eq_of_lt (type.bijOn_number.mapsTo full)

/-- What is spelled of an integer is what the number is read as. -/
lemma integer?_spelled {type : ScalarType} {bytes : List UInt8} (full : bytes.length = type.width)
    (integer : type.base.floatFormat? = none) :
    (type.spelled bytes).integer? = some (type.base.reading (type.order.number bytes)) := by
  rw [← toNat_spelled full]
  exact Value.integer?_eq integer

/-- The values of a type are those that the buffers of its width spell, each of them just one. -/
lemma bijOn_spelled (type : ScalarType) :
    Set.BijOn type.spelled {bytes | bytes.length = type.width} {v | v.base = type.base} := by
  refine ⟨fun bytes _ => rfl, fun bytes full other full' same => ?_, ?_⟩
  · refine type.bijOn_number.injOn full full' ?_
    rw [← toNat_spelled full, ← toNat_spelled full', same]
  · rintro ⟨base, bits⟩ rfl
    obtain ⟨bytes, full, number⟩ := type.bijOn_number.surjOn bits.isLt
    refine ⟨bytes, full, ?_⟩
    rw [spelled, number, BitVec.ofNat_toNat, BitVec.setWidth_eq]

/-- The bytes in the other order spell the same in the other order. -/
lemma spelled_reverse (type : ScalarType) (bytes : List UInt8) :
    spelled ⟨type.base, type.order.flip⟩ bytes.reverse = type.spelled bytes := by
  obtain ⟨base, order⟩ := type
  cases order with
  | big =>
    rw [spelled, spelled, ByteOrder.flip, ByteOrder.number, ByteOrder.number, ← ByteOrder.bigNumber_reverse,
      List.reverse_reverse]
  | little => rw [spelled, spelled, ByteOrder.flip, ByteOrder.number, ByteOrder.number, ByteOrder.bigNumber_reverse]

section Documented

variable {big little : NumberReads} {type : ScalarType} {bytes : List UInt8}

/-- Every type has a read that is its own: the first byte, or one of the reads of its byte order. -/
lemma exists_readsBack (most_first : big.Documented .big) (least_first : little.Documented .little)
    (type : ScalarType) :
    ∃ (α : Type) (bits : α → BitVec (8 * type.base.width)) (read : List UInt8 → Option α),
      Function.Surjective bits ∧ ReadsBack type.order type.base.width bits read ∧
      ∀ bytes, decodeWith? big little type bytes = (read bytes).map fun a => ⟨type.base, bits a⟩ := by
  obtain ⟨base, order⟩ := type
  have reads : NumberReads.Documented order (match order with | .big => big | .little => little) := by
    cases order with
    | big => exact most_first
    | little => exact least_first
  cases base with
  | unsigned w =>
    cases w with
    | one => exact ⟨_, _, _, fun bits => ⟨.ofBitVec bits, rfl⟩, readsBack_head? order, fun _ => rfl⟩
    | two => exact ⟨_, _, _, fun bits => ⟨.ofBitVec bits, rfl⟩, reads.u16, fun _ => rfl⟩
    | four => exact ⟨_, _, _, fun bits => ⟨.ofBitVec bits, rfl⟩, reads.u32, fun _ => rfl⟩
    | eight => exact ⟨_, _, _, fun bits => ⟨.ofBitVec bits, rfl⟩, reads.u64, fun _ => rfl⟩
  | signed w =>
    cases w with
    | one => exact ⟨_, _, _, fun bits => ⟨.ofBitVec bits, rfl⟩, readsBack_head? order, fun _ => rfl⟩
    | two => exact ⟨_, _, _, fun bits => ⟨.ofBitVec bits, rfl⟩, reads.i16, fun _ => rfl⟩
    | four => exact ⟨_, _, _, fun bits => ⟨.ofBitVec bits, rfl⟩, reads.i32, fun _ => rfl⟩
    | eight => exact ⟨_, _, _, fun bits => ⟨.ofBitVec bits, rfl⟩, reads.i64, fun _ => rfl⟩
  | single => exact ⟨_, _, _, Function.surjective_id, reads.f32, fun _ => rfl⟩
  | double => exact ⟨_, _, _, Function.surjective_id, reads.f64, fun _ => rfl⟩

/-- By reads that keep their promise a full buffer decodes to the value that it spells. -/
lemma decodeWith?_full (most_first : big.Documented .big) (least_first : little.Documented .little)
    (full : bytes.length = type.width) : decodeWith? big little type bytes = some (type.spelled bytes) := by
  obtain ⟨α, bits, read, onto, reads, decoded⟩ := exists_readsBack most_first least_first type
  obtain ⟨a, found, same⟩ := reads.full onto full
  rw [decoded, found, Option.map_some, same]
  rfl

/-- On a buffer that is too short there is nothing to decode. -/
lemma decodeWith?_short (most_first : big.Documented .big) (least_first : little.Documented .little)
    (few : bytes.length < type.width) : decodeWith? big little type bytes = none := by
  obtain ⟨α, bits, read, -, reads, decoded⟩ := exists_readsBack most_first least_first type
  rw [decoded, reads.short bytes few]
  rfl

/-- What a walk decodes of a field is what the bytes spell. -/
lemma decode_eq_spelled (full : bytes.length = type.width) : type.decode bytes = type.spelled bytes := by
  rw [decode, decodeWith?_full (.standard .big) (.standard .little) full]
  rfl

end Documented

/-- By any reads that keep the promise of their library, a buffer of the right width decodes to a value of the type,
whose bits count the sum of the bytes, each times its power of 256; an integer is that sum, in two's complement if it is
signed; and the reversed buffer decodes to the same in the other byte order. It is what a walk decodes. A shorter buffer
does not decode. Each value of the type is decoded from exactly one buffer of the width, and so is each number of an
integer type. -/
theorem decode_positional {big little : NumberReads} (most_first : big.Documented .big)
    (least_first : little.Documented .little) (type : ScalarType) :
    (∀ bytes : List UInt8, bytes.length = type.width →
      ∃ v, decodeWith? big little type bytes = some v ∧ type.decode bytes = v ∧
        v.base = type.base ∧
        v.bits.toNat = type.order.positional bytes ∧
        (type.base.floatFormat? = none → v.integer? = some (type.base.reading (type.order.positional bytes))) ∧
        decodeWith? big little ⟨type.base, type.order.flip⟩ bytes.reverse = some v) ∧
    (∀ bytes : List UInt8, bytes.length < type.width → decodeWith? big little type bytes = none) ∧
    Set.BijOn (decodeWith? big little type) {bytes | bytes.length = type.width}
      (some '' {v | v.base = type.base}) ∧
    (type.base.floatFormat? = none →
      Set.BijOn (fun bytes => (decodeWith? big little type bytes).bind Value.integer?)
        {bytes | bytes.length = type.width} (some '' type.base.numbers)) := by
  have decoded : ∀ bytes ∈ {bytes : List UInt8 | bytes.length = type.width},
      decodeWith? big little type bytes = some (type.spelled bytes) :=
    fun _ full => decodeWith?_full most_first least_first full
  refine ⟨fun bytes full => ⟨type.spelled bytes, decoded bytes full, decode_eq_spelled full, rfl, ?_,
    fun integer => ?_, ?_⟩, fun _ few => decodeWith?_short most_first least_first few, ?_, fun integer => ?_⟩
  · rw [toNat_spelled full, ByteOrder.number_eq_positional]
  · rw [integer?_spelled full integer, ByteOrder.number_eq_positional]
  · rw [← type.spelled_reverse]
    exact decodeWith?_full most_first least_first (List.length_reverse.trans full)
  · have given := (Option.some_injective Value).injOn.bijOn_image (s := {v | v.base = type.base})
    exact (given.comp type.bijOn_spelled).congr fun bytes full => (decoded bytes full).symm
  · have read := (BaseType.bijOn_reading integer).comp type.bijOn_number
    have given := (Option.some_injective ℤ).injOn.bijOn_image (s := type.base.numbers)
    refine (given.comp read).congr fun bytes full => ?_
    rw [decoded bytes full]
    exact (integer?_spelled full integer).symm

/-- Two bytes, the least significant first, that spell a negative number: no other two do. -/
theorem decode_positional_negative :
    let big := NumberReads.standard .big
    let little := NumberReads.standard .little
    let type : ScalarType := ⟨.signed .two, .little⟩
    let bytes : List UInt8 := [0x01, 0x80]
    big.Documented .big ∧ little.Documented .little ∧
      bytes.length = type.width ∧ type.base.floatFormat? = none ∧
      decodeWith? big little type bytes = some ⟨.signed .two, 0x8001⟩ ∧
      Value.integer? ⟨.signed .two, 0x8001⟩ = some (-0x7FFF) ∧
      decodeWith? big little ⟨.signed .two, .big⟩ [0x80, 0x01] = some ⟨.signed .two, 0x8001⟩ ∧
      decodeWith? big little type [0x01] = none ∧
      ∀ other : List UInt8, other.length = type.width →
        (decodeWith? big little type other).bind Value.integer? = some (-0x7FFF) → other = bytes := by
  intro big little type bytes
  have most_first : big.Documented .big := .standard .big
  have least_first : little.Documented .little := .standard .little
  have full : bytes.length = type.width := rfl
  have integer : type.base.floatFormat? = none := rfl
  obtain ⟨read, short, -, each⟩ := decode_positional most_first least_first type
  obtain ⟨v, decoded, -, -, -, number, reversed⟩ := read bytes full
  have value : decodeWith? big little type bytes = some ⟨.signed .two, 0x8001⟩ := rfl
  obtain rfl : v = ⟨.signed .two, 0x8001⟩ := Option.some.inj (decoded.symm.trans value)
  have negative : (decodeWith? big little type bytes).bind Value.integer? = some (-0x7FFF) := by
    rw [decoded]
    exact (number integer).trans (by decide)
  exact ⟨most_first, least_first, full, integer, decoded, rfl, reversed, short [0x01] (by decide), fun other full' same =>
    (each integer).injOn full' full (same.trans negative.symm)⟩

end ScalarType

end ByteAtlas
