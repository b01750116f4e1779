import ByteAtlas.Value

/-!
# Scalar types

A scalar type is a base type with a byte order. A value is decoded by a read for its type and its order. The
reads are those of a library, so decoding is told for any (`ScalarType.decodeWith?`); walks decode by reads in
which every byte counts a power of 256 by its place (`NumberReads.standard`).
-/

namespace ByteAtlas

/-- Whether the first byte counts most or least. -/
inductive ByteOrder
  | big | little
deriving DecidableEq, Repr

namespace ByteOrder

/-- The number that bytes spell when each counts 256 times the next. -/
def bigNumber (bytes : List UInt8) : Nat := bytes.foldl (fun n b => 256 * n + b.toNat) 0

/-- The number that bytes spell when each counts a 256th of the next. -/
def littleNumber (bytes : List UInt8) : Nat := bytes.foldr (fun b n => b.toNat + 256 * n) 0

/-- The number that bytes spell in this order. -/
def number : ByteOrder → List UInt8 → Nat
  | big => bigNumber
  | little => littleNumber

/-- Reversing the bytes exchanges the two orders. -/
theorem bigNumber_reverse (bytes : List UInt8) : bigNumber bytes.reverse = littleNumber bytes := by
  simp [bigNumber, littleNumber, Nat.add_comm]

/-- The number that the first bytes of a buffer spell, if there are so many. -/
def front? (order : ByteOrder) (width : Nat) (bytes : List UInt8) : Option Nat :=
  if width ≤ bytes.length then some (order.number (bytes.take width)) else none

end ByteOrder

/-- The reads of a byte order: each gives the number at the front of a buffer, floating-point numbers by their
bits. None gives anything on a buffer that is too short for it. -/
structure NumberReads where
  u16 : List UInt8 → Option UInt16
  u32 : List UInt8 → Option UInt32
  u64 : List UInt8 → Option UInt64
  i16 : List UInt8 → Option Int16
  i32 : List UInt8 → Option Int32
  i64 : List UInt8 → Option Int64
  f32 : List UInt8 → Option (BitVec 32)
  f64 : List UInt8 → Option (BitVec 64)

/-- The reads that count the bytes by their places. -/
def NumberReads.standard (order : ByteOrder) : NumberReads where
  u16 bytes := (order.front? 2 bytes).map UInt16.ofNat
  u32 bytes := (order.front? 4 bytes).map UInt32.ofNat
  u64 bytes := (order.front? 8 bytes).map UInt64.ofNat
  i16 bytes := (order.front? 2 bytes).map Int16.ofNat
  i32 bytes := (order.front? 4 bytes).map Int32.ofNat
  i64 bytes := (order.front? 8 bytes).map Int64.ofNat
  f32 bytes := (order.front? 4 bytes).map (BitVec.ofNat 32)
  f64 bytes := (order.front? 8 bytes).map (BitVec.ofNat 64)

/-- A base type with a byte order; for a single byte the order is `big` by convention. -/
structure ScalarType where
  base : BaseType
  order : ByteOrder
deriving DecidableEq, Repr

namespace ScalarType

/-- How many bytes a scalar takes. -/
def width (type : ScalarType) : Nat := type.base.width

/-- Every scalar takes some bytes. -/
theorem width_pos (type : ScalarType) : 0 < type.width := type.base.width_pos

/-- The value at the front of a buffer, by the reads of the two byte orders. A single byte has none. -/
def decodeWith? (big little : NumberReads) (type : ScalarType) (bytes : List UInt8) : Option Value :=
  let reads := match type.order with
    | .big => big
    | .little => little
  match type.base with
  | .unsigned .one => bytes.head?.map fun b => ⟨.unsigned .one, b.toBitVec⟩
  | .signed .one => bytes.head?.map fun b => ⟨.signed .one, b.toInt8.toBitVec⟩
  | .unsigned .two => (reads.u16 bytes).map fun n => ⟨.unsigned .two, n.toBitVec⟩
  | .signed .two => (reads.i16 bytes).map fun n => ⟨.signed .two, n.toBitVec⟩
  | .unsigned .four => (reads.u32 bytes).map fun n => ⟨.unsigned .four, n.toBitVec⟩
  | .signed .four => (reads.i32 bytes).map fun n => ⟨.signed .four, n.toBitVec⟩
  | .unsigned .eight => (reads.u64 bytes).map fun n => ⟨.unsigned .eight, n.toBitVec⟩
  | .signed .eight => (reads.i64 bytes).map fun n => ⟨.signed .eight, n.toBitVec⟩
  | .single => (reads.f32 bytes).map fun bits => ⟨.single, bits⟩
  | .double => (reads.f64 bytes).map fun bits => ⟨.double, bits⟩

/-- The value that the bytes of a field hold. There are as many as its type takes, so there is one. -/
def decode (type : ScalarType) (bytes : List UInt8) : Value :=
  (decodeWith? (.standard .big) (.standard .little) type bytes).getD ⟨type.base, 0⟩

/-- What is decoded has the base type that was asked for. -/
theorem base_decodeWith? {big little : NumberReads} {type : ScalarType} {bytes : List UInt8} {v : Value}
    (decoded : decodeWith? big little type bytes = some v) : v.base = type.base := by
  revert decoded
  fun_cases decodeWith? <;> intro decoded
  all_goals
    obtain ⟨_, _, rfl⟩ := Option.map_eq_some_iff.1 decoded
    symm
    assumption

/-- What the bytes of a field hold has the base type of the field. -/
theorem base_decode (type : ScalarType) (bytes : List UInt8) : (type.decode bytes).base = type.base := by
  rw [decode]
  cases decoded : decodeWith? (.standard .big) (.standard .little) type bytes with
  | none => rfl
  | some v => exact base_decodeWith? decoded

/-- The words for the scalar types of a base type: without a suffix the order is `big`, and only types
of several bytes take the suffixes. -/
def wordsFor (base : BaseType) : List (String × ScalarType) :=
  (base.keyword, ⟨base, .big⟩) ::
    if base.width = 1 then []
    else [(base.keyword ++ "le", ⟨base, .little⟩), (base.keyword ++ "be", ⟨base, .big⟩)]

/-- All words for scalar types. -/
def words : List (String × ScalarType) := BaseType.all.flatMap wordsFor

/-- The scalar type that a word names. -/
def ofWord? (word : String) : Option ScalarType := words.lookup word

end ScalarType
end ByteAtlas
