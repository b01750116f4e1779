import ByteAtlas.Error
import ByteAtlas.Offset

/-!
# Sources

A source answers reads: some bytes from some offset on, or the reason why not. It may have a name, from
which its format can be guessed.
-/

namespace ByteAtlas

/-- What is read from. -/
structure Source where
  name : Option String
  read : Nat → Nat → Except ReadError (List UInt8)

/-- The `length` bytes from `offset` on, if there are as many. -/
def slice? (data : Array UInt8) (offset length : Nat) : Option (List UInt8) :=
  if offset + length ≤ data.size then some (data.extract offset (offset + length)).toList else none

/-- A slice is what remains after dropping the bytes before it and cutting off those behind it. -/
theorem slice?_eq_take_drop (data : Array UInt8) (offset length : Nat) :
    slice? data offset length =
      if offset + length ≤ data.size then some ((data.toList.drop offset).take length) else none := by
  simp [slice?]

/-- A slice has the length that was asked for. -/
theorem length_of_slice? {data : Array UInt8} {bytes : List UInt8} {offset length : Nat}
    (found : slice? data offset length = some bytes) : bytes.length = length := by
  rw [slice?_eq_take_drop] at found
  split at found
  · next fits =>
    injection found with same
    rw [← same, List.length_take, List.length_drop, Array.length_toList]
    omega
  · contradiction

/-- Two buffers with the same bytes in a range have the same slice there. Whether it is there is settled by its
last byte. -/
theorem slice?_congr {data other : Array UInt8} {offset length : Nat} (some_bytes : 0 < length)
    (same : ∀ i < length, other[offset + i]? = data[offset + i]?) :
    slice? other offset length = slice? data offset length := by
  have last := same (length - 1) (by omega)
  have ends : other.size ≤ offset + (length - 1) ↔ data.size ≤ offset + (length - 1) := by
    rw [← Array.getElem?_eq_none_iff, ← Array.getElem?_eq_none_iff, last]
  have fits : offset + length ≤ other.size ↔ offset + length ≤ data.size := by omega
  rw [slice?_eq_take_drop, slice?_eq_take_drop]
  simp only [fits]
  split
  · refine congrArg some (List.ext_getElem? fun i => ?_)
    rw [List.getElem?_take, List.getElem?_take]
    split
    · next inside => simpa using same i inside
    · rfl
  · rfl

namespace Source

/-- A buffer in memory. -/
def ofBytes (data : Array UInt8) : Source where
  name := none
  read offset length := (slice? data offset length).elim (.error (.outOfRange length offset)) .ok

/-- A buffer in memory with a name. -/
def named (name : String) (data : Array UInt8) : Source := { ofBytes data with name := some name }

/-- The number of positions in a file. -/
def filePositions : Nat := 0x8000000000000000

/-- A read at a position of a file: what lies there decides unless the position does not exist. Reading no
bytes succeeds at every position. -/
def atPosition (offset length : Nat) (bytes : Except ReadError (List UInt8)) :
    Except ReadError (List UInt8) :=
  if filePositions ≤ offset then .error .badPosition
  else if length = 0 then .ok []
  else if filePositions ≤ offset + length then .error .badPosition
  else bytes

/-- The bytes of a file. -/
def ofFile (name : Option String) (data : Array UInt8) : Source where
  name := name
  read offset length :=
    atPosition offset length ((slice? data offset length).elim (.error .endOfFile) .ok)

/-- A directory, opened as if it were a file. -/
def ofDirectory (name : Option String) : Source where
  name := name
  read offset length := atPosition offset length (.error .isDirectory)

end Source
end ByteAtlas
