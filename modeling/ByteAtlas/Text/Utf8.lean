/-!
# UTF-8

A machine that reads bytes one at a time. Ill-formed bytes are cut into pieces: each is the longest
beginning of a character that the bytes go on with, or else a single byte.
-/

namespace ByteAtlas.Text.Utf8

/-- Where the machine stands: between characters, or inside one that lacks `need` bytes, of which the next
lies between `low` and `high`; `value` holds the bits so far. -/
inductive State
  | between
  | inside (need low high value : Nat)
deriving DecidableEq, Repr

/-- The state that a byte leads to from between characters, and the characters that it completes. -/
def first (b : Nat) : List (Option Char) × State :=
  if b < 0x80 then ([some (Char.ofNat b)], .between)
  else if b < 0xC2 then ([none], .between)
  else if b < 0xE0 then ([], .inside 1 0x80 0xBF (b % 32))
  else if b < 0xF0 then
    ([], .inside 2 (if b = 0xE0 then 0xA0 else 0x80) (if b = 0xED then 0x9F else 0xBF) (b % 16))
  else if b < 0xF5 then
    ([], .inside 3 (if b = 0xF0 then 0x90 else 0x80) (if b = 0xF4 then 0x8F else 0xBF) (b % 8))
  else ([none], .between)

/-- The characters that a byte completes, ill-formed pieces being none, and the state after it. A byte
that cannot go on with a character ends the piece and begins anew. -/
def step (b : Nat) : State → List (Option Char) × State
  | .between => first b
  | .inside need low high value =>
    if low ≤ b ∧ b ≤ high then
      let more := value * 64 + b % 64
      if need ≤ 1 then ([some (Char.ofNat more)], .between)
      else ([], .inside (need - 1) 0x80 0xBF more)
    else
      let (done, next) := first b
      (none :: done, next)

/-- The characters of bytes from a state on, ill-formed pieces being none. -/
def pieces : State → List UInt8 → List (Option Char)
  | .between, [] => []
  | .inside .., [] => [none]
  | state, b :: rest =>
    let (done, next) := step b.toNat state
    done ++ pieces next rest

/-- The text of bytes, with a replacement character for every ill-formed piece. -/
def decodeLossy (bytes : List UInt8) : String :=
  String.ofList ((pieces .between bytes).map (·.getD '\ufffd'))

/-- The text of bytes that are well-formed throughout. -/
def decode? (bytes : List UInt8) : Option String :=
  ((pieces .between bytes).mapM id).map String.ofList

end ByteAtlas.Text.Utf8
