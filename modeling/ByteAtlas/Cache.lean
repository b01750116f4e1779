import ByteAtlas.ReadLog
import ByteAtlas.Walk

/-!
# Caches

A cache walks a format over a source on demand and keeps the spans it has seen. It can be asked for the
next span or for the one that covers an offset, and it is told when bytes of the source change: only bytes
that the walk has read matter. The source is given at every request, since it may change between them.
-/

namespace ByteAtlas

/-- An index from offsets to the numbers of spans, and the spans seen so far; the number of the next span to
give, and that of the span given last. -/
structure Cache where
  format : Format
  walk : Walk
  log : ReadLog
  index : IntervalIndex Nat
  spans : Array Span
  cursor : Nat
  last : Option Nat

namespace Cache

/-- A cache at the start of a format, which need not be finished. -/
def ofFormat (format : Format) (log : ReadLog) : Cache where
  format := format
  walk := .ofLayout format.nodes 0 .empty
  log := log
  index := .empty
  spans := #[]
  cursor := 0
  last := none

/-- A cache at the start of a finished format. -/
def start (format : Format) : Except Error Cache := do
  format.check
  .ok (ofFormat format .empty)

/-- The span given last. -/
def current? (c : Cache) : Option Span := c.last.bind (c.spans[·]?)

/-- Whether the walk has ended, at the end of the format or with an error. -/
def isExhausted (c : Cache) : Bool := c.walk.isDone

/-- Gives the span of a number, and goes on after it. -/
def land (c : Cache) (number : Nat) : Option Span × Cache :=
  (c.spans[number]?, { c with cursor := number + 1, last := some number })

/-- Gives the last of the spans seen so far. -/
def landLast (c : Cache) : Option Span × Cache := c.land (c.spans.size - 1)

/-- Walks on to the next span and keeps it. -/
def pull (source : Source) (c : Cache) : Except Error (Option Span) × Cache :=
  match c.walk.pull source with
  | ⟨.ok (some span), request, walk⟩ =>
    (.ok (some span), { c with
      walk := walk
      log := c.log.recordRequest request
      index := c.index.insert span.first span.last c.spans.size
      spans := c.spans.push span })
  | ⟨.ok none, request, walk⟩ =>
    (.ok none, { c with walk := walk, log := c.log.recordRequest request })
  | ⟨.error cause, request, walk⟩ =>
    (.error cause, { c with walk := walk, log := c.log.recordRequest request })

/-- A pulled span tiles. -/
theorem pull_tiles {source : Source} {c pulled : Cache} {span : Span}
    (yielded : c.pull source = (.ok (some span), pulled)) :
    Walk.Tiles c.walk.offset span pulled.walk.offset := by
  revert yielded
  fun_cases pull <;> intro yielded
  case case1 s request walk pulled =>
    cases yielded
    have tiles := @Walk.pull_tiles source c.walk span
    simpa [pulled] using tiles
  all_goals cases yielded

/-- The span after the one given last. -/
def next (source : Source) (c : Cache) : Except Error (Option Span) × Cache :=
  if c.cursor < c.spans.size then
    let (span, landed) := c.land c.cursor
    (.ok span, landed)
  else
    match c.pull source with
    | (.ok (some _), pulled) =>
      let (span, landed) := pulled.landLast
      (.ok span, landed)
    | (.ok none, pulled) => (.ok none, pulled)
    | (.error cause, pulled) => (.error cause, pulled)

/-- Walks on to the span that covers an offset. -/
def seekOn (source : Source) (c : Cache) (offset : Nat) : Except Error (Option Span) × Cache :=
  match _ : c.pull source with
  | (.ok (some span), pulled) =>
    if span.last < offset then
      seekOn source pulled offset
    else if span.contains offset then
      let (span, landed) := pulled.landLast
      (.ok span, landed)
    else (.ok none, pulled)
  | (.ok none, pulled) => (.ok none, pulled)
  | (.error cause, pulled) => (.error cause, pulled)
termination_by offset - c.walk.offset
decreasing_by
  have tiles := pull_tiles (by assumption)
  have := tiles.first_eq
  have := tiles.first_le_last
  have := tiles.next_eq
  omega

/-- Whether an offset lies no further than the spans seen so far. -/
def hasPassed (c : Cache) (offset : Nat) : Bool := c.spans.back?.any (offset ≤ ·.last)

/-- The span that covers an offset, walking on only if it lies further than the spans seen so far. -/
def seekTo (source : Source) (c : Cache) (offset : Nat) : Except Error (Option Span) × Cache :=
  match (c.index.search offset offset).head? with
  | some number =>
    let (span, landed) := c.land number
    (.ok span, landed)
  | none => if c.hasPassed offset then (.ok none, c) else c.seekOn source offset

/-- Starts over: what was seen and what was asked for is dropped, and the walk goes back to the start. -/
def invalidate (c : Cache) : Cache :=
  { c with
    spans := #[]
    index := .empty
    cursor := 0
    last := none
    log := c.log.forget
    walk := c.walk.restart c.format 0 }

/-- Only the number of reads stays. -/
theorem invalidate_eq_ofFormat (c : Cache) : c.invalidate = ofFormat c.format c.log.forget := rfl

/-- Is told that `length` bytes from `offset` on may have changed, and starts over if the walk has asked
for any of them. Says whether it did. -/
def onChange (c : Cache) (offset length : Nat) : Bool × Cache :=
  if length = 0 then (false, c)
  else if c.log.wasTouched offset (lastOffset offset length) then (true, c.invalidate)
  else (false, c)

end Cache
end ByteAtlas
