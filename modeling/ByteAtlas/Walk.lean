import ByteAtlas.Format
import ByteAtlas.Source

/-!
# Walks

A walk goes through a layout from field to field and yields a span for each. It can rest after every
span: the bodies that are open and the repetitions around them are kept on a stack. Bodies of groups and
repetitions have a frame of the scope to themselves.
-/

namespace ByteAtlas

/-- What is open at some point of a walk. -/
inductive Frame
  /-- The rest of a body. A framed body leaves its frame of the scope when it ends. -/
  | body (rest : Layout) (path : String) (framed : Bool)
  /-- A repeating layout: how many repetitions remain, if there is a limit, and the offset at which the
  last one started. -/
  | repetition (inner : Layout) (remaining : Option Nat) (path : String) (started : Option Nat)

/-- A bound on the quiet steps that are left in a frame at an offset. A repetition that has covered no
bytes is not repeated. -/
def Frame.weight (offset : Nat) : Frame → Nat
  | body rest _ _ => rest.weight
  | repetition inner _ _ started => if started = some offset then 1 else inner.weight + 2

/-- Leaving a frame is a step of its own. -/
theorem Frame.weight_pos (offset : Nat) (frame : Frame) : 0 < frame.weight offset := by
  cases frame with
  | body rest _ _ => cases rest <;> simp [weight, Layout.weight]
  | repetition => simp only [weight]; split <;> omega

/-- A walk at rest. One with nothing open is at its end. -/
structure Walk where
  stack : List Frame
  scope : Scope
  offset : Nat

/-- What a pull gives: a span, the end or an error; the offset and length of the read it made, if it made
one; and the walk afterwards. -/
structure Pull where
  result : Except Error (Option Span)
  request : Option (Nat × Nat)
  walk : Walk

/-- A single step either moves on without a sound or ends the pull. -/
inductive Step
  | quiet (walk : Walk)
  | answer (pull : Pull)

namespace Walk

/-- At the start of a layout. -/
def ofLayout (nodes : Layout) (start : Nat) (scope : Scope) : Walk :=
  ⟨[.body nodes "" false], scope, start⟩

/-- At the start of a finished format. -/
def start (format : Format) (start : Nat) (scope : Scope) : Except Error Walk := do
  format.check
  .ok (ofLayout format.nodes start scope)

/-- Goes back to a start of a format, with an empty scope. -/
def restart (w : Walk) (format : Format) (start : Nat) : Walk :=
  { w with
    scope := .empty
    stack := [.body format.nodes "" false]
    offset := start }

/-- Whether nothing is left to walk. -/
def isDone (w : Walk) : Bool := w.stack.isEmpty

/-- A bound on the quiet steps that are left before the next span. -/
def weight (w : Walk) : Nat := w.stack.foldr (fun frame rest => frame.weight w.offset + rest) 0

/-- Stops for good. The scope stays as it is. -/
def fail (w : Walk) (request : Option (Nat × Nat)) (cause : Error) : Pull :=
  ⟨.error cause, request, { w with stack := [] }⟩

/-- Yields a span of the next `length` bytes and moves past them. -/
def yield (w : Walk) (request : Option (Nat × Nat)) (name : String) (color : Color) (length : Nat) :
    Pull :=
  if w.offset + length ≤ maxOffset then
    ⟨.ok (some ⟨name, color, w.offset, w.offset + length - 1⟩), request,
      { w with offset := w.offset + length }⟩
  else
    w.fail request (.offsetOverflow w.offset length)

/-- Sets the variable of a bound field. -/
def bindField (w : Walk) (field : ScalarField) (bytes : List UInt8) : Walk :=
  match field.bind with
  | none => w
  | some name => { w with scope := w.scope.set name (field.type.decode bytes) }

/-- Reads a scalar field at the offset, binds its value and yields its span. -/
def readScalar (source : Source) (w : Walk) (path : String) (field : ScalarField) : Pull :=
  let width := field.type.width
  let request := some (w.offset, width)
  match source.read w.offset width with
  | .error cause => w.fail request (.io cause)
  | .ok bytes =>
    if bytes.length = width then
      (w.bindField field bytes).yield request (joinPath path field.name) field.color width
    else
      w.fail request (.io (.shortAnswer bytes.length width w.offset))

/-- The path inside an embedded format, which may have no name. -/
def embedPath (path : String) : Option String → String
  | none => path
  | some name => joinPath path name

/-- Looks at the innermost frame and does the next thing in it. -/
def step (source : Source) (w : Walk) : Step :=
  match w.stack with
  | [] => .answer ⟨.ok none, none, w⟩
  | .body .nil _ framed :: outer =>
    .quiet { w with stack := outer, scope := if framed then w.scope.pop else w.scope }
  | .body (.scalar field rest) path framed :: outer =>
    .answer (readScalar source { w with stack := .body rest path framed :: outer } path field)
  | .body (.bytes field rest) path framed :: outer =>
    if field.count.resolve w.scope = 0 then .quiet { w with stack := .body rest path framed :: outer }
    else .answer (yield { w with stack := .body rest path framed :: outer } none
      (joinPath path field.name) field.color (field.count.resolve w.scope))
  | .body (.group name inner rest) path framed :: outer =>
    .quiet { w with
      stack := .body inner (joinPath path name) true :: .body rest path framed :: outer
      scope := w.scope.push }
  | .body (.embed name times inner _ rest) path framed :: outer =>
    .quiet { w with
      stack := .repetition inner (times.resolve w.scope) (embedPath path name) none ::
        .body rest path framed :: outer }
  | .repetition inner remaining path started :: outer =>
    if started = some w.offset ∨ remaining = some 0 then
      .quiet { w with stack := outer }
    else
      .quiet { w with
        stack := .body inner path true ::
          .repetition inner (remaining.map (· - 1)) path (some w.offset) :: outer
        scope := w.scope.push }

/-- A quiet step uses up some of the bound. -/
theorem weight_of_quiet {source : Source} {w next : Walk} (quiet : w.step source = .quiet next) :
    next.weight < w.weight := by
  obtain ⟨stack, scope, offset⟩ := w
  revert quiet
  fun_cases step <;> intro quiet
  case case2 | case4 =>
    injection quiet with same
    subst same
    simp_all [weight, Frame.weight, Layout.weight]
  case case6 | case7 =>
    injection quiet with same
    subst same
    simp_all [weight, Frame.weight, Layout.weight]
    omega
  case case8 =>
    injection quiet with same
    subst same
    have := Frame.weight_pos offset
    simp_all [weight]
  case case9 =>
    injection quiet with same
    subst same
    simp_all [weight, Frame.weight]
    omega
  all_goals contradiction

/-- The next span, the end or an error. After the end and after an error there is only the end. -/
def pull (source : Source) (w : Walk) : Pull :=
  match _ : w.step source with
  | .quiet next => pull source next
  | .answer pull => pull
termination_by w.weight
decreasing_by exact weight_of_quiet (by assumption)

/-- What holds of a span that is yielded at an offset: it begins there, is not empty, lies below the
largest offset, and the walk goes on right after it. -/
structure Tiles (offset : Nat) (span : Span) (next : Nat) : Prop where
  first_eq : span.first = offset
  first_le_last : span.first ≤ span.last
  last_lt : span.last < maxOffset
  next_eq : next = span.last + 1

/-- A span of some bytes tiles. -/
theorem yield_tiles {w : Walk} {request name color length span} (some_bytes : 0 < length)
    (yielded : (w.yield request name color length).result = .ok (some span)) :
    Tiles w.offset span (w.yield request name color length).walk.offset := by
  revert yielded
  fun_cases yield <;> intro yielded
  · next fits =>
    injection yielded with yielded
    injection yielded with yielded
    subst yielded
    constructor <;> simp <;> omega
  · next => simp [fail] at yielded

/-- Binding a field does not move the walk. -/
@[simp] theorem offset_bindField (w : Walk) (field : ScalarField) (bytes : List UInt8) :
    (w.bindField field bytes).offset = w.offset := by
  simp only [bindField]
  split <;> rfl

/-- The span of a scalar field tiles. -/
theorem readScalar_tiles {source : Source} {w : Walk} {path field span}
    (yielded : (readScalar source w path field).result = .ok (some span)) :
    Tiles w.offset span (readScalar source w path field).walk.offset := by
  revert yielded
  fun_cases readScalar <;> intro yielded
  · simp [fail] at yielded
  · simpa using yield_tiles field.type.width_pos yielded
  · simp [fail] at yielded

/-- The span of an answer tiles. -/
theorem step_tiles {source : Source} {w : Walk} {p : Pull} {span}
    (answered : w.step source = .answer p) (yielded : p.result = .ok (some span)) :
    Tiles w.offset span p.walk.offset := by
  revert answered
  fun_cases step <;> intro answered <;> cases answered
  case case1 => simp at yielded
  case case3 => exact readScalar_tiles yielded
  case case5 => exact yield_tiles (Nat.pos_of_ne_zero (by assumption)) yielded

/-- Quiet steps do not move the walk. -/
theorem offset_of_quiet {source : Source} {w next : Walk} (quiet : w.step source = .quiet next) :
    next.offset = w.offset := by
  revert quiet
  fun_cases step <;> intro quiet <;> cases quiet <;> rfl

/-- The span of a pull tiles. -/
theorem pull_tiles {source : Source} {w : Walk} {span}
    (yielded : (w.pull source).result = .ok (some span)) :
    Tiles w.offset span (w.pull source).walk.offset := by
  fun_induction pull source w with
  | case1 w next quiet ih => exact offset_of_quiet quiet ▸ ih yielded
  | case2 w p answered => exact step_tiles answered yielded

/-- The spans of up to `limit` pulls, and the error that ended them early, if one did. -/
def take (source : Source) (w : Walk) : Nat → List Span × Option Error
  | 0 => ([], none)
  | limit + 1 =>
    let pulled := w.pull source
    match pulled.result with
    | .ok (some span) =>
      let (spans, stopped) := take source pulled.walk limit
      (span :: spans, stopped)
    | .ok none => ([], none)
    | .error cause => ([], some cause)

end Walk
end ByteAtlas
