import ByteAtlas.Walk
import Mathlib

/-!
# Pulls

What a pull does, told without its quiet steps. It makes at most one read, for a scalar field at the offset of the
walk (`Walk.pull_cases`); what the source answers to that read decides the whole pull (`Walk.pull_congr`);
a walk is done where it gives no span, and only there (`Walk.pull_ended`, `Walk.stack_of_span`); and the offset
stays in reach (`Walk.offset_pull_le`).
-/

namespace ByteAtlas

/-- What a pull gives: a span, the end or an error. -/
abbrev Answer := Except Error (Option Span)

/-- Runs of bytes with their lengths in front, one after the other without end. -/
def Format.entries : Format :=
  Format.empty.sequence (some "Entry") <|
    (Format.empty.scalar ⟨"Length", ⟨.unsigned .one, .big⟩, .red, some "n"⟩).bytes
      ⟨"Data", .var "n", .green⟩

/-- The bytes of a scalar can be counted in sixty-four bits. -/
lemma ScalarType.width_le (type : ScalarType) : type.width ≤ maxOffset := by
  rw [width]
  cases type.base with
  | unsigned w => cases w <;> decide
  | signed w => cases w <;> decide
  | single => decide
  | double => decide

namespace Walk

/-- The answers of the first pulls. -/
def results (source : Source) (w : Walk) : Nat → List Answer
  | 0 => []
  | count + 1 => (w.pull source).result :: (w.pull source).walk.results source count

/-- The scalar field that the next pull comes to, if it comes to one. -/
def scalar? (source : Source) (w : Walk) : Option ScalarField :=
  match _ : w.step source with
  | .quiet next => scalar? source next
  | .answer _ =>
    match w.stack with
    | .body (.scalar field _) _ _ :: _ => some field
    | _ => none
termination_by w.weight
decreasing_by exact weight_of_quiet (by assumption)

section Steps

variable {source : Source} {outer : List Frame} {scope : Scope} {offset : Nat} {path : String}
  {field : BytesField} {rest inner : Layout} {framed : Bool} {remaining started : Option Nat}

lemma step_bytes_none (nothing : field.count.resolve scope = 0) :
    step source ⟨.body (.bytes field rest) path framed :: outer, scope, offset⟩ =
      .quiet ⟨.body rest path framed :: outer, scope, offset⟩ :=
  if_pos nothing

lemma step_bytes_some (some_bytes : field.count.resolve scope ≠ 0) :
    step source ⟨.body (.bytes field rest) path framed :: outer, scope, offset⟩ =
      .answer (yield ⟨.body rest path framed :: outer, scope, offset⟩ none (joinPath path field.name)
        field.color (field.count.resolve scope)) :=
  if_neg some_bytes

lemma step_repetition_ended (ended : started = some offset ∨ remaining = some 0) :
    step source ⟨.repetition inner remaining path started :: outer, scope, offset⟩ =
      .quiet ⟨outer, scope, offset⟩ :=
  if_pos ended

lemma step_repetition_enter (goes_on : ¬(started = some offset ∨ remaining = some 0)) :
    step source ⟨.repetition inner remaining path started :: outer, scope, offset⟩ =
      .quiet ⟨.body inner path true :: .repetition inner (remaining.map (· - 1)) path (some offset) :: outer,
        scope.push, offset⟩ :=
  if_neg goes_on

end Steps

variable {source : Source} {w : Walk}

lemma pull_of_quiet {next : Walk} (quiet : w.step source = .quiet next) :
    w.pull source = next.pull source := by
  rw [pull]
  split
  · next e => rw [quiet] at e; cases e; rfl
  · next e => rw [quiet] at e; cases e

lemma pull_of_answer {p : Pull} (answered : w.step source = .answer p) : w.pull source = p := by
  rw [pull]
  split
  · next e => rw [answered] at e; cases e
  · next e => rw [answered] at e; cases e; rfl

lemma scalar?_of_quiet {next : Walk} (quiet : w.step source = .quiet next) :
    w.scalar? source = next.scalar? source := by
  rw [scalar?]
  split
  · next e => rw [quiet] at e; cases e; rfl
  · next e => rw [quiet] at e; cases e

lemma scalar?_of_answer {p : Pull} (answered : w.step source = .answer p) :
    w.scalar? source =
      match w.stack with
      | .body (.scalar field _) _ _ :: _ => some field
      | _ => none := by
  rw [scalar?]
  split
  · next e => rw [answered] at e; cases e
  · rfl

/-- A walk with nothing open gives the end and stays as it is. -/
lemma pull_of_done (done : w.stack = []) : w.pull source = ⟨.ok none, none, w⟩ := by
  apply pull_of_answer
  obtain ⟨stack, scope, offset⟩ := w
  cases done
  rfl

lemma results_of_done (done : w.stack = []) (count : Nat) :
    w.results source count = List.replicate count (.ok none) := by
  induction count with
  | zero => rfl
  | succ count ih => rw [results, pull_of_done done, ih, List.replicate_succ]

@[simp] lemma request_yield (request : Option (Nat × Nat)) (name : String) (color : Color)
    (length : Nat) : (w.yield request name color length).request = request := by
  rw [yield]
  split <;> rfl

/-- A scalar field is read where the walk is. -/
@[simp] lemma request_readScalar (path : String) (field : ScalarField) :
    (readScalar source w path field).request = some (w.offset, field.type.width) := by
  fun_cases readScalar
  · rfl
  · exact request_yield ..
  · rfl

/-- What an answer says: a span of some bytes, with a read of its own or without, or nothing more. -/
lemma step_answer {p : Pull} (answered : w.step source = .answer p) :
    (w.stack = [] ∧ p = ⟨.ok none, none, w⟩) ∨
    (∃ field rest path framed outer, w.stack = .body (.scalar field rest) path framed :: outer ∧
      p = readScalar source { w with stack := .body rest path framed :: outer } path field) ∨
    (∃ field rest path framed outer, w.stack = .body (.bytes field rest) path framed :: outer ∧
      field.count.resolve w.scope ≠ 0 ∧
      p = yield { w with stack := .body rest path framed :: outer } none (joinPath path field.name)
        field.color (field.count.resolve w.scope)) := by
  revert answered
  fun_cases step <;> intro answered <;> cases answered
  case case1 done => exact .inl ⟨done, rfl⟩
  case case3 field rest path framed outer top => exact .inr (.inl ⟨field, rest, path, framed, outer, top, rfl⟩)
  case case5 field rest path framed outer top some_bytes =>
    exact .inr (.inr ⟨field, rest, path, framed, outer, top, some_bytes, rfl⟩)

/-- Where yielding gives no span the walk is done and has not moved. -/
lemma yield_ended {request : Option (Nat × Nat)} {name : String} {color : Color} {length : Nat}
    (ended : ∀ span, (w.yield request name color length).result ≠ .ok (some span)) :
    (w.yield request name color length).walk.stack = [] ∧
      (w.yield request name color length).walk.offset = w.offset := by
  rw [yield] at ended ⊢
  split at ended
  · exact absurd rfl (ended _)
  · next overflow => simp only [if_neg overflow, fail, and_self]

/-- Where a scalar field gives no span the walk is done and has not moved. -/
lemma readScalar_ended {path : String} {field : ScalarField}
    (ended : ∀ span, (readScalar source w path field).result ≠ .ok (some span)) :
    (readScalar source w path field).walk.stack = [] ∧
      (readScalar source w path field).walk.offset = w.offset := by
  revert ended
  fun_cases readScalar <;> intro ended
  · exact ⟨rfl, rfl⟩
  · simpa using yield_ended ended
  · exact ⟨rfl, rfl⟩

/-- Where a pull gives no span the walk is done and has not moved. -/
lemma pull_ended (ended : ∀ span, (w.pull source).result ≠ .ok (some span)) :
    (w.pull source).walk.stack = [] ∧ (w.pull source).walk.offset = w.offset := by
  fun_induction pull source w with
  | case1 w next quiet ih => exact offset_of_quiet quiet ▸ ih ended
  | case2 w p answered =>
    obtain ⟨done, rfl⟩ | ⟨field, rest, path, framed, outer, -, rfl⟩ |
      ⟨field, rest, path, framed, outer, -, -, rfl⟩ := step_answer answered
    · exact ⟨done, rfl⟩
    · exact readScalar_ended ended
    · exact yield_ended ended

/-- Yielding a span leaves the stack. -/
lemma stack_yield {request : Option (Nat × Nat)} {name : String} {color : Color} {length : Nat} {span : Span}
    (yielded : (w.yield request name color length).result = .ok (some span)) :
    (w.yield request name color length).walk.stack = w.stack := by
  rw [yield] at yielded ⊢
  split at yielded
  · next fits => simp only [if_pos fits]
  · cases yielded

/-- The span of a scalar field leaves the stack. -/
lemma stack_readScalar {path : String} {field : ScalarField} {span : Span}
    (yielded : (readScalar source w path field).result = .ok (some span)) :
    (readScalar source w path field).walk.stack = w.stack := by
  revert yielded
  fun_cases readScalar <;> intro yielded
  · cases yielded
  · rw [stack_yield yielded, bindField]
    split <;> rfl
  · cases yielded

/-- What the span of some bytes is and where it leaves the walk. -/
lemma yield_of_span {request : Option (Nat × Nat)} {name : String} {color : Color} {length : Nat} {span : Span}
    (yielded : (w.yield request name color length).result = .ok (some span)) :
    span = ⟨name, color, w.offset, w.offset + length - 1⟩ ∧
      (w.yield request name color length).walk = { w with offset := w.offset + length } := by
  rw [yield] at yielded ⊢
  split at yielded
  · next fits =>
    cases yielded
    rw [if_pos fits]
    exact ⟨rfl, rfl⟩
  · cases yielded

/-- What the span of a scalar field is: its bytes were read, they are bound, and the walk goes on behind them. -/
lemma readScalar_of_span {path : String} {field : ScalarField} {span : Span}
    (yielded : (readScalar source w path field).result = .ok (some span)) :
    ∃ bytes, source.read w.offset field.type.width = .ok bytes ∧ bytes.length = field.type.width ∧
      span = ⟨joinPath path field.name, field.color, w.offset, w.offset + field.type.width - 1⟩ ∧
      (readScalar source w path field).walk.scope = (w.bindField field bytes).scope := by
  revert yielded
  fun_cases readScalar <;> intro yielded
  · cases yielded
  · next bytes read full =>
    obtain ⟨same, walk⟩ := yield_of_span yielded
    rw [offset_bindField] at same
    exact ⟨bytes, read, full, same, by rw [walk]⟩
  · cases yielded

/-- Yielding gives a span or an error, never the end. -/
lemma yield_ne_none {request : Option (Nat × Nat)} {name : String} {color : Color} {length : Nat} :
    (w.yield request name color length).result ≠ .ok none := by
  rw [yield]
  split <;> nofun

/-- A scalar field gives a span or an error, never the end. -/
lemma readScalar_ne_none {path : String} {field : ScalarField} :
    (readScalar source w path field).result ≠ .ok none := by
  fun_cases readScalar <;> intro ended
  · cases ended
  · exact yield_ne_none ended
  · cases ended

/-- The end is only where nothing is open. -/
lemma stack_of_none {p : Pull} (answered : w.step source = .answer p) (ended : p.result = .ok none) :
    w.stack = [] ∧ p.walk = w := by
  obtain ⟨done, rfl⟩ | ⟨field, rest, path, framed, outer, -, rfl⟩ |
    ⟨field, rest, path, framed, outer, -, -, rfl⟩ := step_answer answered
  · exact ⟨done, rfl⟩
  · exact absurd ended readScalar_ne_none
  · exact absurd ended yield_ne_none

/-- After a span there is something left to walk, if only the end of a body. -/
lemma stack_of_span {span : Span} (yielded : (w.pull source).result = .ok (some span)) :
    (w.pull source).walk.stack ≠ [] := by
  fun_induction pull source w with
  | case1 w next quiet ih => exact ih yielded
  | case2 w p answered =>
    obtain ⟨-, rfl⟩ | ⟨field, rest, path, framed, outer, -, rfl⟩ |
      ⟨field, rest, path, framed, outer, -, -, rfl⟩ := step_answer answered
    · cases yielded
    · rw [stack_readScalar yielded]
      exact List.cons_ne_nil _ _
    · rw [stack_yield yielded]
      exact List.cons_ne_nil _ _

/-- A pull stays where it is, or goes on behind a span. -/
lemma offset_pull (source : Source) (w : Walk) :
    (w.pull source).walk.offset = w.offset ∨ ∃ span, Tiles w.offset span (w.pull source).walk.offset := by
  by_cases ended : ∀ span, (w.pull source).result ≠ .ok (some span)
  · exact .inl (pull_ended ended).2
  · obtain ⟨span, yielded⟩ := Classical.not_forall_not.1 ended
    exact .inr ⟨span, pull_tiles yielded⟩

/-- A pull stays within the largest offset. -/
lemma offset_pull_le (reach : w.offset ≤ maxOffset) : (w.pull source).walk.offset ≤ maxOffset := by
  obtain same | ⟨span, tiles⟩ := offset_pull source w
  · exact same ▸ reach
  · rw [tiles.next_eq]
    exact tiles.last_lt

/-- A pull does not go back. -/
lemma le_offset_pull (source : Source) (w : Walk) : w.offset ≤ (w.pull source).walk.offset := by
  obtain same | ⟨span, tiles⟩ := offset_pull source w
  · exact same.ge
  · rw [tiles.next_eq, ← tiles.first_eq]
    exact Nat.le_succ_of_le tiles.first_le_last

/-- What a pull comes to. A scalar field is read where the walk is, and gives the span of what was read or an error;
anything else is not read. -/
lemma pull_cases (source : Source) (w : Walk) :
    (w.scalar? source = none ∧ (w.pull source).request = none) ∨
    ∃ field, w.scalar? source = some field ∧
      (w.pull source).request = some (w.offset, field.type.width) ∧
      (w.pull source).result ≠ .ok none ∧
      ∀ span, (w.pull source).result = .ok (some span) →
        span.first = w.offset ∧ span.last = w.offset + field.type.width - 1 := by
  fun_induction pull source w with
  | case1 w next quiet ih =>
    rw [scalar?_of_quiet quiet, ← offset_of_quiet quiet]
    exact ih
  | case2 w p answered =>
    rw [scalar?_of_answer answered]
    obtain ⟨done, rfl⟩ | ⟨field, rest, path, framed, outer, top, rfl⟩ |
      ⟨field, rest, path, framed, outer, top, -, rfl⟩ := step_answer answered
    · exact .inl ⟨by rw [done], rfl⟩
    · refine .inr ⟨field, by rw [top], request_readScalar .., readScalar_ne_none, fun span yielded => ?_⟩
      obtain ⟨bytes, -, -, rfl, -⟩ := readScalar_of_span yielded
      exact ⟨rfl, rfl⟩
    · exact .inl ⟨by rw [top], request_yield ..⟩

/-- A pull reads nothing, or some bytes where the walk is. -/
lemma request_pull (source : Source) (w : Walk) :
    (w.pull source).request = none ∨
      ∃ type : ScalarType, (w.pull source).request = some (w.offset, type.width) := by
  obtain ⟨-, none⟩ | ⟨field, -, some, -⟩ := pull_cases source w
  · exact .inl none
  · exact .inr ⟨field.type, some⟩

variable {edited : Source}

/-- Two sources with the same answer to the read of a field are alike for it. -/
lemma readScalar_congr {path : String} {field : ScalarField}
    (same : edited.read w.offset field.type.width = source.read w.offset field.type.width) :
    readScalar edited w path field = readScalar source w path field := by
  simp only [readScalar, same]

/-- Only the answer of a scalar field asks the source. -/
lemma step_congr (same : ∀ p offset length, w.step source = .answer p → p.request = some (offset, length) →
      edited.read offset length = source.read offset length) :
    w.step edited = w.step source := by
  obtain ⟨stack, scope, offset⟩ := w
  cases stack with
  | nil => rfl
  | cons frame outer =>
    cases frame with
    | repetition inner remaining path started => rfl
    | body rest path framed =>
      cases rest with
      | nil => rfl
      | bytes field rest => rfl
      | group name inner rest => rfl
      | embed name times inner unclosed rest => rfl
      | scalar field rest =>
        exact congrArg Step.answer (readScalar_congr (same _ _ _ rfl (request_readScalar ..)))

/-- Two sources with the same answer to the read of a pull are alike for it. -/
lemma pull_congr (same : ∀ offset length, (w.pull source).request = some (offset, length) →
      edited.read offset length = source.read offset length) :
    w.pull edited = w.pull source := by
  fun_induction pull source w with
  | case1 w next quiet ih =>
    have alike : w.step edited = w.step source := step_congr fun p _ _ answered => by
      rw [quiet] at answered
      cases answered
    rw [pull_of_quiet (alike.trans quiet), ih same]
  | case2 w p answered =>
    have alike : w.step edited = w.step source := step_congr fun p' offset length answered' => by
      rw [answered] at answered'
      cases answered'
      exact same offset length
    rw [pull_of_answer (alike.trans answered)]

end Walk
end ByteAtlas
