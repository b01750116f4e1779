import ByteAtlas.Proofs.Walk.Run

/-!
# Bindings are lexical

A walk keeps its open bodies on a stack and their variables in the frames of a scope, and the two grow and shrink in
different steps. They still belong together (`Lexical`): at every point of a run each open group and each open
repetition has the frame of its place to itself, and in it is what the fields of that body have bound so far
(`Binds`) and nothing else. Every step keeps this (`Lexical.of_quiet`, `Lexical.of_span`), so it holds throughout a
run (`GoesThrough.lexical`), and what is bound in a body is gone with it (`Walk.bindings_lexical`).
-/

namespace ByteAtlas

/-- Whether a frame is an open body with a frame of the scope to itself. -/
def Frame.isFramed : Frame → Bool
  | body _ _ framed => framed
  | repetition .. => false

/-- What a scalar field binds when some bytes are read for it. -/
def ScalarField.bindings (field : ScalarField) (bytes : List UInt8) : Bindings :=
  (field.bind.map fun name => (name, field.type.decode bytes)).toList

namespace Walk

/-- How many groups and repetitions are open. -/
def openBodies (w : Walk) : Nat := w.stack.countP Frame.isFramed

/-- The points that a run passes, with the number of spans before each: the quiet steps lead from one to the next,
and so do the spans. There is none behind an error. -/
inductive GoesThrough (sources : Nat → Source) (w : Walk) : Nat → Walk → Prop
  | start : GoesThrough sources w 0 w
  | quiet {count point next} :
    GoesThrough sources w count point →
    point.step (sources count) = .quiet next →
    GoesThrough sources w count next
  | span {count point pulled span} :
    GoesThrough sources w count point →
    point.step (sources count) = .answer pulled →
    pulled.result = .ok (some span) →
    GoesThrough sources w (count + 1) pulled.walk

/-- Whether a run comes to a scalar field, with some frames on the stack, and gives the span of the field after
reading some bytes for it. -/
structure Reads (sources : Nat → Source) (w : Walk) (stack : List Frame) (path : String) (field : ScalarField)
    (bytes : List UInt8) (count : Nat) (point : Walk) : Prop where
  passed : w.GoesThrough sources count point
  stack : point.stack = stack
  read : (sources count).read point.offset field.type.width = .ok bytes
  full : bytes.length = field.type.width
  answer : w.answer sources count =
    .ok (some ⟨joinPath path field.name, field.color, point.offset, point.offset + field.type.width - 1⟩)

end Walk

section Definitions

variable (sources : Nat → Source) (w : Walk)

/-- What an open body that lies above some others has bound when it has come from all its nodes to the rest of them,
the most recent first: for a scalar field what was read when the run came to it in this body, for all other nodes
nothing, whatever is inside them. -/
inductive Binds (path : String) (framed : Bool) (below : List Frame) (nodes : Layout) : Layout → Bindings → Prop
  | start : Binds path framed below nodes nodes []
  | scalar {field rest own bytes count point} :
    Binds path framed below nodes (.scalar field rest) own →
    w.Reads sources (.body (.scalar field rest) path framed :: below) path field bytes count point →
    Binds path framed below nodes rest (field.bindings bytes ++ own)
  | bytes {field rest own} :
    Binds path framed below nodes (.bytes field rest) own →
    Binds path framed below nodes rest own
  | group {name inner rest own} :
    Binds path framed below nodes (.group name inner rest) own →
    Binds path framed below nodes rest own
  | embed {name times inner unclosed rest own} :
    Binds path framed below nodes (.embed name times inner unclosed rest) own →
    Binds path framed below nodes rest own

/-- Whether the frames of the scope belong to the stack of a walk through some nodes. From the inside out, every open
group and every open repetition has one frame with what its own body has bound; the frame below them is the innermost
of the scope given at the start, with what the nodes themselves have bound before it; and the others that were given
follow. -/
inductive Lexical (nodes : Layout) (given : Scope) : List Frame → List Bindings → Prop
  | root {rest own} :
    Binds sources w "" false [] nodes rest own →
    Lexical nodes given [.body rest "" false] ((own ++ given.inner) :: given.outer)
  | ended {own} :
    Binds sources w "" false [] nodes .nil own →
    Lexical nodes given [] ((own ++ given.inner) :: given.outer)
  | group {name inner rest after path framed below frames own} :
    Lexical nodes given (.body (.group name inner after) path framed :: below) frames →
    Binds sources w (joinPath path name) true (.body after path framed :: below) inner rest own →
    Lexical nodes given (.body rest (joinPath path name) true :: .body after path framed :: below) (own :: frames)
  | between {name times inner unclosed after path framed below frames remaining started} :
    Lexical nodes given (.body (.embed name times inner unclosed after) path framed :: below) frames →
    Lexical nodes given
      (.repetition inner remaining (Walk.embedPath path name) started :: .body after path framed :: below) frames
  | round {inner remaining started path below frames rest own} :
    Lexical nodes given (.repetition inner remaining path started :: below) frames →
    Binds sources w path true (.repetition inner remaining path started :: below) inner rest own →
    Lexical nodes given (.body rest path true :: .repetition inner remaining path started :: below) (own :: frames)

end Definitions

/-- Leaving the innermost of several frames leaves the others. -/
lemma Scope.frames_pop {scope : Scope} {frame next : Bindings} {more : List Bindings}
    (frames : scope.frames = frame :: next :: more) : scope.pop.frames = next :: more := by
  obtain ⟨inner, outer⟩ := scope
  cases frames
  rfl

/-- A look-up goes through the frames one after the other. -/
lemma Scope.get?_eq_lookup (scope : Scope) (name : String) :
    scope.get? name = scope.frames.flatten.lookup name := by
  rw [get?]
  induction scope.frames with
  | nil => rfl
  | cons frame more ih =>
    rw [List.findSome?_cons, List.flatten_cons, List.lookup_append, ih]
    cases frame.lookup name <;> rfl

namespace Walk

/-- A bound field adds its binding to the innermost frame. -/
lemma frames_bindField (v : Walk) (field : ScalarField) (bytes : List UInt8) :
    (v.bindField field bytes).scope.frames = (field.bindings bytes ++ v.scope.inner) :: v.scope.outer := by
  rw [bindField, ScalarField.bindings]
  cases field.bind <;> rfl

end Walk

variable {sources : Nat → Source} {w : Walk}

namespace Walk.GoesThrough

variable {v : Walk} {count : Nat}

/-- At every point the next pull is the one that the run makes. -/
lemma pull_eq (passed : w.GoesThrough sources count v) :
    v.pull (sources count) = (w.after sources count).pull (sources count) := by
  induction passed with
  | start => rfl
  | quiet _ quiet ih => exact (pull_of_quiet quiet).symm.trans ih
  | span _ answered _ ih =>
    rw [pull_of_answer answered] at ih
    rw [after, ← ih]

/-- A pull leads from one point to another, unless it fails. -/
lemma pull (passed : w.GoesThrough sources count v) (succeeded : (v.pull (sources count)).result.isOk) :
    w.GoesThrough sources (count + 1) (v.pull (sources count)).walk ∨
      w.GoesThrough sources count (v.pull (sources count)).walk ∧ (v.pull (sources count)).walk.stack = [] := by
  fun_induction Walk.pull (sources count) v with
  | case1 v next quiet ih => exact ih (passed.quiet quiet) succeeded
  | case2 v p answered =>
    cases e : p.result with
    | error cause =>
      rw [e] at succeeded
      cases succeeded
    | ok found =>
      cases found with
      | none =>
        obtain ⟨done, same⟩ := stack_of_none answered e
        rw [same]
        exact .inr ⟨passed, done⟩
      | some span => exact .inl (passed.span answered e)

/-- As long as no pull has failed the run is at one of its points. -/
lemma of_after (sources : Nat → Source) (w : Walk) {pulls : Nat}
    (succeeded : ∀ number < pulls, (w.answer sources number).isOk) :
    ∃ count ≤ pulls, w.GoesThrough sources count (w.after sources pulls) ∧
      (count = pulls ∨ (w.after sources pulls).stack = []) := by
  induction pulls with
  | zero => exact ⟨0, Nat.le_refl _, .start, .inl rfl⟩
  | succ pulls ih =>
    obtain ⟨count, le, passed, going | done⟩ := ih fun number before => succeeded number (Nat.lt_succ_of_lt before)
    · subst going
      obtain onward | ⟨same, done⟩ := passed.pull (succeeded count (Nat.lt_succ_self _))
      · exact ⟨count + 1, Nat.le_refl _, onward, .inl rfl⟩
      · exact ⟨count, Nat.le_succ _, same, .inr done⟩
    · refine ⟨count, Nat.le_succ_of_le le, ?_, .inr ?_⟩
      · rw [after, pull_of_done done]
        exact passed
      · rw [after, pull_of_done done]
        exact done

end Walk.GoesThrough

open Walk

namespace Lexical

variable {nodes : Layout} {given : Scope} {stack below : List Frame} {frames : List Bindings}

/-- There is a frame in every scope. -/
lemma exists_frame (h : Lexical sources w nodes given stack frames) : ∃ frame more, frames = frame :: more := by
  induction h with
  | root => exact ⟨_, _, rfl⟩
  | ended => exact ⟨_, _, rfl⟩
  | group => exact ⟨_, _, rfl⟩
  | between _ ih => exact ih
  | round => exact ⟨_, _, rfl⟩

/-- A body goes on to what is left of it. What it binds on the way goes into its own frame. -/
lemma pass {nodes' rest : Layout} {path : String} {framed : Bool} {frame : Bindings} (more : Bindings)
    (h : Lexical sources w nodes given (.body nodes' path framed :: below) (frame :: frames))
    (binds : ∀ {all own}, Binds sources w path framed below all nodes' own →
      Binds sources w path framed below all rest (more ++ own)) :
    Lexical sources w nodes given (.body rest path framed :: below) ((more ++ frame) :: frames) := by
  cases h with
  | root bound =>
    rw [← List.append_assoc]
    exact .root (binds bound)
  | group outside bound => exact .group outside (binds bound)
  | round outside bound => exact .round outside (binds bound)

/-- A body goes on without binding anything. -/
lemma pass_unbound {nodes' rest : Layout} {path : String} {framed : Bool}
    (h : Lexical sources w nodes given (.body nodes' path framed :: below) frames)
    (binds : ∀ {all own}, Binds sources w path framed below all nodes' own →
      Binds sources w path framed below all rest own) :
    Lexical sources w nodes given (.body rest path framed :: below) frames := by
  obtain ⟨frame, more, rfl⟩ := h.exists_frame
  exact h.pass [] binds

/-- A body with a frame to itself ends. Its frame is dropped with it. -/
lemma leave {path : String} {frame : Bindings}
    (h : Lexical sources w nodes given (.body .nil path true :: below) (frame :: frames)) :
    Lexical sources w nodes given below frames := by
  cases h with
  | group outside _ => exact outside.pass_unbound .group
  | round outside _ => exact outside

/-- Between two rounds the number of those that remain does not matter. -/
lemma again {inner : Layout} {path : String} {remaining left started began : Option Nat}
    (h : Lexical sources w nodes given (.repetition inner remaining path started :: below) frames) :
    Lexical sources w nodes given (.repetition inner left path began :: below) frames := by
  cases h with
  | between outside => exact .between outside

/-- The frames are one for each open group and repetition, and those given at the start. The innermost of these has
only the bindings of the root in addition, the others are as they were. -/
lemma frames_eq (h : Lexical sources w nodes given stack frames) :
    ∃ inside own rest, frames = inside ++ (own ++ given.inner) :: given.outer ∧
      inside.length = stack.countP Frame.isFramed ∧ Binds sources w "" false [] nodes rest own := by
  induction h with
  | root bound => exact ⟨[], _, _, rfl, rfl, bound⟩
  | ended bound => exact ⟨[], _, _, rfl, rfl, bound⟩
  | @group _ _ _ _ _ _ _ _ frame _ _ ih =>
    obtain ⟨inside, own, rest, rfl, length, bound⟩ := ih
    refine ⟨frame :: inside, own, rest, rfl, ?_, bound⟩
    rw [List.countP_cons_of_pos rfl]
    exact congrArg (· + 1) length
  | between _ ih =>
    obtain ⟨inside, own, rest, rfl, length, bound⟩ := ih
    refine ⟨inside, own, rest, rfl, ?_, bound⟩
    rw [List.countP_cons_of_neg Bool.false_ne_true]
    exact length
  | @round _ _ _ _ _ _ _ frame _ _ ih =>
    obtain ⟨inside, own, rest, rfl, length, bound⟩ := ih
    refine ⟨frame :: inside, own, rest, rfl, ?_, bound⟩
    rw [List.countP_cons_of_pos rfl]
    exact congrArg (· + 1) length

/-- With nothing open there are only the frames given at the start. -/
lemma scope_eq {scope : Scope} (h : Lexical sources w nodes given [] scope.frames) :
    ∃ own, Binds sources w "" false [] nodes .nil own ∧ scope = ⟨own ++ given.inner, given.outer⟩ := by
  obtain ⟨inner, outer⟩ := scope
  generalize frames : Scope.frames ⟨inner, outer⟩ = all at h
  cases h with
  | ended bound =>
    cases frames
    exact ⟨_, bound, rfl⟩

variable {source : Source} {v next : Walk} {count : Nat}

/-- The frames still belong to the stack after a quiet step. -/
lemma of_quiet (h : Lexical sources w nodes given v.stack v.scope.frames) (quiet : v.step source = .quiet next) :
    Lexical sources w nodes given next.stack next.scope.frames := by
  obtain ⟨stack, scope, offset⟩ := v
  cases stack with
  | nil => cases quiet
  | cons top outer =>
    cases top with
    | body rest path framed =>
      cases rest with
      | nil =>
        cases quiet
        cases framed with
        | false =>
          generalize frames : scope.frames = all at h
          cases h with
          | root bound => exact frames ▸ .ended bound
        | true =>
          -- A scope keeps its last frame for good, so there has to be one below that of the body.
          obtain ⟨frame, more, frames⟩ := h.exists_frame
          rw [frames] at h
          obtain ⟨next, others, left⟩ := h.leave.exists_frame
          rw [left] at frames
          have popped : scope.pop.frames = next :: others := Scope.frames_pop frames
          exact popped ▸ left ▸ h.leave
      | scalar field rest => cases quiet
      | bytes field rest =>
        simp only [step] at quiet
        split at quiet
        · cases quiet
          exact h.pass_unbound .bytes
        · cases quiet
      | group name inner rest =>
        cases quiet
        exact .group h .start
      | embed name times inner unclosed rest =>
        cases quiet
        exact .between h
    | repetition inner remaining path started =>
      simp only [step] at quiet
      split at quiet
      · cases quiet
        cases h with
        | between outside => exact outside.pass_unbound .embed
      · cases quiet
        exact .round h.again .start

/-- The frames still belong to the stack after a span. -/
lemma of_span {pulled : Pull} {span : Span} (h : Lexical sources w nodes given v.stack v.scope.frames)
    (passed : w.GoesThrough sources count v) (answered : v.step (sources count) = .answer pulled)
    (yielded : pulled.result = .ok (some span)) :
    Lexical sources w nodes given pulled.walk.stack pulled.walk.scope.frames := by
  have answer : w.answer sources count = .ok (some span) := by
    rw [Walk.answer, ← passed.pull_eq, pull_of_answer answered, yielded]
  obtain ⟨stack, scope, offset⟩ := v
  obtain ⟨-, rfl⟩ | ⟨field, rest, path, framed, outer, rfl, rfl⟩ |
    ⟨field, rest, path, framed, outer, rfl, -, rfl⟩ := step_answer answered
  · cases yielded
  · obtain ⟨bytes, read, full, rfl, bound⟩ := readScalar_of_span yielded
    rw [stack_readScalar yielded, bound, frames_bindField]
    exact h.pass _ fun binds => .scalar binds ⟨passed, rfl, read, full, answer⟩
  · obtain ⟨-, walk⟩ := yield_of_span yielded
    rw [walk]
    exact h.pass_unbound .bytes

end Lexical

/-- At every point of a run from the start of a layout the frames belong to the stack. -/
lemma Walk.GoesThrough.lexical {nodes : Layout} {start : Nat} {given : Scope} {v : Walk} {count : Nat}
    (passed : (ofLayout nodes start given).GoesThrough sources count v) :
    Lexical sources (ofLayout nodes start given) nodes given v.stack v.scope.frames := by
  induction passed with
  | start => exact .root .start
  | quiet _ quiet ih => exact ih.of_quiet quiet
  | span passed answered yielded ih => exact ih.of_span passed answered yielded

namespace Walk

/-- At every point of a run of a finished format that has not failed, between two pulls or on the way: the frames of
the scope belong to the open bodies; there are as many more than were given as groups and repetitions are open; the
innermost frame that was given has only the bindings of fields of the format itself in addition, and the frames
around it are as they were; so a count sees what the nearest body around it has bound last, before what was given.
At the end only the frames that were given are left. -/
theorem bindings_lexical {format : Format} (finished : format.check = .ok ()) (start : Nat) (given : Scope) :
    ∃ w, Walk.start format start given = .ok w ∧ ∀ sources : Nat → Source,
      (∀ pulls, (∀ number < pulls, (w.answer sources number).isOk) →
        ∃ count ≤ pulls, w.GoesThrough sources count (w.after sources pulls)) ∧
      ∀ count point, w.GoesThrough sources count point →
        Lexical sources w format.nodes given point.stack point.scope.frames ∧
        point.scope.depth = given.depth + point.openBodies ∧
        (∃ inside own rest,
          point.scope.frames = inside ++ (own ++ given.inner) :: given.outer ∧
          inside.length = point.openBodies ∧
          Binds sources w "" false [] format.nodes rest own ∧
          ∀ name, (Count.var name).resolve point.scope =
            (((inside.flatten ++ own ++ given.frames.flatten).lookup name).map Value.toCount).getD 0) ∧
        (point.stack = [] → ∃ own, Binds sources w "" false [] format.nodes .nil own ∧
          point.scope = ⟨own ++ given.inner, given.outer⟩) := by
  refine ⟨ofLayout format.nodes start given, start_of_finished finished start given, fun sources => ⟨?_, ?_⟩⟩
  · intro pulls succeeded
    obtain ⟨count, le, passed, -⟩ := GoesThrough.of_after sources _ succeeded
    exact ⟨count, le, passed⟩
  · intro count point passed
    have lexical := passed.lexical
    obtain ⟨inside, own, rest, frames, length, bound⟩ := lexical.frames_eq
    refine ⟨lexical, ?_, ⟨inside, own, rest, frames, length, bound, fun name => ?_⟩, ?_⟩
    · rw [Scope.depth, frames, List.length_append, length, Nat.add_comm]
      rfl
    · rw [Count.resolve, Scope.count, Scope.get?_eq_lookup, frames, List.flatten_append, List.flatten_cons,
        Scope.frames, List.flatten_cons, List.append_assoc, List.append_assoc]
    · intro done
      rw [done] at lexical
      exact lexical.scope_eq

/-- A group that binds a variable anew, inside a format that has bound it, in a scope where it was bound before: the
group counts with its own value, what follows the group with that of the format. -/
theorem bindings_lexical_shadowed :
    let length : ScalarField := ⟨"Length", ⟨.unsigned .one, .big⟩, .red, some "n"⟩
    let data : BytesField := ⟨"Data", .var "n", .green⟩
    let format : Format := ⟨.scalar length (.group "Inside" (.scalar length (.bytes data .nil)) (.bytes data .nil)), []⟩
    let given := (Scope.empty.set "n" ⟨.unsigned .one, 7⟩).push
    let sources : Nat → Source := fun _ => .ofBytes #[1, 2, 8, 9, 10]
    format.check = .ok () ∧ ∃ w, Walk.start format 0 given = .ok w ∧
      w.answer sources 2 = .ok (some ⟨"Inside > Data", .green, 2, 3⟩) ∧
      (w.after sources 2).openBodies = 1 ∧ (w.after sources 2).scope.depth = 2 + 1 ∧
      (Count.var "n").resolve (w.after sources 2).scope = 2 ∧
      w.answer sources 3 = .ok (some ⟨"Data", .green, 4, 4⟩) ∧
      (w.after sources 4).openBodies = 0 ∧ (w.after sources 4).scope.depth = 2 + 0 ∧
      (Count.var "n").resolve (w.after sources 4).scope = 1 := by
  intro length data format given sources
  have finished : format.check = .ok () := rfl
  obtain ⟨w, started, holds⟩ := bindings_lexical finished 0 given
  cases started
  obtain ⟨reaches, lexical⟩ := holds sources
  have succeeded : ∀ number < 4, (answer sources (ofLayout format.nodes 0 given) number).isOk := by
    intro number before
    interval_cases number <;> cbv
  obtain ⟨_, -, inside⟩ := reaches 2 fun number before => succeeded number (by omega)
  obtain ⟨_, -, behind⟩ := reaches 4 succeeded
  obtain ⟨-, deeper, -, -⟩ := lexical _ _ inside
  obtain ⟨-, back, -, -⟩ := lexical _ _ behind
  have one : (after sources (ofLayout format.nodes 0 given) 2).openBodies = 1 := by cbv
  have none : (after sources (ofLayout format.nodes 0 given) 4).openBodies = 0 := by cbv
  rw [one] at deeper
  rw [none] at back
  refine ⟨finished, _, rfl, ?_, one, deeper, ?_, ?_, none, back, ?_⟩
  · cbv
  · cbv
  · cbv
  · cbv

end Walk
end ByteAtlas
