import ByteAtlas.Proofs.Walk.Run

/-!
# Walks halt

How many steps a pull makes depends on the shape of the format alone: on how its groups and embedded formats are
nested, and on no count, no source and no number of repetitions (`Shape.bound`). What is open in a walk leaves
room for what may still be opened on top of it (`Walk.Roomy`), and every step keeps that; so the bound holds in
every state that a run can reach (`Walk.halts`). And a run is over after as many spans as there are offsets.
-/

namespace ByteAtlas

/-- How the nodes of a layout are nested. -/
inductive Shape
  | nil
  | field (rest : Shape)
  | group (inner rest : Shape)
  | embed (inner rest : Shape)

namespace Shape

/-- The quiet steps of a walk that enters every body once. -/
def weight : Shape → Nat
  | nil => 1
  | field rest => rest.weight + 1
  | group inner rest => inner.weight + rest.weight + 1
  | embed inner rest => inner.weight + rest.weight + 3

/-- The quiet steps of a walk in which every open repetition may begin once more. -/
def bound : Shape → Nat
  | nil => 1
  | field rest => rest.bound + 1
  | group inner rest => inner.bound + rest.bound + 1
  | embed inner rest => inner.bound + (inner.weight + 2) + rest.bound + 1

lemma weight_le_bound (s : Shape) : s.weight ≤ s.bound := by
  induction s with
  | nil => exact Nat.le_refl 1
  | field rest ih => exact Nat.succ_le_succ ih
  | group inner rest ih_inner ih =>
    simp only [weight, bound]
    omega
  | embed inner rest ih_inner ih =>
    simp only [weight, bound]
    omega

end Shape

/-- The shape of a layout, without its names, types, counts and numbers of repetitions. -/
def Layout.shape : Layout → Shape
  | nil => .nil
  | scalar _ rest => .field rest.shape
  | bytes _ rest => .field rest.shape
  | group _ inner rest => .group inner.shape rest.shape
  | embed _ _ inner _ rest => .embed inner.shape rest.shape

lemma Layout.weight_shape (nodes : Layout) : nodes.shape.weight = nodes.weight := by
  induction nodes with
  | nil => rfl
  | scalar field rest ih | bytes field rest ih => simp only [shape, Shape.weight, weight, ih]
  | group name inner rest ih_inner ih => simp only [shape, Shape.weight, weight, ih_inner, ih]
  | embed name times inner unclosed rest ih_inner ih =>
    simp only [shape, Shape.weight, weight, ih_inner, ih]

namespace Frame

/-- The quiet steps that an open frame has left at most, without those of the frames on top of it. -/
def own : Frame → Nat
  | body rest _ _ => rest.shape.bound
  | repetition inner _ _ _ => inner.shape.weight + 2

/-- As `own`, with those of the body that a repetition may open. -/
def total : Frame → Nat
  | body rest _ _ => rest.shape.bound
  | repetition inner _ _ _ => inner.shape.bound + (inner.shape.weight + 2)

lemma weight_le_own (offset : Nat) (frame : Frame) : frame.weight offset ≤ frame.own := by
  cases frame with
  | body rest path framed =>
    rw [weight, own, ← rest.weight_shape]
    exact rest.shape.weight_le_bound
  | repetition inner remaining path started =>
    rw [weight, own, inner.weight_shape]
    split <;> omega

lemma own_le_total (frame : Frame) : frame.own ≤ frame.total := by
  cases frame with
  | body rest path framed => exact Nat.le_refl _
  | repetition inner remaining path started => exact Nat.le_add_left _ _

end Frame

/-- The quiet steps that open frames have left at most. -/
def stackOwn (stack : List Frame) : Nat := (stack.map Frame.own).sum

/-- Whether every open frame has room for itself and what it may open, on top of the frames below it. -/
def Roomy (limit : Nat) : List Frame → Prop
  | [] => True
  | frame :: outer => frame.total + stackOwn outer ≤ limit ∧ Roomy limit outer

@[simp] lemma stackOwn_cons (frame : Frame) (outer : List Frame) :
    stackOwn (frame :: outer) = frame.own + stackOwn outer := by
  simp [stackOwn]

/-- A body that gets shorter keeps its room. -/
lemma Roomy.shorten {limit : Nat} {nodes rest : Layout} {path : String} {framed : Bool} {outer : List Frame}
    (roomy : Roomy limit (.body nodes path framed :: outer)) (shorter : rest.shape.bound ≤ nodes.shape.bound) :
    Roomy limit (.body rest path framed :: outer) :=
  ⟨Nat.le_trans (Nat.add_le_add_right shorter _) roomy.1, roomy.2⟩

/-- Spans that lie side by side are no more than the offsets they lie on. -/
lemma TilesFrom.length_le {offset : Nat} {spans : List Span} (tiles : TilesFrom offset spans) :
    spans.length ≤ maxOffset - offset := by
  induction spans generalizing offset with
  | nil => exact Nat.zero_le _
  | cons span rest ih =>
    obtain ⟨first, some_bytes, reach, later⟩ := tiles
    have := ih later
    rw [List.length_cons]
    omega

namespace Walk

variable {source : Source} {w : Walk} {limit : Nat}

/-- The loop of a pull, given up after so many steps. -/
def loop (source : Source) (w : Walk) : Nat → Option Pull
  | 0 => none
  | steps + 1 =>
    match w.step source with
    | .quiet next => next.loop source steps
    | .answer p => some p

/-- A loop that may make more steps than its walk weighs comes to an answer, that of the pull. -/
lemma loop_eq_pull {steps : Nat} (enough : w.weight < steps) : w.loop source steps = some (w.pull source) := by
  induction steps generalizing w with
  | zero => exact absurd enough (Nat.not_lt_zero _)
  | succ steps ih =>
    rw [loop]
    split
    · next next quiet =>
      rw [pull_of_quiet quiet]
      exact ih (Nat.lt_of_lt_of_le (weight_of_quiet quiet) (Nat.le_of_lt_succ enough))
    · next p answered => rw [pull_of_answer answered]

lemma weight_le_stackOwn (w : Walk) : w.weight ≤ stackOwn w.stack := by
  obtain ⟨stack, scope, offset⟩ := w
  simp only [weight]
  induction stack with
  | nil => exact Nat.le_refl 0
  | cons frame outer ih =>
    rw [List.foldr_cons, stackOwn_cons]
    exact Nat.add_le_add (frame.weight_le_own offset) ih

lemma weight_le_of_roomy (roomy : Roomy limit w.stack) : w.weight ≤ limit := by
  refine Nat.le_trans w.weight_le_stackOwn ?_
  cases e : w.stack with
  | nil => exact Nat.zero_le _
  | cons frame outer =>
    rw [e] at roomy
    rw [stackOwn_cons]
    exact Nat.le_trans (Nat.add_le_add_right frame.own_le_total _) roomy.1

/-- A quiet step keeps the room of a walk. -/
lemma roomy_of_quiet {next : Walk} (quiet : w.step source = .quiet next) (roomy : Roomy limit w.stack) :
    Roomy limit next.stack := by
  obtain ⟨stack, scope, offset⟩ := w
  cases stack with
  | nil => cases quiet
  | cons frame outer =>
    obtain ⟨room, below⟩ := roomy
    cases frame with
    | body rest path framed =>
      cases rest with
      | nil =>
        cases quiet
        exact below
      | scalar field rest => cases quiet
      | bytes field rest =>
        simp only [step] at quiet
        split at quiet <;> cases quiet
        exact Roomy.shorten ⟨room, below⟩ (Nat.le_succ _)
      | group name inner rest =>
        cases quiet
        simp only [Roomy, Frame.total, Layout.shape, Shape.bound, stackOwn_cons, Frame.own] at room ⊢
        exact ⟨by omega, by omega, below⟩
      | embed name times inner unclosed rest =>
        cases quiet
        simp only [Roomy, Frame.total, Layout.shape, Shape.bound, stackOwn_cons, Frame.own] at room ⊢
        exact ⟨by omega, by omega, below⟩
    | repetition inner remaining path started =>
      simp only [step] at quiet
      split at quiet <;> cases quiet
      · exact below
      · -- The body that is opened takes the room that the repetition kept for it.
        simp only [Roomy, Frame.total, stackOwn_cons, Frame.own] at room ⊢
        exact ⟨by omega, by omega, below⟩

lemma roomy_pull (source : Source) (roomy : Roomy limit w.stack) : Roomy limit (w.pull source).walk.stack := by
  fun_induction pull source w with
  | case1 w next quiet ih => exact ih (roomy_of_quiet quiet roomy)
  | case2 w p answered =>
    by_cases ended : ∀ span, p.result ≠ .ok (some span)
    · rw [← pull_of_answer answered] at ended ⊢
      rw [(pull_ended ended).1]
      trivial
    · obtain ⟨span, yielded⟩ := Classical.not_forall_not.1 ended
      obtain ⟨-, rfl⟩ | ⟨field, rest, path, framed, outer, top, rfl⟩ |
        ⟨field, rest, path, framed, outer, top, -, rfl⟩ := step_answer answered
      · cases yielded
      · rw [top] at roomy
        rw [stack_readScalar yielded]
        exact roomy.shorten (Nat.le_succ _)
      · rw [top] at roomy
        rw [stack_yield yielded]
        exact roomy.shorten (Nat.le_succ _)

/-- Every state of a run has room for the shape of its format. -/
lemma roomy_after (sources : Nat → Source) (nodes : Layout) (start : Nat) (scope : Scope) (count : Nat) :
    Roomy nodes.shape.bound ((ofLayout nodes start scope).after sources count).stack := by
  induction count with
  | zero => exact ⟨Nat.le_refl _, trivial⟩
  | succ count ih => exact roomy_pull _ ih

/-- Behind the end of a run, or an error, there is only the end. -/
lemma answer_behind_ended {sources : Nat → Source} {number later : Nat}
    (ended : ∀ span, w.answer sources number ≠ .ok (some span)) (before : number < later) :
    w.answer sources later = .ok none := by
  have done : ∀ gap, (w.after sources (number + 1 + gap)).stack = [] := by
    intro gap
    induction gap with
    | zero => exact (pull_ended ended).1
    | succ gap ih =>
      rw [← Nat.add_assoc, Walk.after, pull_of_done ih]
      exact ih
  obtain ⟨gap, rfl⟩ := Nat.exists_eq_add_of_le before
  rw [answer, pull_of_done (done gap)]

/-- A run that is over stays over. -/
lemma answer_of_ended {sources : Nat → Source} {number later : Nat}
    (ended : ∀ span, w.answer sources number ≠ .ok (some span)) (after : number ≤ later) (span : Span) :
    w.answer sources later ≠ .ok (some span) := by
  obtain rfl | before := Nat.eq_or_lt_of_le after
  · exact ended span
  · rw [answer_behind_ended ended before]
    nofun

lemma length_spansUpTo {sources : Nat → Source} {count : Nat}
    (going : ∀ number < count, ∃ span, w.answer sources number = .ok (some span)) :
    (w.spansUpTo sources count).length = count := by
  induction count with
  | zero => rfl
  | succ count ih =>
    obtain ⟨span, yielded⟩ := going count (Nat.lt_succ_self count)
    simp only [spansUpTo, yielded, List.length_append, List.length_singleton]
    rw [ih fun number before => going number (Nat.lt_succ_of_lt before)]

/-- A run yields at most as many spans as there are offsets from its start on, and they come first. -/
lemma run_halts (sources : Nat → Source) (w : Walk) :
    ∃ length ≤ maxOffset - w.offset,
      ∀ number, (∃ span, w.answer sources number = .ok (some span)) ↔ number < length := by
  classical
  have ends : ∃ number, number ≤ maxOffset - w.offset ∧ ∀ span, w.answer sources number ≠ .ok (some span) := by
    by_contra going
    push Not at going
    have tiles := (spansUpTo_tiles sources w (maxOffset - w.offset + 1)).1
    have length : (w.spansUpTo sources (maxOffset - w.offset + 1)).length = maxOffset - w.offset + 1 :=
      length_spansUpTo fun number before => going number (Nat.le_of_lt_succ before)
    exact absurd (length ▸ tiles.length_le) (Nat.not_succ_le_self _)
  refine ⟨Nat.find ends, (Nat.find_spec ends).1, fun number => ⟨?_, fun before => ?_⟩⟩
  · rintro ⟨span, yielded⟩
    by_contra late
    exact answer_of_ended (Nat.find_spec ends).2 (Nat.not_lt.1 late) span yielded
  · have early := Nat.find_min ends before
    push Not at early
    exact early (Nat.le_trans (Nat.le_of_lt before) (Nat.find_spec ends).1)

/-- In every state that a run of a finished format can reach, the loop of a pull comes to its answer within a
number of steps that the shape of the format bounds; and every run is over after at most as many spans as there
are offsets from its start on. -/
theorem halts {format : Format} (finished : format.check = .ok ()) (start : Nat) (scope : Scope) :
    ∃ w, Walk.start format start scope = .ok w ∧ ∀ sources : Nat → Source,
      (∀ count source, (w.after sources count).loop source (format.nodes.shape.bound + 1) =
        some ((w.after sources count).pull source)) ∧
      ∃ length ≤ maxOffset - start,
        ∀ number, (∃ span, w.answer sources number = .ok (some span)) ↔ number < length := by
  refine ⟨ofLayout format.nodes start scope, start_of_finished finished start scope, fun sources => ?_⟩
  refine ⟨fun count source => ?_, run_halts sources (ofLayout format.nodes start scope)⟩
  exact loop_eq_pull (Nat.lt_succ_of_le (weight_le_of_roomy (roomy_after sources _ start scope count)))

/-- Repetitions without end of very many repetitions of nothing: sixteen steps are enough to find no span. -/
theorem halts_idle :
    let idle := Format.empty.sequence none (Format.empty.array none (.const maxOffset) .empty)
    idle.check = .ok () ∧ ∃ w, Walk.start idle 0 .empty = .ok w ∧
      w.loop (.ofBytes #[]) (idle.nodes.shape.bound + 1) = some (w.pull (.ofBytes #[])) ∧
      idle.nodes.shape.bound = 15 ∧ w.answer (fun _ => .ofBytes #[]) 0 = .ok none := by
  intro idle
  have finished : idle.check = .ok () := rfl
  obtain ⟨w, started, holds⟩ := halts finished 0 .empty
  obtain ⟨answers, -⟩ := holds fun _ => .ofBytes #[]
  have here := answers 0 (.ofBytes #[])
  cases started
  exact ⟨finished, _, rfl, here, by decide, by cbv⟩

end Walk
end ByteAtlas
