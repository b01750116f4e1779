import ByteAtlas.Proofs.Walk.Run
import ByteAtlas.Proofs.Walk.Simulation

/-!
# Walks that answer alike

Two walks are alike for a number of pulls if each of these gives the same answer and leaves the same offset and
the same depth of scope, whatever the sources. Quiet steps do not matter (`Walk.Alike.quiet`). What lies below
the open frames may be exchanged for something alike (`Walk.AlikeFrom.under`); below a body that is sure to yield
something, likeness for one pull less and beyond the present offset is enough (`Walk.alike_of_loud`); and a body
that yields nothing may be left out (`Walk.alike_of_silent`).
-/

namespace ByteAtlas

/-- Two pulls that give the same and leave walks which are related. -/
structure Pull.Alike (related : Walk → Walk → Prop) (p q : Pull) : Prop where
  result : p.result = q.result
  offset : p.walk.offset = q.walk.offset
  depth : p.walk.scope.depth = q.walk.scope.depth
  onward : related p.walk q.walk

/-- Whether a body of these nodes yields nothing in a scope: neither a span nor an error. No scalar field is
passed, so the scope is the same before and after every node. -/
def Layout.Silent : Layout → Scope → Prop
  | nil, _ => True
  | scalar _ _, _ => False
  | bytes field rest, scope => field.count.resolve scope = 0 ∧ rest.Silent scope
  | group _ inner rest, scope => inner.Silent scope.push ∧ rest.Silent scope
  | embed _ times inner _ rest, scope =>
    (times.resolve scope = some 0 ∨ inner.Silent scope.push) ∧ rest.Silent scope

namespace Walk

/-- Whether two walks answer alike for a number of pulls. -/
def Alike : Nat → Walk → Walk → Prop
  | 0, _, _ => True
  | pulls + 1, w, v => ∀ source, Pull.Alike (Alike pulls) (w.pull source) (v.pull source)

/-- Whether two stacks make for walks alike in every scope and at every offset from `reach` on. -/
def AlikeFrom (pulls reach : Nat) (below other : List Frame) : Prop :=
  ∀ scope offset, reach ≤ offset → Alike pulls ⟨below, scope, offset⟩ ⟨other, scope, offset⟩

variable {w v u next : Walk} {pulls : Nat}

namespace Alike

lemma refl (pulls : Nat) (w : Walk) : Alike pulls w w := by
  induction pulls generalizing w with
  | zero => trivial
  | succ pulls ih => exact fun source => ⟨rfl, rfl, rfl, ih _⟩

lemma symm (h : Alike pulls w v) : Alike pulls v w := by
  induction pulls generalizing w v with
  | zero => trivial
  | succ pulls ih =>
    intro source
    obtain ⟨result, offset, depth, onward⟩ := h source
    exact ⟨result.symm, offset.symm, depth.symm, ih onward⟩

lemma trans (h : Alike pulls w v) (h' : Alike pulls v u) : Alike pulls w u := by
  induction pulls generalizing w v u with
  | zero => trivial
  | succ pulls ih =>
    intro source
    obtain ⟨result, offset, depth, onward⟩ := h source
    obtain ⟨result', offset', depth', onward'⟩ := h' source
    exact ⟨result.trans result', offset.trans offset', depth.trans depth', ih onward onward'⟩

lemma of_succ (h : Alike (pulls + 1) w v) : Alike pulls w v := by
  induction pulls generalizing w v with
  | zero => trivial
  | succ pulls ih =>
    intro source
    obtain ⟨result, offset, depth, onward⟩ := h source
    exact ⟨result, offset, depth, ih onward⟩

lemma mono {fewer : Nat} (h : Alike pulls w v) (within : fewer ≤ pulls) : Alike fewer w v := by
  induction pulls, within using Nat.le_induction with
  | base => exact h
  | succ pulls _ ih => exact ih h.of_succ

/-- A quiet step makes no difference. -/
lemma quiet (quiet : ∀ source, w.step source = .quiet next) (h : Alike pulls next v) : Alike pulls w v := by
  cases pulls with
  | zero => trivial
  | succ pulls =>
    intro source
    rw [pull_of_quiet (quiet source)]
    exact h source

/-- Quiet steps on both sides make no difference. -/
lemma quiet₂ {v' : Walk} (left : ∀ source, w.step source = .quiet next)
    (right : ∀ source, v.step source = .quiet v') (h : Alike pulls next v') : Alike pulls w v :=
  quiet left (quiet right h.symm).symm

end Alike

variable {below other : List Frame} {reach offset : Nat} {scope : Scope} {path : String} {framed : Bool}

/-- Two stacks below the same span are as alike as the walks behind it. -/
lemma yield_alike {request : Option (Nat × Nat)} {name : String} {color : Color} {length : Nat}
    (some_bytes : 0 < length) (later : AlikeFrom pulls (offset + 1) below other) :
    Pull.Alike (Alike pulls) (yield ⟨below, scope, offset⟩ request name color length)
      (yield ⟨other, scope, offset⟩ request name color length) := by
  simp only [yield]
  split
  · exact ⟨rfl, rfl, rfl, later _ _ (Nat.add_le_add_left some_bytes _)⟩
  · exact ⟨rfl, rfl, rfl, .refl _ _⟩

/-- Two stacks below the same scalar field are as alike as the walks behind it. -/
lemma readScalar_alike {source : Source} {field : ScalarField}
    (later : AlikeFrom pulls (offset + 1) below other) :
    Pull.Alike (Alike pulls) (readScalar source ⟨below, scope, offset⟩ path field)
      (readScalar source ⟨other, scope, offset⟩ path field) := by
  simp only [readScalar]
  split
  · exact ⟨rfl, rfl, rfl, .refl _ _⟩
  · split
    · simp only [bindField]
      split
      · exact yield_alike field.type.width_pos later
      · exact yield_alike field.type.width_pos later
    · exact ⟨rfl, rfl, rfl, .refl _ _⟩

/-- Stacks are alike below the same frames. The induction is on the pulls, and for each of them on the quiet
steps that the frames on top have left. -/
lemma AlikeFrom.under (h : AlikeFrom pulls reach below other) (top : List Frame) :
    AlikeFrom pulls reach (top ++ below) (top ++ other) := by
  induction pulls generalizing top reach with
  | zero => exact fun _ _ _ => trivial
  | succ pulls ih =>
    intro scope offset far
    generalize e : weight ⟨top, scope, offset⟩ = steps
    induction steps using Nat.strong_induction_on generalizing top scope with
    | _ steps ih_steps =>
    subst e
    have later : ∀ more, AlikeFrom pulls (offset + 1) (more ++ below) (more ++ other) := by
      intro more
      exact ih (fun s o far' => (h s o (by omega)).of_succ) more
    have onward : ∀ {next}, step (.ofBytes #[]) ⟨top, scope, offset⟩ = .quiet next → next.offset = offset →
        Alike (pulls + 1) ⟨next.stack ++ below, next.scope, offset⟩ ⟨next.stack ++ other, next.scope, offset⟩ := by
      rintro ⟨stack, scope', _⟩ quiet rfl
      exact ih_steps _ (weight_of_quiet quiet) stack scope' rfl
    cases top with
    | nil => exact h scope offset far
    | cons frame top =>
      cases frame with
      | body rest path framed =>
        cases rest with
        | nil => exact .quiet₂ (fun _ => rfl) (fun _ => rfl) (onward rfl rfl)
        | scalar field rest =>
          intro source
          rw [pull_of_answer rfl, pull_of_answer rfl]
          exact readScalar_alike (later (.body rest path framed :: top))
        | bytes field rest =>
          by_cases nothing : field.count.resolve scope = 0
          · exact .quiet₂ (fun _ => step_bytes_none nothing) (fun _ => step_bytes_none nothing)
              (onward (step_bytes_none nothing) rfl)
          · intro source
            rw [List.cons_append, List.cons_append, pull_of_answer (step_bytes_some nothing),
              pull_of_answer (step_bytes_some nothing)]
            exact yield_alike (Nat.pos_of_ne_zero nothing) (later (.body rest path framed :: top))
        | group name inner rest => exact .quiet₂ (fun _ => rfl) (fun _ => rfl) (onward rfl rfl)
        | embed name times inner unclosed rest => exact .quiet₂ (fun _ => rfl) (fun _ => rfl) (onward rfl rfl)
      | repetition inner remaining path started =>
        by_cases ended : started = some offset ∨ remaining = some 0
        · exact .quiet₂ (fun _ => step_repetition_ended ended) (fun _ => step_repetition_ended ended)
            (onward (step_repetition_ended ended) rfl)
        · exact .quiet₂ (fun _ => step_repetition_enter ended) (fun _ => step_repetition_enter ended)
            (onward (step_repetition_enter ended) rfl)

/-- A framed body whose nodes are passed is left, with the scope from before it. -/
lemma alike_of_passed {nodes : Layout}
    (passed : Alike pulls ⟨.body (nodes ++ .nil) path true :: below, scope.push, offset⟩
      ⟨.body .nil path true :: below, scope.push, offset⟩) :
    Alike pulls ⟨.body nodes path true :: below, scope.push, offset⟩ ⟨below, scope, offset⟩ := by
  rw [Layout.append_nil] at passed
  exact passed.trans (.quiet (fun _ => rfl) (.refl _ _))

/-- Silent nodes are passed. -/
lemma alike_of_silent {nodes : Layout} (silent : nodes.Silent scope) (rest : Layout) :
    Alike pulls ⟨.body (nodes ++ rest) path framed :: below, scope, offset⟩
      ⟨.body rest path framed :: below, scope, offset⟩ := by
  induction nodes generalizing path framed below scope rest with
  | nil => exact .refl _ _
  | scalar field more ih => exact silent.elim
  | bytes field more ih =>
    obtain ⟨nothing, later⟩ := silent
    exact .quiet (fun _ => step_bytes_none nothing) (ih later rest)
  | group name inner more ih_inner ih =>
    obtain ⟨inside, later⟩ := silent
    refine .quiet (fun _ => rfl) (.trans ?_ (ih later rest))
    exact alike_of_passed (ih_inner inside .nil)
  | embed name times inner unclosed more ih_inner ih =>
    obtain ⟨inside, later⟩ := silent
    refine .quiet (fun _ => rfl) (.trans ?_ (ih later rest))
    by_cases nothing : times.resolve scope = some 0
    · exact .quiet (fun _ => step_repetition_ended (.inr nothing)) (.refl _ _)
    · refine .quiet (fun _ => step_repetition_enter (not_or.2 ⟨nofun, nothing⟩)) ?_
      refine (alike_of_passed (ih_inner (inside.resolve_left nothing) .nil)).trans ?_
      exact .quiet (fun _ => step_repetition_ended (.inl rfl)) (.refl _ _)

/-- A framed body of silent nodes is left, with the scope from before it. -/
lemma alike_of_silent_body {nodes : Layout} (silent : nodes.Silent scope.push) :
    Alike pulls ⟨.body nodes path true :: below, scope.push, offset⟩ ⟨below, scope, offset⟩ :=
  alike_of_passed (alike_of_silent silent .nil)

/-- Below nodes that are not silent one pull is already spent, and the offset has moved, when the walk comes to
what lies there. -/
lemma alike_of_loud {nodes : Layout} (loud : ¬nodes.Silent scope)
    (later : AlikeFrom pulls (offset + 1) below other) :
    Alike (pulls + 1) ⟨.body nodes path framed :: below, scope, offset⟩
      ⟨.body nodes path framed :: other, scope, offset⟩ := by
  induction nodes generalizing path framed below other scope with
  | nil => exact absurd trivial loud
  | scalar field rest ih =>
    intro source
    rw [pull_of_answer rfl, pull_of_answer rfl]
    exact readScalar_alike (later.under [.body rest path framed])
  | bytes field rest ih =>
    by_cases nothing : field.count.resolve scope = 0
    · refine .quiet₂ (fun _ => step_bytes_none nothing) (fun _ => step_bytes_none nothing) ?_
      exact ih (fun silent => loud ⟨nothing, silent⟩) later
    · intro source
      rw [pull_of_answer (step_bytes_some nothing), pull_of_answer (step_bytes_some nothing)]
      exact yield_alike (Nat.pos_of_ne_zero nothing) (later.under [.body rest path framed])
  | group name inner rest ih_inner ih =>
    refine .quiet₂ (fun _ => rfl) (fun _ => rfl) ?_
    by_cases inside : inner.Silent scope.push
    · refine (alike_of_silent_body inside).trans (.trans ?_ (alike_of_silent_body inside).symm)
      exact ih (fun silent => loud ⟨inside, silent⟩) later
    · exact ih_inner inside (later.under [.body rest path framed])
  | embed name times inner unclosed rest ih_inner ih =>
    refine .quiet₂ (fun _ => rfl) (fun _ => rfl) ?_
    by_cases nothing : times.resolve scope = some 0
    · refine .quiet₂ (fun _ => step_repetition_ended (.inr nothing)) (fun _ => step_repetition_ended (.inr nothing)) ?_
      exact ih (fun silent => loud ⟨.inl nothing, silent⟩) later
    · have enter : ¬(none = some offset ∨ times.resolve scope = some 0) := not_or.2 ⟨nofun, nothing⟩
      refine .quiet₂ (fun _ => step_repetition_enter enter) (fun _ => step_repetition_enter enter) ?_
      by_cases inside : inner.Silent scope.push
      · refine (alike_of_silent_body inside).trans (.trans ?_ (alike_of_silent_body inside).symm)
        refine .quiet₂ (fun _ => step_repetition_ended (.inl rfl)) (fun _ => step_repetition_ended (.inl rfl)) ?_
        exact ih (fun silent => loud ⟨.inr inside, silent⟩) later
      · exact ih_inner inside (later.under [_, .body rest path framed])

end Walk
end ByteAtlas
