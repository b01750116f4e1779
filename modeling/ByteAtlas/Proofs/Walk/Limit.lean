import ByteAtlas.Proofs.Walk.Unrolling

/-!
# Repetition without end

A format that repeats without end is the limit of those that repeat a number of times: at every place of a format,
for as many pulls as there are repetitions, the two cannot be told apart (`Format.sequence_limit`). A repetition
that is left behind has yielded something and so has used up a pull, or else both are over.
-/

namespace ByteAtlas

namespace Walk

variable {inner : Layout} {name unclosed : Option String} {pulls count : Nat}

/-- As long as there are pulls left for no more repetitions than remain, it makes no difference that their number is
limited. The induction is on the pulls: a repetition that yields something uses up one of each. -/
lemma repetition_unlimited (enough : pulls ≤ count) (path : String) (started : Option Nat) (below : List Frame) :
    AlikeFrom pulls 0 (.repetition inner none path started :: below)
      (.repetition inner (some count) path started :: below) := by
  induction pulls generalizing count started with
  | zero => exact fun _ _ _ => trivial
  | succ pulls ih =>
    intro scope offset _
    by_cases idle : started = some offset
    · exact .quiet₂ (fun _ => step_repetition_ended (.inl idle)) (fun _ => step_repetition_ended (.inl idle))
        (.refl _ _)
    · have more : some count ≠ some 0 := by
        intro none
        cases none
        exact absurd enough (Nat.not_succ_le_zero _)
      refine .quiet₂ (fun _ => step_repetition_enter (not_or.2 ⟨idle, nofun⟩))
        (fun _ => step_repetition_enter (not_or.2 ⟨idle, more⟩)) ?_
      by_cases silent : inner.Silent scope.push
      · refine (alike_of_silent_body silent).trans (.trans ?_ (alike_of_silent_body silent).symm)
        exact .quiet₂ (fun _ => step_repetition_ended (.inl rfl)) (fun _ => step_repetition_ended (.inl rfl))
          (.refl _ _)
      · refine alike_of_loud silent fun scope offset _ => ?_
        exact ih (Nat.le_sub_one_of_lt enough) _ scope offset (Nat.zero_le _)

/-- Embedding a format without end is alike, for some pulls, to embedding it at least as often. -/
lemma sequence_sameBodyFor (enough : pulls ≤ count) (rest : Layout) :
    SameBodyFor pulls (.embed name .unbounded inner unclosed rest)
      (.embed name (.times (.const count)) inner unclosed rest) := by
  intro fewer within path framed below scope offset _
  have limited : AlikeFrom fewer 0 (.repetition inner none (embedPath path name) none :: .body rest path framed :: below)
      (.repetition inner (some count) (embedPath path name) none :: .body rest path framed :: below) :=
    repetition_unlimited (Nat.le_trans within enough) _ _ _
  exact .quiet₂ (fun _ => rfl) (fun _ => rfl) (limited scope offset (Nat.zero_le _))

end Walk

namespace Format

/-- Wherever a finished format is embedded, the first pulls cannot tell whether it repeats without end or at least
as many times as there are pulls. -/
theorem sequence_limit {child : Format} (finished : child.check = .ok ()) (name : Option String) (gap : Gap)
    {pulls count : Nat} (enough : pulls ≤ count) :
    IndistinguishableFor pulls (gap.format (empty.sequence name child).nodes)
      (gap.format (empty.array name (.const count) child).nodes) := by
  obtain ⟨closed, inside⟩ := unclosed_of_finished finished
  have unclosed : ∀ times,
      (Layout.embed name times child.nodes child.openGroup? .nil).unclosed? = none := by
    intro times
    rw [Layout.unclosed?, closed, inside]
    rfl
  exact indistinguishableFor_of_sameBodyFor ((unclosed _).trans (unclosed _).symm)
    (Walk.sequence_sameBodyFor enough) gap

/-- Bytes inside a page that comes twice, without end or two of them: the first two pulls cannot tell, the third
finds what follows the two. -/
theorem sequence_limit_tight :
    let byte := empty.scalar ⟨"Byte", ⟨.unsigned .one, .big⟩, .red, none⟩
    let gap := Gap.inEmbed (some "Page") (.times (.const 2))
      (.here (.scalar ⟨"End", ⟨.unsigned .one, .big⟩, .blue, none⟩ .nil)) none .nil
    let sources : Nat → Source := fun _ => .ofBytes #[1, 2, 3]
    byte.check = .ok () ∧ 2 ≤ 2 ∧
      IndistinguishableFor 2 (gap.format (empty.sequence none byte).nodes)
        (gap.format (empty.array none (.const 2) byte).nodes) ∧
      ∃ w v, Walk.start (gap.format (empty.sequence none byte).nodes) 0 .empty = .ok w ∧
        Walk.start (gap.format (empty.array none (.const 2) byte).nodes) 0 .empty = .ok v ∧
        w.answer sources 2 = .ok (some ⟨"Page > Byte", .red, 2, 2⟩) ∧
        v.answer sources 2 = .ok (some ⟨"Page > End", .blue, 2, 2⟩) := by
  intro byte gap sources
  have finished : byte.check = .ok () := rfl
  refine ⟨finished, Nat.le_refl 2, sequence_limit finished none gap (Nat.le_refl 2), _, _, rfl, rfl, ?_, ?_⟩
  · cbv
  · cbv

end Format
end ByteAtlas
