import ByteAtlas.Proofs.Walk.Course
import ByteAtlas.Proofs.Walk.Tour

/-!
# Runs

Pull after pull, where the source may have changed between two of them: a run has a source for every pull.
The spans of a run lie side by side from its start on, and the offset is always right behind them
(`Walk.runs_side_by_side`). A field is refused exactly where its bytes would reach beyond the largest offset, so
sixty-four bits are enough for every sum and difference on the way.
-/

namespace ByteAtlas

/-- Whether words of sixty-four bits, which wrap around, give the exact numbers when a span is yielded and
measured: the offset behind it, its last offset, the distance of its ends and its size. -/
structure Span.FitsWords (s : Span) : Prop where
  behind : (UInt64.ofNat s.first + UInt64.ofNat s.size).toNat = s.first + s.size
  last : (UInt64.ofNat s.first + UInt64.ofNat s.size - 1).toNat = s.last
  distance : (UInt64.ofNat s.last - UInt64.ofNat s.first).toNat = s.last - s.first
  size : s.size = s.last - s.first + 1

/-- A span that is not reversed and ends below the largest offset fits words. -/
lemma Span.fitsWords {s : Span} (ordered : s.first ≤ s.last) (reach : s.last < maxOffset) : s.FitsWords := by
  have size := Span.size_eq ordered reach
  have bound : maxOffset + 1 = UInt64.size := rfl
  have top : UInt64.size = 2 ^ 64 := rfl
  have first : (UInt64.ofNat s.first).toNat = s.first := UInt64.toNat_ofNat_of_lt' (by omega)
  have last : (UInt64.ofNat s.last).toNat = s.last := UInt64.toNat_ofNat_of_lt' (by omega)
  have length : (UInt64.ofNat s.size).toNat = s.size := UInt64.toNat_ofNat_of_lt' (by omega)
  have one : (1 : UInt64).toNat = 1 := rfl
  have distance : (UInt64.ofNat s.last - UInt64.ofNat s.first).toNat = s.last - s.first := by
    rw [UInt64.toNat_sub_of_le _ _ (UInt64.le_iff_toNat_le.2 (by omega)), first, last]
  have behind : (UInt64.ofNat s.first + UInt64.ofNat s.size).toNat = s.first + s.size := by
    rw [UInt64.toNat_add, first, length]
    omega
  refine ⟨behind, ?_, distance, size⟩
  rw [UInt64.toNat_sub_of_le _ _ (UInt64.le_iff_toNat_le.2 (by omega)), behind]
  omega

namespace TilesFrom

variable {offset : Nat} {spans : List Span}

/-- A span that tiles behind others lies side by side with them. -/
lemma concat {span : Span} {next : Nat} (tiles : TilesFrom offset spans)
    (more : Walk.Tiles (offset + covered spans) span next) : TilesFrom offset (spans ++ [span]) := by
  induction spans generalizing offset with
  | nil => exact ⟨more.first_eq, more.first_le_last, more.last_lt, trivial⟩
  | cons here rest ih =>
    obtain ⟨first, some_bytes, reach, later⟩ := tiles
    refine ⟨first, some_bytes, reach, ih later ?_⟩
    have same : offset + covered (here :: rest) = here.last + 1 + covered rest := by
      rw [covered_cons, Span.size_eq some_bytes reach]
      omega
    exact same ▸ more

/-- Spans that lie side by side end below the largest offset. -/
lemma last_lt (tiles : TilesFrom offset spans) : ∀ span ∈ spans, span.last < maxOffset := by
  induction spans generalizing offset with
  | nil => exact nofun
  | cons span rest ih =>
    obtain ⟨-, -, reach, later⟩ := tiles
    exact List.forall_mem_cons.2 ⟨reach, ih later⟩

end TilesFrom

namespace Walk

/-- The walk after the first pulls of a run. -/
def after (sources : Nat → Source) (w : Walk) : Nat → Walk
  | 0 => w
  | count + 1 => ((w.after sources count).pull (sources count)).walk

/-- The answer of the pull that has so many others before it. -/
def answer (sources : Nat → Source) (w : Walk) (number : Nat) : Answer :=
  ((w.after sources number).pull (sources number)).result

/-- The spans that the first pulls of a run give. -/
def spansUpTo (sources : Nat → Source) (w : Walk) : Nat → List Span
  | 0 => []
  | count + 1 =>
    match w.answer sources count with
    | .ok (some span) => w.spansUpTo sources count ++ [span]
    | _ => w.spansUpTo sources count

/-- A field is next whose bytes are to be yielded: a run of so many bytes, or a scalar of that width for which
the source gives its bytes. -/
inductive Due (source : Source) : Walk → Nat → Prop
  | run {field rest path framed outer scope offset} :
    field.count.resolve scope ≠ 0 →
    Due source ⟨.body (.bytes field rest) path framed :: outer, scope, offset⟩ (field.count.resolve scope)
  | scalar {field rest path framed outer scope offset bytes} :
    source.read offset field.type.width = .ok bytes →
    bytes.length = field.type.width →
    Due source ⟨.body (.scalar field rest) path framed :: outer, scope, offset⟩ field.type.width
  | later {w next length} :
    w.step source = .quiet next →
    Due source next length →
    Due source w length

variable {source : Source} {w : Walk}

/-- A finished format can be walked. -/
lemma start_of_finished {format : Format} (finished : format.check = .ok ()) (start : Nat) (scope : Scope) :
    Walk.start format start scope = .ok (ofLayout format.nodes start scope) := by
  rw [Walk.start, finished]
  rfl

/-- Yielding refuses exactly the bytes that would reach beyond the largest offset. -/
lemma yield_overflows_iff {request : Option (Nat × Nat)} {name : String} {color : Color}
    {length offset wanted : Nat} :
    (w.yield request name color length).result = .error (.offsetOverflow offset wanted) ↔
      offset = w.offset ∧ wanted = length ∧ maxOffset < offset + length := by
  rw [yield]
  split
  · next fits =>
    constructor
    · intro refused
      cases refused
    · rintro ⟨rfl, rfl, overflows⟩
      exact absurd fits (Nat.not_le.2 overflows)
  · next overflows =>
    constructor
    · rintro ⟨⟩
      exact ⟨rfl, rfl, Nat.not_le.1 overflows⟩
    · rintro ⟨rfl, rfl, -⟩
      rfl

/-- A scalar field whose bytes are there is refused exactly where they would reach beyond the largest offset,
and no other. -/
lemma readScalar_overflows_iff {path : String} {field : ScalarField} {offset length : Nat} :
    (readScalar source w path field).result = .error (.offsetOverflow offset length) ↔
      (∃ bytes, source.read w.offset field.type.width = .ok bytes ∧ bytes.length = field.type.width) ∧
        offset = w.offset ∧ length = field.type.width ∧ maxOffset < offset + field.type.width := by
  simp only [readScalar]
  split
  · next failed =>
    constructor
    · intro refused
      cases refused
    · rintro ⟨⟨bytes, read, -⟩, -⟩
      rw [failed] at read
      cases read
  · next bytes read =>
    split
    · next full =>
      rw [yield_overflows_iff, offset_bindField]
      exact ⟨fun overflows => ⟨⟨bytes, read, full⟩, overflows⟩, And.right⟩
    · next short =>
      constructor
      · intro refused
        cases refused
      · rintro ⟨⟨bytes', read', full⟩, -⟩
        rw [read] at read'
        cases read'
        exact absurd full short

/-- The field that is due is the same before and after a quiet step. -/
lemma due_of_quiet {next : Walk} {length : Nat} (quiet : w.step source = .quiet next) :
    Due source w length ↔ Due source next length := by
  refine ⟨fun due => ?_, .later quiet⟩
  cases due with
  | run some_bytes =>
    simp only [step, if_neg some_bytes] at quiet
    cases quiet
  | scalar _ _ => cases quiet
  | later quiet' due =>
    rw [quiet] at quiet'
    cases quiet'
    exact due

/-- A pull reports an overflow exactly where a field is due that would reach beyond the largest offset. -/
lemma pull_overflows_iff (source : Source) (w : Walk) (offset length : Nat) :
    (w.pull source).result = .error (.offsetOverflow offset length) ↔
      offset = w.offset ∧ Due source w length ∧ maxOffset < offset + length := by
  fun_induction pull source w with
  | case1 w next quiet ih => rw [ih, due_of_quiet quiet, offset_of_quiet quiet]
  | case2 w p answered =>
    -- An answer is due itself: no quiet step comes before it.
    have here : ∀ next, w.step source ≠ .quiet next := by
      intro next quiet
      rw [answered] at quiet
      cases quiet
    obtain ⟨stack, scope, start⟩ := w
    obtain ⟨done, rfl⟩ | ⟨field, rest, path, framed, outer, top, rfl⟩ |
      ⟨field, rest, path, framed, outer, top, some_bytes, rfl⟩ := step_answer answered
    · cases done
      constructor
      · intro refused
        cases refused
      · rintro ⟨-, due, -⟩
        cases due with
        | later quiet _ => exact absurd quiet (here _)
    · cases top
      rw [readScalar_overflows_iff]
      constructor
      · rintro ⟨⟨bytes, read, full⟩, rfl, rfl, overflows⟩
        exact ⟨rfl, .scalar read full, overflows⟩
      · rintro ⟨rfl, due, overflows⟩
        cases due with
        | scalar read full => exact ⟨⟨_, read, full⟩, rfl, rfl, overflows⟩
        | later quiet _ => exact absurd quiet (here _)
    · cases top
      rw [yield_overflows_iff]
      constructor
      · rintro ⟨rfl, rfl, overflows⟩
        exact ⟨rfl, .run some_bytes, overflows⟩
      · rintro ⟨rfl, due, overflows⟩
        cases due with
        | run _ => exact ⟨rfl, rfl, overflows⟩
        | later quiet _ => exact absurd quiet (here _)

/-- What one pull adds to spans that lie side by side up to its offset. -/
lemma spansUpTo_succ (sources : Nat → Source) {start count : Nat}
    (tiles : TilesFrom start (w.spansUpTo sources count))
    (behind : (w.after sources count).offset = start + covered (w.spansUpTo sources count)) :
    TilesFrom start (w.spansUpTo sources (count + 1)) ∧
      (w.after sources (count + 1)).offset = start + covered (w.spansUpTo sources (count + 1)) := by
  simp only [spansUpTo, after]
  split
  · next span yielded =>
    have next := pull_tiles yielded
    rw [behind] at next
    refine ⟨tiles.concat next, ?_⟩
    have := next.first_eq
    have := next.first_le_last
    rw [next.next_eq, covered_append, covered_cons, covered_nil, Span.size_eq next.first_le_last next.last_lt]
    omega
  · next ended =>
    exact ⟨tiles, (pull_ended fun span yielded => ended span yielded).2.trans behind⟩

/-- The spans of a run lie side by side, and the offset is right behind them. -/
lemma spansUpTo_tiles (sources : Nat → Source) (w : Walk) (count : Nat) :
    TilesFrom w.offset (w.spansUpTo sources count) ∧
      (w.after sources count).offset = w.offset + covered (w.spansUpTo sources count) := by
  induction count with
  | zero => exact ⟨trivial, rfl⟩
  | succ count ih => exact spansUpTo_succ sources ih.1 ih.2

/-- Every run of a finished format yields spans that lie side by side from its start on, none of them empty and
none up to the largest offset; after every pull the offset is the start and the sizes of the spans; words of
sixty-four bits are enough for each span; and an overflow is reported exactly where a field is due that would
reach beyond the largest offset. -/
theorem runs_side_by_side {format : Format} (finished : format.check = .ok ()) (start : Nat)
    (scope : Scope) :
    ∃ w, Walk.start format start scope = .ok w ∧ ∀ (sources : Nat → Source) (count : Nat),
      TilesFrom start (w.spansUpTo sources count) ∧
      (w.after sources count).offset = start + covered (w.spansUpTo sources count) ∧
      (∀ span ∈ w.spansUpTo sources count, span.FitsWords) ∧
      ∀ offset length, w.answer sources count = .error (.offsetOverflow offset length) ↔
        offset = (w.after sources count).offset ∧
          Due (sources count) (w.after sources count) length ∧ maxOffset < offset + length := by
  refine ⟨ofLayout format.nodes start scope, start_of_finished finished start scope, fun sources count => ?_⟩
  obtain ⟨tiles, behind⟩ := spansUpTo_tiles sources (ofLayout format.nodes start scope) count
  refine ⟨tiles, behind, fun span member => ?_, pull_overflows_iff _ _⟩
  exact Span.fitsWords (tiles.first_le_last span member) (tiles.last_lt span member)

/-- Near the largest offset: the length of an entry still fits, its data would reach beyond. -/
theorem runs_side_by_side_entries :
    let sources : Nat → Source := fun _ => ⟨none, fun _ length => .ok (List.replicate length 3)⟩
    Format.entries.check = .ok () ∧ ∃ w, Walk.start .entries (maxOffset - 3) .empty = .ok w ∧
      TilesFrom (maxOffset - 3) (w.spansUpTo sources 2) ∧
      w.spansUpTo sources 2 = [⟨"Entry > Length", .red, maxOffset - 3, maxOffset - 3⟩] ∧
      (w.after sources 1).offset = maxOffset - 2 ∧
      w.answer sources 1 = .error (.offsetOverflow (maxOffset - 2) 3) := by
  intro sources
  have finished : Format.entries.check = .ok () := rfl
  obtain ⟨w, started, holds⟩ := runs_side_by_side finished (maxOffset - 3) .empty
  obtain ⟨tiles, -, -, -⟩ := holds sources 2
  obtain ⟨-, behind, -, -⟩ := holds sources 1
  cases started
  refine ⟨finished, _, rfl, tiles, ?_, behind.trans ?_, ?_⟩
  · cbv
  · cbv
  · cbv

end Walk
end ByteAtlas
