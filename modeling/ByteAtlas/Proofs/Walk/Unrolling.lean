import ByteAtlas.Proofs.Walk.Alike

/-!
# Unrolling

At every place of a format an array is as good as its format embedded once for every repetition, and embedding a
format once is as good as a group of its nodes: no run can tell them apart, by its answers, by its offsets or by
the depth of its scope (`Format.repetition_unrolls`). The walk gives up an array after a repetition that covers no
bytes; a body that covers no bytes is silent, and so are all its later repetitions.
-/

namespace ByteAtlas

/-- Some copies of nodes side by side. -/
def Layout.copies (nodes : Layout) : Nat → Layout
  | 0 => nil
  | count + 1 => nodes ++ nodes.copies count

/-- A layout with a gap in it, between two nodes side by side or at the end, inside any groups and embedded
formats. -/
inductive Gap
  | here (rest : Layout)
  | afterScalar (field : ScalarField) (gap : Gap)
  | afterBytes (field : BytesField) (gap : Gap)
  | afterGroup (name : String) (inner : Layout) (gap : Gap)
  | inGroup (name : String) (gap : Gap) (rest : Layout)
  | afterEmbed (name : Option String) (times : Repeat) (inner : Layout) (unclosed : Option String) (gap : Gap)
  | inEmbed (name : Option String) (times : Repeat) (gap : Gap) (unclosed : Option String) (rest : Layout)

/-- The layout with nodes in its gap. -/
def Gap.fill (nodes : Layout) : Gap → Layout
  | here rest => nodes ++ rest
  | afterScalar field gap => .scalar field (gap.fill nodes)
  | afterBytes field gap => .bytes field (gap.fill nodes)
  | afterGroup name inner gap => .group name inner (gap.fill nodes)
  | inGroup name gap rest => .group name (gap.fill nodes) rest
  | afterEmbed name times inner unclosed gap => .embed name times inner unclosed (gap.fill nodes)
  | inEmbed name times gap unclosed rest => .embed name times (gap.fill nodes) unclosed rest

/-- The format without open groups whose nodes are those of the layout with other nodes in its gap. -/
def Gap.format (gap : Gap) (nodes : Layout) : Format := ⟨gap.fill nodes, []⟩

namespace Format

/-- Places a number of copies of another format, each of them once. -/
def children (f : Format) (name : Option String) (child : Format) : Nat → Format
  | 0 => f
  | count + 1 => (f.children name child count).child name child

/-- Whether no walk can tell two formats apart by its first pulls: neither can be walked, for the same reason, or in
all runs from the same start each of these pulls gives the same answer and leaves the same offset and the same depth
of scope. -/
def IndistinguishableFor (pulls : Nat) (f g : Format) : Prop :=
  ∀ start scope,
    match Walk.start f start scope, Walk.start g start scope with
    | .error cause, .error other => cause = other
    | .ok w, .ok v => ∀ sources, ∀ number < pulls,
        w.answer sources number = v.answer sources number ∧
        (w.after sources (number + 1)).offset = (v.after sources (number + 1)).offset ∧
        (w.after sources (number + 1)).scope.depth = (v.after sources (number + 1)).scope.depth
    | _, _ => False

/-- Whether no walk can tell two formats apart: neither can be walked, for the same reason, or in all runs from
the same start every pull gives the same answer and leaves the same offset and the same depth of scope. -/
def Indistinguishable (f g : Format) : Prop :=
  ∀ start scope,
    match Walk.start f start scope, Walk.start g start scope with
    | .error cause, .error other => cause = other
    | .ok w, .ok v => ∀ sources number,
        w.answer sources number = v.answer sources number ∧
        (w.after sources (number + 1)).offset = (v.after sources (number + 1)).offset ∧
        (w.after sources (number + 1)).scope.depth = (v.after sources (number + 1)).scope.depth
    | _, _ => False

end Format

namespace Walk

variable {w v : Walk} {nodes other : Layout}

/-- Whether bodies of either nodes make for walks alike. -/
def SameBody (nodes other : Layout) : Prop :=
  ∀ pulls path framed below, AlikeFrom pulls 0 (.body nodes path framed :: below) (.body other path framed :: below)

/-- Whether bodies of either nodes make for walks alike for no more than a number of pulls. -/
def SameBodyFor (limit : Nat) (nodes other : Layout) : Prop :=
  ∀ pulls ≤ limit, ∀ path framed below,
    AlikeFrom pulls 0 (.body nodes path framed :: below) (.body other path framed :: below)

/-- Walks that are alike for some pulls and some more are alike for the others after the first. -/
lemma Alike.after {number more : Nat} (alike : Alike (number + more) w v) (sources : Nat → Source) :
    Alike more (w.after sources number) (v.after sources number) := by
  induction number generalizing more with
  | zero =>
    rw [Nat.zero_add] at alike
    exact alike
  | succ number ih =>
    rw [Nat.succ_add_eq_add_succ] at alike
    exact (ih alike (sources number)).onward

/-- Walks that are alike for a pull and all before it give the same in it. -/
lemma run_alike {number : Nat} (alike : Alike (number + 1) w v) (sources : Nat → Source) :
    w.answer sources number = v.answer sources number ∧
      (w.after sources (number + 1)).offset = (v.after sources (number + 1)).offset ∧
      (w.after sources (number + 1)).scope.depth = (v.after sources (number + 1)).scope.depth := by
  have last := alike.after sources (sources number)
  exact ⟨last.result, last.offset, last.depth⟩

variable {limit : Nat}

/-- Repetitions of bodies alike are alike. The induction is on the pulls: a repetition that yields something
leaves fewer of them, one that does not is the last. -/
lemma repetition_alike (same : SameBodyFor limit nodes other) {pulls : Nat} (within : pulls ≤ limit)
    (remaining : Option Nat) (path : String) (started : Option Nat) (below : List Frame) :
    AlikeFrom pulls 0 (.repetition nodes remaining path started :: below)
      (.repetition other remaining path started :: below) := by
  induction pulls generalizing remaining started with
  | zero => exact fun _ _ _ => trivial
  | succ pulls ih =>
    intro scope offset _
    by_cases ended : started = some offset ∨ remaining = some 0
    · exact .quiet₂ (fun _ => step_repetition_ended ended) (fun _ => step_repetition_ended ended) (.refl _ _)
    · refine .quiet₂ (fun _ => step_repetition_enter ended) (fun _ => step_repetition_enter ended) ?_
      refine (same (pulls + 1) within path true _ scope.push offset (Nat.zero_le _)).trans ?_
      by_cases silent : other.Silent scope.push
      · refine (alike_of_silent_body silent).trans (.trans ?_ (alike_of_silent_body silent).symm)
        exact .quiet₂ (fun _ => step_repetition_ended (.inl rfl)) (fun _ => step_repetition_ended (.inl rfl))
          (.refl _ _)
      · exact alike_of_loud silent fun scope offset _ =>
          ih (Nat.le_of_succ_le within) _ _ scope offset (Nat.zero_le _)

/-- What fills a gap may be exchanged for something alike in front of any nodes. -/
lemma fill_sameBodyFor (same : ∀ rest, SameBodyFor limit (nodes ++ rest) (other ++ rest)) (gap : Gap) :
    SameBodyFor limit (gap.fill nodes) (gap.fill other) := by
  intro pulls within path framed below scope offset far
  induction gap generalizing pulls path framed below scope offset with
  | here rest => exact same rest pulls within path framed below scope offset far
  | afterScalar field gap ih =>
    cases pulls with
    | zero => trivial
    | succ pulls =>
      intro source
      rw [Gap.fill, Gap.fill, pull_of_answer rfl, pull_of_answer rfl]
      exact readScalar_alike fun scope offset _ =>
        ih pulls (Nat.le_of_succ_le within) path framed below scope offset (Nat.zero_le _)
  | afterBytes field gap ih =>
    by_cases nothing : field.count.resolve scope = 0
    · exact .quiet₂ (fun _ => step_bytes_none nothing) (fun _ => step_bytes_none nothing)
        (ih pulls within path framed below scope offset far)
    · cases pulls with
      | zero => trivial
      | succ pulls =>
        intro source
        rw [Gap.fill, Gap.fill, pull_of_answer (step_bytes_some nothing),
          pull_of_answer (step_bytes_some nothing)]
        exact yield_alike (Nat.pos_of_ne_zero nothing) fun scope offset _ =>
          ih pulls (Nat.le_of_succ_le within) path framed below scope offset (Nat.zero_le _)
  | afterGroup name inner gap ih =>
    have rest := AlikeFrom.under (ih pulls within path framed below) [.body inner (joinPath path name) true]
    exact .quiet₂ (fun _ => rfl) (fun _ => rfl) (rest scope.push offset far)
  | inGroup name gap rest ih =>
    exact .quiet₂ (fun _ => rfl) (fun _ => rfl) (ih pulls within _ true _ scope.push offset far)
  | afterEmbed name times inner unclosed gap ih =>
    have rest := AlikeFrom.under (ih pulls within path framed below)
      [.repetition inner (times.resolve scope) (embedPath path name) none]
    exact .quiet₂ (fun _ => rfl) (fun _ => rfl) (rest scope offset far)
  | inEmbed name times gap unclosed rest ih =>
    refine .quiet₂ (fun _ => rfl) (fun _ => rfl) ?_
    exact repetition_alike ih within _ _ none _ scope offset far

variable {inner : Layout} {name unclosed : Option String} {path : String} {framed : Bool} {below : List Frame}
  {pulls offset : Nat} {scope : Scope}

/-- A format embedded once is its body, framed. -/
lemma once_alike (rest : Layout) :
    Alike pulls ⟨.body (.embed name (.times (.const 1)) inner unclosed rest) path framed :: below, scope, offset⟩
      ⟨.body inner (embedPath path name) true :: .body rest path framed :: below, scope.push, offset⟩ := by
  refine .quiet (fun _ => rfl) (.quiet (fun _ => step_repetition_enter ?_) ?_)
  · exact not_or.2 ⟨nofun, nofun⟩
  · have below : AlikeFrom pulls 0 (.repetition inner (some 0) (embedPath path name) (some offset) ::
        .body rest path framed :: below) (.body rest path framed :: below) :=
      fun _ _ _ => .quiet (fun _ => step_repetition_ended (.inr rfl)) (.refl _ _)
    exact below.under [.body inner (embedPath path name) true] scope.push offset (Nat.zero_le _)

/-- Copies of a silent format embedded once are silent. -/
lemma silent_copies (silent : inner.Silent scope.push) (count : Nat) :
    (Layout.copies (.embed name (.times (.const 1)) inner unclosed .nil) count).Silent scope := by
  induction count with
  | zero => trivial
  | succ count ih => exact ⟨.inr silent, ih⟩

/-- The repetitions that remain are as many copies of the format embedded once. -/
lemma repetition_alike_copies {started : Option Nat} (moved : started ≠ some offset) (count : Nat)
    (rest : Layout) :
    Alike pulls
      ⟨.repetition inner (some count) (embedPath path name) started :: .body rest path framed :: below,
        scope, offset⟩
      ⟨.body (Layout.copies (.embed name (.times (.const 1)) inner unclosed .nil) count ++ rest) path framed ::
        below, scope, offset⟩ := by
  induction count generalizing pulls scope offset started with
  | zero => exact .quiet (fun _ => step_repetition_ended (.inr rfl)) (.refl _ _)
  | succ count ih =>
    refine .quiet (fun _ => step_repetition_enter (not_or.2 ⟨moved, nofun⟩)) ?_
    refine .trans ?_ (once_alike _).symm
    by_cases silent : inner.Silent scope.push
    · -- The array is given up, the copies that are left are passed one by one.
      refine (alike_of_silent_body silent).trans (.trans ?_ (alike_of_silent_body silent).symm)
      refine .quiet (fun _ => step_repetition_ended (.inl rfl)) ?_
      exact (alike_of_silent (silent_copies silent count) rest).symm
    · cases pulls with
      | zero => trivial
      | succ pulls =>
        refine alike_of_loud silent fun scope' offset' further => ih ?_
        intro same
        cases same
        exact absurd further (Nat.not_succ_le_self _)

lemma array_sameBody (count : Nat) (rest : Layout) :
    SameBody (.embed name (.times (.const count)) inner unclosed rest)
      (Layout.copies (.embed name (.times (.const 1)) inner unclosed .nil) count ++ rest) := by
  intro pulls path framed below scope offset _
  have fresh : (none : Option Nat) ≠ some offset := nofun
  exact .quiet (fun _ => rfl) (repetition_alike_copies fresh count rest)

lemma joinPath_empty (path : String) : joinPath path "" = path := by
  rw [joinPath]
  split
  · next empty => exact (String.isEmpty_iff.1 empty).symm
  · rfl

lemma child_sameBody (rest : Layout) :
    SameBody (.embed name (.times (.const 1)) inner unclosed rest) (.group (name.getD "") inner rest) := by
  intro pulls path framed below scope offset _
  have same : embedPath path name = joinPath path (name.getD "") := by
    cases name with
    | none => exact (joinPath_empty path).symm
    | some name => rfl
  refine (once_alike rest).trans (.symm (.quiet (fun _ => rfl) ?_))
  rw [same]
  exact .refl _ _

end Walk

namespace Layout

lemma unclosed?_append (nodes rest : Layout) :
    (nodes ++ rest).unclosed? = nodes.unclosed?.or rest.unclosed? := by
  show (nodes.append rest).unclosed? = _
  induction nodes with
  | nil => rfl
  | scalar field more ih | bytes field more ih => exact ih
  | group name inner more _ ih => simp only [append, unclosed?, ih, Option.or_assoc]
  | embed name times inner unclosed more _ ih => simp only [append, unclosed?, ih, Option.or_assoc]

lemma unclosed?_copies {nodes : Layout} (finished : nodes.unclosed? = none) (count : Nat) :
    (nodes.copies count).unclosed? = none := by
  induction count with
  | zero => rfl
  | succ count ih => rw [copies, unclosed?_append, finished, ih, Option.or_none]

/-- Copies may be put behind as well as in front. -/
lemma copies_append (nodes : Layout) (count : Nat) : nodes.copies count ++ nodes = nodes.copies (count + 1) := by
  induction count with
  | zero => exact (append_nil nodes).symm
  | succ count ih =>
    rw [copies, append_assoc, ih]
    rfl

end Layout

/-- Which group is left open in a layout with a gap depends only on which is left open in what fills it. -/
lemma Gap.unclosed?_fill {nodes other : Layout} (same : nodes.unclosed? = other.unclosed?) (gap : Gap) :
    (gap.fill nodes).unclosed? = (gap.fill other).unclosed? := by
  induction gap with
  | here rest => rw [fill, fill, Layout.unclosed?_append, Layout.unclosed?_append, same]
  | afterScalar field gap ih | afterBytes field gap ih => exact ih
  | afterGroup name inner gap ih | inGroup name gap rest ih => simp only [fill, Layout.unclosed?, ih]
  | afterEmbed name times inner unclosed gap ih => simp only [fill, Layout.unclosed?, ih]
  | inEmbed name times gap unclosed rest ih => simp only [fill, Layout.unclosed?, ih]

namespace Format

/-- In every gap, nodes that are alike for some pulls and leave the same groups open make for formats that these
pulls cannot tell apart. -/
lemma indistinguishableFor_of_sameBodyFor {nodes other : Layout} {pulls : Nat}
    (unclosed : nodes.unclosed? = other.unclosed?)
    (same : ∀ rest, Walk.SameBodyFor pulls (nodes ++ rest) (other ++ rest)) (gap : Gap) :
    IndistinguishableFor pulls (gap.format nodes) (gap.format other) := by
  intro start scope
  have checks : (gap.format nodes).check = (gap.format other).check := by
    simp only [check, Format.unclosed?, Gap.format, openGroup?, gap.unclosed?_fill unclosed]
  rw [Walk.start, Walk.start, checks]
  cases (gap.format other).check with
  | error cause => rfl
  | ok _ =>
    intro sources number before
    have alike : Walk.Alike pulls (.ofLayout (gap.fill nodes) start scope)
        (.ofLayout (gap.fill other) start scope) :=
      Walk.fill_sameBodyFor same gap pulls (Nat.le_refl _) _ _ _ scope start (Nat.zero_le _)
    exact Walk.run_alike (alike.mono before) sources

/-- What no number of pulls can tell apart no walk can. -/
lemma indistinguishable_of_all {f g : Format} (all : ∀ pulls, IndistinguishableFor pulls f g) :
    Indistinguishable f g := by
  intro start scope
  have same := fun pulls => all pulls start scope
  cases ef : Walk.start f start scope with
  | error cause =>
    cases eg : Walk.start g start scope with
    | error other => simpa only [ef, eg] using same 0
    | ok v => simpa only [ef, eg] using same 0
  | ok w =>
    cases eg : Walk.start g start scope with
    | error other => simpa only [ef, eg] using same 0
    | ok v =>
      intro sources number
      have here := same (number + 1)
      rw [ef, eg] at here
      exact here sources number (Nat.lt_succ_self _)

/-- In every gap, nodes that are alike and leave the same groups open make for formats that cannot be told apart. -/
lemma indistinguishable_of_sameBody {nodes other : Layout} (unclosed : nodes.unclosed? = other.unclosed?)
    (same : ∀ rest, Walk.SameBody (nodes ++ rest) (other ++ rest)) (gap : Gap) :
    Indistinguishable (gap.format nodes) (gap.format other) :=
  indistinguishable_of_all fun _ =>
    indistinguishableFor_of_sameBodyFor unclosed (fun rest pulls _ => same rest pulls) gap

lemma children_eq_copies (name : Option String) (child : Format) (count : Nat) :
    empty.children name child count =
      ⟨Layout.copies (.embed name (.times (.const 1)) child.nodes child.openGroup? .nil) count, []⟩ := by
  induction count with
  | zero => rfl
  | succ count ih =>
    rw [children, ih, ← Layout.copies_append]
    rfl

/-- Wherever a finished format is embedded: repeating it a fixed number of times is the same as embedding it as
often side by side, and embedding it once is the same as a group of its nodes. -/
theorem repetition_unrolls {child : Format} (finished : child.check = .ok ()) (name : Option String)
    (gap : Gap) :
    (∀ count, Indistinguishable (gap.format (empty.array name (.const count) child).nodes)
      (gap.format (empty.children name child count).nodes)) ∧
    Indistinguishable (gap.format (empty.child name child).nodes)
      (gap.format (.group (name.getD "") child.nodes .nil)) := by
  obtain ⟨closed, inside⟩ := unclosed_of_finished finished
  have unclosed : ∀ times,
      (Layout.embed name times child.nodes child.openGroup? .nil).unclosed? = none := by
    intro times
    rw [Layout.unclosed?, closed, inside]
    rfl
  constructor
  · intro count
    rw [children_eq_copies]
    refine indistinguishable_of_sameBody ?_ (Walk.array_sameBody count) gap
    exact (unclosed _).trans (Layout.unclosed?_copies (unclosed _) count).symm
  · have grouped : (Layout.group (name.getD "") child.nodes .nil).unclosed? = none := by
      rw [Layout.unclosed?, inside]
      rfl
    have same : ∀ rest, Walk.SameBody (.embed name (.times (.const 1)) child.nodes child.openGroup? .nil ++ rest)
        (.group (name.getD "") child.nodes .nil ++ rest) := Walk.child_sameBody
    exact indistinguishable_of_sameBody ((unclosed _).trans grouped.symm) same gap

/-- Entries behind their own count, inside a group that repeats without end: three of them at once or one by
one, and each of them or a group of its fields. The first page has the same spans either way. -/
theorem repetition_unrolls_entries :
    let entry := (empty.scalar ⟨"Length", ⟨.unsigned .one, .big⟩, .red, some "n"⟩).bytes ⟨"Data", .var "n", .green⟩
    let gap := Gap.inEmbed (some "Page") .unbounded
      (.inGroup "Table" (.afterScalar ⟨"Kind", ⟨.unsigned .two, .little⟩, .blue, none⟩ (.here .nil)) .nil) none .nil
    let spans (f : Format) := (Walk.ofLayout f.nodes 0 .empty).spansUpTo fun _ => .ofBytes #[7, 0, 1, 9, 0, 2, 8, 8]
    let page : List Span := [⟨"Page > Table > Kind", .blue, 0, 1⟩,
      ⟨"Page > Table > Entry > Length", .red, 2, 2⟩, ⟨"Page > Table > Entry > Data", .green, 3, 3⟩,
      ⟨"Page > Table > Entry > Length", .red, 4, 4⟩,
      ⟨"Page > Table > Entry > Length", .red, 5, 5⟩, ⟨"Page > Table > Entry > Data", .green, 6, 7⟩]
    let single : List Span := [⟨"Page > Table > Kind", .blue, 0, 1⟩,
      ⟨"Page > Table > Length", .red, 2, 2⟩, ⟨"Page > Table > Data", .green, 3, 3⟩]
    entry.check = .ok () ∧
      Indistinguishable (gap.format (empty.array (some "Entry") (.const 3) entry).nodes)
        (gap.format (empty.children (some "Entry") entry 3).nodes) ∧
      Indistinguishable (gap.format (empty.child none entry).nodes) (gap.format (.group "" entry.nodes .nil)) ∧
      (gap.format (empty.array (some "Entry") (.const 3) entry).nodes).check = .ok () ∧
      spans (gap.format (empty.array (some "Entry") (.const 3) entry).nodes) 6 = page ∧
      spans (gap.format (empty.children (some "Entry") entry 3).nodes) 6 = page ∧
      spans (gap.format (empty.child none entry).nodes) 3 = single ∧
      spans (gap.format (.group "" entry.nodes .nil)) 3 = single := by
  intro entry gap spans page single
  have finished : entry.check = .ok () := rfl
  exact ⟨finished, (repetition_unrolls finished (some "Entry") gap).1 3, (repetition_unrolls finished none gap).2, rfl,
    by decide +kernel, by decide +kernel, by decide +kernel, by decide +kernel⟩

end Format
end ByteAtlas
