import ByteAtlas.Format
import Mathlib

/-!
# Building formats

A format comes about by calls in order, which go wrong only where a group is ended and none is open. Written out as a
bracketed list, the groups that are still open behind all other nodes, a format is the list of the calls that built it
(`Format.build_eq_ok_iff`): the calls determine the format, and nothing in them is lost, doubled or moved. What a
single call adds at the end of that list (`Format.parts_of_serve`) is all that has to be known of the groups.
-/

namespace ByteAtlas

/-- A call that goes on with a format. -/
inductive BuildCall
  | scalar (field : ScalarField)
  | bytes (field : BytesField)
  | child (name : Option String) (inner : Format)
  | array (name : Option String) (count : Count) (inner : Format)
  | sequence (name : Option String) (inner : Format)
  | beginGroup (name : String)
  | endGroup

/-- A part of a bracketed list: a field, an embedded format with its repetitions, or one of the two brackets of a
group. -/
inductive Part
  | scalar (field : ScalarField)
  | bytes (field : BytesField)
  | embed (name : Option String) (times : Repeat) (inner : Layout) (unclosed : Option String)
  | opening (name : String)
  | closing

namespace BuildCall

/-- Whether a call begins a group. -/
def isBegin : BuildCall → Bool
  | beginGroup _ => true
  | _ => false

/-- Whether a call ends a group. -/
def isEnd : BuildCall → Bool
  | endGroup => true
  | _ => false

/-- A call, read as a part of a bracketed list. -/
def part : BuildCall → Part
  | scalar field => .scalar field
  | bytes field => .bytes field
  | child name inner => .embed name (.times (.const 1)) inner.nodes inner.openGroup?
  | array name count inner => .embed name (.times count) inner.nodes inner.openGroup?
  | sequence name inner => .embed name .unbounded inner.nodes inner.openGroup?
  | beginGroup name => .opening name
  | endGroup => .closing

/-- How many calls begin a group. -/
def begins (calls : List BuildCall) : Nat := calls.countP isBegin

/-- How many calls end a group. -/
def ends (calls : List BuildCall) : Nat := calls.countP isEnd

/-- Of any first calls at least as many begin a group as end one. -/
def NeverUnmatched (calls : List BuildCall) : Prop := ∀ front, front <+: calls → ends front ≤ begins front

end BuildCall

/-- The bracketed list of a layout. -/
def Layout.parts : Layout → List Part
  | nil => []
  | scalar field rest => .scalar field :: rest.parts
  | bytes field rest => .bytes field :: rest.parts
  | group name inner rest => .opening name :: (inner.parts ++ .closing :: rest.parts)
  | embed name times inner unclosed rest => .embed name times inner unclosed :: rest.parts

/-- The bracketed list of a group that is not closed yet. -/
def OpenGroup.parts (g : OpenGroup) : List Part := .opening g.name :: g.nodes.parts

@[simp] lemma Layout.parts_append (l m : Layout) : (l ++ m).parts = l.parts ++ m.parts := by
  show (l.append m).parts = _
  induction l with
  | nil => rfl
  | scalar _ _ ih | bytes _ _ ih => simp [append, parts, ih]
  | group _ _ _ _ ih | embed _ _ _ _ _ _ ih => simp [append, parts, ih]

lemma Layout.parts_eq_nil_iff {l : Layout} : l.parts = [] ↔ l.length = 0 := by
  cases l <;> simp [parts, length]

namespace Format

/-- The bracketed list of a format: the nodes outside of open groups, then the open groups from the outside in. -/
def parts (f : Format) : List Part := f.nodes.parts ++ f.pending.reverse.flatMap OpenGroup.parts

/-- Serves one call. -/
def serve (f : Format) : BuildCall → Except Error Format
  | .scalar field => .ok (f.scalar field)
  | .bytes field => .ok (f.bytes field)
  | .child name inner => .ok (f.child name inner)
  | .array name count inner => .ok (f.array name count inner)
  | .sequence name inner => .ok (f.sequence name inner)
  | .beginGroup name => .ok (f.beginGroup name)
  | .endGroup => f.endGroup

/-- Serves calls in order, up to the first that fails. -/
def buildOn (f : Format) : List BuildCall → Except Error Format
  | [] => .ok f
  | call :: later =>
    match f.serve call with
    | .error cause => .error cause
    | .ok next => next.buildOn later

/-- What calls build from nothing. -/
def build (calls : List BuildCall) : Except Error Format := empty.buildOn calls

variable {f g : Format} {call : BuildCall} {calls : List BuildCall} {cause : Error} {nodes : Layout}

/-! Placing nodes. -/

@[simp] lemma place_nil : f.place .nil = f := by
  obtain ⟨nodes, pending⟩ := f
  cases pending <;> simp [place]

@[simp] lemma place_place (l m : Layout) : (f.place l).place m = f.place (l ++ m) := by
  obtain ⟨nodes, pending⟩ := f
  cases pending <;> simp [place]

@[simp] lemma length_pending_place : (f.place nodes).pending.length = f.pending.length := by
  obtain ⟨_, pending⟩ := f
  cases pending <;> rfl

/-- The innermost open group comes last. -/
lemma parts_pending (inner : OpenGroup) (outer : List OpenGroup) :
    (⟨nodes, inner :: outer⟩ : Format).parts = (⟨nodes, outer⟩ : Format).parts ++ inner.parts := by
  simp [parts]

/-- Nodes are placed at the end. -/
lemma parts_place : (f.place nodes).parts = f.parts ++ nodes.parts := by
  obtain ⟨outside, pending⟩ := f
  cases pending with
  | nil => simp [place, parts]
  | cons inner outer => simp [place, parts_pending, OpenGroup.parts]

/-! Calls. -/

/-- Only the end of a group can fail, and only where no group is open. -/
lemma serve_eq_error_iff :
    f.serve call = .error cause ↔ call = .endGroup ∧ f.pending = [] ∧ cause = .structural .unmatchedEnd := by
  cases call with
  | endGroup =>
    rw [serve, endGroup]
    split <;> simp_all [eq_comm]
  | scalar | bytes | child | array | sequence | beginGroup => simp [serve]

/-- A call adds its part at the end. -/
lemma parts_of_serve (served : f.serve call = .ok g) : g.parts = f.parts ++ [call.part] := by
  cases call with
  | scalar | bytes | child | array | sequence =>
    cases served
    exact parts_place
  | beginGroup name =>
    cases served
    exact parts_pending ..
  | endGroup =>
    obtain ⟨nodes, pending⟩ := f
    cases pending with
    | nil => cases served
    | cons inner outer =>
      cases served
      simp [parts_place, parts_pending, OpenGroup.parts, Layout.parts, BuildCall.part]

/-- A call opens a group or closes one or does neither. -/
lemma depth_of_serve (served : f.serve call = .ok g) :
    g.pending.length + BuildCall.ends [call] = f.pending.length + BuildCall.begins [call] := by
  cases call with
  | scalar | bytes | child | array | sequence =>
    cases served
    exact length_pending_place
  | beginGroup name =>
    cases served
    rfl
  | endGroup =>
    obtain ⟨nodes, pending⟩ := f
    cases pending with
    | nil => cases served
    | cons inner outer =>
      cases served
      rw [length_pending_place]
      rfl

/-! Calls in order. -/

lemma buildOn_cons_eq_ok_iff {later : List BuildCall} :
    f.buildOn (call :: later) = .ok g ↔ ∃ next, f.serve call = .ok next ∧ next.buildOn later = .ok g := by
  rw [buildOn]
  cases f.serve call <;> simp

lemma buildOn_append_eq_ok_iff {front back : List BuildCall} :
    f.buildOn (front ++ back) = .ok g ↔ ∃ middle, f.buildOn front = .ok middle ∧ middle.buildOn back = .ok g := by
  induction front generalizing f with
  | nil => simp [buildOn]
  | cons call front ih =>
    simp only [List.cons_append, buildOn_cons_eq_ok_iff, ih]
    constructor
    · rintro ⟨next, served, middle, built, rest⟩
      exact ⟨middle, ⟨next, served, built⟩, rest⟩
    · rintro ⟨middle, ⟨next, served, built⟩, rest⟩
      exact ⟨next, served, middle, built, rest⟩

lemma parts_of_buildOn (built : f.buildOn calls = .ok g) : g.parts = f.parts ++ calls.map BuildCall.part := by
  induction calls generalizing f with
  | nil =>
    cases built
    simp
  | cons call later ih =>
    obtain ⟨next, served, built⟩ := buildOn_cons_eq_ok_iff.1 built
    rw [ih built, parts_of_serve served]
    simp

lemma depth_of_buildOn (built : f.buildOn calls = .ok g) :
    g.pending.length + BuildCall.ends calls = f.pending.length + BuildCall.begins calls := by
  induction calls generalizing f with
  | nil =>
    cases built
    rfl
  | cons call later ih =>
    obtain ⟨next, served, built⟩ := buildOn_cons_eq_ok_iff.1 built
    have here := depth_of_serve served
    have there := ih built
    simp only [BuildCall.ends, BuildCall.begins, List.countP_cons, List.countP_nil] at here there ⊢
    omega

/-- Calls fail at the first end of a group that finds none open. -/
lemma unmatched_of_buildOn (failed : f.buildOn calls = .error cause) :
    ∃ front back stuck, calls = front ++ .endGroup :: back ∧ f.buildOn front = .ok stuck ∧ stuck.pending = [] ∧
      cause = .structural .unmatchedEnd := by
  induction calls generalizing f with
  | nil => cases failed
  | cons call later ih =>
    rw [buildOn] at failed
    cases served : f.serve call with
    | error cause' =>
      rw [served] at failed
      cases failed
      obtain ⟨rfl, none_open, rfl⟩ := serve_eq_error_iff.1 served
      exact ⟨[], later, f, rfl, rfl, none_open, rfl⟩
    | ok next =>
      rw [served] at failed
      obtain ⟨front, back, stuck, rfl, built, none_open, rfl⟩ := ih failed
      exact ⟨call :: front, back, stuck, rfl, buildOn_cons_eq_ok_iff.2 ⟨next, served, built⟩, none_open, rfl⟩

/-- Calls succeed where at no point more groups were ended than were open or begun. -/
lemma exists_buildOn_iff :
    (∃ g, f.buildOn calls = .ok g) ↔
      ∀ front, front <+: calls → BuildCall.ends front ≤ f.pending.length + BuildCall.begins front := by
  constructor
  · rintro ⟨g, built⟩ front ⟨back, rfl⟩
    obtain ⟨middle, built, -⟩ := buildOn_append_eq_ok_iff.1 built
    have depth := depth_of_buildOn built
    omega
  · intro matched
    cases built : f.buildOn calls with
    | ok g => exact ⟨g, rfl⟩
    | error cause =>
      -- The calls up to the end that fails would end one group more than there is.
      obtain ⟨front, back, stuck, rfl, built, none_open, -⟩ := unmatched_of_buildOn built
      have depth := depth_of_buildOn built
      have bound := matched (front ++ [.endGroup]) ⟨back, by simp⟩
      rw [none_open] at depth
      simp [BuildCall.ends, BuildCall.begins, BuildCall.isEnd, BuildCall.isBegin] at depth bound
      omega

/-! From the bracketed list back to the format. -/

lemma buildOn_of_parts (written : calls.map BuildCall.part = nodes.parts) :
    f.buildOn calls = .ok (f.place nodes) := by
  induction nodes generalizing f calls with
  | nil =>
    cases List.map_eq_nil_iff.1 written
    rw [place_nil]
    rfl
  | scalar field rest ih | bytes field rest ih =>
    obtain ⟨call, later, rfl, here, behind⟩ := List.map_eq_cons_iff.1 written
    cases call <;> cases here
    refine buildOn_cons_eq_ok_iff.2 ⟨_, rfl, ?_⟩
    exact (ih behind).trans (congrArg _ (place_place ..))
  | embed name times inner unclosed rest _ ih =>
    obtain ⟨call, later, rfl, here, behind⟩ := List.map_eq_cons_iff.1 written
    -- What is embedded once is an array of one as well, and the same is placed for both.
    cases call <;> cases here
    all_goals
      refine buildOn_cons_eq_ok_iff.2 ⟨_, rfl, ?_⟩
      exact (ih behind).trans (congrArg _ (place_place ..))
  | group name inner rest ih_inner ih_rest =>
    obtain ⟨first, later, rfl, opens, closed⟩ := List.map_eq_cons_iff.1 written
    obtain ⟨inside, ended, rfl, within, ends⟩ := List.map_eq_append_iff.1 closed
    obtain ⟨last, later, rfl, closes, behind⟩ := List.map_eq_cons_iff.1 ends
    cases first <;> cases opens
    cases last <;> cases closes
    refine buildOn_cons_eq_ok_iff.2 ⟨_, rfl, buildOn_append_eq_ok_iff.2 ⟨_, ih_inner within, ?_⟩⟩
    refine buildOn_cons_eq_ok_iff.2 ⟨_, rfl, ?_⟩
    exact (ih_rest behind).trans (congrArg _ (place_place ..))

/-- Calls build exactly the format of which they are the bracketed list. -/
theorem build_eq_ok_iff : build calls = .ok f ↔ f.parts = calls.map BuildCall.part := by
  constructor
  · intro built
    exact parts_of_buildOn built
  · intro written
    obtain ⟨nodes, pending⟩ := f
    induction pending generalizing calls with
    | nil =>
      simp only [parts, List.reverse_nil, List.flatMap_nil, List.append_nil] at written
      exact buildOn_of_parts written.symm
    | cons innermost outer ih =>
      rw [parts_pending] at written
      obtain ⟨front, back, rfl, around, bracketed⟩ := List.map_eq_append_iff.1 written.symm
      obtain ⟨first, inside, rfl, opens, within⟩ := List.map_eq_cons_iff.1 bracketed
      cases first <;> cases opens
      refine buildOn_append_eq_ok_iff.2 ⟨_, ih around.symm, buildOn_cons_eq_ok_iff.2 ⟨_, rfl, ?_⟩⟩
      exact buildOn_of_parts within

/-- As many ends as there are open groups close them all. -/
lemma buildOn_missing_ends : ∃ full, f.buildOn (List.replicate f.pending.length .endGroup) = .ok ⟨full, []⟩ := by
  generalize depth : f.pending.length = open_groups
  induction open_groups generalizing f with
  | zero =>
    obtain ⟨nodes, pending⟩ := f
    cases List.length_eq_zero_iff.1 depth
    exact ⟨nodes, rfl⟩
  | succ open_groups ih =>
    obtain ⟨nodes, pending⟩ := f
    obtain ⟨inner, outer, rfl⟩ := List.exists_cons_of_length_eq_add_one depth
    have less : (place ⟨nodes, outer⟩ (.group inner.name inner.nodes .nil)).pending.length = open_groups := by
      rw [length_pending_place]
      exact Nat.succ.inj depth
    obtain ⟨full, built⟩ := ih less
    exact ⟨full, buildOn_cons_eq_ok_iff.2 ⟨_, rfl, built⟩⟩

lemma isEmpty_iff : f.isEmpty = true ↔ f.parts = [] := by
  rw [isEmpty, parts, List.append_eq_nil_iff, Layout.parts_eq_nil_iff]
  cases f.pending <;> simp [OpenGroup.parts]

/-- Calls from nothing succeed exactly if no group is ended that was not begun, and otherwise fail at the first that
is. What they build is the format of which they are the bracketed list: its nodes are those in front of all groups
that are still open, and nothing else. With the ends that are missing they build all of it, closed. -/
theorem builds_forest (calls : List BuildCall) :
    ((∃ f, build calls = .ok f) ↔ BuildCall.NeverUnmatched calls) ∧
    (¬BuildCall.NeverUnmatched calls → ∃ front back stuck, calls = front ++ .endGroup :: back ∧
      build front = .ok stuck ∧ stuck.pending = [] ∧ build calls = .error (.structural .unmatchedEnd)) ∧
    ∀ f, (build calls = .ok f ↔
        f.nodes.parts ++ f.pending.reverse.flatMap OpenGroup.parts = calls.map BuildCall.part) ∧
      (build calls = .ok f → (f.isEmpty = true ↔ calls = []) ∧
        f.pending.length = BuildCall.begins calls - BuildCall.ends calls ∧
        ∃ full, build (calls ++ List.replicate f.pending.length .endGroup) = .ok ⟨full, []⟩ ∧
          full.parts = calls.map BuildCall.part ++ List.replicate f.pending.length .closing) := by
  have succeeds : (∃ f, build calls = .ok f) ↔ BuildCall.NeverUnmatched calls := by
    simp [build, exists_buildOn_iff, BuildCall.NeverUnmatched, empty]
  refine ⟨succeeds, fun unmatched => ?_, fun f => ⟨build_eq_ok_iff, fun built => ⟨?_, ?_, ?_⟩⟩⟩
  · cases built : build calls with
    | ok f => exact absurd (succeeds.1 ⟨f, built⟩) unmatched
    | error cause =>
      obtain ⟨front, back, stuck, same, built_front, none_open, rfl⟩ := unmatched_of_buildOn built
      exact ⟨front, back, stuck, same, built_front, none_open, rfl⟩
  · rw [isEmpty_iff, build_eq_ok_iff.1 built, List.map_eq_nil_iff]
  · have depth := depth_of_buildOn built
    simp only [empty, List.length_nil, Nat.zero_add] at depth
    omega
  · obtain ⟨full, closed⟩ := buildOn_missing_ends (f := f)
    have all : build (calls ++ List.replicate f.pending.length .endGroup) = .ok ⟨full, []⟩ :=
      buildOn_append_eq_ok_iff.2 ⟨f, built, closed⟩
    refine ⟨full, all, ?_⟩
    have written := build_eq_ok_iff.1 all
    simpa [parts, BuildCall.part] using written

end Format
end ByteAtlas
