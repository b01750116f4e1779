import ByteAtlas.Proofs.Walk.Failing
import ByteAtlas.Proofs.Walk.Unrolling

/-!
# Spans are named by their paths

A walk carries the path of every open body and joins a name to it where it enters a group or a named format. Joining
is associative and an empty name leaves no trace (`joinPath_assoc`, `empty_joinPath`, `Walk.joinPath_empty`), so it
does not matter in which portions a path is put together (`joinPath_joinSegments`).

Which path a field has is read off the layout (`Layout.segments`), without any walk. The place of a walk in its layout
is how many nodes are left in each of the open bodies (`Walk.place`). The path of every open body is what the layout
says of its place (`Lexical.path_eq`), and so is the name of every span (`Walk.names_are_paths`).
-/

namespace ByteAtlas

/-- The segments of a path in one text, without those that are empty. -/
def joinSegments (segments : List String) : String := " > ".intercalate (segments.filter (· ≠ ""))

namespace Layout

/-- The segments of the path of a field, from the outermost in: the names of the groups and the named formats around
it, and its own name. It is the field with so many nodes behind it, first in the layout, then in each of the bodies
around it. -/
def segments : Layout → List Nat → Option (List String)
  | nil, _ => none
  | scalar field rest, place => if place = [rest.length] then some [field.name] else rest.segments place
  | bytes field rest, place => if place = [rest.length] then some [field.name] else rest.segments place
  | group name inner rest, place =>
    if place.head? = some rest.length then (inner.segments place.tail).map (name :: ·) else rest.segments place
  | embed name _ inner _ rest, place =>
    if place.head? = some rest.length then (inner.segments place.tail).map (name.toList ++ ·) else rest.segments place

end Layout

/-- How many nodes are left in an open body. -/
def Frame.left? : Frame → Option Nat
  | body rest _ _ => some rest.length
  | repetition .. => none

/-- How many nodes are left in each of the open bodies, from the outermost in. -/
def placeOf (stack : List Frame) : List Nat := (stack.filterMap Frame.left?).reverse

def Walk.place (w : Walk) : List Nat := placeOf w.stack

section Joining

variable {path segment : String}

lemma empty_joinPath (segment : String) : joinPath "" segment = segment := rfl

lemma joinPath_of_ne (some_path : path ≠ "") (some_segment : segment ≠ "") :
    joinPath path segment = path ++ " > " ++ segment := by
  rw [joinPath, if_neg (mt String.isEmpty_iff.1 some_path), if_neg (mt String.isEmpty_iff.1 some_segment)]
  rfl

/-- Only empty texts join to an empty one. -/
lemma joinPath_ne (some_path : path ≠ "") (segment : String) : joinPath path segment ≠ "" := by
  by_cases none : segment = ""
  · rw [none, Walk.joinPath_empty]
    exact some_path
  · rw [joinPath_of_ne some_path none, Ne, String.append_eq_empty_iff]
    exact fun both => none both.2

lemma joinPath_assoc (a b c : String) : joinPath (joinPath a b) c = joinPath a (joinPath b c) := by
  by_cases no_a : a = ""
  · rw [no_a, empty_joinPath, empty_joinPath]
  by_cases no_b : b = ""
  · rw [no_b, empty_joinPath, Walk.joinPath_empty]
  by_cases no_c : c = ""
  · rw [no_c, Walk.joinPath_empty, Walk.joinPath_empty]
  rw [joinPath_of_ne (joinPath_ne no_a b) no_c, joinPath_of_ne no_a no_b, joinPath_of_ne no_a (joinPath_ne no_b c),
    joinPath_of_ne no_b no_c]
  simp only [String.append_assoc]

lemma filter_cons_of_ne (some_segment : segment ≠ "") (more : List String) :
    (segment :: more).filter (· ≠ "") = segment :: more.filter (· ≠ "") :=
  List.filter_cons_of_pos (decide_eq_true some_segment)

/-- The first of some segments is joined to the path of the others. -/
lemma joinSegments_cons (name : String) (more : List String) :
    joinSegments (name :: more) = joinPath name (joinSegments more) := by
  by_cases none : name = ""
  · subst none
    rfl
  induction more generalizing name with
  | nil =>
    rw [joinSegments, filter_cons_of_ne none]
    exact String.intercalate_singleton.trans (Walk.joinPath_empty name).symm
  | cons next more ih =>
    by_cases skipped : next = ""
    · subst skipped
      exact ih name none
    · rw [ih next skipped, joinPath_of_ne none (joinPath_ne skipped _), ← ih next skipped, joinSegments,
        joinSegments, filter_cons_of_ne none, filter_cons_of_ne skipped, String.intercalate_cons_cons]

/-- The path of some segments and that of further ones are joined to the path of all. -/
lemma joinPath_joinSegments (segments more : List String) :
    joinPath (joinSegments segments) (joinSegments more) = joinSegments (segments ++ more) := by
  induction segments with
  | nil => rfl
  | cons name segments ih => rw [List.cons_append, joinSegments_cons, joinSegments_cons, joinPath_assoc, ih]

lemma joinSegments_singleton (name : String) : joinSegments [name] = name := by
  rw [joinSegments_cons]
  exact Walk.joinPath_empty name

/-- A format without a name adds no segment to the path. -/
lemma embedPath_joinSegments (segments : List String) (name : Option String) :
    Walk.embedPath (joinSegments segments) name = joinSegments (segments ++ name.toList) := by
  cases name with
  | none => exact congrArg joinSegments (List.append_nil segments).symm
  | some name =>
    rw [Walk.embedPath, Option.toList_some, ← joinPath_joinSegments, joinSegments_singleton]

end Joining

namespace Layout

variable {nodes body rest inner : Layout} {outer place : List Nat} {path names : List String}

/-- A place in a layout begins with fewer nodes than the layout has. -/
lemma lt_length_of_segments (found : nodes.segments place = some path) :
    ∃ behind, place.head? = some behind ∧ behind < nodes.length := by
  induction nodes with
  | nil => cases found
  | scalar field rest ih | bytes field rest ih =>
    rw [segments] at found
    split at found
    · next here => exact ⟨rest.length, here ▸ rfl, Nat.lt_succ_self _⟩
    · obtain ⟨behind, head, lt⟩ := ih found
      exact ⟨behind, head, Nat.lt_succ_of_lt lt⟩
  | group name inner rest _ ih | embed name times inner unclosed rest _ ih =>
    rw [segments] at found
    split at found
    · next here => exact ⟨rest.length, here, Nat.lt_succ_self _⟩
    · obtain ⟨behind, head, lt⟩ := ih found
      exact ⟨behind, head, Nat.lt_succ_of_lt lt⟩

/-- The places behind a node differ from its own. -/
lemma head?_ne_of_segments (found : rest.segments place = some path) : place.head? ≠ some rest.length := by
  obtain ⟨behind, head, lt⟩ := lt_length_of_segments found
  rw [head]
  intro same
  cases same
  exact Nat.lt_irrefl _ lt

/-- Whether a body is found in a layout, at some place and with the segments of a path around it. -/
def Holds (nodes : Layout) (outer : List Nat) (names : List String) (body : Layout) : Prop :=
  ∀ place path, body.segments place = some path → nodes.segments (outer ++ place) = some (names ++ path)

namespace Holds

lemma refl (nodes : Layout) : nodes.Holds [] [] nodes := fun _ _ found => found

/-- What is behind some nodes of a body is found where the body is. -/
lemma of_binds {sources : Nat → Source} {w : Walk} {prefixed : String} {framed : Bool} {below : List Frame}
    {own : Bindings} (holds : nodes.Holds outer names body)
    (bound : Binds sources w prefixed framed below body rest own) :
    nodes.Holds outer names rest := by
  induction bound with
  | start => exact holds
  | scalar _ _ ih | bytes _ ih =>
    intro place path found
    refine ih place path ?_
    rw [segments, if_neg fun here => head?_ne_of_segments found (congrArg List.head? here)]
    exact found
  | group _ ih | embed _ ih =>
    intro place path found
    refine ih place path ?_
    rw [segments, if_neg (head?_ne_of_segments found)]
    exact found

lemma group {name : String} (holds : nodes.Holds outer names (.group name inner rest)) :
    nodes.Holds (outer ++ [rest.length]) (names ++ [name]) inner := by
  intro place path found
  rw [List.append_assoc, List.append_assoc]
  refine holds _ _ ?_
  rw [segments, List.cons_append, List.head?_cons, if_pos rfl]
  exact congrArg _ found

lemma embed {name unclosed : Option String} {times : Repeat}
    (holds : nodes.Holds outer names (.embed name times inner unclosed rest)) :
    nodes.Holds (outer ++ [rest.length]) (names ++ name.toList) inner := by
  intro place path found
  rw [List.append_assoc, List.append_assoc]
  refine holds _ _ ?_
  rw [segments, List.cons_append, List.head?_cons, if_pos rfl]
  exact congrArg _ found

end Holds
end Layout

/-- What is left inside an open frame or comes up again in it. -/
def Frame.inside : Frame → Layout
  | body rest _ _ => rest
  | repetition inner _ _ _ => inner

def Frame.path : Frame → String
  | body _ path _ => path
  | repetition _ _ path _ => path

lemma placeOf_body (rest : Layout) (path : String) (framed : Bool) (below : List Frame) :
    placeOf (.body rest path framed :: below) = placeOf below ++ [rest.length] := by
  rw [placeOf, List.filterMap_cons, Frame.left?, List.reverse_cons]
  rfl

variable {sources : Nat → Source} {w : Walk}

/-- The path of a frame is put together from the segments around what is inside it. -/
lemma Lexical.path_eq {nodes : Layout} {given : Scope} {stack : List Frame} {frames : List Bindings}
    (h : Lexical sources w nodes given stack frames) :
    ∀ frame below, stack = frame :: below →
      ∃ names, frame.path = joinSegments names ∧ nodes.Holds (placeOf below) names frame.inside := by
  induction h with
  | root bound =>
    rintro _ _ ⟨⟩
    exact ⟨[], rfl, (Layout.Holds.refl nodes).of_binds bound⟩
  | ended => exact nofun
  | @group name inner rest after path framed below frames own _ bound ih =>
    rintro _ _ ⟨⟩
    obtain ⟨names, joined, holds⟩ := ih _ _ rfl
    refine ⟨names ++ [name], ?_, ?_⟩
    · rw [← joinPath_joinSegments, joinSegments_singleton, ← joined]
      rfl
    · rw [placeOf_body]
      exact holds.group.of_binds bound
  | @between name times inner unclosed after path framed below frames remaining started _ ih =>
    rintro _ _ ⟨⟩
    obtain ⟨names, joined, holds⟩ := ih _ _ rfl
    refine ⟨names ++ name.toList, ?_, ?_⟩
    · rw [← embedPath_joinSegments, ← joined]
      rfl
    · rw [placeOf_body]
      exact holds.embed
  | round _ bound ih =>
    rintro _ _ ⟨⟩
    obtain ⟨names, joined, holds⟩ := ih _ _ rfl
    exact ⟨names, joined, holds.of_binds bound⟩

namespace Walk

/-- A pull that gives a span has passed a field, and the span has the name of the field below the path of its body. -/
lemma exists_field_of_span {source : Source} {point : Walk} {pulled : Pull} {span : Span}
    (answered : point.step source = .answer pulled) (yielded : pulled.result = .ok (some span)) :
    ∃ field name rest path framed below, point.stack = .body field path framed :: below ∧
      field.segments [rest.length] = some [name] ∧
      pulled.walk.stack = .body rest path framed :: below ∧ span.name = joinPath path name := by
  obtain ⟨-, rfl⟩ | ⟨field, rest, path, framed, below, top, rfl⟩ |
    ⟨field, rest, path, framed, below, top, -, rfl⟩ := step_answer answered
  · cases yielded
  · obtain ⟨bytes, -, -, rfl, -⟩ := readScalar_of_span yielded
    exact ⟨_, field.name, rest, path, framed, below, top, if_pos rfl, stack_readScalar yielded, rfl⟩
  · obtain ⟨rfl, walk⟩ := yield_of_span yielded
    exact ⟨_, field.name, rest, path, framed, below, top, if_pos rfl, by rw [walk], rfl⟩

/-- Joining names is associative, and the empty name does not count in it. So in every run of a finished format, over
all sources, the name of a span is the path of the field that the walk has come past: the segments around that field
and its own, without the empty ones. -/
theorem names_are_paths {format : Format} (finished : format.check = .ok ()) (start : Nat) (given : Scope) :
    (∀ a b c, joinPath (joinPath a b) c = joinPath a (joinPath b c)) ∧
    (∀ name, joinPath "" name = name ∧ joinPath name "" = name) ∧
    ∃ w, Walk.start format start given = .ok w ∧ ∀ (sources : Nat → Source) (count : Nat) (span : Span),
      w.answer sources count = .ok (some span) →
        ∃ segments, format.nodes.segments (w.after sources (count + 1)).place = some segments ∧
          span.name = " > ".intercalate (segments.filter (· ≠ "")) := by
  refine ⟨joinPath_assoc, fun name => ⟨empty_joinPath name, joinPath_empty name⟩,
    ofLayout format.nodes start given, start_of_finished finished start given, fun sources count span yielded => ?_⟩
  have going : answer sources (ofLayout format.nodes start given) count ≠ .ok none := by
    rw [yielded]
    nofun
  obtain ⟨point, passed, answered⟩ := (goesThrough_of_going going).exists_answering
  obtain ⟨field, name, rest, path, framed, below, top, here, stack, named⟩ := exists_field_of_span answered yielded
  obtain ⟨names, joined, holds⟩ := passed.lexical.path_eq _ _ top
  refine ⟨names ++ [name], ?_, ?_⟩
  · rw [place, after, stack, placeOf_body]
    exact holds _ _ here
  · rw [named, show path = joinSegments names from joined]
    exact (congrArg _ (joinSegments_singleton name).symm).trans (joinPath_joinSegments names [name])

/-- A field without a name in a format that is repeated in a group without a name: only two of the four segments are
left in the name of its second span. -/
theorem names_are_paths_unnamed :
    let data : Layout := .bytes ⟨"", .var "n", .green⟩ .nil
    let entry : Layout := .scalar ⟨"Length", ⟨.unsigned .one, .big⟩, .red, some "n"⟩ data
    let page : Layout := .group "" (.embed (some "Entry") (.times (.const 1)) entry none .nil) .nil
    let table : Layout := .group "Table" (.embed none (.times (.const 2)) page none (.group "Sum" .nil .nil)) .nil
    let format : Format := ⟨table, []⟩
    let sources : Nat → Source := fun _ => .ofBytes #[1, 7, 2, 8, 9]
    format.check = .ok () ∧ ∃ w, Walk.start format 0 .empty = .ok w ∧
      w.answer sources 3 = .ok (some ⟨"Table > Entry", .green, 3, 4⟩) ∧
      (w.after sources 4).place = [0, 1, 0, 0, 0] ∧
      ∃ segments, format.nodes.segments [0, 1, 0, 0, 0] = some segments ∧ segments = ["Table", "", "Entry", ""] ∧
        "Table > Entry" = " > ".intercalate (segments.filter (· ≠ "")) := by
  intro data entry page table format sources
  have finished : format.check = .ok () := rfl
  obtain ⟨-, -, w, started, named⟩ := names_are_paths finished 0 .empty
  cases started
  have yielded : answer sources (ofLayout format.nodes 0 .empty) 3 =
      .ok (some ⟨"Table > Entry", .green, 3, 4⟩) := by cbv
  obtain ⟨segments, found, name⟩ := named sources 3 _ yielded
  have here : (after sources (ofLayout format.nodes 0 .empty) 4).place = [0, 1, 0, 0, 0] := by cbv
  rw [here] at found
  refine ⟨finished, _, rfl, yielded, here, segments, found, ?_, name⟩
  cases found
  rfl

end Walk
end ByteAtlas
