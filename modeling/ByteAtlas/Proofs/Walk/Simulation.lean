import ByteAtlas.Proofs.Walk.Tour

/-!
# Walks follow routes

A walk at rest stands for what is left of a tour: every open frame has a route, and the routes of the stack
follow each other from the inside out (`Walk.tour`). A quiet step does not change the tour that the walk
stands for (`Walk.tour_of_quiet`); a pull gives its first result (`Walk.tour_pull`). So the results of a walk
are those of its tour (`Walk.results_eq`), and a walk from the start of a format is the plain recursion over
its layout (`Walk.results_eq_route`).
-/

namespace ByteAtlas

/-- What the end of a body does to the scope. -/
def leaveBody (framed : Bool) (scope : Scope) : Scope := if framed then scope.pop else scope

/-- The rest of an open frame as a route. A repetition that has covered no bytes is over. -/
def Frame.route (source : Source) : Frame → Route
  | body rest path framed => (rest.route source path).rescope (leaveBody framed)
  | repetition inner remaining path started => fun asked scope offset =>
    if started = some offset then Route.stay asked scope offset
    else (inner.route source path).framed.repeated remaining asked scope offset

/-- The frames of a stack as one route, the innermost first. -/
def stackRoute (source : Source) : List Frame → Route
  | [] => .stay
  | frame :: outer => (frame.route source).andThen (stackRoute source outer)

/-- The tour that a walk at rest stands for. -/
def Walk.tour (source : Source) (w : Walk) (asked : Nat) : Tour :=
  stackRoute source w.stack asked w.scope w.offset

/-- A tour that begins with the answer of a pull. -/
def Pull.tour (source : Source) (p : Pull) (asked : Nat) : Tour :=
  match p.result with
  | .ok (some span) => ⟨span :: (p.walk.tour source asked).spans, (p.walk.tour source asked).ending⟩
  | .ok none => ⟨[], .through p.walk.scope p.walk.offset⟩
  | .error cause => ⟨[], .failed cause⟩

/-- A body that begins with a node goes through the node and on with the rest of the body. -/
lemma stackRoute_body {source : Source} {nodes rest : Layout} {path : String} {first : Route}
    (split : nodes.route source path = first.andThen (rest.route source path))
    (framed : Bool) (outer : List Frame) :
    stackRoute source (.body nodes path framed :: outer) =
      first.andThen (stackRoute source (.body rest path framed :: outer)) := by
  simp only [stackRoute, Frame.route, split, Route.rescope_andThen, Route.andThen_assoc]

/-- A repetition whose last round has covered no bytes is passed over. -/
lemma stackRoute_idle {source : Source} {inner : Layout} {remaining : Option Nat} {path : String}
    {offset : Nat} (outer : List Frame) (asked : Nat) (scope : Scope) :
    stackRoute source (.repetition inner remaining path (some offset) :: outer) asked scope offset =
      stackRoute source outer asked scope offset := by
  simp only [stackRoute, Route.andThen, Frame.route, ↓reduceIte]
  rfl

/-- A repetition that has moved goes through the rounds that remain. -/
lemma stackRoute_moved {source : Source} {inner : Layout} {remaining : Option Nat} {path : String}
    {started : Option Nat} {offset : Nat} (moved : started ≠ some offset) (outer : List Frame) (asked : Nat)
    (scope : Scope) :
    stackRoute source (.repetition inner remaining path started :: outer) asked scope offset =
      ((inner.route source path).framed.repeated remaining asked scope offset).followedBy asked
        (stackRoute source outer) := by
  simp only [stackRoute, Route.andThen, Frame.route, if_neg moved]

namespace Walk

variable {source : Source}

/-- A repetition that has ended is passed over. -/
lemma tour_ended {inner : Layout} {remaining : Option Nat} {path : String} {started : Option Nat}
    {scope : Scope} {offset : Nat} (asked : Nat) (outer : List Frame)
    (ended : started = some offset ∨ remaining = some 0) :
    tour source ⟨.repetition inner remaining path started :: outer, scope, offset⟩ asked =
      tour source ⟨outer, scope, offset⟩ asked := by
  by_cases moved : started = some offset
  · rw [moved]
    exact stackRoute_idle ..
  · rw [tour, stackRoute_moved moved, ended.resolve_left moved, Route.repeated, if_pos rfl]
    rfl

/-- A repetition that has not ended is its next round and then the rounds that are left. -/
lemma tour_enter {inner : Layout} {remaining : Option Nat} {path : String} {started : Option Nat}
    {scope : Scope} {offset asked : Nat} (outer : List Frame)
    (goes_on : ¬(started = some offset ∨ remaining = some 0)) :
    tour source ⟨.repetition inner remaining path started :: outer, scope, offset⟩ (asked + 1) =
      tour source ⟨.body inner path true ::
        .repetition inner (remaining.map (· - 1)) path (some offset) :: outer, scope.push, offset⟩
        (asked + 1) := by
  obtain ⟨moved, more⟩ := not_or.1 goes_on
  have passes := inner.route_passes source path
  have left := passes.framed (asked + 1) scope offset
  have round : tour source ⟨.body inner path true ::
        .repetition inner (remaining.map (· - 1)) path (some offset) :: outer, scope.push, offset⟩
        (asked + 1) =
      ((inner.route source path).framed (asked + 1) scope offset).followedBy (asked + 1)
        (stackRoute source (.repetition inner (remaining.map (· - 1)) path (some offset) :: outer)) := by
    rw [passes.framed_apply]
    rfl
  rw [round, tour, stackRoute_moved moved, Route.repeated, if_neg more, if_neg (Nat.succ_ne_zero asked)]
  dsimp only
  generalize (inner.route source path).framed (asked + 1) scope offset = once at left
  -- Having covered no bytes and being back at the offset of the start are the same.
  split
  · next idle =>
    apply Tour.followedBy_congr
    intro scope' stop e
    obtain ⟨-, same⟩ := left _ _ e
    rw [idle, Nat.add_zero] at same
    rw [same, stackRoute_idle]
  · next some_bytes =>
    rw [Tour.followedBy_assoc]
    apply Tour.followedBy_congr
    intro scope' stop e
    obtain ⟨-, same⟩ := left _ _ e
    have moved' : some offset ≠ some stop := by
      intro e'
      cases e'
      omega
    rw [stackRoute_moved moved']
    rfl

/-- A quiet step leaves the tour of a walk as it is, as long as a result is asked for. -/
lemma tour_of_quiet {w next : Walk} (quiet : w.step source = .quiet next) (asked : Nat) :
    w.tour source (asked + 1) = next.tour source (asked + 1) := by
  obtain ⟨stack, scope, offset⟩ := w
  cases stack with
  | nil => cases quiet
  | cons frame outer =>
    cases frame with
    | body rest path framed =>
      cases rest with
      | nil =>
        cases quiet
        rfl
      | scalar field rest => cases quiet
      | bytes field rest =>
        simp only [step] at quiet
        split at quiet
        · next none =>
          cases quiet
          rw [tour, stackRoute_body rfl, Route.andThen, Route.bytes, if_pos none]
          rfl
        · cases quiet
      | group name inner rest =>
        cases quiet
        rw [tour, stackRoute_body rfl, Route.andThen, (inner.route_passes source _).framed_apply]
        rfl
      | embed name times inner unclosed rest =>
        cases quiet
        rw [tour, stackRoute_body rfl]
        rfl
    | repetition inner remaining path started =>
      simp only [step] at quiet
      split at quiet
      · next ended =>
        cases quiet
        exact tour_ended _ outer ended
      · next goes_on =>
        cases quiet
        exact tour_enter outer goes_on

/-- A span is what yielding gives, and then the rest of the stack. -/
lemma tour_yield (w : Walk) (request : Option (Nat × Nat)) (name : String) (color : Color) (length : Nat)
    (asked : Nat) :
    (Route.span name color length).andThen (stackRoute source w.stack) (asked + 1) w.scope w.offset =
      (w.yield request name color length).tour source asked := by
  rw [Route.andThen, Route.span, if_neg (Nat.succ_ne_zero asked), yield]
  split
  · rfl
  · rfl

/-- A scalar field is what reading it gives, and then the rest of the stack. -/
lemma tour_readScalar (w : Walk) (path : String) (field : ScalarField) (asked : Nat) :
    (Route.scalar source path field).andThen (stackRoute source w.stack) (asked + 1) w.scope w.offset =
      (readScalar source w path field).tour source asked := by
  rw [Route.andThen, Route.scalar, if_neg (Nat.succ_ne_zero asked), readScalar]
  cases source.read w.offset field.type.width with
  | error cause => rfl
  | ok bytes =>
    dsimp only
    split
    · rw [← tour_yield]
      cases e : field.bind <;> simp only [bindField, e] <;> rfl
    · rfl

/-- An answer is the first result of the tour of a walk. -/
lemma tour_of_answer {w : Walk} {p : Pull} (answered : w.step source = .answer p) (asked : Nat) :
    p.tour source asked = w.tour source (asked + 1) := by
  obtain ⟨stack, scope, offset⟩ := w
  obtain ⟨done, rfl⟩ | ⟨field, rest, path, framed, outer, top, rfl⟩ |
    ⟨field, rest, path, framed, outer, top, some_bytes, rfl⟩ := step_answer answered
  · cases done
    rfl
  · cases top
    rw [tour, stackRoute_body rfl]
    exact (tour_readScalar ..).symm
  · cases top
    rw [tour, stackRoute_body rfl, ← tour_yield]
    simp only [Route.andThen, Route.bytes, if_neg some_bytes]

/-- A pull gives the first result of the tour of a walk. -/
lemma tour_pull (w : Walk) (asked : Nat) :
    (w.pull source).tour source asked = w.tour source (asked + 1) := by
  fun_induction pull source w with
  | case1 w next quiet ih => rw [ih, tour_of_quiet quiet]
  | case2 w p answered => exact tour_of_answer answered asked

/-- The results of a walk are those of the tour that it stands for. -/
lemma results_eq (w : Walk) (count : Nat) :
    w.results source count = (w.tour source count).results count := by
  induction count generalizing w with
  | zero => rfl
  | succ count ih =>
    have ended := @pull_ended source w
    rw [results, ← tour_pull, Pull.tour]
    cases e : (w.pull source).result with
    | error cause =>
      rw [results_of_done (ended (by simp [e])).1]
      simp [Tour.results, Ending.complaint]
    | ok span =>
      cases span with
      | none =>
        rw [results_of_done (ended (by simp [e])).1]
        simp [Tour.results, Ending.complaint]
      | some span =>
        rw [ih]
        simp [Tour.results]

/-- A walk at the start of a layout stands for the route of the layout. -/
lemma tour_ofLayout (nodes : Layout) (offset : Nat) (scope : Scope) (asked : Nat) :
    (ofLayout nodes offset scope).tour source asked = nodes.route source "" asked scope offset := by
  rw [tour, ofLayout, stackRoute, stackRoute, Route.andThen_stay, Frame.route, Route.rescope]
  obtain ⟨spans, ending⟩ := nodes.route source "" asked scope offset
  cases ending <;> rfl

/-- For a finished format the walk that rests after every span gives the results of the plain recursion over
the layout, however many are asked for. -/
theorem results_eq_route {format : Format} (finished : format.check = .ok ()) (source : Source)
    (offset : Nat) (scope : Scope) :
    ∃ w, Walk.start format offset scope = .ok w ∧
      ∀ count, w.results source count = (format.nodes.route source "" count scope offset).results count := by
  refine ⟨ofLayout format.nodes offset scope, ?_, fun count => ?_⟩
  · rw [start, finished]
    rfl
  · rw [results_eq, tour_ofLayout]

/-- Two entries and the failed read behind them, as the plain recursion tells them. -/
theorem results_eq_route_entries :
    Format.entries.check = .ok () ∧ ∃ w, Walk.start .entries 0 .empty = .ok w ∧
      w.results (.ofBytes #[1, 7, 2, 8, 9]) 6 =
        [.ok (some ⟨"Entry > Length", .red, 0, 0⟩), .ok (some ⟨"Entry > Data", .green, 1, 1⟩),
          .ok (some ⟨"Entry > Length", .red, 2, 2⟩), .ok (some ⟨"Entry > Data", .green, 3, 4⟩),
          .error (.io (.outOfRange 1 5)), .ok none] := by
  have finished : Format.entries.check = .ok () := rfl
  obtain ⟨w, started, same⟩ := results_eq_route finished (.ofBytes #[1, 7, 2, 8, 9]) 0 .empty
  refine ⟨finished, w, started, (same 6).trans ?_⟩
  cbv

end Walk
end ByteAtlas
