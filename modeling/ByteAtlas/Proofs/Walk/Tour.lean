import ByteAtlas.Proofs.Walk.Pull

/-!
# Tours

A layout read by plain recursion, beside the walk that rests after every span. What a layout gives from a
scope and an offset on is a route; it is told how many results are asked for, so that it is a total function
even where a repetition has no limit. Routes follow each other, run in a frame of their own and repeat, and
`Layout.route` puts the route of a layout together from those of its nodes.

The scope after a group or a repetition is the one before it. A route that got through has bound nothing
outside its innermost frame and has moved past the bytes of its spans (`Layout.route_passes`).
-/

namespace ByteAtlas

/-- How a tour stands after its last span. -/
inductive Ending
  /-- Nothing more was asked for. -/
  | paused
  /-- All is toured; the scope and the offset after it. -/
  | through (scope : Scope) (offset : Nat)
  | failed (cause : Error)

/-- The error of a failed tour. -/
def Ending.complaint : Ending → List Answer
  | failed cause => [.error cause]
  | _ => []

/-- Some spans and how it stands after them. -/
structure Tour where
  spans : List Span
  ending : Ending

/-- A tour for every number of results asked for, every scope and every offset. -/
abbrev Route := (asked : Nat) → (scope : Scope) → (offset : Nat) → Tour

/-- How many bytes spans cover. -/
def covered (spans : List Span) : Nat := (spans.map Span.size).sum

namespace Tour

/-- The first results: the spans, the error if there is one, and from then on the end. -/
def results (t : Tour) (count : Nat) : List Answer :=
  (t.spans.map (fun span => (.ok (some span) : Answer)) ++ t.ending.complaint).takeD count (.ok none)

/-- Goes on where a tour got through, for the results that are still asked for. -/
def followedBy (t : Tour) (asked : Nat) (next : Route) : Tour :=
  match t.ending with
  | .through scope offset =>
    let more := next (asked - t.spans.length) scope offset
    ⟨t.spans ++ more.spans, more.ending⟩
  | _ => t

/-- Changes the scope where a tour got through. -/
def rescope (t : Tour) (change : Scope → Scope) : Tour :=
  match t.ending with
  | .through scope offset => { t with ending := .through (change scope) offset }
  | _ => t

end Tour

namespace Route

/-- No spans and no bindings. -/
def stay : Route := fun _ scope offset => ⟨[], .through scope offset⟩

/-- One route and then another. -/
def andThen (first second : Route) : Route := fun asked scope offset =>
  (first asked scope offset).followedBy asked second

/-- Changes the scope where a route got through. -/
def rescope (r : Route) (change : Scope → Scope) : Route := fun asked scope offset =>
  (r asked scope offset).rescope change

/-- A route in a fresh frame of the scope. Afterwards the scope is the one before it. -/
def framed (body : Route) : Route := fun asked scope offset =>
  (body asked scope.push offset).rescope fun _ => scope

/-- One span of some bytes. -/
def span (name : String) (color : Color) (length : Nat) : Route := fun asked scope offset =>
  if asked = 0 then ⟨[], .paused⟩
  else if offset + length ≤ maxOffset then
    ⟨[⟨name, color, offset, offset + length - 1⟩], .through scope (offset + length)⟩
  else ⟨[], .failed (.offsetOverflow offset length)⟩

/-- A scalar field: its bytes are read, its value is bound, and it has one span. -/
def scalar (source : Source) (path : String) (field : ScalarField) : Route := fun asked scope offset =>
  if asked = 0 then ⟨[], .paused⟩
  else
    match source.read offset field.type.width with
    | .error cause => ⟨[], .failed (.io cause)⟩
    | .ok bytes =>
      if bytes.length = field.type.width then
        let bound := field.bind.elim scope fun name => scope.set name (field.type.decode bytes)
        span (joinPath path field.name) field.color field.type.width asked bound offset
      else ⟨[], .failed (.io (.shortAnswer bytes.length field.type.width offset))⟩

/-- A field of uninterpreted bytes: one span, or nothing if there are no bytes. -/
def bytes (path : String) (field : BytesField) : Route := fun asked scope offset =>
  if field.count.resolve scope = 0 then stay asked scope offset
  else span (joinPath path field.name) field.color (field.count.resolve scope) asked scope offset

/-- A route over and over again, up to a limit if there is one. A repetition that covered no bytes is the
last. -/
def repeated (body : Route) (limit : Option Nat) (asked : Nat) (scope : Scope) (offset : Nat) : Tour :=
  if limit = some 0 then stay asked scope offset
  else if asked = 0 then ⟨[], .paused⟩
  else
    let once := body asked scope offset
    if covered once.spans = 0 then once
    else once.followedBy asked fun _ scope offset =>
      body.repeated (limit.map (· - 1)) (asked - once.spans.length) scope offset
termination_by asked
decreasing_by
  have some_spans : once.spans ≠ [] := fun none => by simp_all [covered]
  exact Nat.sub_lt (Nat.pos_of_ne_zero ‹_›) (List.length_pos_iff.2 some_spans)

end Route

/-- The route of a layout below a path: the routes of its nodes one after the other. A group and every
repetition of an embedded format have a frame to themselves, and the number of repetitions is settled before
the first. -/
def Layout.route (source : Source) : Layout → String → Route
  | nil, _ => .stay
  | scalar field rest, path => (Route.scalar source path field).andThen (rest.route source path)
  | bytes field rest, path => (Route.bytes path field).andThen (rest.route source path)
  | group name inner rest, path =>
    (inner.route source (joinPath path name)).framed.andThen (rest.route source path)
  | embed name times inner _ rest, path =>
    Route.andThen (fun asked scope offset =>
      (inner.route source (Walk.embedPath path name)).framed.repeated (times.resolve scope) asked scope offset)
      (rest.route source path)

@[simp] lemma covered_nil : covered [] = 0 := rfl

@[simp] lemma covered_cons (span : Span) (spans : List Span) :
    covered (span :: spans) = span.size + covered spans := by
  simp [covered]

@[simp] lemma covered_append (spans more : List Span) :
    covered (spans ++ more) = covered spans + covered more := by
  simp [covered]

/-- Three parts of a tour can be put together in either order. -/
lemma Tour.followedBy_assoc (t : Tour) (asked : Nat) (second third : Route) :
    (t.followedBy asked second).followedBy asked third = t.followedBy asked (second.andThen third) := by
  obtain ⟨spans, ending⟩ := t
  cases ending with
  | paused => rfl
  | failed cause => rfl
  | through scope offset =>
    simp only [followedBy, Route.andThen]
    obtain ⟨spans', ending'⟩ := second (asked - spans.length) scope offset
    cases ending' with
    | paused => rfl
    | failed cause => rfl
    | through scope' offset' => simp [Nat.sub_sub]

/-- Changing the scope leaves the spans. -/
@[simp] lemma Tour.rescope_spans (t : Tour) (change : Scope → Scope) :
    (t.rescope change).spans = t.spans := by
  rw [rescope]
  split <;> rfl

/-- The scope of what follows is changed at the end of it. -/
lemma Tour.rescope_followedBy (t : Tour) (asked : Nat) (next : Route) (change : Scope → Scope) :
    (t.followedBy asked next).rescope change = t.followedBy asked (next.rescope change) := by
  obtain ⟨spans, ending⟩ := t
  cases ending with
  | paused => rfl
  | failed cause => rfl
  | through scope offset =>
    simp only [followedBy, Route.rescope]
    obtain ⟨spans', ending'⟩ := next (asked - spans.length) scope offset
    cases ending' <;> rfl

/-- Two changes of the scope that agree where a tour got through are alike for it. -/
lemma Tour.rescope_congr {t : Tour} {change other : Scope → Scope}
    (same : ∀ scope offset, t.ending = .through scope offset → change scope = other scope) :
    t.rescope change = t.rescope other := by
  obtain ⟨spans, ending⟩ := t
  cases ending with
  | paused => rfl
  | failed cause => rfl
  | through scope offset => simp only [rescope, same scope offset rfl]

/-- Two routes that agree where a tour got through are alike after it. -/
lemma Tour.followedBy_congr {t : Tour} {asked : Nat} {next other : Route}
    (same : ∀ scope offset, t.ending = .through scope offset →
      next (asked - t.spans.length) scope offset = other (asked - t.spans.length) scope offset) :
    t.followedBy asked next = t.followedBy asked other := by
  obtain ⟨spans, ending⟩ := t
  cases ending with
  | paused => rfl
  | failed cause => rfl
  | through scope offset => simp only [followedBy, same scope offset rfl]

/-- What a tour leaves where it got through: no binding outside the innermost frame, and the offset behind
its spans. -/
def Tour.Passes (t : Tour) (scope : Scope) (offset : Nat) : Prop :=
  ∀ scope' offset', t.ending = .through scope' offset' →
    scope'.outer = scope.outer ∧ offset' = offset + covered t.spans

lemma Tour.Passes.followedBy {t : Tour} {asked : Nat} {scope : Scope} {offset : Nat} {next : Route}
    (h1 : t.Passes scope offset) (h2 : ∀ asked scope offset, (next asked scope offset).Passes scope offset) :
    (t.followedBy asked next).Passes scope offset := by
  intro scope' offset' e
  obtain ⟨spans, ending⟩ := t
  cases ending with
  | paused => cases e
  | failed cause => cases e
  | through scope1 offset1 =>
    obtain ⟨outer1, same1⟩ := h1 _ _ rfl
    obtain ⟨outer2, same2⟩ := h2 _ _ _ _ _ e
    refine ⟨outer2.trans outer1, ?_⟩
    rw [same2, same1]
    simp [Tour.followedBy, Nat.add_assoc]

namespace Route

/-- Staying after a route changes nothing. -/
@[simp] lemma andThen_stay (r : Route) : r.andThen stay = r := by
  funext asked scope offset
  rw [andThen]
  obtain ⟨spans, ending⟩ := r asked scope offset
  cases ending <;> simp [Tour.followedBy, stay]

/-- Routes can be put together in either order. -/
lemma andThen_assoc (first second third : Route) :
    (first.andThen second).andThen third = first.andThen (second.andThen third) := by
  funext asked scope offset
  exact Tour.followedBy_assoc _ _ _ _

/-- The scope of what follows is changed at the end of it. -/
lemma rescope_andThen (first second : Route) (change : Scope → Scope) :
    (first.andThen second).rescope change = first.andThen (second.rescope change) := by
  funext asked scope offset
  exact Tour.rescope_followedBy _ _ _ _

/-- What a route leaves where it got through: no binding outside the innermost frame, and the offset behind
its spans. -/
def Passes (r : Route) : Prop := ∀ asked scope offset, (r asked scope offset).Passes scope offset

lemma stay_passes : stay.Passes := by
  intro asked scope offset scope' offset' e
  cases e
  exact ⟨rfl, rfl⟩

lemma Passes.andThen {first second : Route} (h1 : first.Passes) (h2 : second.Passes) :
    (first.andThen second).Passes :=
  fun asked scope offset => (h1 asked scope offset).followedBy h2

lemma Passes.framed {body : Route} (h : body.Passes) : body.framed.Passes := by
  intro asked scope offset scope' offset' e
  have pass := h asked scope.push offset
  simp only [Route.framed, Tour.rescope_spans] at e ⊢
  generalize body asked scope.push offset = t at e pass
  obtain ⟨spans, ending⟩ := t
  cases ending with
  | paused => cases e
  | failed cause => cases e
  | through inside stop =>
    cases e
    exact ⟨rfl, (pass _ _ rfl).2⟩

/-- Dropping the frame that a route ran in is the same as going back to the scope before it. -/
lemma Passes.framed_apply {body : Route} (h : body.Passes) (asked : Nat) (scope : Scope) (offset : Nat) :
    body.framed asked scope offset = (body asked scope.push offset).rescope Scope.pop := by
  apply Tour.rescope_congr
  intro inside stop e
  obtain ⟨outer, -⟩ := h _ _ _ _ _ e
  rw [Scope.pop, outer]
  rfl

lemma span_passes (name : String) (color : Color) {length : Nat} (some_bytes : 0 < length) :
    (span name color length).Passes := by
  intro asked scope offset scope' offset' e
  simp only [span] at e ⊢
  split at e
  · cases e
  next some_asked =>
  split at e
  · next fits =>
    cases e
    refine ⟨rfl, ?_⟩
    have ordered : offset ≤ offset + length - 1 := by omega
    have reach : offset + length - 1 < maxOffset := by omega
    rw [if_neg some_asked, if_pos fits, covered_cons, covered_nil, Span.size_eq ordered reach]
    simp only
    omega
  · cases e

lemma scalar_passes (source : Source) (path : String) (field : ScalarField) :
    (scalar source path field).Passes := by
  intro asked scope offset scope' offset' e
  simp only [scalar] at e ⊢
  split at e
  · cases e
  split at e
  · cases e
  split at e
  · have ⟨outer, same⟩ := span_passes _ _ field.type.width_pos _ _ _ _ _ e
    refine ⟨outer.trans ?_, by simp_all⟩
    cases field.bind <;> rfl
  · cases e

lemma bytes_passes (path : String) (field : BytesField) : (bytes path field).Passes := by
  intro asked scope offset scope' offset' e
  simp only [bytes] at e ⊢
  split at e
  · cases e
    exact ⟨rfl, by simp_all [stay]⟩
  · next some_bytes =>
    rw [if_neg some_bytes]
    exact span_passes _ _ (Nat.pos_of_ne_zero some_bytes) _ _ _ _ _ e

lemma Passes.repeated {body : Route} (h : body.Passes) (limit : Option Nat) :
    Passes (body.repeated limit) := by
  intro asked scope offset
  fun_induction Route.repeated body limit asked scope offset with
  | case1 => exact stay_passes _ _ _
  | case2 => exact fun _ _ => nofun
  | case3 limit asked scope offset => exact h asked scope offset
  | case4 limit asked scope offset _ _ once =>
    rename_i ih
    exact (h asked scope offset).followedBy fun _ => ih

end Route

/-- The route of a layout binds nothing outside the innermost frame and moves past its spans. -/
lemma Layout.route_passes (source : Source) (nodes : Layout) (path : String) :
    (nodes.route source path).Passes := by
  induction nodes generalizing path with
  | nil => exact Route.stay_passes
  | scalar field rest ih => exact (Route.scalar_passes source path field).andThen (ih path)
  | bytes field rest ih => exact (Route.bytes_passes path field).andThen (ih path)
  | group name inner rest ih_inner ih => exact (ih_inner _).framed.andThen (ih path)
  | embed name times inner unclosed rest ih_inner ih =>
    refine Route.Passes.andThen (fun asked scope offset => ?_) (ih path)
    exact (ih_inner _).framed.repeated _ asked scope offset
end ByteAtlas
