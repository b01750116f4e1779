import ByteAtlas.Proofs.Cache.Sessions
import ByteAtlas.Proofs.Format.Building
import ByteAtlas.Proofs.Registry.Registering
import ByteAtlas.Proofs.Walk.Run

/-!
# Finished formats

A format embeds others, which embed others in turn (`Embeds`), and any of them may have been left open. A group that
is open anywhere is found before anything is done with the format: what a check reports is the first format that was
left open, outer ones before those inside (`Format.unclosed?_eq`), and nothing but the check decides whether a walk, a
cache or an entry in a registry can be made. Afterwards no pull fails for the structure of the format
(`Walk.pull_not_structural`), and so no request in a session does (`Cache.session_not_structural`).
-/

namespace ByteAtlas

/-- The format that a call embeds. -/
def BuildCall.embedded? : BuildCall → Option Format
  | child _ inner | array _ _ inner | sequence _ inner => some inner
  | _ => none

/-- The formats that calls embed at any depth, in order, each before those embedded in it. Every one of them was built
by calls of its own, in groups or not, and may have been left open. -/
inductive Embeds : List BuildCall → List Format → Prop
  | nil : Embeds [] []
  | embed {call inner inside embedded later others} : call.embedded? = some inner → Format.build inside = .ok inner →
    Embeds inside embedded → Embeds later others → Embeds (call :: later) (inner :: embedded ++ others)
  | other {call later others} : call.embedded? = none → Embeds later others → Embeds (call :: later) others

/-- The innermost open group of the first format that has one. -/
def FirstOpen (formats : List Format) (group : OpenGroup) : Prop :=
  ∃ closed f later outer, formats = closed ++ f :: later ∧ (∀ earlier ∈ closed, earlier.pending = []) ∧
    f.pending = group :: outer

/-- The group that a part of a bracketed list leaves open, if an unfinished format is embedded there. -/
def Part.unclosed? : Part → Option String
  | embed _ _ inner unclosed => unclosed.or inner.unclosed?
  | _ => none

lemma findSome?_cons_or {α β : Type} (f : α → Option β) (first : α) (later : List α) :
    (first :: later).findSome? f = (f first).or (later.findSome? f) := by
  rw [List.findSome?_cons]
  cases f first <;> rfl

lemma Layout.unclosed?_eq_parts (nodes : Layout) : nodes.unclosed? = nodes.parts.findSome? Part.unclosed? := by
  induction nodes with
  | nil => rfl
  | scalar field rest ih | bytes field rest ih =>
    rw [parts, findSome?_cons_or, ← ih]
    rfl
  | group name inner rest ih_inner ih_rest =>
    rw [parts, findSome?_cons_or, List.findSome?_append, findSome?_cons_or, ← ih_inner, ← ih_rest]
    rfl
  | embed name times inner unclosed rest _ ih =>
    rw [parts, findSome?_cons_or, ← ih]
    rfl

lemma BuildCall.unclosed?_part (call : BuildCall) : call.part.unclosed? = call.embedded?.bind Format.unclosed? := by
  cases call <;> rfl

namespace Format

variable {f : Format} {calls : List BuildCall} {embedded : List Format} {cause : Error}

/-- A format is unfinished if it is left open, or if a format is that one of its calls embeds. -/
lemma unclosed?_of_build (built : build calls = .ok f) :
    f.unclosed? = f.openGroup?.or (calls.findSome? fun call => call.embedded?.bind unclosed?) := by
  rw [unclosed?]
  obtain ⟨nodes, pending⟩ := f
  cases pending with
  | cons group outer => rfl
  | nil =>
    -- Without an open group the bracketed list of the nodes is that of all calls.
    have written := build_eq_ok_iff.1 built
    simp only [parts, List.reverse_nil, List.flatMap_nil, List.append_nil] at written
    rw [Layout.unclosed?_eq_parts, written, List.findSome?_map]
    simp only [Function.comp_def, BuildCall.unclosed?_part]

/-- What keeps the formats that calls embed from being finished is the first of them all that was left open. -/
lemma findSome?_unclosed? (embeds : Embeds calls embedded) :
    (calls.findSome? fun call => call.embedded?.bind unclosed?) = embedded.findSome? openGroup? := by
  induction embeds with
  | nil => rfl
  | embed embeds built _ _ ih_inside ih_later =>
    rw [findSome?_cons_or, embeds, ih_later, List.cons_append, findSome?_cons_or, List.findSome?_append,
      ← Option.or_assoc, ← ih_inside, ← unclosed?_of_build built]
    rfl
  | other no_child _ ih =>
    rw [findSome?_cons_or, no_child, ih]
    rfl

/-- A format is finished unless it or a format embedded anywhere in it was left open. -/
lemma unclosed?_eq (built : build calls = .ok f) (embeds : Embeds calls embedded) :
    f.unclosed? = (f :: embedded).findSome? openGroup? := by
  rw [unclosed?_of_build built, findSome?_unclosed? embeds, findSome?_cons_or]

lemma openGroup?_eq_none_iff : f.openGroup? = none ↔ f.pending = [] := by
  rw [openGroup?]
  cases f.pending <;> simp

lemma openGroup?_eq_some_iff {name : String} :
    f.openGroup? = some name ↔ ∃ group outer, f.pending = group :: outer ∧ group.name = name := by
  rw [openGroup?]
  cases f.pending <;> simp

lemma findSome?_openGroup?_iff {formats : List Format} {name : String} :
    formats.findSome? openGroup? = some name ↔ ∃ group, FirstOpen formats group ∧ group.name = name := by
  simp only [List.findSome?_eq_some_iff, openGroup?_eq_some_iff, openGroup?_eq_none_iff, FirstOpen]
  constructor
  · rintro ⟨closed, f, later, same, ⟨group, outer, opened, named⟩, finished⟩
    exact ⟨group, ⟨closed, f, later, outer, same, finished, opened⟩, named⟩
  · rintro ⟨group, ⟨closed, f, later, outer, same, finished, opened⟩, named⟩
    exact ⟨closed, f, later, same, ⟨group, outer, opened, named⟩, finished⟩

lemma check_eq_ok_iff : f.check = .ok () ↔ f.unclosed? = none := by
  rw [check]
  cases f.unclosed? <;> simp

lemma check_eq_error_iff :
    f.check = .error cause ↔ ∃ name, f.unclosed? = some name ∧ cause = .structural (.neverClosed name) := by
  rw [check]
  cases f.unclosed? <;> simp [eq_comm]

end Format

/-! What is made of a format is made of a finished one. -/

lemma Walk.start_eq_error_iff {f : Format} {start : Nat} {scope : Scope} {cause : Error} :
    Walk.start f start scope = .error cause ↔ f.check = .error cause := by
  rw [Walk.start]
  cases f.check <;> simp [bind, Except.bind]

lemma Cache.start_eq_error_iff {f : Format} {cause : Error} :
    Cache.start f = .error cause ↔ f.check = .error cause := by
  rw [Cache.start]
  cases f.check <;> simp [bind, Except.bind]

lemma Registry.register_eq_error_iff {r : Registry} {entry : NamedFormat} {cause : Error}
    (new : r.contains entry.name = false) :
    r.register entry = .error cause ↔ entry.format.check = .error cause := by
  rw [register, new, if_neg Bool.false_ne_true]
  cases entry.format.check <;> simp [bind, Except.bind]

/-! No request fails for the structure of a format. -/

/-- Whether an answer is an error of structure. -/
def Answer.Structural (answer : Answer) : Prop := ∃ cause, answer = .error (.structural cause)

lemma Answer.not_structural_ok (span : Option Span) : ¬Answer.Structural (.ok span) := by
  rintro ⟨cause, same⟩
  cases same

namespace Walk

variable {source : Source} {w : Walk}

lemma yield_not_structural {request : Option (Nat × Nat)} {name : String} {color : Color} {length : Nat} :
    ¬Answer.Structural (w.yield request name color length).result := by
  rintro ⟨cause, failed⟩
  rw [yield] at failed
  split at failed <;> cases failed

lemma readScalar_not_structural {path : String} {field : ScalarField} :
    ¬Answer.Structural (readScalar source w path field).result := by
  rintro ⟨cause, failed⟩
  revert failed
  fun_cases readScalar <;> intro failed
  · cases failed
  · exact yield_not_structural ⟨cause, failed⟩
  · cases failed

lemma pull_not_structural : ¬Answer.Structural (w.pull source).result := by
  fun_induction pull source w with
  | case1 w next quiet ih => exact ih
  | case2 w p answered =>
    obtain ⟨-, rfl⟩ | ⟨field, rest, path, framed, outer, -, rfl⟩ |
      ⟨field, rest, path, framed, outer, -, -, rfl⟩ := step_answer answered
    · exact Answer.not_structural_ok none
    · exact readScalar_not_structural
    · exact yield_not_structural

end Walk

namespace Cache

variable {source : Source} {c : Cache}

lemma pull_not_structural : ¬Answer.Structural (c.pull source).1 := by
  rw [pull_fst]
  exact Walk.pull_not_structural

lemma next_not_structural : ¬Answer.Structural (c.next source).1 := by
  by_cases seen : c.cursor < c.spans.size
  · rw [next_of_seen seen]
    exact Answer.not_structural_ok _
  · rw [next_of_unseen (Nat.not_lt.1 seen)]
    split
    · exact Answer.not_structural_ok _
    · exact pull_not_structural

lemma seekOn_not_structural (offset : Nat) : ¬Answer.Structural (c.seekOn source offset).1 := by
  induction c using seekOn_induction source offset with
  | step c ih =>
    rw [seekOn_eq]
    split
    · next span yielded =>
      split
      · next short => exact ih span yielded short
      · split <;> exact Answer.not_structural_ok _
    · exact pull_not_structural

lemma call_not_structural (first : Call) : ¬Answer.Structural (c.call source first).1 := by
  cases first with
  | next => exact next_not_structural
  | seekTo offset =>
    show ¬Answer.Structural (c.seekTo source offset).1
    rw [seekTo]
    split
    · exact Answer.not_structural_ok _
    · split
      · exact Answer.not_structural_ok _
      · exact seekOn_not_structural offset

lemma session_not_structural {requests : Session} {answer : Answer} (among : .answer answer ∈ (c.session requests).1) :
    ¬Answer.Structural answer := by
  induction requests generalizing c with
  | nil => cases among
  | cons first later ih =>
    obtain ⟨source, request⟩ := first
    obtain here | there := List.mem_cons.1 among
    · cases request with
      | call call =>
        cases here
        exact call_not_structural call
      | onChange offset length => cases here
      | invalidate => cases here
    · exact ih there

end Cache

/-- A format that was built by calls, as were all formats embedded in it, can be used exactly if no group is open in
any of them. Otherwise the check names the innermost open group of the first that has one, and a walk, a cache and an
entry under a new name are refused with that error, before there is a source to read. None of the requests that are
made afterwards, over whatever sources, gets an error of structure. -/
theorem Format.refused_when_open {f : Format} {calls : List BuildCall} {embedded : List Format}
    (built : build calls = .ok f) (embeds : Embeds calls embedded) :
    (f.check = .ok () ↔ ∀ part ∈ f :: embedded, part.pending = []) ∧
    (∀ cause, f.check = .error cause ↔
      ∃ group, FirstOpen (f :: embedded) group ∧ cause = .structural (.neverClosed group.name)) ∧
    (∀ cause start scope, Walk.start f start scope = .error cause ↔ f.check = .error cause) ∧
    (∀ cause, Cache.start f = .error cause ↔ f.check = .error cause) ∧
    (∀ (r : Registry) name signature cause, r.contains name = false →
      (r.register ⟨name, signature, f⟩ = .error cause ↔ f.check = .error cause)) ∧
    (∀ start scope w, Walk.start f start scope = .ok w →
      ∀ sources number, ¬Answer.Structural (w.answer sources number)) ∧
    (∀ c, Cache.start f = .ok c → c.log.calls = 0 ∧
      ∀ requests answer, .answer answer ∈ (c.session requests).1 → ¬Answer.Structural answer) := by
  refine ⟨?_, fun cause => ?_, fun _ _ _ => Walk.start_eq_error_iff, fun _ => Cache.start_eq_error_iff,
    fun _ _ _ _ new => Registry.register_eq_error_iff new, fun _ _ _ _ _ _ => Walk.pull_not_structural,
    fun c started => ⟨?_, fun _ _ among => Cache.session_not_structural among⟩⟩
  · rw [check_eq_ok_iff, unclosed?_eq built embeds, List.findSome?_eq_none_iff]
    simp only [openGroup?_eq_none_iff]
  · simp only [check_eq_error_iff, unclosed?_eq built embeds, findSome?_openGroup?_iff]
    constructor
    · rintro ⟨_, ⟨group, first, rfl⟩, rfl⟩
      exact ⟨group, first, rfl⟩
    · rintro ⟨group, first, rfl⟩
      exact ⟨_, ⟨group, first, rfl⟩, rfl⟩
  · rw [Cache.start] at started
    cases finished : f.check with
    | error cause =>
      rw [finished] at started
      cases started
    | ok done =>
      rw [finished] at started
      cases started
      rfl

/-- A format with an open group, in a sequence that is embedded twice in a group: nobody takes it. -/
theorem Format.refused_when_open_within :
    let left : Format := ⟨.nil, [⟨"Head", .group "Tail" .nil .nil⟩]⟩
    let around : Format := Format.empty.sequence none left
    let calls : List BuildCall := [.beginGroup "Body", .array (some "Part") (.const 2) around, .endGroup]
    let cause : Error := .structural (.neverClosed "Head")
    ∃ f, build calls = .ok f ∧ Embeds calls [around, left] ∧ f.check = .error cause ∧
      Walk.start f 0 .empty = .error cause ∧ Cache.start f = .error cause ∧
      Registry.empty.register ⟨"new", .none, f⟩ = .error cause := by
  intro left around calls cause
  have built_left : build [.beginGroup "Head", .beginGroup "Tail", .endGroup] = .ok left := rfl
  have built_around : build [.sequence none left] = .ok around := rfl
  have within : Embeds [.sequence none left] [left] :=
    .embed rfl built_left (.other rfl (.other rfl (.other rfl .nil))) .nil
  have behind : Embeds [.array (some "Part") (.const 2) around, .endGroup] (around :: [left] ++ []) :=
    .embed rfl built_around within (.other rfl .nil)
  have embeds : Embeds calls [around, left] := .other rfl behind
  have first : FirstOpen [⟨.group "Body" (.embed (some "Part") (.times (.const 2)) around.nodes none .nil) .nil, []⟩,
      around, left] ⟨"Head", .group "Tail" .nil .nil⟩ :=
    ⟨[_, around], left, [], [], rfl, by simp [around, Format.sequence, embed, place, empty], rfl⟩
  obtain ⟨-, checked, walked, cached, registered, -⟩ := refused_when_open (f := ⟨_, []⟩) rfl embeds
  have refused := (checked cause).2 ⟨_, first, rfl⟩
  exact ⟨_, rfl, embeds, refused, (walked cause 0 .empty).2 refused, (cached cause).2 refused,
    (registered .empty "new" .none cause (by decide)).2 refused⟩

end ByteAtlas
