import ByteAtlas.Proofs.Cache.Calls
import ByteAtlas.Proofs.Registry.Loading

/-!
# Consistent registries

A registry is asked to add formats, one by one or as descriptions, and it does or refuses (`Registry.serve`). Whatever
it was asked, its tables agree (`Consistent`): its names are distinct and are those it has a format for, every such
format is finished, and extensions and magic bytes stand for such names only. So a format can be activated by each of
its names and by no other; and as a guess is a name that stands for magic bytes or an extension, or else that of the
format without fields, what was guessed can always be activated (`served_consistent`).
-/

namespace ByteAtlas.Registry

/-- What a registry can be asked to add: a format, or all formats of a description. -/
inductive Request
  | register (entry : NamedFormat)
  | load (text : String)

/-- Does what is asked for. Gives the names of the formats that were added, and the registry as it is left. -/
def serve (r : Registry) : Request → Except Error (List String) × Registry
  | .register entry => r.registerEach [entry]
  | .load text => r.loadInPlace text

/-- What becomes of a new registry that is asked for one thing after the other. -/
def served (requests : List Request) : Registry := requests.foldl (fun r request => (r.serve request).2) .empty

variable {r extended left : Registry} {name : String} {format : Format} {cause : Error} {source : Source}

lemma served_concat (requests : List Request) (request : Request) :
    served (requests ++ [request]) = ((served requests).serve request).2 := List.foldl_concat ..

lemma registerEach_singleton (r : Registry) (entry : NamedFormat) :
    r.registerEach [entry] =
      match r.register entry with
      | .error cause => (.error cause, r)
      | .ok extended => (.ok [entry.name], extended) := by
  rw [registerEach]
  cases r.register entry with
  | error cause => rfl
  | ok extended => rfl

lemma Reachable.serve (reachable : r.Reachable) (request : Request) : (r.serve request).2.Reachable := by
  cases request with
  | register entry =>
    rw [Registry.serve, registerEach_singleton]
    split
    · exact reachable
    · next registered => exact .register reachable registered
  | load text => exact .load reachable

/-- Reachable are just the registries that come about in this way. -/
lemma reachable_iff : r.Reachable ↔ ∃ requests, served requests = r := by
  constructor
  · intro reachable
    induction reachable with
    | empty => exact ⟨[], rfl⟩
    | @register r extended entry _ registered ih =>
      obtain ⟨requests, rfl⟩ := ih
      refine ⟨requests ++ [.register entry], ?_⟩
      rw [served_concat, serve, registerEach_singleton, registered]
    | @load r text _ ih =>
      obtain ⟨requests, rfl⟩ := ih
      refine ⟨requests ++ [.load text], ?_⟩
      rw [served_concat, serve]
  · rintro ⟨requests, rfl⟩
    induction requests using List.reverseRecOn with
    | nil => exact .empty
    | append_singleton requests request ih =>
      rw [served_concat]
      exact ih.serve request

lemma reachable_served (requests : List Request) : (served requests).Reachable := reachable_iff.2 ⟨requests, rfl⟩

/-- What is refused leaves no trace. -/
lemma serve_refused (reachable : r.Reachable) {request : Request} (refused : r.serve request = (.error cause, left)) :
    left = r := by
  cases request with
  | register entry =>
    rw [serve, registerEach_singleton] at refused
    split at refused
    · cases refused
      rfl
    · cases refused
  | load text =>
    obtain ⟨_, _, failed⟩ | ⟨definitions, formats, describes, new⟩ := refuses_or_describes r text
    · cases failed.symm.trans refused
      rfl
    · have loaded := loadInPlace_eq_ok_iff.2 ⟨_, _, describes, describes.admits reachable new, rfl, rfl⟩
      cases loaded.symm.trans refused

lemma Consistent.get?_isSome_iff (consistent : r.Consistent) : (r.get? name).isSome = true ↔ name ∈ r.names :=
  consistent.listed name

/-- A format is activated from its start. -/
lemma activate_of_get? (reachable : r.Reachable) (found : r.get? name = some format) :
    r.activate name = .ok (.ofFormat format .empty) := by
  rw [activate, found]
  exact Cache.start_of_finished (reachable.get?_finished found)

lemma activate_eq_error_iff (reachable : r.Reachable) :
    r.activate name = .error cause ↔ name ∉ r.names ∧ cause = .unknownFormat name := by
  rw [← reachable.consistent.get?_isSome_iff]
  cases found : r.get? name with
  | none => simp [activate, found, eq_comm]
  | some format => simp [activate_of_get? reachable found]

/-- Only names of formats are guessed, whatever the source answers. -/
lemma Consistent.guess_mem_names (consistent : r.Consistent) (source : Source) : r.guess source ∈ r.names := by
  rw [guess]
  cases by_magic : r.guessByMagic? source with
  | some name =>
    obtain ⟨head, _, found⟩ := Option.bind_eq_some_iff.1 by_magic
    obtain ⟨⟨magic, _⟩, first, same⟩ := Option.bind_eq_some_iff.1 found
    cases same
    exact consistent.magics.subset (List.mem_map_of_mem (List.mem_of_find?_eq_some first))
  | none =>
    cases by_extension : r.guessByExtension? source with
    | some name =>
      obtain ⟨extension, _, found⟩ := Option.bind_eq_some_iff.1 by_extension
      exact consistent.extensions extension name found
    | none => exact List.mem_of_head? consistent.begins

/-- Whatever a registry was asked for, its tables agree: its names begin with that of the format without fields, are
distinct, and are those it has a format for; all its formats are finished; a request that is refused changes nothing;
whatever it guesses can be activated, and it fails to activate just the names it does not have, as unknown formats. -/
theorem served_consistent (requests : List Request) :
    let r := served requests
    r.Consistent ∧
    (r.names.head? = some noneName ∧ r.names.Nodup ∧ ∀ name, (r.get? name).isSome = true ↔ name ∈ r.names) ∧
    r.get? noneName = some .empty ∧
    (∀ name format, r.get? name = some format → format.check = .ok ()) ∧
    (∀ request cause left, r.serve request = (.error cause, left) → left = r) ∧
    (∀ source, r.guess source ∈ r.names ∧ ∃ cache, r.activate (r.guess source) = .ok cache) ∧
    ∀ name cause, r.activate name = .error cause ↔ name ∉ r.names ∧ cause = .unknownFormat name := by
  intro r
  have reachable : r.Reachable := reachable_served requests
  have consistent : r.Consistent := reachable.consistent
  refine ⟨consistent, ⟨consistent.begins, consistent.distinct, fun name => consistent.get?_isSome_iff⟩,
    consistent.fieldless, ?_, ?_, ?_, ?_⟩
  · intro name format found
    exact consistent.finished name format found
  · intro request cause left refused
    exact serve_refused reachable refused
  · intro source
    have among := consistent.guess_mem_names source
    obtain ⟨format, found⟩ := Option.isSome_iff_exists.1 (consistent.get?_isSome_iff.2 among)
    exact ⟨among, _, activate_of_get? reachable found⟩
  · intro name cause
    exact activate_eq_error_iff reachable

/-- A description is loaded; a format with a name that is taken is refused, and so is one that was never closed. -/
theorem served_consistent_pages :
    let r := served [.load "format Page\x7bu8\"Kind\";\x7d", .register ⟨"Page", .none, .empty⟩]
    let open_group : Request := .register ⟨"Book", .none, Format.empty.beginGroup "Front"⟩
    r.names = ["none", "Page"] ∧ r.names.Nodup ∧
      (∃ left, r.serve open_group = (.error (.structural (.neverClosed "Front")), left) ∧ left = r) ∧
      (∃ format, r.get? "Page" = some format ∧ format.check = .ok ()) ∧
      r.activate "Book" = .error (.unknownFormat "Book") := by
  intro r open_group
  obtain ⟨_, ⟨_, distinct, answered⟩, _, finished, refused, _, activated⟩ :=
    served_consistent [.load "format Page\x7bu8\"Kind\";\x7d", .register ⟨"Page", .none, .empty⟩]
  have names : r.names = ["none", "Page"] := by
    unfold r
    cbv
  have fails : (r.serve open_group).1 = .error (.structural (.neverClosed "Front")) := by
    unfold r open_group
    cbv
  obtain ⟨format, found⟩ := Option.isSome_iff_exists.1 ((answered "Page").2 (by rw [names]; decide))
  refine ⟨names, distinct, ⟨_, Prod.ext fails rfl, refused _ _ _ (Prod.ext fails rfl)⟩, ?_, ?_⟩
  · exact ⟨format, found, finished _ _ found⟩
  · exact (activated "Book" _).2 ⟨by rw [names]; decide, rfl⟩

end ByteAtlas.Registry
