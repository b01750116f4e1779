import ByteAtlas.Proofs.Description.Joining
import ByteAtlas.Proofs.Registry.Registering

/-!
# Loading descriptions

A description is loaded as a whole or not at all (`load_whole_or_nothing`): once its formats are resolved and none
of their names is taken, the registry admits them all, so that no format is refused when others before it have been
registered. From what a successful load does (`loadInPlace_eq_ok_iff`) it follows that two descriptions can as well
be loaded as one (`load_join`): what the second takes from the registry it then takes from the first.
-/

namespace ByteAtlas.Registry

open Description

/-- What a text says to a registry: its definitions, and the formats that they stand for. -/
structure Describes (r : Registry) (text : String) (definitions : List Definition) (formats : List NamedFormat) :
    Prop where
  parsed : parse text = .ok definitions
  resolved : resolve r.get? definitions = .ok formats

/-- Why a description is not loaded. -/
inductive Refuses (r : Registry) (text : String) : Error → Prop
  | unparsable {cause} : parse text = .error cause → Refuses r text (.unparsable cause)
  | unresolvable {definitions cause} : parse text = .ok definitions →
    resolve r.get? definitions = .error cause → Refuses r text (.unresolvable cause)
  | clash {definitions formats entry} : r.Describes text definitions formats →
    formats.find? (r.contains ·.name) = some entry → Refuses r text (.duplicateFormat entry.name)

variable {r middle last left : Registry} {text front back : String} {names more : List String}
  {definitions later : List Definition} {formats others : List NamedFormat} {cause : Error}

namespace Describes

lemma resolves (describes : r.Describes text definitions formats) : Resolves r.get? [] definitions formats :=
  resolveAfter_eq_ok_iff.1 describes.resolved

/-- The formats of a description can be added to the registry that they were resolved with, if it has none of their
names. -/
lemma admits (describes : r.Describes text definitions formats) (reachable : r.Reachable)
    (new : ∀ entry ∈ formats, r.contains entry.name = false) : r.Admits formats where
  finished := describes.resolves.finished (fun _ _ => reachable.get?_finished) nofun
  new := new
  distinct := describes.resolves.distinct List.nodup_nil

end Describes

lemma loadInPlace_of_clash {entry : NamedFormat} (describes : r.Describes text definitions formats)
    (taken : formats.find? (r.contains ·.name) = some entry) :
    r.loadInPlace text = (.error (.duplicateFormat entry.name), r) := by
  simp only [loadInPlace, describes.parsed, addDefinitions, describes.resolved, taken]

/-- Once all names are known to be free, the formats are registered. -/
lemma loadInPlace_of_new (describes : r.Describes text definitions formats)
    (new : ∀ entry ∈ formats, r.contains entry.name = false) : r.loadInPlace text = r.registerEach formats := by
  have free : formats.find? (r.contains ·.name) = none :=
    List.find?_eq_none.2 fun entry among => Bool.eq_false_iff.1 (new entry among)
  simp only [loadInPlace, describes.parsed, addDefinitions, describes.resolved, free]

/-- Before any format is registered, a description is refused, or else all names are free. -/
lemma refuses_or_describes (r : Registry) (text : String) :
    (∃ cause, r.Refuses text cause ∧ r.loadInPlace text = (.error cause, r)) ∨
      ∃ definitions formats, r.Describes text definitions formats ∧
        ∀ entry ∈ formats, r.contains entry.name = false := by
  cases parsed : parse text with
  | error cause => exact .inl ⟨_, .unparsable parsed, by rw [loadInPlace, parsed]⟩
  | ok definitions =>
    cases resolved : resolve r.get? definitions with
    | error cause =>
      exact .inl ⟨_, .unresolvable parsed resolved, by simp only [loadInPlace, parsed, addDefinitions, resolved]⟩
    | ok formats =>
      have describes : r.Describes text definitions formats := ⟨parsed, resolved⟩
      cases taken : formats.find? (r.contains ·.name) with
      | some clash => exact .inl ⟨_, .clash describes taken, loadInPlace_of_clash describes taken⟩
      | none =>
        exact .inr ⟨definitions, formats, describes, fun entry among =>
          Bool.eq_false_iff.2 (List.find?_eq_none.1 taken entry among)⟩

/-- Where a description is loaded, its formats are entered in order. -/
lemma loadInPlace_eq_ok_iff :
    r.loadInPlace text = (.ok names, left) ↔ ∃ definitions formats, r.Describes text definitions formats ∧
      r.Admits formats ∧ names = formats.map (·.name) ∧ left = r.enterEach formats := by
  constructor
  · intro loaded
    rcases refuses_or_describes r text with ⟨cause, _, failed⟩ | ⟨definitions, formats, describes, new⟩
    · cases failed.symm.trans loaded
    · rw [loadInPlace_of_new describes new] at loaded
      exact ⟨definitions, formats, describes, registerEach_eq_ok_iff.1 loaded⟩
  · rintro ⟨definitions, formats, describes, admits, named, rfl⟩
    rw [loadInPlace_of_new describes admits.new]
    exact registerEach_eq_ok_iff.2 ⟨admits, named, rfl⟩

/-- A description that is not loaded changes nothing, whatever is wrong with it; one that is loaded adds just the
formats of its definitions, in their order. Once all names are known to be free, no format is refused. -/
theorem load_whole_or_nothing (reachable : r.Reachable) (text : String) :
    (∀ cause left, r.loadInPlace text = (.error cause, left) → r.Refuses text cause ∧ left = r) ∧
    (∀ names left, r.loadInPlace text = (.ok names, left) → ∃ definitions formats,
      r.Describes text definitions formats ∧ left = r.enterEach formats ∧ r.Adds formats left ∧
      names = definitions.map (·.name) ∧ left.names = r.names ++ names) ∧
    ∀ definitions formats, r.Describes text definitions formats → (∀ entry ∈ formats, r.contains entry.name = false) →
      ∀ earlier entry later, formats = earlier ++ entry :: later →
        (r.registerEach earlier).2.register entry = .ok ((r.enterEach earlier).enter entry) := by
  refine ⟨fun cause left failed => ?_, fun names left loaded => ?_, ?_⟩
  · rcases refuses_or_describes r text with ⟨cause', refuses, failed'⟩ | ⟨definitions, formats, describes, new⟩
    · cases failed'.symm.trans failed
      exact ⟨refuses, rfl⟩
    · -- Nothing can go wrong any more, so this is no failure.
      have admits := describes.admits reachable new
      have loaded := loadInPlace_eq_ok_iff.2 ⟨definitions, formats, describes, admits, rfl, rfl⟩
      cases loaded.symm.trans failed
  · obtain ⟨definitions, formats, describes, admits, rfl, rfl⟩ := loadInPlace_eq_ok_iff.1 loaded
    exact ⟨definitions, formats, describes, rfl, adds_enterEach admits.distinct, describes.resolves.names,
      names_enterEach⟩
  · rintro definitions formats describes free earlier entry later rfl
    have admits := describes.admits reachable free
    obtain ⟨admits_earlier, admits_later⟩ := admits_append.1 admits
    obtain ⟨⟨new, finished⟩, _⟩ := admits_cons.1 admits_later
    rw [registerEach_eq_ok_iff.2 ⟨admits_earlier, rfl, rfl⟩]
    exact register_eq_ok_iff.2 ⟨new, finished, rfl⟩

/-- The name of a format that was registered before, on the second of two definitions: the first is not added
either. Without it, the first is. -/
theorem load_whole_or_nothing_pages :
    let r := (Registry.empty.loadInPlace "format Page\x7bu8\"Kind\";\x7d").2
    let book := "format Book\x7barray 2 Page;\x7d"
    r.Reachable ∧ r.loadInPlace (book ++ "format Page\x7b\x7d") = (.error (.duplicateFormat "Page"), r) ∧
      ∃ left, r.loadInPlace book = (.ok ["Book"], left) ∧ left.names = ["none", "Page", "Book"] := by
  intro r book
  have reachable : r.Reachable := .load .empty
  obtain ⟨unchanged, _, _⟩ := load_whole_or_nothing reachable (book ++ "format Page\x7b\x7d")
  obtain ⟨_, extended, _⟩ := load_whole_or_nothing reachable book
  have clash : (r.loadInPlace (book ++ "format Page\x7b\x7d")).1 = .error (.duplicateFormat "Page") := by
    unfold r
    cbv
  have loaded : (r.loadInPlace book).1 = .ok ["Book"] := by
    unfold r
    cbv
  have known : r.names = ["none", "Page"] := by
    unfold r
    cbv
  obtain ⟨_, same⟩ := unchanged _ _ (Prod.ext clash rfl)
  obtain ⟨_, _, _, _, _, _, named⟩ := extended _ _ (Prod.ext loaded rfl)
  rw [known] at named
  exact ⟨reachable, Prod.ext clash same, _, Prod.ext loaded rfl, named⟩

/-- What is described after formats have been added is described together with them. -/
lemma Describes.join (first : r.Describes front definitions formats) (admits : r.Admits formats)
    (second : (r.enterEach formats).Describes back later others)
    (admits_others : (r.enterEach formats).Admits others) :
    r.Describes (front ++ "\n" ++ back) (definitions ++ later) (formats ++ others) where
  parsed := parse_join first.parsed second.parsed
  resolved := by
    have apart : ∀ entry ∈ [] ++ others, NamedFormat.find? formats entry.name = none := by
      intro entry among
      refine NamedFormat.find?_eq_none.2 fun before among_front same => ?_
      obtain ⟨_, other⟩ := contains_enterEach.1 (admits_others.new entry among)
      exact other (List.mem_map.2 ⟨before, among_front, same⟩)
    have in_front := second.resolves.in_front (get?_enterEach admits.distinct) apart
    rw [List.append_nil] at in_front
    exact resolveAfter_eq_ok_iff.2 (first.resolves.append in_front)

/-- Two descriptions that can be loaded one after the other can be loaded as one, with a line feed in between. -/
theorem load_join (first : r.loadInPlace front = (.ok names, middle))
    (second : middle.loadInPlace back = (.ok more, last)) :
    r.loadInPlace (front ++ "\n" ++ back) = (.ok (names ++ more), last) := by
  obtain ⟨definitions, formats, describes, admits, rfl, rfl⟩ := loadInPlace_eq_ok_iff.1 first
  obtain ⟨later, others, describes_others, admits_others, rfl, rfl⟩ := loadInPlace_eq_ok_iff.1 second
  have describes_both := describes.join admits describes_others admits_others
  have admits_both := admits_append.2 ⟨admits, admits_others⟩
  exact loadInPlace_eq_ok_iff.2 ⟨_, _, describes_both, admits_both, List.map_append.symm, enterEach_append.symm⟩

/-- The first text ends within a comment, the second embeds a format of the first. -/
theorem load_join_file :
    let front := "format Entry\x7bu8\"Kind\";\x7d// of one byte"
    let back := "format File\x7bsequence Entry;\x7d"
    ∃ middle last, empty.loadInPlace front = (.ok ["Entry"], middle) ∧
      middle.loadInPlace back = (.ok ["File"], last) ∧
      empty.loadInPlace (front ++ "\n" ++ back) = (.ok ["Entry", "File"], last) := by
  intro front back
  have first : empty.loadInPlace front = (.ok ["Entry"], (empty.loadInPlace front).2) := Prod.ext (by cbv) rfl
  have second : (empty.loadInPlace front).2.loadInPlace back =
      (.ok ["File"], ((empty.loadInPlace front).2.loadInPlace back).2) := Prod.ext (by cbv) rfl
  exact ⟨_, _, first, second, load_join first second⟩

end ByteAtlas.Registry
