import ByteAtlas.Registry
import ByteAtlas.Proofs.Description.Resolving

/-!
# Registering formats

A registry changes in one way only: a finished format with a new name is entered into its tables
(`register_eq_ok_iff`). The tables are changed one by one, but agree afterwards if they agreed before
(`Consistent.enter`). So they do in every registry that comes about by registering and loading, whether or not some of
it fails (`Reachable.consistent`). Formats that are registered one after the other are all entered where the registry
admits them (`registerEach_eq_ok_iff`), and are then admitted in any two parts (`admits_append`).
-/

namespace ByteAtlas

/-- The magic bytes of a format, if there are any, with its name. -/
def NamedFormat.magicEntry? (entry : NamedFormat) : Option (List UInt8 × String) :=
  entry.signature.someMagic?.map (·, entry.name)

/-- The name of the last of some formats that has an extension. -/
def NamedFormat.lastWith? (entries : List NamedFormat) (extension : String) : Option String :=
  (entries.reverse.find? (·.signature.extension == some extension)).map (·.name)

lemma Signature.someMagic?_eq_some_iff {signature : Signature} {magic : List UInt8} :
    signature.someMagic? = some magic ↔ signature.magic = some magic ∧ magic ≠ [] := by
  simp [someMagic?]

namespace Registry

variable {r extended left : Registry} {entry : NamedFormat} {entries front back : List NamedFormat}
  {name extension : String} {names : List String} {format : Format}

lemma contains_eq_false_iff : r.contains name = false ↔ r.get? name = none := by
  rw [contains, Option.isSome_eq_false_iff, Option.isNone_iff_eq_none]

/-! What entering a format changes in each table. -/

lemma get?_enter : (r.enter entry).get? name = if name = entry.name then some entry.format else r.get? name := by
  rw [enter]
  cases entry.signature.extension <;> cases entry.signature.someMagic? <;> exact Table.get?_insert ..

lemma names_enter : (r.enter entry).names = r.names ++ [entry.name] := by
  rw [enter]
  cases entry.signature.extension <;> cases entry.signature.someMagic? <;> rfl

lemma byExtension_enter :
    (r.enter entry).byExtension.get? extension =
      if entry.signature.extension = some extension then some entry.name else r.byExtension.get? extension := by
  rw [enter]
  cases known : entry.signature.extension with
  | none => cases entry.signature.someMagic? <;> rfl
  | some other =>
    simp only [Option.some.injEq, @eq_comm _ other]
    cases entry.signature.someMagic? <;> exact Table.get?_insert ..

lemma byMagic_enter : (r.enter entry).byMagic = r.byMagic ++ entry.magicEntry?.toList := by
  rw [enter, NamedFormat.magicEntry?]
  cases entry.signature.extension <;> cases entry.signature.someMagic? <;> simp [noteExtension, noteMagic, noteFormat]

lemma longestMagic_enter :
    (r.enter entry).longestMagic = max r.longestMagic (entry.magicEntry?.elim 0 (·.1.length)) := by
  rw [enter, NamedFormat.magicEntry?]
  cases entry.signature.extension <;> cases entry.signature.someMagic? <;> simp [noteExtension, noteMagic, noteFormat]

/-! The tables agree. -/

/-- How the tables of a registry agree: the names in order begin with that of the format without fields, are distinct,
and are those it has a format for; all formats are finished; extensions and magic bytes stand for such names, magic
bytes for each at most once and in the same order; and the longest magic bytes are as long as is noted. -/
structure Consistent (r : Registry) : Prop where
  begins : r.order.head? = some noneName
  distinct : r.order.Nodup
  listed : ∀ name, (r.formats.get? name).isSome = true ↔ name ∈ r.order
  fieldless : r.formats.get? noneName = some .empty
  finished : ∀ name format, r.formats.get? name = some format → format.check = .ok ()
  extensions : ∀ extension name, r.byExtension.get? extension = some name → name ∈ r.order
  magics : (r.byMagic.map (·.2)).Sublist r.order
  some_bytes : ∀ known ∈ r.byMagic, known.1 ≠ []
  longest : r.longestMagic = (r.byMagic.map (·.1.length)).foldl max 0

namespace Consistent

lemma empty : Registry.empty.Consistent where
  begins := rfl
  distinct := List.nodup_singleton _
  listed name := by
    rw [Registry.empty, Table.get?_insert, Table.get?_empty]
    by_cases reserved : name = noneName <;> simp [reserved]
  fieldless := rfl
  finished name format found := by
    rw [Registry.empty, Table.get?_insert, Table.get?_empty] at found
    split at found
    · cases found
      rfl
    · cases found
  extensions _ _ found := by cases found
  magics := List.nil_sublist _
  some_bytes := nofun
  longest := rfl

/-- A name is new if it is not among those in order. -/
lemma new_iff (consistent : r.Consistent) : r.contains name = false ↔ name ∉ r.names := by
  rw [contains, Bool.eq_false_iff]
  exact not_congr (consistent.listed name)

/-- The tables agree after a finished format with a new name has been entered into each of them. -/
lemma enter (consistent : r.Consistent) (new : r.contains entry.name = false) (finished : entry.format.check = .ok ()) :
    (r.enter entry).Consistent where
  begins := by
    have begins : r.names.head? = some noneName := consistent.begins
    show (r.enter entry).names.head? = _
    rw [names_enter, List.head?_append, begins]
    rfl
  distinct := by
    show (r.enter entry).names.Nodup
    rw [names_enter]
    exact consistent.distinct.append (List.nodup_singleton _) (List.disjoint_singleton.2 (consistent.new_iff.1 new))
  listed name := by
    have listed : (r.get? name).isSome = true ↔ name ∈ r.names := consistent.listed name
    show ((r.enter entry).get? name).isSome = true ↔ name ∈ (r.enter entry).names
    rw [get?_enter, names_enter, List.mem_append, List.mem_singleton, ← listed]
    by_cases same : name = entry.name <;> simp [same]
  fieldless := by
    show (r.enter entry).get? noneName = _
    rw [get?_enter, if_neg]
    · exact consistent.fieldless
    · intro reserved
      rw [← reserved, contains_eq_false_iff, get?, consistent.fieldless] at new
      cases new
  finished name format found := by
    have found : (r.enter entry).get? name = some format := found
    rw [get?_enter] at found
    split at found
    · cases found
      exact finished
    · exact consistent.finished name format found
  extensions extension name found := by
    show name ∈ (r.enter entry).names
    rw [byExtension_enter] at found
    rw [names_enter, List.mem_append, List.mem_singleton]
    split at found
    · cases found
      exact .inr rfl
    · exact .inl (consistent.extensions extension name found)
  magics := by
    show ((r.enter entry).byMagic.map (·.2)).Sublist (r.enter entry).names
    rw [byMagic_enter, names_enter, List.map_append]
    refine consistent.magics.append ?_
    rw [NamedFormat.magicEntry?]
    cases entry.signature.someMagic? with
    | none => exact List.nil_sublist _
    | some magic => exact List.Sublist.refl _
  some_bytes := by
    rw [byMagic_enter]
    refine List.forall_mem_append.2 ⟨consistent.some_bytes, fun known among => ?_⟩
    obtain ⟨magic, some_magic, rfl⟩ := Option.map_eq_some_iff.1 (Option.mem_toList.1 among)
    exact (Signature.someMagic?_eq_some_iff.1 some_magic).2
  longest := by
    rw [longestMagic_enter, byMagic_enter, consistent.longest, List.map_append, List.foldl_append]
    cases entry.magicEntry? with
    | none => exact Nat.max_eq_left (Nat.zero_le _)
    | some known => rfl

end Consistent

/-! Registering. -/

lemma register_eq_ok_iff :
    r.register entry = .ok extended ↔
      r.contains entry.name = false ∧ entry.format.check = .ok () ∧ extended = r.enter entry := by
  rw [register]
  cases r.contains entry.name with
  | true => simp
  | false =>
    rw [if_neg (by decide), Description.bind_eq_ok_iff]
    cases entry.format.check with
    | error cause => simp
    | ok done => simp [eq_comm]

/-- Enters formats one after the other. -/
def enterEach (r : Registry) (entries : List NamedFormat) : Registry := entries.foldl enter r

@[simp] lemma enterEach_nil : r.enterEach [] = r := rfl

@[simp] lemma enterEach_cons : r.enterEach (entry :: entries) = (r.enter entry).enterEach entries := rfl

lemma enterEach_append : r.enterEach (front ++ back) = (r.enterEach front).enterEach back := List.foldl_append ..

lemma names_enterEach : (r.enterEach entries).names = r.names ++ entries.map (·.name) := by
  induction entries generalizing r with
  | nil => exact (List.append_nil _).symm
  | cons entry entries ih => rw [enterEach_cons, ih, names_enter, List.append_assoc, List.map_cons, List.singleton_append]

lemma contains_enterEach :
    (r.enterEach entries).contains name = false ↔ r.contains name = false ∧ name ∉ entries.map (·.name) := by
  induction entries generalizing r with
  | nil => simp
  | cons entry entries ih =>
    rw [enterEach_cons, ih, contains_eq_false_iff, contains_eq_false_iff, get?_enter, List.map_cons, List.mem_cons, not_or]
    by_cases same : name = entry.name <;> simp [same]

/-- Formats with different names are found among those that were entered, all others where they were before. -/
lemma get?_enterEach (distinct : (entries.map (·.name)).Nodup) (name : String) :
    (r.enterEach entries).get? name = (NamedFormat.find? entries name).or (r.get? name) := by
  induction entries generalizing r with
  | nil => rfl
  | cons entry entries ih =>
    obtain ⟨apart, distinct⟩ := List.nodup_cons.1 distinct
    rw [enterEach_cons, ih distinct, get?_enter, ← List.singleton_append, NamedFormat.find?_append]
    split
    · next same =>
      subst same
      have later : NamedFormat.find? entries entry.name = none :=
        NamedFormat.find?_eq_none.2 fun other among same => apart (List.mem_map.2 ⟨other, among, same⟩)
      have here : NamedFormat.find? [entry] entry.name = some entry.format := by simp [NamedFormat.find?]
      rw [later, here]
      rfl
    · next other =>
      have here : NamedFormat.find? [entry] name = none := NamedFormat.find?_eq_none.2 (by simpa [eq_comm] using other)
      rw [here, Option.none_or]

lemma byMagic_enterEach : (r.enterEach entries).byMagic = r.byMagic ++ entries.filterMap NamedFormat.magicEntry? := by
  induction entries generalizing r with
  | nil => exact (List.append_nil _).symm
  | cons entry entries ih =>
    rw [enterEach_cons, ih, byMagic_enter, List.append_assoc, List.filterMap_cons]
    cases entry.magicEntry? <;> rfl

/-- For an extension the last format counts that has it. -/
lemma byExtension_enterEach :
    (r.enterEach entries).byExtension.get? extension =
      (NamedFormat.lastWith? entries extension).or (r.byExtension.get? extension) := by
  induction entries generalizing r with
  | nil => rfl
  | cons entry entries ih =>
    rw [enterEach_cons, ih, byExtension_enter, NamedFormat.lastWith?, NamedFormat.lastWith?, List.reverse_cons,
      List.find?_append, Option.map_or, Option.or_assoc]
    refine congrArg _ ?_
    by_cases same : entry.signature.extension = some extension <;> simp [same]

lemma longestMagic_enterEach :
    (r.enterEach entries).longestMagic =
      ((entries.filterMap NamedFormat.magicEntry?).map (·.1.length)).foldl max r.longestMagic := by
  induction entries generalizing r with
  | nil => rfl
  | cons entry entries ih =>
    rw [enterEach_cons, ih, longestMagic_enter, List.filterMap_cons]
    cases entry.magicEntry? with
    | none => rw [Option.elim_none, Nat.max_zero]
    | some known => rfl

/-- What a registry becomes to which formats are added: their names stand behind all others, and each has its format;
an extension stands for the last of them that has it; and their magic bytes stand behind all others. -/
structure Adds (r : Registry) (entries : List NamedFormat) (left : Registry) : Prop where
  names : left.names = r.names ++ entries.map (·.name)
  formats : ∀ name, left.get? name = (NamedFormat.find? entries name).or (r.get? name)
  extensions : ∀ extension, left.byExtension.get? extension =
    (NamedFormat.lastWith? entries extension).or (r.byExtension.get? extension)
  magics : left.byMagic = r.byMagic ++ entries.filterMap NamedFormat.magicEntry?
  longest : left.longestMagic =
    ((entries.filterMap NamedFormat.magicEntry?).map (·.1.length)).foldl max r.longestMagic

lemma adds_enterEach (distinct : (entries.map (·.name)).Nodup) : r.Adds entries (r.enterEach entries) where
  names := names_enterEach
  formats := get?_enterEach distinct
  extensions _ := byExtension_enterEach
  magics := byMagic_enterEach
  longest := longestMagic_enterEach

/-- Formats that can be added to a registry: they are finished, and their names are new and different. -/
structure Admits (r : Registry) (entries : List NamedFormat) : Prop where
  finished : ∀ entry ∈ entries, entry.format.check = .ok ()
  new : ∀ entry ∈ entries, r.contains entry.name = false
  distinct : (entries.map (·.name)).Nodup

/-- Formats can be added in two parts where they can be added at once. -/
lemma admits_append : r.Admits (front ++ back) ↔ r.Admits front ∧ (r.enterEach front).Admits back := by
  constructor
  · intro admits
    obtain ⟨finished, finished_back⟩ := List.forall_mem_append.1 admits.finished
    obtain ⟨new, new_back⟩ := List.forall_mem_append.1 admits.new
    obtain ⟨distinct, distinct_back, apart⟩ := List.nodup_append.1 (List.map_append ▸ admits.distinct)
    refine ⟨⟨finished, new, distinct⟩, finished_back, fun entry among => ?_, distinct_back⟩
    rw [contains_enterEach]
    exact ⟨new_back entry among, fun before => apart _ before _ (List.mem_map_of_mem among) rfl⟩
  · rintro ⟨admits, admits_back⟩
    have apart : ∀ entry ∈ back, r.contains entry.name = false ∧ entry.name ∉ front.map (·.name) :=
      fun entry among => contains_enterEach.1 (admits_back.new entry among)
    refine ⟨List.forall_mem_append.2 ⟨admits.finished, admits_back.finished⟩,
      List.forall_mem_append.2 ⟨admits.new, fun entry among => (apart entry among).1⟩, ?_⟩
    rw [List.map_append]
    refine admits.distinct.append admits_back.distinct fun name before after => ?_
    obtain ⟨entry, among, rfl⟩ := List.mem_map.1 after
    exact (apart entry among).2 before

lemma admits_cons :
    r.Admits (entry :: entries) ↔
      (r.contains entry.name = false ∧ entry.format.check = .ok ()) ∧ (r.enter entry).Admits entries := by
  rw [← List.singleton_append, admits_append]
  refine and_congr_left fun _ => ⟨fun admits => ?_, fun ⟨new, finished⟩ => ⟨?_, ?_, List.nodup_singleton _⟩⟩
  · exact ⟨admits.new entry (List.mem_singleton_self _), admits.finished entry (List.mem_singleton_self _)⟩
  · exact List.forall_mem_singleton.2 finished
  · exact List.forall_mem_singleton.2 new

lemma registerEach_cons_eq_ok_iff :
    r.registerEach (entry :: entries) = (.ok names, left) ↔ ∃ extended others, r.register entry = .ok extended ∧
      extended.registerEach entries = (.ok others, left) ∧ names = entry.name :: others := by
  rw [registerEach]
  cases r.register entry with
  | error cause => simp
  | ok extended =>
    rcases found : extended.registerEach entries with ⟨result, rest⟩
    cases result with
    | error cause => simp [found, Except.map]
    | ok others => simp [found, Except.map, and_comm, eq_comm]

/-- All formats are added where they can be, and only there. -/
theorem registerEach_eq_ok_iff :
    r.registerEach entries = (.ok names, left) ↔
      r.Admits entries ∧ names = entries.map (·.name) ∧ left = r.enterEach entries := by
  induction entries generalizing r names with
  | nil =>
    have admits : r.Admits [] := ⟨nofun, nofun, List.nodup_nil⟩
    simp [registerEach, admits, eq_comm]
  | cons entry entries ih =>
    simp only [registerEach_cons_eq_ok_iff, register_eq_ok_iff, ih, admits_cons, List.map_cons]
    constructor
    · rintro ⟨_, _, ⟨new, finished, rfl⟩, ⟨admits, rfl, rfl⟩, rfl⟩
      exact ⟨⟨⟨new, finished⟩, admits⟩, rfl, rfl⟩
    · rintro ⟨⟨⟨new, finished⟩, admits⟩, rfl, rfl⟩
      exact ⟨_, _, ⟨new, finished, rfl⟩, ⟨admits, rfl, rfl⟩, rfl⟩

/-- What comes about by registering formats and loading descriptions. A format that is refused makes no registry; a
description that is not loaded leaves one all the same. -/
inductive Reachable : Registry → Prop
  | empty : Reachable Registry.empty
  | register {r extended : Registry} {entry : NamedFormat} : Reachable r → r.register entry = .ok extended →
    Reachable extended
  | load {r : Registry} {text : String} : Reachable r → Reachable (r.loadInPlace text).2

section

variable {kept : Registry → Prop}
  (step : ∀ {r extended : Registry} {entry}, kept r → r.register entry = .ok extended → kept extended)

include step

lemma registerEach_keeps (before : kept r) : kept (r.registerEach entries).2 := by
  induction entries generalizing r with
  | nil => exact before
  | cons entry entries ih =>
    rw [registerEach]
    cases registered : r.register entry with
    | error cause => exact before
    | ok extended => exact ih (step before registered)

/-- What registering one format keeps is so in all that is reachable. -/
lemma Reachable.keeps (start : kept Registry.empty) (reachable : r.Reachable) : kept r := by
  induction reachable with
  | empty => exact start
  | register _ registered ih => exact step ih registered
  | @load r text _ ih =>
    rw [loadInPlace]
    split
    · exact ih
    · rw [addDefinitions]
      split
      · exact ih
      · split
        · exact ih
        · exact registerEach_keeps step ih

end

/-- In all that is reachable the tables agree. -/
lemma Reachable.consistent (reachable : r.Reachable) : r.Consistent := by
  refine Reachable.keeps ?_ .empty reachable
  intro r extended entry consistent registered
  obtain ⟨new, finished, rfl⟩ := register_eq_ok_iff.1 registered
  exact consistent.enter new finished

/-- Only finished formats can be embedded. -/
lemma Reachable.get?_finished (reachable : r.Reachable) (found : r.get? name = some format) :
    format.check = .ok () := reachable.consistent.finished name format found

end Registry
end ByteAtlas
