import ByteAtlas.Proofs.Description.Resolving

/-!
# Resolved formats mirror their definitions

A name refers to the format of an earlier definition, or else to a known one (`Refers`). Definitions can be resolved
exactly if they have different names and every name they embed refers to something where it stands (`Resolvable`); the
first definition that has no new name, or embeds a name that refers to nothing, is the error (`Fault`), and no call of
the builder is ever refused. A definition and its format have the same shape (`Mirrors`).
-/

namespace ByteAtlas

lemma NamedFormat.isSome_find?_iff {formats : List NamedFormat} {name : String} :
    (find? formats name).isSome = true ↔ name ∈ formats.map (·.name) := by
  rw [← Option.ne_none_iff_isSome, ne_eq, find?_eq_none]
  simp

namespace Description

/-- The name of the format that an item embeds. -/
def Item.target? : ReadItem → Option String
  | embed _ _ target => some target
  | _ => none

/-- The names of the formats that items embed, in order and at any depth of groups. -/
def Outline.targets : Items → List String
  | nil => []
  | item here rest => here.target?.toList ++ rest.targets
  | group _ inner rest => inner.targets ++ rest.targets

/-- What a count in a description stands for. -/
inductive MirrorsCount : CountTerm → Count → Prop
  | number {n} : MirrorsCount (.number n) (.const n)
  | name {word} : MirrorsCount (.name word) (.var word)

/-- What the repetitions of an embedded format stand for. -/
inductive MirrorsTimes : Times CountTerm → Repeat → Prop
  | once : MirrorsTimes .once (.times (.const 1))
  | count {k count} : MirrorsCount k count → MirrorsTimes (.count k) (.times count)
  | unbounded : MirrorsTimes .unbounded .unbounded

/-- Which nodes mirror items: node by node and group by group, where every name that is embedded refers to a
format. -/
inductive Mirrors (refers : String → Format → Prop) : Items → Layout → Prop
  | nil : Mirrors refers .nil .nil
  | scalar {type name color bind rest nodes} : Mirrors refers rest nodes →
    Mirrors refers (.item (.scalar type name color bind) rest) (.scalar ⟨name, type, color, bind⟩ nodes)
  | bytes {name k count color rest nodes} : MirrorsCount k count → Mirrors refers rest nodes →
    Mirrors refers (.item (.bytes name k color) rest) (.bytes ⟨name, count, color⟩ nodes)
  | embed {name times repetitions target child rest nodes} : MirrorsTimes times repetitions → refers target child →
    Mirrors refers rest nodes →
    Mirrors refers (.item (.embed name times target) rest)
      (.embed name repetitions child.nodes child.openGroup? nodes)
  | group {name inner inside rest nodes} : Mirrors refers inner inside → Mirrors refers rest nodes →
    Mirrors refers (.group name inner rest) (.group name inside nodes)

/-- The format that a name refers to behind earlier ones: that of the name among them, or else the known one. -/
inductive Refers (known : String → Option Format) (earlier : List NamedFormat) (name : String) (format : Format) : Prop
  | earlier {signature} : ⟨name, signature, format⟩ ∈ earlier → Refers known earlier name format
  | known : (∀ entry ∈ earlier, entry.name ≠ name) → known name = some format → Refers known earlier name format

/-- A name that refers to something behind earlier definitions. -/
def Visible (known : String → Option Format) (earlier : List Definition) (name : String) : Prop :=
  name ∈ earlier.map (·.name) ∨ (known name).isSome = true

/-- Definitions with different names, each of which embeds what is visible behind those before it. -/
structure Resolvable (known : String → Option Format) (definitions : List Definition) : Prop where
  distinct : (definitions.map (·.name)).Nodup
  visible : ∀ front d back, definitions = front ++ d :: back → ∀ target ∈ d.items.targets, Visible known front target

/-- The first thing that is wrong with definitions, in the order in which they are written. The name of a definition
comes before its items. -/
inductive Fault (known : String → Option Format) (definitions : List Definition) : ResolveError → Prop
  | duplicate {front d back} : definitions = front ++ d :: back → Resolvable known front →
    d.name ∈ front.map (·.name) → Fault known definitions (.duplicate d.name)
  | unknown {front d back before target after} : definitions = front ++ d :: back → Resolvable known front →
    d.name ∉ front.map (·.name) → d.items.targets = before ++ target :: after →
    (∀ seen ∈ before, Visible known front seen) → ¬Visible known front target →
    Fault known definitions (.unknownReference d.name target)

/-! Items. -/

section Items

variable {lookup : String → Option Format} {items : Items} {nodes : Layout}

/-- The first name that is unknown is the error, if there is one. -/
lemma Outline.toLayout_cases (lookup : String → Option Format) (items : Items) :
    (∃ nodes, items.toLayout lookup = .ok nodes ∧ items.targets.find? (fun name => (lookup name).isNone) = none) ∨
      ∃ target, items.toLayout lookup = .error target ∧
        items.targets.find? (fun name => (lookup name).isNone) = some target := by
  induction items with
  | nil => exact .inl ⟨.nil, rfl, rfl⟩
  | item here rest ih =>
    rw [toLayout, targets, List.find?_append]
    cases here with
    | scalar type name color bind | bytes name count color =>
      obtain ⟨nodes, resolved, known⟩ | ⟨target, failed, unknown⟩ := ih
      · exact .inl ⟨_, by rw [resolved]; rfl, by simpa [Item.target?] using known⟩
      · exact .inr ⟨target, by rw [failed]; rfl, by simpa [Item.target?] using unknown⟩
    | embed name times target =>
      cases found : lookup target with
      | none =>
        have failed : Item.toLayout lookup (.embed name times target) = .error target := by rw [Item.toLayout, found]
        exact .inr ⟨target, by rw [failed]; rfl, by simp [Item.target?, found]⟩
      | some child =>
        have here : Item.toLayout lookup (.embed name times target) =
            .ok (.embed name times.toRepeat child.nodes child.openGroup?) := by rw [Item.toLayout, found]
        obtain ⟨nodes, resolved, known⟩ | ⟨target', failed, unknown⟩ := ih
        · exact .inl ⟨_, by rw [here, resolved]; rfl, by simpa [Item.target?, found] using known⟩
        · exact .inr ⟨target', by rw [here, failed]; rfl, by simpa [Item.target?, found] using unknown⟩
  | group name inner rest ih_inner ih_rest =>
    rw [toLayout, targets, List.find?_append]
    obtain ⟨inside, resolved, known⟩ | ⟨target, failed, unknown⟩ := ih_inner
    · obtain ⟨nodes, resolved_rest, known_rest⟩ | ⟨target, failed, unknown⟩ := ih_rest
      · exact .inl ⟨_, by rw [resolved, resolved_rest]; rfl, by rw [known, known_rest]; rfl⟩
      · exact .inr ⟨target, by rw [resolved, failed]; rfl, by rw [known, unknown]; rfl⟩
    · exact .inr ⟨target, by rw [failed]; rfl, by rw [unknown]; rfl⟩

lemma mirrorsCount (k : CountTerm) : MirrorsCount k k.toCount := by
  cases k with
  | number n => exact .number
  | name word => exact .name

lemma mirrorsTimes (times : Times CountTerm) : MirrorsTimes times times.toRepeat := by
  cases times with
  | once => exact .once
  | count k => exact .count (mirrorsCount k)
  | unbounded => exact .unbounded

lemma mirrors_of_toLayout {refers : String → Format → Prop}
    (looked_up : ∀ name format, lookup name = some format → refers name format)
    (resolved : items.toLayout lookup = .ok nodes) : Mirrors refers items nodes := by
  induction items generalizing nodes with
  | nil =>
    cases resolved
    exact .nil
  | item here rest ih =>
    obtain ⟨node, first, resolved⟩ := bind_eq_ok_iff.1 resolved
    obtain ⟨others, later, same⟩ := bind_eq_ok_iff.1 resolved
    cases same
    cases here with
    | scalar type name color bind =>
      cases first
      exact .scalar (ih later)
    | bytes name count color =>
      cases first
      exact .bytes (mirrorsCount count) (ih later)
    | embed name times target =>
      rw [Item.toLayout] at first
      split at first
      · next child found =>
        cases first
        exact .embed (mirrorsTimes times) (looked_up _ _ found) (ih later)
      · cases first
  | group name inner rest ih_inner ih_rest =>
    obtain ⟨inside, within, resolved⟩ := bind_eq_ok_iff.1 resolved
    obtain ⟨others, later, same⟩ := bind_eq_ok_iff.1 resolved
    cases same
    exact .group (ih_inner within) (ih_rest later)

end Items

/-! Definitions. -/

variable {known : String → Option Format} {definitions front back : List Definition} {d : Definition}
  {done resolved : List NamedFormat} {cause : ResolveError} {name : String} {format : Format}

lemma lookupBehind_eq_some_iff (apart : (done.map (·.name)).Nodup) :
    lookupBehind known done name = some format ↔ Refers known done name format := by
  rw [lookupBehind, Option.or_eq_some_iff]
  constructor
  · rintro (before | ⟨unknown, elsewhere⟩)
    · obtain ⟨⟨_, signature, _⟩, among, rfl, rfl⟩ := NamedFormat.mem_of_find? before
      exact .earlier among
    · exact .known (NamedFormat.find?_eq_none.1 unknown) elsewhere
  · intro refers
    cases refers with
    | earlier among => exact .inl (NamedFormat.find?_of_mem apart among)
    | known other elsewhere => exact .inr ⟨NamedFormat.find?_eq_none.2 other, elsewhere⟩

lemma eq_lookupBehind {lookup : String → Option Format} (apart : (done.map (·.name)).Nodup)
    (refers : ∀ name format, lookup name = some format ↔ Refers known done name format) :
    lookup = lookupBehind known done := by
  funext name
  exact Option.ext fun format => (refers name format).trans (lookupBehind_eq_some_iff apart).symm

lemma resolve_names (found : resolve known definitions = .ok resolved) :
    resolved.map (·.name) = definitions.map (·.name) :=
  (resolveAfter_eq_ok_iff.1 found).names

lemma lookupBehind_isSome_iff (found : resolve known definitions = .ok done) :
    (lookupBehind known done name).isSome = true ↔ Visible known definitions name := by
  rw [lookupBehind, Option.isSome_or, Bool.or_eq_true, NamedFormat.isSome_find?_iff, resolve_names found, Visible]

/-- Definitions are resolved in two parts, the second only if the first can be. -/
lemma resolveAfter_append (earlier : List NamedFormat) :
    resolveAfter known earlier (front ++ back) =
      match resolveAfter known earlier front with
      | .error cause => .error cause
      | .ok done => (resolveAfter known (earlier ++ done) back).map (done ++ ·) := by
  induction front generalizing earlier with
  | nil =>
    simp only [resolveAfter, List.nil_append, List.append_nil]
    cases resolveAfter known earlier back <;> rfl
  | cons d more ih =>
    rw [List.cons_append]
    by_cases taken : d.name ∈ earlier.map (·.name)
    · rw [resolveAfter_cons_of_taken taken, resolveAfter_cons_of_taken taken]
    · rw [resolveAfter_cons_of_new taken, resolveAfter_cons_of_new taken]
      cases d.items.toLayout (lookupBehind known earlier) with
      | error target => rfl
      | ok nodes =>
        dsimp only
        rw [ih]
        cases resolveAfter known (earlier ++ [⟨d.name, d.signature, ⟨nodes, []⟩⟩]) more with
        | error cause => rfl
        | ok later =>
          simp only [Except.map, List.append_assoc, List.singleton_append]
          cases resolveAfter known (earlier ++ ⟨d.name, d.signature, ⟨nodes, []⟩⟩ :: later) back <;> rfl

lemma resolve_append_cons (known : String → Option Format) (front : List Definition) (d : Definition)
    (back : List Definition) :
    resolve known (front ++ d :: back) =
      match resolve known front with
      | .error cause => .error cause
      | .ok done => (resolveAfter known done (d :: back)).map (done ++ ·) :=
  resolveAfter_append []

/-- What is resolved, cut at any definition: those before it are resolved by themselves, and it embeds them. -/
lemma of_resolve (found : resolve known (front ++ d :: back) = .ok resolved) :
    ∃ done nodes later, resolve known front = .ok done ∧ d.items.toLayout (lookupBehind known done) = .ok nodes ∧
      resolved = done ++ ⟨d.name, d.signature, ⟨nodes, []⟩⟩ :: later := by
  rw [resolve_append_cons] at found
  cases before : resolve known front with
  | error cause =>
    rw [before] at found
    cases found
  | ok done =>
    rw [before] at found
    obtain ⟨rest, behind, rfl⟩ := map_eq_ok_iff.1 found
    by_cases taken : d.name ∈ done.map (·.name)
    · rw [resolveAfter_cons_of_taken taken] at behind
      cases behind
    · rw [resolveAfter_cons_of_new taken] at behind
      split at behind
      · cases behind
      · next nodes built =>
        obtain ⟨later, -, rfl⟩ := map_eq_ok_iff.1 behind
        exact ⟨done, nodes, later, rfl, built, rfl⟩

/-- The format of a definition, told by its place: it is built over the formats in front of it. -/
lemma entry_of_resolve {number : Nat} {entry : NamedFormat} (found : resolve known definitions = .ok resolved)
    (here : definitions[number]? = some d) (there : resolved[number]? = some entry) :
    ∃ nodes, entry = ⟨d.name, d.signature, ⟨nodes, []⟩⟩ ∧
      d.items.toLayout (lookupBehind known (resolved.take number)) = .ok nodes ∧
      ((resolved.take number).map (·.name)).Nodup := by
  obtain ⟨bound, rfl⟩ := List.getElem?_eq_some_iff.1 here
  have split : definitions = definitions.take number ++ definitions[number] :: definitions.drop (number + 1) := by
    rw [← List.drop_eq_getElem_cons bound, List.take_append_drop]
  rw [split] at found
  obtain ⟨done, nodes, later, before, built, rfl⟩ := of_resolve found
  have size : done.length = number := by
    have same := congrArg List.length (resolve_names before)
    simp only [List.length_map, List.length_take] at same
    omega
  rw [List.take_left' size]
  rw [List.getElem?_append_right size.le, size, Nat.sub_self] at there
  cases there
  exact ⟨nodes, rfl, built, (resolveAfter_eq_ok_iff.1 before).distinct List.nodup_nil⟩

/-! Which definitions can be resolved. -/

lemma find?_unknown_eq_none_iff {targets : List String} (found : resolve known front = .ok done) :
    targets.find? (fun name => (lookupBehind known done name).isNone) = none ↔
      ∀ target ∈ targets, Visible known front target := by
  simp [List.find?_eq_none, ← lookupBehind_isSome_iff found, Option.isSome_iff_ne_none]

lemma find?_unknown_eq_some_iff {targets : List String} {target : String} (found : resolve known front = .ok done) :
    targets.find? (fun name => (lookupBehind known done name).isNone) = some target ↔
      ∃ before after, targets = before ++ target :: after ∧ (∀ seen ∈ before, Visible known front seen) ∧
        ¬Visible known front target := by
  simp only [List.find?_eq_some_iff_append, ← lookupBehind_isSome_iff found, Option.isNone_iff_eq_none,
    Bool.not_eq_true', Option.isNone_eq_false_iff, Option.not_isSome_iff_eq_none]
  constructor
  · rintro ⟨unknown, before, after, split, seen⟩
    exact ⟨before, after, split, seen, unknown⟩
  · rintro ⟨before, after, split, seen, unknown⟩
    exact ⟨unknown, before, after, split, seen⟩

lemma Resolvable.concat (resolvable : Resolvable known front) (new : d.name ∉ front.map (·.name))
    (visible : ∀ target ∈ d.items.targets, Visible known front target) : Resolvable known (front ++ [d]) where
  distinct := by
    rw [List.map_append]
    exact resolvable.distinct.append (List.nodup_singleton _) (List.disjoint_singleton.2 new)
  visible := by
    intro before d' after split target among
    obtain rfl | ⟨behind, last, rfl⟩ := List.eq_nil_or_concat after
    · obtain ⟨rfl, same⟩ := List.append_inj' split rfl
      cases same
      exact visible target among
    · rw [List.concat_eq_append, ← List.cons_append, ← List.append_assoc] at split
      obtain ⟨rfl, -⟩ := List.append_inj' split rfl
      exact resolvable.visible before d' behind rfl target among

lemma Fault.append (fault : Fault known front cause) : Fault known (front ++ back) cause := by
  cases fault with
  | duplicate split resolvable taken =>
    subst split
    exact .duplicate (List.append_assoc ..) resolvable taken
  | unknown split resolvable new targets visible invisible =>
    subst split
    exact .unknown (List.append_assoc ..) resolvable new targets visible invisible

lemma Fault.not_resolvable (fault : Fault known definitions cause) : ¬Resolvable known definitions := by
  intro resolvable
  cases fault with
  | @duplicate front d back split _ taken =>
    have distinct := resolvable.distinct
    rw [split, List.map_append] at distinct
    exact (List.disjoint_of_nodup_append distinct) taken (List.mem_cons_self ..)
  | @unknown front d back before target after split _ _ targets _ invisible =>
    exact invisible (resolvable.visible front d back split target (by simp [targets]))

/-- Definitions are resolved, or something is wrong with them. -/
lemma resolve_cases (known : String → Option Format) (definitions : List Definition) :
    (∃ resolved, resolve known definitions = .ok resolved ∧ Resolvable known definitions) ∨
      ∃ cause, resolve known definitions = .error cause ∧ Fault known definitions cause := by
  induction definitions using List.reverseRecOn with
  | nil => exact .inl ⟨[], rfl, List.nodup_nil, by simp⟩
  | append_singleton front d ih =>
    rw [resolve_append_cons]
    obtain ⟨done, found, resolvable⟩ | ⟨cause, failed, fault⟩ := ih
    · rw [found]
      by_cases taken : d.name ∈ front.map (·.name)
      · refine .inr ⟨.duplicate d.name, ?_, .duplicate rfl resolvable taken⟩
        dsimp only
        rw [resolveAfter_cons_of_taken (resolve_names found ▸ taken)]
        rfl
      · dsimp only
        rw [resolveAfter_cons_of_new (resolve_names found ▸ taken)]
        obtain ⟨nodes, built, none_unknown⟩ | ⟨target, failed, unknown⟩ :=
          d.items.toLayout_cases (lookupBehind known done)
        · have visible := (find?_unknown_eq_none_iff found).1 none_unknown
          exact .inl ⟨_, by rw [built]; rfl, resolvable.concat taken visible⟩
        · obtain ⟨before, after, targets, visible, invisible⟩ := (find?_unknown_eq_some_iff found).1 unknown
          exact .inr ⟨_, by rw [failed]; rfl, .unknown rfl resolvable taken targets visible invisible⟩
    · exact .inr ⟨cause, by rw [failed], fault.append⟩

theorem exists_resolve_iff : (∃ resolved, resolve known definitions = .ok resolved) ↔ Resolvable known definitions := by
  obtain ⟨resolved, found, resolvable⟩ | ⟨cause, failed, fault⟩ := resolve_cases known definitions
  · exact ⟨fun _ => resolvable, fun _ => ⟨resolved, found⟩⟩
  · refine ⟨fun ⟨resolved, found⟩ => ?_, fun resolvable => absurd resolvable fault.not_resolvable⟩
    rw [failed] at found
    cases found

theorem resolve_eq_error_iff : resolve known definitions = .error cause ↔ Fault known definitions cause := by
  constructor
  · intro failed
    obtain ⟨resolved, found, -⟩ | ⟨cause', failed', fault⟩ := resolve_cases known definitions
    · cases failed.symm.trans found
    · cases failed.symm.trans failed'
      exact fault
  · intro fault
    cases fault with
    | @duplicate front d back split resolvable taken =>
      obtain ⟨done, found⟩ := exists_resolve_iff.2 resolvable
      rw [split, resolve_append_cons, found]
      dsimp only
      rw [resolveAfter_cons_of_taken (resolve_names found ▸ taken)]
      rfl
    | @unknown front d back before target after split resolvable new targets visible invisible =>
      obtain ⟨done, found⟩ := exists_resolve_iff.2 resolvable
      have first := (find?_unknown_eq_some_iff found).2 ⟨before, after, targets, visible, invisible⟩
      rw [split, resolve_append_cons, found]
      dsimp only
      rw [resolveAfter_cons_of_new (resolve_names found ▸ new)]
      obtain ⟨nodes, -, none_unknown⟩ | ⟨target', failed, unknown⟩ :=
        d.items.toLayout_cases (lookupBehind known done)
      · cases first.symm.trans none_unknown
      · cases first.symm.trans unknown
        rw [failed]
        rfl

lemma message_unknownReference (definition target : String) :
    (ResolveError.unknownReference definition target).message =
      "format " ++ definition ++ ": Unknown format reference: " ++ target := by
  unfold ResolveError.message
  simp only [toString]

/-- Definitions are resolved exactly if they have different names and embed only what is visible where they stand. The
format of a definition then has its name and signature, no open group and the nodes that mirror its items, where names
refer to earlier formats before known ones; it is what comes about by building in order, as the items say. It is
finished if all known formats are. Otherwise the first fault is the error. -/
theorem resolve_mirrors (known : String → Option Format) (definitions : List Definition) :
    ((∃ resolved, resolve known definitions = .ok resolved) ↔ Resolvable known definitions) ∧
    (∀ resolved, resolve known definitions = .ok resolved →
      resolved.length = definitions.length ∧
      (∀ number d entry, definitions[number]? = some d → resolved[number]? = some entry →
        entry.name = d.name ∧ entry.signature = d.signature ∧ entry.format.pending = [] ∧
        Mirrors (Refers known (resolved.take number)) d.items entry.format.nodes ∧
        ∀ lookup, (∀ name format, lookup name = some format ↔ Refers known (resolved.take number) name format) →
          d.items.buildOn lookup .empty = .ok entry.format) ∧
      ((∀ name child, known name = some child → child.check = .ok ()) →
        ∀ entry ∈ resolved, entry.format.check = .ok ())) ∧
    (∀ cause, resolve known definitions = .error cause ↔ Fault known definitions cause) ∧
    ∀ definition target, (ResolveError.unknownReference definition target).message =
      "format " ++ definition ++ ": Unknown format reference: " ++ target := by
  refine ⟨exists_resolve_iff, fun resolved found => ⟨?_, fun number d entry here there => ?_, fun finished => ?_⟩,
    fun cause => resolve_eq_error_iff, fun definition target => ?_⟩
  · rw [← List.length_map, resolve_names found, List.length_map]
  · obtain ⟨nodes, rfl, built, apart⟩ := entry_of_resolve found here there
    refine ⟨rfl, rfl, rfl, mirrors_of_toLayout (fun _ _ => (lookupBehind_eq_some_iff apart).1) built,
      fun lookup refers => ?_⟩
    rw [Outline.buildOn_eq, eq_lookupBehind apart refers, built]
    rfl
  · exact (resolveAfter_eq_ok_iff.1 found).finished finished nofun
  · exact message_unknownReference definition target

end Description
end ByteAtlas
