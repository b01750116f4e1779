import ByteAtlas.Description.Resolve
import ByteAtlas.Proofs.Description.Literals
import ByteAtlas.Proofs.Format.Building

/-!
# Resolving definitions

The nodes of a definition can be told without a builder (`Outline.toLayout`): although a format is built from the
outside in, by beginning and ending groups, what is built inside a group ends up in it, and nothing else
(`Outline.buildOn_eq`). Resolving succeeds exactly with the formats that definitions stand for (`Resolves`), one for
each definition and after those before it. Three things follow by induction along the definitions: the formats have the
names of the definitions, no two of them the same; they are finished if the known formats are; and formats that are
known from elsewhere may as well be resolved in the same description, in front.
-/

namespace ByteAtlas

variable {formats front back : List NamedFormat} {name : String}

lemma NamedFormat.find?_append :
    find? (front ++ back) name = (find? front name).or (find? back name) := by
  simp only [find?, List.find?_append, Option.map_or]

lemma NamedFormat.find?_eq_none : find? formats name = none ↔ ∀ entry ∈ formats, entry.name ≠ name := by
  simp [find?]

lemma NamedFormat.mem_of_find? {format : Format} (found : find? formats name = some format) :
    ∃ entry ∈ formats, entry.name = name ∧ entry.format = format := by
  obtain ⟨entry, first, rfl⟩ := Option.map_eq_some_iff.1 found
  have named := List.find?_some first
  exact ⟨entry, List.mem_of_find?_eq_some first, eq_of_beq named, rfl⟩

lemma NamedFormat.find?_of_mem {formats : List NamedFormat} {entry : NamedFormat}
    (apart : (formats.map (·.name)).Nodup) (among : entry ∈ formats) :
    find? formats entry.name = some entry.format := by
  induction formats with
  | nil => cases among
  | cons first later ih =>
    obtain ⟨new, apart⟩ := List.nodup_cons.1 apart
    rw [← List.singleton_append, find?_append]
    obtain rfl | later_among := List.mem_cons.1 among
    · simp [find?]
    · have other : first.name ≠ entry.name := fun same => new (List.mem_map.2 ⟨entry, later_among, same.symm⟩)
      have missed : find? [first] entry.name = none := find?_eq_none.2 (by simpa using other)
      rw [missed, Option.none_or]
      exact ih apart later_among

namespace Description

/-- How often an embedded format repeats; one without a count is there once. -/
def Times.toRepeat : Times CountTerm → Repeat
  | once => .times (.const 1)
  | count k => .times k.toCount
  | unbounded => .unbounded

/-- The node of an item before the nodes that follow it; the name of an embedded format is the error if it
is unknown. -/
def Item.toLayout (lookup : String → Option Format) : ReadItem → Except String (Layout → Layout)
  | scalar type name color bind => .ok (.scalar ⟨name, type, color, bind⟩)
  | bytes name count color => .ok (.bytes ⟨name, count.toCount, color⟩)
  | embed name times target =>
    match lookup target with
    | some child => .ok (.embed name times.toRepeat child.nodes child.openGroup?)
    | none => .error target

/-- The nodes of items; the first unknown name is the error. -/
def Outline.toLayout (lookup : String → Option Format) : Items → Except String Layout
  | nil => .ok .nil
  | item here rest => do
    let here ← here.toLayout lookup
    let rest ← rest.toLayout lookup
    .ok (here rest)
  | group name inner rest => do
    let inner ← inner.toLayout lookup
    let rest ← rest.toLayout lookup
    .ok (.group name inner rest)

/-! What is built. -/

section Built

variable {lookup : String → Option Format}

/-- The node of an item stands in front of all others. -/
lemma Item.append_of_toLayout {here : ReadItem} {node : Layout → Layout} (resolved : here.toLayout lookup = .ok node)
    (rest : Layout) : node .nil ++ rest = node rest := by
  cases here with
  | scalar | bytes =>
    cases resolved
    rfl
  | embed name times target =>
    rw [toLayout] at resolved
    split at resolved <;> cases resolved
    rfl

lemma Item.buildOn_eq (here : ReadItem) (f : Format) :
    here.buildOn lookup f =
      ((here.toLayout lookup).map fun node => f.place (node .nil)).mapError .unknownReference := by
  cases here with
  | scalar | bytes => rfl
  | embed name times target =>
    rw [buildOn, toLayout]
    cases lookup target with
    | none => rfl
    | some child => cases times <;> rfl

/-- Building as items say places their nodes, whatever is open already. No end of a group is refused. -/
lemma Outline.buildOn_eq (items : Items) (f : Format) :
    items.buildOn lookup f = ((items.toLayout lookup).map f.place).mapError .unknownReference := by
  induction items generalizing f with
  | nil =>
    rw [buildOn, toLayout]
    exact congrArg _ Format.place_nil.symm
  | item here rest ih =>
    rw [buildOn, toLayout, Item.buildOn_eq]
    cases resolved : here.toLayout lookup with
    | error target => rfl
    | ok node =>
      refine (ih _).trans ?_
      cases rest.toLayout lookup with
      | error target => rfl
      | ok nodes =>
        refine congrArg Except.ok ?_
        rw [Format.place_place, Item.append_of_toLayout resolved]
  | group name inner rest ih_inner ih_rest =>
    rw [buildOn, toLayout, ih_inner]
    cases inner.toLayout lookup with
    | error target => rfl
    | ok inside =>
      -- The group that was begun is the innermost again, and holds what was built since.
      refine (ih_rest (f.place (.group name inside .nil))).trans ?_
      cases rest.toLayout lookup with
      | error target => rfl
      | ok nodes => exact congrArg Except.ok (Format.place_place ..)

end Built

/-! Only finished formats are embedded. -/

section Finished

variable {lookup : String → Option Format} (finished : ∀ name child, lookup name = some child → child.check = .ok ())

include finished

lemma Item.unclosed?_toLayout {here : ReadItem} {node : Layout → Layout} (resolved : here.toLayout lookup = .ok node)
    (rest : Layout) : (node rest).unclosed? = rest.unclosed? := by
  cases here with
  | scalar type name color bind =>
    cases resolved
    rfl
  | bytes name count color =>
    cases resolved
    rfl
  | embed name times target =>
    simp only [toLayout] at resolved
    split at resolved
    · next child known =>
      cases resolved
      obtain ⟨closed, inside⟩ := Format.unclosed_of_finished (finished _ _ known)
      rw [Layout.unclosed?, closed, inside]
      rfl
    · cases resolved

lemma Outline.unclosed?_toLayout {items : Items} {nodes : Layout} (resolved : items.toLayout lookup = .ok nodes) :
    nodes.unclosed? = none := by
  induction items generalizing nodes with
  | nil =>
    cases resolved
    rfl
  | item here rest ih =>
    obtain ⟨node, first, resolved⟩ := bind_eq_ok_iff.1 resolved
    obtain ⟨others, later, same⟩ := bind_eq_ok_iff.1 resolved
    cases same
    rw [Item.unclosed?_toLayout finished first, ih later]
  | group name inner rest ih_inner ih_rest =>
    obtain ⟨inside, within, resolved⟩ := bind_eq_ok_iff.1 resolved
    obtain ⟨others, later, same⟩ := bind_eq_ok_iff.1 resolved
    cases same
    rw [Layout.unclosed?, ih_inner within, ih_rest later]
    rfl

end Finished

/-- The formats that definitions stand for, after earlier ones: each embeds those before it, or else known ones. -/
inductive Resolves (known : String → Option Format) :
    List NamedFormat → List Definition → List NamedFormat → Prop
  | nil {earlier} : Resolves known earlier [] []
  | cons {earlier d more nodes later} : (∀ entry ∈ earlier, entry.name ≠ d.name) →
    d.items.toLayout (lookupBehind known earlier) = .ok nodes →
    Resolves known (earlier ++ [⟨d.name, d.signature, ⟨nodes, []⟩⟩]) more later →
    Resolves known earlier (d :: more) (⟨d.name, d.signature, ⟨nodes, []⟩⟩ :: later)

variable {known : String → Option Format} {earlier resolved : List NamedFormat} {definitions more : List Definition}
  {d : Definition}

lemma resolveAfter_cons_of_taken (taken : d.name ∈ earlier.map (·.name)) :
    resolveAfter known earlier (d :: more) = .error (.duplicate d.name) := by
  rw [resolveAfter, if_pos (by simpa using taken)]

/-- What resolving comes to at a definition with a new name. -/
lemma resolveAfter_cons_of_new (new : d.name ∉ earlier.map (·.name)) :
    resolveAfter known earlier (d :: more) =
      match d.items.toLayout (lookupBehind known earlier) with
      | .error target => .error (.unknownReference d.name target)
      | .ok nodes =>
        (resolveAfter known (earlier ++ [⟨d.name, d.signature, ⟨nodes, []⟩⟩]) more).map
          (⟨d.name, d.signature, ⟨nodes, []⟩⟩ :: ·) := by
  rw [resolveAfter, if_neg (by simpa using new), Outline.buildOn_eq]
  cases d.items.toLayout (lookupBehind known earlier) with
  | error target => rfl
  | ok nodes =>
    have placed : Format.empty.place nodes = ⟨nodes, []⟩ := congrArg (Format.mk · []) (Layout.nil_append nodes)
    dsimp only [Except.map, Except.mapError, bind, Except.bind]
    rw [placed]

theorem resolveAfter_eq_ok_iff :
    resolveAfter known earlier definitions = .ok resolved ↔ Resolves known earlier definitions resolved := by
  constructor
  · intro found
    induction definitions generalizing earlier resolved with
    | nil =>
      cases found
      exact .nil
    | cons d more ih =>
      by_cases taken : d.name ∈ earlier.map (·.name)
      · rw [resolveAfter_cons_of_taken taken] at found
        cases found
      · rw [resolveAfter_cons_of_new taken] at found
        split at found
        · cases found
        · next nodes built =>
          obtain ⟨later, found_later, rfl⟩ := map_eq_ok_iff.1 found
          exact .cons (by simpa using taken) built (ih found_later)
  · intro resolves
    induction resolves with
    | nil => rfl
    | @cons earlier d more nodes later new built _ ih =>
      rw [resolveAfter_cons_of_new (by simpa using new), built]
      exact map_eq_ok_iff.2 ⟨later, ih, rfl⟩

namespace Resolves

lemma names (resolves : Resolves known earlier definitions resolved) :
    resolved.map (·.name) = definitions.map (·.name) := by
  induction resolves with
  | nil => rfl
  | cons _ _ _ ih => exact congrArg (List.cons _) ih

/-- No two formats have the same name. -/
lemma distinct (resolves : Resolves known earlier definitions resolved) (apart : (earlier.map (·.name)).Nodup) :
    ((earlier ++ resolved).map (·.name)).Nodup := by
  induction resolves with
  | nil => rwa [List.append_nil]
  | @cons earlier d more nodes later new _ _ ih =>
    rw [List.append_cons]
    apply ih
    rw [List.map_append]
    refine apart.append (List.nodup_singleton _) ?_
    rw [List.map_singleton, List.disjoint_singleton]
    intro among
    obtain ⟨entry, before, same⟩ := List.mem_map.1 among
    exact new entry before same

/-- Formats that embed only finished ones are finished. -/
lemma finished (resolves : Resolves known earlier definitions resolved)
    (known_finished : ∀ name child, known name = some child → child.check = .ok ())
    (earlier_finished : ∀ entry ∈ earlier, entry.format.check = .ok ()) :
    ∀ entry ∈ resolved, entry.format.check = .ok () := by
  induction resolves with
  | nil => exact fun _ among => absurd among List.not_mem_nil
  | @cons earlier d more nodes later _ built _ ih =>
    have embedded : ∀ name child, lookupBehind known earlier name = some child → child.check = .ok () := by
      intro name child found
      rcases Option.or_eq_some_iff.1 found with before | ⟨_, elsewhere⟩
      · obtain ⟨entry, among, _, rfl⟩ := NamedFormat.mem_of_find? before
        exact earlier_finished entry among
      · exact known_finished name child elsewhere
    have here : (⟨nodes, []⟩ : Format).check = .ok () := by
      simp [Format.check, Format.unclosed?, Format.openGroup?, Outline.unclosed?_toLayout embedded built]
    refine List.forall_mem_cons.2 ⟨here, ih ?_⟩
    exact List.forall_mem_append.2 ⟨earlier_finished, List.forall_mem_singleton.2 here⟩

/-- Definitions may be resolved in two parts, the second after the first. -/
lemma append {later : List NamedFormat} (resolves : Resolves known earlier definitions resolved)
    (resolves_more : Resolves known (earlier ++ resolved) more later) :
    Resolves known earlier (definitions ++ more) (resolved ++ later) := by
  induction resolves with
  | nil => rwa [List.append_nil] at resolves_more
  | cons new built _ ih =>
    refine .cons new built (ih ?_)
    rwa [List.append_cons] at resolves_more

/-- Formats that are known from elsewhere may be put in front instead, if none of the others has the name of one of
them: then it makes no difference where a name is looked up first. -/
lemma in_front {known' : String → Option Format} {front : List NamedFormat}
    (resolves : Resolves known' earlier definitions resolved)
    (supplied : ∀ name, known' name = (NamedFormat.find? front name).or (known name))
    (apart : ∀ entry ∈ earlier ++ resolved, NamedFormat.find? front entry.name = none) :
    Resolves known (front ++ earlier) definitions resolved := by
  induction resolves with
  | nil => exact .nil
  | @cons earlier d more nodes later new built _ ih =>
    have same_lookup : lookupBehind known (front ++ earlier) = lookupBehind known' earlier := by
      funext name
      rw [lookupBehind, lookupBehind, NamedFormat.find?_append, supplied]
      cases before : NamedFormat.find? earlier name with
      | none => rw [Option.or_none, Option.none_or]
      | some format =>
        -- No format in front has the name of an earlier one, so the earlier one is found on both sides.
        obtain ⟨entry, among, rfl, _⟩ := NamedFormat.mem_of_find? before
        rw [apart entry (List.mem_append_left _ among)]
        rfl
    have in_front : ∀ entry ∈ front, entry.name ≠ d.name :=
      NamedFormat.find?_eq_none.1 (apart ⟨d.name, d.signature, ⟨nodes, []⟩⟩ (by simp))
    refine .cons (List.forall_mem_append.2 ⟨in_front, new⟩) (same_lookup ▸ built) ?_
    rw [List.append_assoc]
    apply ih
    rwa [List.append_cons] at apart

end Resolves
end Description
end ByteAtlas
