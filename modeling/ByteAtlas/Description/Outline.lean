/-!
# Outlines

The nesting of a description: items side by side, and groups of items.
-/

namespace ByteAtlas.Description

/-- Items of type `ι` and groups with names of type `σ`; each carries what follows it. -/
inductive Outline (ι σ : Type)
  | nil
  | item (here : ι) (rest : Outline ι σ)
  | group (name : σ) (inner rest : Outline ι σ)
deriving DecidableEq, Repr

namespace Outline

variable {ι σ : Type}

/-- Items side by side. -/
def ofItems : List ι → Outline ι σ
  | [] => nil
  | i :: more => item i (ofItems more)

end Outline

/-- The lines from which sections are put together: `η` is what a heading holds. -/
inductive Line (η ι σ : Type)
  | heading (h : η)
  | item (i : ι)
  | group (name : σ)
  | close
deriving DecidableEq, Repr

/-- A heading with the items below it. -/
structure Section (η ι σ : Type) where
  heading : η
  body : Outline ι σ
deriving DecidableEq, Repr

/-- What lies to the right of a place between lines: the bodies that are closed there but not opened, from
the inside out, and the sections after them. -/
structure Right (η ι σ : Type) where
  bodies : List (Outline ι σ)
  sections : List (Section η ι σ)

namespace Right

variable {η ι σ : Type}

/-- Puts a line in front. A heading takes the one body that is closed but not opened, a group the
innermost, and an item belongs into it. -/
def attach? : Line η ι σ → Right η ι σ → Option (Right η ι σ)
  | .close, ⟨bodies, sections⟩ => some ⟨.nil :: bodies, sections⟩
  | .item i, ⟨body :: outer, sections⟩ => some ⟨.item i body :: outer, sections⟩
  | .group name, ⟨inner :: rest :: outer, sections⟩ => some ⟨.group name inner rest :: outer, sections⟩
  | .heading h, ⟨[body], sections⟩ => some ⟨[], ⟨h, body⟩ :: sections⟩
  | _, _ => none

/-- Puts lines together from the right. -/
def ofLines? : List (Line η ι σ) → Option (Right η ι σ)
  | [] => some ⟨[], []⟩
  | line :: more => (ofLines? more).bind (attach? line)

end Right

/-- The sections that lines form, if every body that is closed was opened and the other way round. -/
def sectionsOfLines? {η ι σ : Type} (lines : List (Line η ι σ)) : Option (List (Section η ι σ)) :=
  match Right.ofLines? lines with
  | some ⟨[], sections⟩ => some sections
  | _ => none

end ByteAtlas.Description
