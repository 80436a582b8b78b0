/-
# Custody of external resources

An owner asks a provider for resources and keeps a record of them. Creating a
resource and recording it are separate steps, and whoever performs them may stop
between the two. When the owner no longer wants its resources, the recorded ones are
removed and the owner is released.

The bookkeeping is sound when a released owner leaves nothing behind. What this
takes is a condition on one moment only, the one at which the owner stops wanting its
resources: nobody may still be creating one, and whatever was created has been recorded.
Before that moment anything may happen, and afterwards nothing new comes into being.
-/

import Mathlib.Data.Set.Lattice

namespace ControlPlane.Math

universe u

/-- What is true of the resources of one owner. -/
structure Custody (ρ : Type u) where
  /-- The owner asks for its resources. -/
  wanted : Prop
  /-- Somebody may still create a resource for the owner. -/
  creating : Prop
  /-- The resources the owner's record names. -/
  recorded : Set ρ
  /-- The resources that were ever created for the owner. -/
  created : Set ρ
  /-- The resources known to be gone. -/
  gone : Set ρ
  /-- The owner has given up its resources. -/
  released : Prop

namespace Custody

variable {ρ : Type u}

/-- A released owner leaves nothing behind, and an owner that does not want its
resources any more has all of them on record. -/
structure Sound (c : Custody ρ) : Prop where
  settled : ¬ c.wanted → ¬ c.creating ∧ c.created ⊆ c.recorded ∪ c.gone
  empty : c.released → ¬ c.wanted ∧ c.created ⊆ c.gone

/-- What one step may do to the resources of an owner. -/
inductive Move (c d : Custody ρ) : Prop
  /-- While they are wanted, resources are created and recorded in any order. -/
  | acquiring (before : c.wanted) (after : d.wanted) (kept : ¬ d.released)
  /-- The owner stops wanting them when all of them are recorded. -/
  | close (quiet : ¬ d.creating) (known : d.created ⊆ d.recorded ∪ d.gone) (kept : ¬ d.released)
  /-- From then on resources only go, and the record keeps what is not yet gone. -/
  | removing (before : ¬ c.wanted) (after : ¬ d.wanted) (creating : d.creating → c.creating)
      (created : d.created ⊆ c.created) (recorded : c.recorded ⊆ d.recorded ∪ d.gone)
      (gone : c.gone ⊆ d.gone) (released : d.released → c.released ∨ c.recorded ⊆ d.gone)

theorem Sound.move {c d : Custody ρ} (hsound : c.Sound) (hmove : Move c d) : d.Sound := by
  cases hmove with
  | acquiring before after kept =>
    exact ⟨fun hnot => absurd after hnot, fun hreleased => absurd hreleased kept⟩
  | close quiet known kept =>
    exact ⟨fun _ => ⟨quiet, known⟩, fun hreleased => absurd hreleased kept⟩
  | removing before after creating created recorded gone released =>
    obtain ⟨hquiet, hknown⟩ := hsound.settled before
    constructor
    · intro _
      refine ⟨fun h => hquiet (creating h), fun resource hmem => ?_⟩
      rcases hknown (created hmem) with hrecorded | hgone
      · exact recorded hrecorded
      · exact Or.inr (gone hgone)
    · intro hreleased
      refine ⟨after, fun resource hmem => ?_⟩
      rcases released hreleased with hbefore | hremoved
      · exact gone ((hsound.empty hbefore).2 (created hmem))
      · rcases hknown (created hmem) with hrecorded | hgone
        · exact hremoved hrecorded
        · exact gone hgone

end Custody

end ControlPlane.Math
