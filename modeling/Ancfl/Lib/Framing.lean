/-
  Messages in a byte stream, taken out of a buffer as they become complete.

  `enc` is how a message is put into the stream, `Valid` which ones are sent.

  * `Incomplete`: the bytes of a message without its end;
  * `cut`: whatever part of the stream has come, it is some whole messages and
    the beginning of one, and the rest continues from there.
-/
import Mathlib.Tactic.Common
import Mathlib.Data.List.Basic
import Mathlib.Data.List.Flatten

namespace Lib.Framing

variable {α M : Type} {enc : M → List α} {Valid : M → Prop}

/-- Some bytes of a message, but not all of them. -/
def Incomplete (enc : M → List α) (Valid : M → Prop) (t : List α) : Prop :=
  ∃ m u, Valid m ∧ u ≠ [] ∧ t ++ u = enc m

theorem incomplete_nil {m : M} (hm : Valid m) (hne : enc m ≠ []) : Incomplete enc Valid [] :=
  ⟨m, enc m, hm, hne, rfl⟩

/-- **A cut of the stream** is a cut of the list of messages. -/
theorem cut {t p q : List α} (ht : Incomplete enc Valid t) : ∀ {ms : List M}, (∀ m ∈ ms, Valid m) →
    p ++ q = ms.flatMap enc ++ t →
    ∃ ms₁ ms₂ t₁, ms = ms₁ ++ ms₂ ∧ Incomplete enc Valid t₁ ∧ p = ms₁.flatMap enc ++ t₁ ∧
      t₁ ++ q = ms₂.flatMap enc ++ t := by
  intro ms
  induction ms generalizing p with
  | nil =>
    intro _ hpq
    obtain ⟨m, u, hm, hu, hmu⟩ := ht
    rw [List.flatMap_nil, List.nil_append] at hpq
    refine ⟨[], [], p, rfl, ⟨m, q ++ u, hm, fun h => hu (List.append_eq_nil_iff.1 h).2, ?_⟩, rfl, hpq⟩
    rw [← List.append_assoc, hpq, hmu]
  | cons m ms ih =>
    intro hms hpq
    rw [List.flatMap_cons, List.append_assoc] at hpq
    rcases List.append_eq_append_iff.1 hpq with ⟨u, hu, hq⟩ | ⟨p', hp, hrest⟩
    · by_cases hnil : u = []
      · -- the cut is right behind the message
        subst hnil
        rw [List.append_nil] at hu
        obtain ⟨ms₁, ms₂, t₁, hsplit, ht₁, hp₁, hq₁⟩ :=
          ih (p := []) (fun c hc => hms c (List.mem_cons_of_mem _ hc)) hq
        refine ⟨m :: ms₁, ms₂, t₁, by rw [hsplit]; rfl, ht₁, ?_, hq₁⟩
        rw [List.flatMap_cons, List.append_assoc, ← hp₁, ← hu, List.append_nil]
      · refine ⟨[], m :: ms, p, rfl, ⟨m, u, hms m (by simp), hnil, hu.symm⟩, rfl, ?_⟩
        rw [List.flatMap_cons, List.append_assoc, hpq]
    · obtain ⟨ms₁, ms₂, t₁, hsplit, ht₁, hp₁, hq₁⟩ :=
        ih (fun c hc => hms c (List.mem_cons_of_mem _ hc)) hrest.symm
      refine ⟨m :: ms₁, ms₂, t₁, by rw [hsplit]; rfl, ht₁, ?_, hq₁⟩
      rw [List.flatMap_cons, List.append_assoc, ← hp₁, hp]

end Lib.Framing
