/-
  Members of groups, each in one group at most, put down twice: a group has a
  set of members, a member the group it is in.

  * `Roster.Consistent`: the two agree, and only groups have members;
  * `enter`, `exit`, `found`, `drop` and `close` keep this: `Consistent.enter`
    and so on;
  * `Consistent.unique`: nobody is a member of two groups.
-/
import Mathlib.Data.Finset.Card
import Mathlib.Data.Set.Insert
import Mathlib.Logic.Function.Basic

namespace Lib

@[ext]
structure Roster (R G : Type) where
  groups : Set G
  members : G → Finset R
  groupOf : R → Option G

namespace Roster

variable {R G : Type} {m : Roster R G} {r r' : R} {g g' : G}

structure Consistent (m : Roster R G) : Prop where
  iff : ∀ r g, m.groupOf r = some g ↔ g ∈ m.groups ∧ r ∈ m.members g
  missing : ∀ g, g ∉ m.groups → m.members g = ∅

theorem Consistent.unique (h : m.Consistent) (hg : r ∈ m.members g) (hg' : r ∈ m.members g') : g = g' := by
  have hgroup : ∀ g, r ∈ m.members g → m.groupOf r = some g := by
    intro g hmem
    refine (h.iff r g).2 ⟨?_, hmem⟩
    by_contra hnot
    rw [h.missing g hnot] at hmem
    simp at hmem
  exact Option.some.inj ((hgroup g hg).symm.trans (hgroup g' hg'))

theorem Consistent.not_mem (h : m.Consistent) (hr : m.groupOf r = none) (g : G) : r ∉ m.members g := by
  intro hmem
  by_cases hg : g ∈ m.groups
  · rw [(h.iff r g).2 ⟨hg, hmem⟩] at hr
    cases hr
  · rw [h.missing g hg] at hmem
    simp at hmem

/-- A new group, without members. -/
def found (g : G) (m : Roster R G) : Roster R G :=
  { m with groups := insert g m.groups }

theorem Consistent.found (h : m.Consistent) (hg : m.members g = ∅) : (m.found g).Consistent := by
  refine ⟨fun r' g' => ?_, fun g' hg' => h.missing g' fun hmem => hg' (Or.inr hmem)⟩
  show m.groupOf r' = some g' ↔ (g' = g ∨ g' ∈ m.groups) ∧ r' ∈ m.members g'
  rw [h.iff]
  refine ⟨fun he => ⟨.inr he.1, he.2⟩, fun he => ⟨he.1.resolve_left ?_, he.2⟩⟩
  rintro rfl
  rw [hg] at he
  simp at he

/-- Groups are no more. -/
def drop (gs : Set G) (m : Roster R G) : Roster R G :=
  { m with groups := m.groups \ gs }

theorem Consistent.drop {gs : Set G} (h : m.Consistent) (hgs : ∀ g ∈ gs, m.members g = ∅) :
    (m.drop gs).Consistent := by
  refine ⟨fun r' g' => ?_, fun g' hg' => ?_⟩
  · show m.groupOf r' = some g' ↔ (g' ∈ m.groups ∧ g' ∉ gs) ∧ r' ∈ m.members g'
    rw [h.iff]
    refine ⟨fun he => ⟨⟨he.1, fun hmem => ?_⟩, he.2⟩, fun he => ⟨he.1.1, he.2⟩⟩
    rw [hgs g' hmem] at he
    simp at he
  · by_cases hmem : g' ∈ gs
    · exact hgs g' hmem
    · exact h.missing g' fun hgroup => hg' ⟨hgroup, hmem⟩

section
variable [DecidableEq R] [DecidableEq G]

/-- A member that is in no group enters one. -/
def enter (r : R) (g : G) (m : Roster R G) : Roster R G where
  groups := m.groups
  members := Function.update m.members g (insert r (m.members g))
  groupOf := Function.update m.groupOf r (some g)

/-- A member leaves its group. -/
def exit (r : R) (g : G) (m : Roster R G) : Roster R G where
  groups := m.groups
  members := Function.update m.members g ((m.members g).erase r)
  groupOf := Function.update m.groupOf r none

/-- A group is no more, and its members are in none. -/
def close (g : G) (m : Roster R G) : Roster R G where
  groups := m.groups \ {g}
  members := Function.update m.members g ∅
  groupOf := fun r => if r ∈ m.members g then none else m.groupOf r

theorem mem_members_enter : r' ∈ (m.enter r g).members g' ↔ (g' = g ∧ r' = r) ∨ r' ∈ m.members g' := by
  by_cases hg : g' = g
  · subst hg
    simp [enter]
  · simp [enter, hg]

theorem mem_members_exit : r' ∈ (m.exit r g).members g' ↔ r' ∈ m.members g' ∧ ¬(g' = g ∧ r' = r) := by
  by_cases hg : g' = g
  · subst hg
    simp [exit, and_comm]
  · simp [exit, hg]

theorem mem_members_close : r' ∈ (m.close g).members g' ↔ r' ∈ m.members g' ∧ g' ≠ g := by
  by_cases hg : g' = g
  · subst hg
    simp [close]
  · simp [close, hg]

theorem Consistent.enter (h : m.Consistent) (hr : m.groupOf r = none) (hg : g ∈ m.groups) :
    (m.enter r g).Consistent := by
  refine ⟨fun r' g' => ?_, fun g' hg' => ?_⟩
  · rw [mem_members_enter]
    by_cases hr' : r' = r
    · subst hr'
      have hnot := h.not_mem hr g'
      simp only [Roster.enter, Function.update_self, Option.some.injEq, hnot, or_false, and_true]
      exact ⟨fun he => he ▸ ⟨hg, rfl⟩, fun he => he.2.symm⟩
    · simp only [Roster.enter, Function.update_of_ne hr', h.iff, hr', and_false, false_or]
  · have hne : g' ≠ g := fun he => hg' (he ▸ hg)
    show Function.update m.members g _ g' = ∅
    rw [Function.update_of_ne hne, h.missing g' hg']

theorem Consistent.exit (h : m.Consistent) (hr : m.groupOf r = some g) : (m.exit r g).Consistent := by
  refine ⟨fun r' g' => ?_, fun g' hg' => ?_⟩
  · rw [mem_members_exit]
    by_cases hr' : r' = r
    · subst hr'
      simp only [Roster.exit, Function.update_self, reduceCtorEq, false_iff, not_and, and_true, not_not]
      intro hg' hmem
      exact Option.some.inj (((h.iff r' g').2 ⟨hg', hmem⟩).symm.trans hr)
    · simp only [Roster.exit, Function.update_of_ne hr', h.iff, hr', and_false, not_false_eq_true,
        and_true]
  · have hne : g' ≠ g := fun he => hg' (he ▸ ((h.iff r g).1 hr).1)
    show Function.update m.members g _ g' = ∅
    rw [Function.update_of_ne hne, h.missing g' hg']

theorem Consistent.close (h : m.Consistent) : (m.close g).Consistent := by
  refine ⟨fun r' g' => ?_, fun g' hg' => ?_⟩
  · rw [mem_members_close]
    show (if r' ∈ m.members g then none else m.groupOf r') = some g' ↔
      (g' ∈ m.groups ∧ g' ∉ ({g} : Set G)) ∧ _
    split_ifs with hmem
    · simp only [false_iff, not_and]
      rintro - hmem'
      exact not_not.2 (h.unique hmem' hmem)
    · rw [h.iff]
      refine ⟨fun he => ⟨⟨he.1, ?_⟩, he.2, ?_⟩, fun he => ⟨he.1.1, he.2.1⟩⟩
      · rintro rfl
        exact hmem he.2
      · rintro rfl
        exact hmem he.2
  · by_cases hne : g' = g
    · subst hne
      exact Function.update_self ..
    · show Function.update m.members g ∅ g' = ∅
      rw [Function.update_of_ne hne]
      exact h.missing g' fun hmem => hg' ⟨hmem, hne⟩

/-- A group that is found and closed again. -/
theorem Consistent.close_enter_found (h : m.Consistent) (hr : m.groupOf r = none) (hg : g ∉ m.groups) :
    ((m.found g).enter r g).close g = m := by
  have hnone := h.missing g hg
  obtain ⟨groups, members, groupOf⟩ := m
  unfold Roster.close Roster.enter Roster.found
  dsimp only at hr hg hnone ⊢
  congr 1
  · exact Set.insert_sdiff_self_of_notMem hg
  · funext g'
    rw [Function.update_idem, Function.update_apply]
    split_ifs with hg'
    · rw [hg', hnone]
    · rfl
  · funext r'
    by_cases hr' : r' = r
    · simp [hr', hr]
    · simp [hr', hnone]

end

end Roster

end Lib
