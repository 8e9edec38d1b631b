/-
  Runs of labelled transition systems.

  * `Run step s ls t`: steps with the labels `ls` lead from `s` to `t`;
  * `Run.invariant`: what holds of the first state and is preserved by each
    step holds of the last one; `Run.simulates`: a simulation of single steps
    is one of runs;
  * `Run.forall_reached_iff`: the states on the way are all of a kind if and only
    if each step meets the condition that keeps it;
  * `Run.exists_iff`: some labels have a run if and only if each has a step from
    the state it finds;
  * `Run.exists_of_measure`: a run that leads to a state of some kind, by steps
    that decrease a measure;
  * `Run.and_iff_and`: two conditions on the steps that agree under an invariant
    allow the same runs;
  * `Run.append_iff`, `Run.snoc_iff` and `Run.mono` take runs apart and change
    the step relation (to add or drop a condition on each step, use
    `fun s l t => ok s l ∧ step s l t`).
-/
import Mathlib.Tactic.Common

namespace Lib

variable {σ τ ℓ : Type}

/-- A run: the labels of its steps, from the first state to the last. -/
inductive Run (step : σ → ℓ → σ → Prop) : σ → List ℓ → σ → Prop
  | nil (s : σ) : Run step s [] s
  | cons {s t u : σ} {l : ℓ} {ls : List ℓ} : step s l t → Run step t ls u → Run step s (l :: ls) u

namespace Run

variable {step : σ → ℓ → σ → Prop} {astep : τ → ℓ → τ → Prop}

theorem nil_iff {s t : σ} : Run step s [] t ↔ s = t :=
  ⟨fun h => by cases h; rfl, fun h => h ▸ .nil s⟩

theorem cons_iff {s u : σ} {l : ℓ} {ls : List ℓ} :
    Run step s (l :: ls) u ↔ ∃ t, step s l t ∧ Run step t ls u :=
  ⟨fun h => by cases h with | cons h1 h2 => exact ⟨_, h1, h2⟩, fun ⟨_, h1, h2⟩ => .cons h1 h2⟩

theorem append_iff {s u : σ} {ls ls' : List ℓ} :
    Run step s (ls ++ ls') u ↔ ∃ t, Run step s ls t ∧ Run step t ls' u := by
  induction ls generalizing s with
  | nil => simp [nil_iff]
  | cons l ls ih =>
    simp only [List.cons_append, cons_iff, ih]
    constructor
    · rintro ⟨t, h1, v, h2, h3⟩; exact ⟨v, ⟨t, h1, h2⟩, h3⟩
    · rintro ⟨v, ⟨t, h1, h2⟩, h3⟩; exact ⟨t, h1, v, h2, h3⟩

theorem snoc_iff {s u : σ} {ls : List ℓ} {l : ℓ} :
    Run step s (ls ++ [l]) u ↔ ∃ t, Run step s ls t ∧ step t l u := by
  simp [append_iff, cons_iff, nil_iff]

theorem mono {step' : σ → ℓ → σ → Prop} (h : ∀ s l t, step s l t → step' s l t) {s t : σ}
    {ls : List ℓ} (hr : Run step s ls t) : Run step' s ls t := by
  induction hr with
  | nil => exact .nil _
  | cons h1 _ ih => exact .cons (h _ _ _ h1) ih

/-- **Invariants.** -/
theorem invariant {P : σ → Prop} (hstep : ∀ s l t, P s → step s l t → P t) {s t : σ}
    {ls : List ℓ} (hs : P s) (hr : Run step s ls t) : P t := by
  induction hr with
  | nil => exact hs
  | cons h1 _ ih => exact ih (hstep _ _ _ hs h1)

/-- **Forward simulation.** -/
theorem simulates {R : σ → τ → Prop}
    (hstep : ∀ s a l s', R s a → step s l s' → ∃ a', astep a l a' ∧ R s' a') {s s' : σ}
    {ls : List ℓ} {a : τ} (h0 : R s a) (hr : Run step s ls s') : ∃ a', Run astep a ls a' ∧ R s' a' := by
  induction hr generalizing a with
  | nil => exact ⟨a, .nil a, h0⟩
  | cons h1 _ ih =>
    obtain ⟨a₁, ha₁, hR₁⟩ := hstep _ _ _ _ h0 h1
    obtain ⟨a₂, ha₂, hR₂⟩ := ih hR₁
    exact ⟨a₂, .cons ha₁ ha₂, hR₂⟩

/-- **Exact conditions.** Where a step from a state of `P` leads to one if and only if it meets `C`,
    every state on the way is of `P` if and only if every step meets `C`. -/
theorem forall_reached_iff {I P : σ → Prop} {C : σ → ℓ → Prop}
    (hdet : ∀ s l t t', step s l t → step s l t' → t' = t) (hI : ∀ s l t, I s → step s l t → I t)
    (hP : ∀ s l t, I s → P s → step s l t → (P t ↔ C s l)) {s u : σ} {ls : List ℓ} (hIs : I s)
    (hPs : P s) (hr : Run step s ls u) :
    (∀ ls₁ ls₂ t, ls = ls₁ ++ ls₂ → Run step s ls₁ t → P t) ↔
      Run (fun s l t => step s l t ∧ C s l) s ls u := by
  induction hr with
  | nil s =>
    refine iff_of_true (fun ls₁ ls₂ t he h => ?_) (.nil s)
    obtain ⟨rfl, -⟩ := List.append_eq_nil_iff.1 he.symm
    exact nil_iff.1 h ▸ hPs
  | @cons s t u l ls h1 hr ih =>
    have hIt := hI s l t hIs h1
    constructor
    · intro h
      have hPt : P t := h [l] ls t rfl (.cons h1 (.nil t))
      have hrest := (ih hIt hPt).1 fun ls₁ ls₂ v he hv => h (l :: ls₁) ls₂ v (by rw [he]; rfl) (.cons h1 hv)
      exact .cons ⟨h1, (hP s l t hIs hPs h1).1 hPt⟩ hrest
    · intro h ls₁ ls₂ v he hv
      obtain ⟨t', ⟨ht', hC⟩, hrest⟩ := cons_iff.1 h
      obtain rfl := hdet s l t t' h1 ht'
      have hPt := (hP s l t' hIs hPs h1).2 hC
      cases hv with
      | nil => exact hPs
      | @cons _ w _ k ks hk hks =>
        obtain ⟨rfl, rfl⟩ := List.cons.inj he
        obtain rfl := hdet s l t' w h1 hk
        exact (ih hIt hPt).2 hrest ks ls₂ v rfl hks

/-- **Which labels go through.** Where a label has a step from a state of `I` if and only if it meets
    `C`, some labels have a run if and only if each meets `C` in the state that those before it lead
    to. -/
theorem exists_iff {I : σ → Prop} {C : σ → ℓ → Prop}
    (hdet : ∀ s l t t', I s → step s l t → step s l t' → t' = t)
    (hI : ∀ s l t, I s → step s l t → I t) (hC : ∀ s l, I s → ((∃ t, step s l t) ↔ C s l)) {s : σ}
    (hIs : I s) {ls : List ℓ} :
    (∃ t, Run step s ls t) ↔ ∀ ls₁ l ls₂ t, ls = ls₁ ++ l :: ls₂ → Run step s ls₁ t → C t l := by
  induction ls generalizing s with
  | nil => exact iff_of_true ⟨s, .nil s⟩ fun ls₁ l ls₂ t he => absurd he.symm (by simp)
  | cons l ls ih =>
    constructor
    · rintro ⟨u, hr⟩ ls₁ l' ls₂ t he ht
      obtain ⟨v, hv, hr⟩ := cons_iff.1 hr
      cases ht with
      | nil =>
        cases he
        exact (hC s l hIs).1 ⟨v, hv⟩
      | @cons _ w _ k ks hk hks =>
        obtain ⟨rfl, rfl⟩ := List.cons.inj he
        obtain rfl := hdet s l v w hIs hv hk
        exact (ih (hI s l w hIs hk)).1 ⟨u, hr⟩ ks l' ls₂ t rfl hks
    · intro h
      obtain ⟨v, hv⟩ := (hC s l hIs).2 (h [] l ls s rfl (.nil s))
      obtain ⟨u, hr⟩ := (ih (hI s l v hIs hv)).2 fun ls₁ l' ls₂ t he ht =>
        h (l :: ls₁) l' ls₂ t (by rw [he]; rfl) (.cons hv ht)
      exact ⟨u, .cons hv hr⟩

/-- **Conditions that agree.** Where an invariant is kept by the steps that meet `P`, and `P` and `C`
    agree on the steps from its states, they hold of the steps of the same runs. -/
theorem and_iff_and {I : σ → Prop} {P C : σ → ℓ → σ → Prop}
    (hI : ∀ s l t, I s → step s l t → P s l t → I t)
    (h : ∀ s l t, I s → step s l t → (P s l t ↔ C s l t)) {s t : σ} {ls : List ℓ} (hs : I s) :
    Run (fun s l t => step s l t ∧ P s l t) s ls t ↔ Run (fun s l t => step s l t ∧ C s l t) s ls t := by
  induction ls generalizing s with
  | nil => rw [nil_iff, nil_iff]
  | cons l ls ih =>
    rw [cons_iff, cons_iff]
    constructor
    · rintro ⟨u, ⟨hu, hP⟩, hr⟩
      exact ⟨u, ⟨hu, (h s l u hs hu).1 hP⟩, (ih (hI s l u hs hu hP)).1 hr⟩
    · rintro ⟨u, ⟨hu, hC⟩, hr⟩
      have hP := (h s l u hs hu).2 hC
      exact ⟨u, ⟨hu, hP⟩, (ih (hI s l u hs hu hP)).2 hr⟩

/-- Where every state of `P` that is not one of `Q` has a step that decreases `μ`, a run leads
    to `Q`. -/
theorem exists_of_measure {P Q : σ → Prop} (μ : σ → ℕ)
    (h : ∀ s, P s → ¬Q s → ∃ l t, step s l t ∧ P t ∧ μ t < μ s) {s : σ} (hs : P s) :
    ∃ ls t, Run step s ls t ∧ P t ∧ Q t := by
  by_cases hq : Q s
  · exact ⟨[], s, .nil s, hs, hq⟩
  · obtain ⟨l, t, hstep, ht, hlt⟩ := h s hs hq
    obtain ⟨ls, u, hrun, hu⟩ := exists_of_measure μ h ht
    exact ⟨l :: ls, u, .cons hstep hrun, hu⟩
termination_by μ s

/-- The run of a total function. -/
theorem foldl_iff {next : σ → ℓ → σ} {s t : σ} {ls : List ℓ} :
    Run (fun s l t => t = next s l) s ls t ↔ t = ls.foldl next s := by
  induction ls generalizing s with
  | nil => rw [nil_iff, List.foldl_nil, eq_comm]
  | cons l ls ih =>
    rw [cons_iff, List.foldl_cons, ← ih]
    exact ⟨fun ⟨_, h, hrun⟩ => h ▸ hrun, fun hrun => ⟨_, rfl, hrun⟩⟩

/-- The run of a list of labels, when they determine the steps. -/
theorem of_foldlM {next : σ → ℓ → Option σ} {s t : σ} {ls : List ℓ} (h : ls.foldlM next s = some t) :
    Run (fun s l t => next s l = some t) s ls t := by
  induction ls generalizing s with
  | nil => exact nil_iff.2 (Option.some.inj h)
  | cons l ls ih =>
    obtain ⟨u, hu, hrest⟩ := Option.bind_eq_some_iff.1 h
    exact .cons hu (ih hrest)

theorem foldlM_eq {next : σ → ℓ → Option σ} {s t : σ} {ls : List ℓ}
    (h : Run (fun s l t => next s l = some t) s ls t) : ls.foldlM next s = some t := by
  induction h with
  | nil => rfl
  | cons h1 _ ih => exact Option.bind_eq_some_iff.2 ⟨_, h1, ih⟩

end Run

/-! ## Answers -/

variable {α β : Type}

/-- All sequences of the calls of `C` go through from `s`, with answers that they have from `r` as
    well; a label is a call and its answer. -/
def AnswersAs (step : σ → α × β → σ → Prop) (C : α → Prop) (s r : σ) : Prop :=
  ∀ as : List α, (∀ a ∈ as, C a) → ∃ ls t u, ls.map Prod.fst = as ∧ Run step s ls t ∧ Run step r ls u

/-- In particular, each of the calls goes through. -/
theorem AnswersAs.exists_step {step : σ → α × β → σ → Prop} {C : α → Prop} {s r : σ}
    (h : AnswersAs step C s r) {a : α} (ha : C a) : ∃ b t, step s (a, b) t := by
  obtain ⟨ls, t, -, hls, hrun, -⟩ := h [a] fun x hx => List.mem_singleton.1 hx ▸ ha
  obtain ⟨⟨x, b⟩, rfl, rfl⟩ := List.map_eq_singleton_iff.1 hls
  obtain ⟨u, hstep, -⟩ := Run.cons_iff.1 hrun
  exact ⟨b, u, hstep⟩

end Lib
