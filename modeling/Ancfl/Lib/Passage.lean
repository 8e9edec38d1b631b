/-
  What a scanner reads in a text, piece by piece.

  * `Passes`: wherever the piece stands, the scanner goes over it from one state
    to another, and what has been read changes from `d` to `f d`;
  * `Passes.append`, `Passes.flatMap`: pieces one after the other;
  * `passes_element`: a word with actions at its first byte, and the byte after
    it, at which the word is taken;
  * `run_loop`: bytes that do not leave a state.
-/
import Ancfl.Lib.Automaton

namespace Lib

open Automaton

variable {A ε σ D : Type} {M : Scanner A} {act : List UInt8 → A → ℕ → σ → Except ε σ} {R : σ → D → Prop}
  {u w : List UInt8} {cs cs' cs'' : ℕ} {f g : D → D}

/-- The scanner `M` reads `w`, a piece of a text; `act` has the text, and `R s d` says that `s` has read `d`. -/
def Passes (M : Scanner A) (act : List UInt8 → A → ℕ → σ → Except ε σ) (R : σ → D → Prop) (w : List UInt8)
    (cs cs' : ℕ) (f : D → D) : Prop :=
  ∀ (pre rest : List UInt8) (s : σ) (d : D), R s d → ∃ s', R s' (f d) ∧
    M.scan (act (pre ++ (w ++ rest))) (w ++ rest) pre.length cs s =
      M.scan (act (pre ++ (w ++ rest))) rest (pre ++ w).length cs' s'

theorem Passes.nil : Passes M act R [] cs cs id := by
  intro pre rest s d hs
  exact ⟨s, hs, by simp⟩

theorem Passes.append (hu : Passes M act R u cs cs' f) (hw : Passes M act R w cs' cs'' g) :
    Passes M act R (u ++ w) cs cs'' (g ∘ f) := by
  intro pre rest s d hs
  obtain ⟨s₁, hs₁, hscan₁⟩ := hu pre (w ++ rest) s d hs
  obtain ⟨s₂, hs₂, hscan₂⟩ := hw (pre ++ u) rest s₁ (f d) hs₁
  refine ⟨s₂, hs₂, ?_⟩
  simp only [List.append_assoc] at hscan₁ hscan₂ ⊢
  rw [hscan₁, hscan₂]

/-- Pieces that lead back to the state. -/
theorem Passes.flatMap {α : Type} {text : α → List UInt8} {f : α → D → D} : ∀ {l : List α},
    (∀ x ∈ l, Passes M act R (text x) cs cs (f x)) →
    Passes M act R (l.flatMap text) cs cs fun d => l.foldl (fun d x => f x d) d
  | [], _ => .nil
  | x :: l, h => by
    rw [List.flatMap_cons]
    exact (h x (by simp)).append (Passes.flatMap fun y hy => h y (by simp [hy]))

theorem Passes.congr (h : Passes M act R w cs cs' f) (hfg : ∀ d, f d = g d) : Passes M act R w cs cs' g := by
  rwa [← funext hfg]

theorem scan_step {act : A → ℕ → σ → Except ε σ} {c : UInt8} {acts : List A} {p : ℕ} {s s' : σ}
    (hnext : M.next cs c = some (acts, cs')) (hacts : acts.any M.stops = false)
    (hperform : Scanner.perform act p acts s = .ok s') : M.scan act (c :: w) p cs s = M.scan act w (p + 1) cs' s' := by
  rw [Scanner.scan_cons hnext, hperform]
  simp only [hacts, Bool.false_eq_true, if_false]

/-- One byte. -/
theorem passes_byte {c : UInt8} {acts : List A} (hnext : M.next cs c = some (acts, cs'))
    (hacts : acts.any M.stops = false)
    (hread : ∀ pre rest s d, R s d →
      ∃ s', Scanner.perform (act (pre ++ (c :: rest))) pre.length acts s = .ok s' ∧ R s' (f d)) :
    Passes M act R [c] cs cs' f := by
  intro pre rest s d hs
  obtain ⟨s', hperform, hs'⟩ := hread pre rest s d hs
  refine ⟨s', hs', ?_⟩
  rw [List.singleton_append, scan_step hnext hacts hperform, List.length_append, List.length_singleton]

theorem perform_ok {act : A → ℕ → σ → Except ε σ} {a : A} {acts : List A} {p : ℕ} {s s' : σ}
    (h : act a p s = .ok s') : Scanner.perform act p (a :: acts) s = Scanner.perform act p acts s' := by
  rw [Scanner.perform, h]

/-- Pieces that lead from some states to some of them. -/
theorem Passes.flatMap_mem {α : Type} {text : α → List UInt8} {f : α → D → D} {l : List ℕ} : ∀ {xs : List α},
    (∀ x ∈ xs, ∀ cs ∈ l, ∃ cs' ∈ l, Passes M act R (text x) cs cs' (f x)) → ∀ {cs}, cs ∈ l →
      ∃ cs' ∈ l, Passes M act R (xs.flatMap text) cs cs' fun d => xs.foldl (fun d x => f x d) d
  | [], _, cs, hcs => ⟨cs, hcs, .nil⟩
  | x :: xs, h, cs, hcs => by
    obtain ⟨cs₁, hcs₁, h₁⟩ := h x (by simp) cs hcs
    obtain ⟨cs₂, hcs₂, h₂⟩ := Passes.flatMap_mem (fun y hy => h y (List.mem_cons_of_mem _ hy)) hcs₁
    exact ⟨cs₂, hcs₂, by rw [List.flatMap_cons]; exact h₁.append h₂⟩

variable [DecidableEq A]

/-- **A word and the byte after it**: the word has actions at its first byte, the byte has others. -/
theorem passes_element {start t : ℕ} {acts final : List A} {c : UInt8} (hne : w ≠ [])
    (hword : run (enter M start acts) w none = some (some t)) (hacts : acts.any M.stops = false)
    (hnext : M.next t c = some (final, cs')) (hfinal : final.any M.stops = false)
    (hread : ∀ pre rest s d, R s d → ∃ s₁ s₂,
      Scanner.perform (act (pre ++ (w ++ c :: rest))) pre.length acts s = .ok s₁ ∧
        Scanner.perform (act (pre ++ (w ++ c :: rest))) (pre.length + w.length) final s₁ = .ok s₂ ∧ R s₂ (f d)) :
    Passes M act R (w ++ [c]) start cs' f := by
  intro pre rest s d hs
  obtain ⟨s₁, s₂, hperform₁, hperform₂, hs₂⟩ := hread pre rest s d hs
  obtain ⟨target, htarget, hscan⟩ := scan_enter hword hne hacts
  cases htarget
  refine ⟨s₂, hs₂, ?_⟩
  rw [List.append_assoc, List.singleton_append, hscan _ _ s s₁ hperform₁, scan_step hnext hfinal hperform₂]
  simp only [List.length_append, List.length_singleton, Nat.add_assoc]

/-- The words of a production. -/
theorem run_of_leads {r : RegularExpression UInt8} {start : ℕ} {acts : List A} {P : ℕ → Prop}
    (h : Leads (enter M start acts) r [none] fun x => ∀ t ∈ x, P t) (hw : w ∈ r.matches') (hne : w ≠ []) :
    ∃ t, P t ∧ run (enter M start acts) w none = some (some t) := by
  obtain ⟨x, hx, hrun⟩ := h.run hw (List.mem_singleton_self none)
  obtain ⟨c, v, rfl⟩ := List.exists_cons_of_ne_nil hne
  obtain ⟨y, hy, hrest⟩ := Option.bind_eq_some_iff.1 hrun
  obtain ⟨z, -, hz⟩ := Option.bind_eq_some_iff.1 hy
  split_ifs at hz
  cases hz
  obtain ⟨t, rfl, -⟩ := run_enter hrest
  exact ⟨t, hx t rfl, hrun⟩

/-! ## Bytes of a kind -/

theorem forall_byte {P : UInt8 → Prop} (h : ∀ n < 256, P (UInt8.ofNat n)) (c : UInt8) : P c := by
  have hc := h c.toNat c.toNat_lt
  rwa [UInt8.ofNat_toNat] at hc

theorem run_loop {S B : Type} {step : S → B → Option S} {s : S} {w : List B} (h : ∀ b ∈ w, step s b = some s) :
    run step w s = some s := by
  induction w with
  | nil => rfl
  | cons b w ih =>
    rw [run, h b (by simp)]
    exact ih fun b hb => h b (by simp [hb])

/-- Steps that keep what holds of the word so far. -/
theorem run_keeps {S B : Type} {step : S → B → Option S} {P : List B → S → Prop} : ∀ {w u : List B} {s : S},
    (∀ b ∈ w, ∀ u s, P u s → ∃ t, step s b = some t ∧ P (u ++ [b]) t) → P u s →
      ∃ t, run step w s = some t ∧ P (u ++ w) t
  | [], u, s, _, hs => ⟨s, rfl, by rwa [List.append_nil]⟩
  | b :: w, u, s, h, hs => by
    obtain ⟨t, hstep, ht⟩ := h b (by simp) u s hs
    obtain ⟨t', hrun, ht'⟩ := run_keeps (fun b' hb' => h b' (List.mem_cons_of_mem _ hb')) ht
    exact ⟨t', by rw [run, hstep]; exact hrun, by rwa [List.append_assoc] at ht'⟩

/-- A first byte, and others that do not leave the state. -/
theorem run_enter_loop {start t : ℕ} {acts : List A} {c : UInt8} (hfirst : M.next start c = some (acts, t))
    (hloop : ∀ b ∈ w, M.next t b = some ([], t)) : run (enter M start acts) (c :: w) none = some (some t) := by
  have hstep : enter M start acts none c = some (some t) := by simp [enter, hfirst]
  rw [run, hstep]
  refine run_loop fun b hb => ?_
  simp [enter, quiet, hloop b hb]

end Lib
