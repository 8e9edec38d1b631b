/-
  Which states a deterministic automaton reaches by the words of a regular
  expression.

  * `run step w s`: the state after a word, if all of it is accepted;
  * `reach step r l`: the states after the words of `r` from those of `l`, as
    a list; `none` if some word is not accepted;
  * `Leads step r l P`: every word of `r` is accepted in the states of `l` and
    leads to states that satisfy `P`, by evaluation of `reach` (`Leads.run`);
  * `enter M start acts`: the automaton of a scanner, from a state in which the
    first byte has the actions `acts` and the others none (`Leads.scan`).
-/
import Ancfl.Lib.Scanner
import Mathlib.Computability.RegularExpressions

namespace Lib.Automaton

open Computability

variable {S B : Type} {step : S → B → Option S}

def run (step : S → B → Option S) : List B → S → Option S
  | [], s => some s
  | b :: w, s => (step s b).bind (run step w)

theorem run_append (u v : List B) (s : S) :
    run step (u ++ v) s = (run step u s).bind (run step v) := by
  induction u generalizing s with
  | nil => rfl
  | cons b u ih =>
    rw [List.cons_append, run, run]
    cases step s b with
    | none => rfl
    | some t => exact ih t

/-- Words one after the other, none of which leaves the states. -/
theorem run_flatten {l : List S} {words : List (List B)}
    (h : ∀ w ∈ words, ∀ s ∈ l, ∃ t ∈ l, run step w s = some t) {s : S} (hs : s ∈ l) :
    ∃ t ∈ l, run step words.flatten s = some t := by
  induction words generalizing s with
  | nil => exact ⟨s, hs, rfl⟩
  | cons w words ih =>
    obtain ⟨t, ht, hw⟩ := h w List.mem_cons_self s hs
    obtain ⟨u, hu, hwords⟩ := ih (fun v hv => h v (List.mem_cons_of_mem _ hv)) ht
    exact ⟨u, hu, by rw [List.flatten_cons, run_append, hw]; exact hwords⟩

section Reach
variable [DecidableEq S]

/-- The states after one letter. -/
def image (step : S → B → Option S) (b : B) : List S → Option (List S)
  | [] => some []
  | s :: l => (step s b).bind fun t => (image step b l).map (List.insert t)

/-- Add the states that `f` reaches from the `new` ones until there are no more, at most `n` times. -/
def close (f : List S → Option (List S)) : ℕ → List S → List S → Option (List S)
  | 0, _, _ => none
  | _ + 1, [], old => some old
  | n + 1, s :: new, old =>
    (f (s :: new)).bind fun l => close f n (l.filter (· ∉ s :: new ++ old)) (s :: new ++ old)

/-- A star is closed after less than 16 rounds. -/
def reach (step : S → B → Option S) : RegularExpression B → List S → Option (List S)
  | .zero, _ => some []
  | .epsilon, l => some l
  | .char b, l => image step b l
  | .plus p q, l => (reach step p l).bind fun l₁ => (reach step q l).map fun l₂ => l₁ ∪ l₂
  | .comp p q, l => (reach step p l).bind (reach step q)
  | .star p, l => close (reach step p) 16 l []

theorem image_sound {b : B} {l l' : List S} (h : image step b l = some l') {s : S} (hs : s ∈ l) :
    ∃ t ∈ l', step s b = some t := by
  induction l generalizing l' with
  | nil => cases hs
  | cons x l ih =>
    rw [image] at h
    obtain ⟨t, ht, h⟩ := Option.bind_eq_some_iff.1 h
    obtain ⟨l₁, hl₁, rfl⟩ := Option.map_eq_some_iff.1 h
    rcases List.mem_cons.1 hs with rfl | hs
    · exact ⟨t, List.mem_insert_self, ht⟩
    · obtain ⟨u, hu, hstep⟩ := ih hl₁ hs
      exact ⟨u, List.mem_insert_of_mem hu, hstep⟩

/-- A state is expanded with others to states of `l`. -/
def ExpandsIn (f : List S → Option (List S)) (l : List S) (s : S) : Prop :=
  ∃ l₀ l₁, s ∈ l₀ ∧ f l₀ = some l₁ ∧ l₁ ⊆ l

theorem close_sound {f : List S → Option (List S)} {n : ℕ} {new old l : List S}
    (h : close f n new old = some l) : new ++ old ⊆ l ∧ ∀ s ∈ l, s ∈ old ∨ ExpandsIn f l s := by
  induction n generalizing new old with
  | zero => cases h
  | succ n ih =>
    cases new with
    | nil =>
      cases h
      exact ⟨List.Subset.refl _, fun s hs => .inl hs⟩
    | cons s new =>
      obtain ⟨l₁, hl₁, h⟩ := Option.bind_eq_some_iff.1 h
      obtain ⟨hsub, hexpands⟩ := ih h
      have hold : s :: new ++ old ⊆ l := fun t ht => hsub (List.mem_append_right _ ht)
      have hnew : l₁ ⊆ l := by
        intro t ht
        by_cases hmem : t ∈ s :: new ++ old
        · exact hold hmem
        · exact hsub (List.mem_append_left _ (List.mem_filter.2 ⟨ht, decide_eq_true hmem⟩))
      refine ⟨hold, fun t ht => ?_⟩
      rcases hexpands t ht with hmem | hexpands
      · rcases List.mem_append.1 hmem with hmem | hmem
        · exact .inr ⟨s :: new, l₁, hmem, hl₁, hnew⟩
        · exact .inl hmem
      · exact .inr hexpands

/-- The words of a star, if `f` reaches the states after one word of the language. -/
theorem run_star {f : List S → Option (List S)} {L : Language B}
    (hf : ∀ {l l' : List S}, f l = some l' → ∀ w ∈ L, ∀ s ∈ l, ∃ t ∈ l', run step w s = some t)
    {n : ℕ} {l l' : List S} (h : close f n l [] = some l') {w : List B} (hw : w ∈ KStar.kstar L) {s : S}
    (hs : s ∈ l) : ∃ t ∈ l', run step w s = some t := by
  obtain ⟨words, rfl, hwords⟩ := Language.mem_kstar.1 hw
  obtain ⟨hl, hexpands⟩ := close_sound h
  refine run_flatten (fun v hv s hs => ?_) (hl (List.mem_append_left _ hs))
  obtain ⟨l₀, l₁, hs₀, hl₁, hsub⟩ := (hexpands s hs).resolve_left List.not_mem_nil
  obtain ⟨t, ht, hrun⟩ := hf hl₁ v (hwords v hv) s hs₀
  exact ⟨t, hsub ht, hrun⟩

theorem reach_sound {r : RegularExpression B} : ∀ {l l' : List S}, reach step r l = some l' →
    ∀ {w : List B}, w ∈ r.matches' → ∀ {s : S}, s ∈ l → ∃ t ∈ l', run step w s = some t := by
  induction r with
  | zero => rintro l l' - w ⟨⟩
  | epsilon =>
    rintro l l' ⟨⟩ w rfl s hs
    exact ⟨s, hs, rfl⟩
  | char b =>
    rintro l l' h w rfl s hs
    obtain ⟨t, ht, hstep⟩ := image_sound h hs
    exact ⟨t, ht, by rw [run, hstep]; rfl⟩
  | plus p q ihp ihq =>
    intro l l' h w hw s hs
    obtain ⟨l₁, hl₁, h⟩ := Option.bind_eq_some_iff.1 h
    obtain ⟨l₂, hl₂, rfl⟩ := Option.map_eq_some_iff.1 h
    rcases hw with hw | hw
    · obtain ⟨t, ht, hrun⟩ := ihp hl₁ hw hs
      exact ⟨t, List.mem_union_left ht _, hrun⟩
    · obtain ⟨t, ht, hrun⟩ := ihq hl₂ hw hs
      exact ⟨t, List.mem_union_right _ ht, hrun⟩
  | comp p q ihp ihq =>
    intro l l' h w hw s hs
    obtain ⟨l₁, hl₁, h⟩ := Option.bind_eq_some_iff.1 h
    obtain ⟨u, hu, v, hv, rfl⟩ := Language.mem_mul.1 hw
    obtain ⟨t, ht, hrun⟩ := ihp hl₁ hu hs
    obtain ⟨t', ht', hrun'⟩ := ihq h hv ht
    exact ⟨t', ht', by rw [run_append, hrun]; exact hrun'⟩
  | star p ih =>
    intro l l' h w hw s hs
    exact run_star (fun hl w hw s hs => ih hl hw hs) h hw hs

/-- The words of `r` are accepted and lead from `l` to states with `P`. -/
def Leads (step : S → B → Option S) (r : RegularExpression B) (l : List S) (P : S → Prop) : Prop :=
  ∃ l', reach step r l = some l' ∧ ∀ t ∈ l', P t

instance {r : RegularExpression B} {l : List S} {P : S → Prop} [DecidablePred P] :
    Decidable (Leads step r l P) :=
  decidable_of_iff (((reach step r l).any fun l' => l'.all fun t => decide (P t)) = true) <| by
    simp [Leads, Option.any_eq_true]

theorem Leads.run {r : RegularExpression B} {l : List S} {P : S → Prop} (h : Leads step r l P)
    {w : List B} (hw : w ∈ r.matches') {s : S} (hs : s ∈ l) : ∃ t, P t ∧ run step w s = some t := by
  obtain ⟨l', hreach, hP⟩ := h
  obtain ⟨t, ht, hrun⟩ := reach_sound hreach hw hs
  exact ⟨t, hP t ht, hrun⟩

theorem Leads.mono {r : RegularExpression B} {l : List S} {P Q : S → Prop} (h : Leads step r l P)
    (hPQ : ∀ t, P t → Q t) : Leads step r l Q := by
  obtain ⟨l', hreach, hP⟩ := h
  exact ⟨l', hreach, fun t ht => hPQ t (hP t ht)⟩

theorem Leads.add {p q : RegularExpression B} {l : List S} {P : S → Prop} (hp : Leads step p l P)
    (hq : Leads step q l P) : Leads step (p + q) l P := by
  obtain ⟨l₁, hl₁, hP⟩ := hp
  obtain ⟨l₂, hl₂, hQ⟩ := hq
  refine ⟨l₁ ∪ l₂, ?_, fun t ht => (List.mem_union_iff.1 ht).elim (hP t) (hQ t)⟩
  show (reach step p l).bind (fun l₁ => (reach step q l).map fun l₂ => l₁ ∪ l₂) = _
  rw [hl₁, hl₂]
  rfl

end Reach

/-! ## Scanners -/

section
variable {A ε σ : Type} {M : Scanner A} {act : A → ℕ → σ → Except ε σ}
  {start : ℕ} {acts : List A} {w : List UInt8}

/-- A transition without actions. -/
def quiet (M : Scanner A) (cs : ℕ) (c : UInt8) : Option ℕ :=
  match M.next cs c with
  | some ([], target) => some target
  | _ => none

/-- The state before the first byte is `none`; the actions of the first byte are `acts`. -/
def enter [DecidableEq A] (M : Scanner A) (start : ℕ) (acts : List A) : Option ℕ → UInt8 → Option (Option ℕ)
  | none, c => (M.next start c).bind fun x => if x.1 = acts then some (some x.2) else none
  | some cs, c => (quiet M cs c).map some

theorem quiet_eq {cs target : ℕ} {c : UInt8} (h : quiet M cs c = some target) :
    M.next cs c = some ([], target) := by
  unfold quiet at h
  split at h
  · rename_i hnext
    cases h
    exact hnext
  · cases h

theorem scan_quiet {cs target p : ℕ} {s : σ} (v : List UInt8) (h : run (quiet M) w cs = some target) :
    M.scan act (w ++ v) p cs s = M.scan act v (p + w.length) target s := by
  induction w generalizing cs p with
  | nil =>
    cases h
    rfl
  | cons c w ih =>
    obtain ⟨t, ht, hrun⟩ := Option.bind_eq_some_iff.1 h
    rw [List.cons_append, Scanner.scan_cons (quiet_eq ht), List.length_cons]
    refine (ih hrun).trans ?_
    rw [Nat.add_right_comm, Nat.add_assoc]

variable [DecidableEq A]

theorem run_enter {cs : ℕ} {x : Option ℕ} (h : run (enter M start acts) w (some cs) = some x) :
    ∃ target, x = some target ∧ run (quiet M) w cs = some target := by
  induction w generalizing cs with
  | nil =>
    cases h
    exact ⟨cs, rfl, rfl⟩
  | cons c w ih =>
    obtain ⟨y, hy, hrun⟩ := Option.bind_eq_some_iff.1 h
    obtain ⟨t, ht, rfl⟩ := Option.map_eq_some_iff.1 hy
    obtain ⟨target, rfl, hquiet⟩ := ih hrun
    exact ⟨target, rfl, by rw [run, ht]; exact hquiet⟩

/-- **A word with actions at its first byte only**. -/
theorem scan_enter {x : Option ℕ} (h : run (enter M start acts) w none = some x) (hne : w ≠ [])
    (hacts : acts.any M.stops = false) : ∃ target, x = some target ∧
      ∀ (v : List UInt8) (p : ℕ) (s s' : σ), Scanner.perform act p acts s = .ok s' →
        M.scan act (w ++ v) p start s = M.scan act v (p + w.length) target s' := by
  obtain ⟨c, w, rfl⟩ := List.exists_cons_of_ne_nil hne
  obtain ⟨y, hy, hrun⟩ := Option.bind_eq_some_iff.1 h
  obtain ⟨⟨first, t⟩, hnext, hfirst⟩ := Option.bind_eq_some_iff.1 hy
  split_ifs at hfirst with hsame
  dsimp only at hsame
  subst hsame
  cases hfirst
  obtain ⟨target, rfl, hquiet⟩ := run_enter hrun
  refine ⟨target, rfl, fun v p s s' hperform => ?_⟩
  rw [List.cons_append, Scanner.scan_cons hnext, hperform]
  simp only [hacts, Bool.false_eq_true, if_false]
  rw [scan_quiet v hquiet, List.length_cons, Nat.add_right_comm, Nat.add_assoc]

theorem Leads.scan {r : RegularExpression UInt8} {P : ℕ → Prop}
    (h : Leads (enter M start acts) r [none] fun x => ∀ t ∈ x, P t) (hw : w ∈ r.matches')
    (hne : w ≠ []) (hacts : acts.any M.stops = false) : ∃ target, P target ∧
      ∀ (v : List UInt8) (p : ℕ) (s s' : σ), Scanner.perform act p acts s = .ok s' →
        M.scan act (w ++ v) p start s = M.scan act v (p + w.length) target s' := by
  obtain ⟨x, hx, hrun⟩ := h.run hw (List.mem_singleton_self none)
  obtain ⟨target, rfl, hscan⟩ := scan_enter hrun hne hacts
  exact ⟨target, hx target rfl, hscan⟩

end

end Lib.Automaton
