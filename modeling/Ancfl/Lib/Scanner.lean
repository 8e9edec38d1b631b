/-
  Table-driven scanners whose input comes in pieces.

  A scanner reads bytes and performs the actions of its transitions.  The
  actions remember positions in the buffer and use the bytes from such a
  position on, so a scanner that gets its input in several buffers, and counts
  positions from the start of each, sees other bytes when a boundary lies
  between the position and the action.

  * `Edge`: a transition for a range of bytes, looked up by `Edge.lookup`;
  * `scan` is the scan of one buffer, `ends` how many bytes it takes;
  * `Marking` says which positions the actions remember and use, `elements` are
    the spans of bytes used in a scan;
  * `Follows`: the actions on a part of the input do what they do on the whole,
    if the bytes they use begin in the part; `scan_follows`: so does the scan
    of the part, if no element is split at its start.
-/
import Mathlib.Data.List.Basic
import Mathlib.Data.Nat.Notation
import Mathlib.Tactic.Common

namespace Lib

/-- A transition table with actions in `A`. -/
structure Scanner (A : Type) where
  /-- the actions and the next state for a byte in a state, `none` if the byte is not accepted -/
  next : ℕ → UInt8 → Option (List A × ℕ)
  /-- the actions that end the scan; such an action is the last of its transition -/
  stops : A → Bool

/-- The transition for the bytes from `lo` to `hi`. -/
structure Edge (A : Type) where
  lo : ℕ
  hi : ℕ
  acts : List A
  target : ℕ
deriving DecidableEq

/-- The transition for a byte among those of a state. -/
def Edge.lookup {A : Type} (row : List (Edge A)) (c : UInt8) : Option (List A × ℕ) :=
  (row.find? fun x => decide (x.lo ≤ c.toNat) && decide (c.toNat ≤ x.hi)).map fun x =>
    (x.acts, x.target)

/-- How the scan of a buffer ends. -/
inductive Scan (σ : Type) where
  /-- at the end of the buffer -/
  | goesOn (cs : ℕ) (s : σ)
  /-- by an action, at the position after its byte -/
  | stops (cs p : ℕ) (s : σ)
  /-- at a byte that is not accepted -/
  | fails (p : ℕ) (s : σ)

namespace Scanner

variable {A ε σ Γ : Type} (M : Scanner A)

/-- The actions of a transition, at position `p`. -/
def perform (act : A → ℕ → σ → Except ε σ) (p : ℕ) : List A → σ → Except ε σ
  | [], s => .ok s
  | a :: acts, s =>
    match act a p s with
    | .ok s' => perform act p acts s'
    | .error e => .error e

/-- The scan of the bytes from position `p` on. -/
def scan (act : A → ℕ → σ → Except ε σ) : List UInt8 → ℕ → ℕ → σ → Except ε (Scan σ)
  | [], _, cs, s => .ok (.goesOn cs s)
  | c :: w, p, cs, s =>
    match M.next cs c with
    | none => .ok (.fails p s)
    | some (acts, target) =>
      match perform act p acts s with
      | .error e => .error e
      | .ok s' => if acts.any M.stops then .ok (.stops target (p + 1) s')
        else scan act w (p + 1) target s'

/-- The number of bytes until an action ends the scan. -/
def ends : List UInt8 → ℕ → Option ℕ
  | [], _ => none
  | c :: w, cs =>
    match M.next cs c with
    | none => none
    | some (acts, target) => if acts.any M.stops then some 1 else (ends w target).map (· + 1)

/-! ## Elements -/

/-- The positions that actions remember, all of them in a `Γ`. -/
structure Marking (A Γ : Type) where
  /-- what an action at a position remembers -/
  track : A → ℕ → Γ → Γ
  /-- the first position of the bytes an action uses -/
  uses : A → Γ → Option ℕ

/-- The bytes from `start` on that an action at `stop` uses. -/
structure Span where
  start : ℕ
  stop : ℕ
deriving DecidableEq

/-- A boundary before the byte at `c` lies between the start of the span and the action. -/
def Span.SplitAt (x : Span) (c : ℕ) : Prop := x.start < c ∧ c ≤ x.stop

instance (x : Span) (c : ℕ) : Decidable (x.SplitAt c) := inferInstanceAs (Decidable (_ ∧ _))

variable (K : Marking A Γ)

/-- The spans of the actions of a transition. -/
def spans (p : ℕ) : List A → Γ → List Span
  | [], _ => []
  | a :: acts, γ => ((K.uses a γ).map fun i => ⟨i, p⟩).toList ++ spans p acts (K.track a p γ)

/-- What the actions of a transition remember. -/
def trackAll (p : ℕ) : List A → Γ → Γ
  | [], γ => γ
  | a :: acts, γ => trackAll p acts (K.track a p γ)

/-- The spans of a scan. -/
def elements : List UInt8 → ℕ → ℕ → Γ → List Span
  | [], _, _, _ => []
  | c :: w, p, cs, γ =>
    match M.next cs c with
    | none => []
    | some (acts, target) => spans K p acts γ ++
      if acts.any M.stops then [] else elements w (p + 1) target (trackAll K p acts γ)

/-! ## Scans of one buffer -/

variable {M} {act : A → ℕ → σ → Except ε σ}

theorem scan_cons {c : UInt8} {w : List UInt8} {p cs target : ℕ} {acts : List A} {s : σ}
    (h : M.next cs c = some (acts, target)) :
    M.scan act (c :: w) p cs s = match perform act p acts s with
      | .error e => .error e
      | .ok s' => if acts.any M.stops then .ok (.stops target (p + 1) s')
        else M.scan act w (p + 1) target s' := by
  rw [scan, h]

theorem perform_append {p : ℕ} (a b : List A) (s : σ) : perform act p (a ++ b) s =
    match perform act p a s with
    | .ok s' => perform act p b s'
    | .error e => .error e := by
  induction a generalizing s with
  | nil => rfl
  | cons x a ih =>
    rw [List.cons_append, perform, perform]
    cases act x p s with
    | ok s' => exact ih s'
    | error e => rfl

/-- The scan takes the bytes up to the action that ends it. -/
theorem ends_of_scan : ∀ {w : List UInt8} {p cs cs' p' : ℕ} {s s' : σ},
    M.scan act w p cs s = .ok (.stops cs' p' s') → ∃ n, M.ends w cs = some n ∧ p' = p + n ∧
      0 < n ∧ n ≤ w.length
  | [], _, _, _, _, _, _, h => by cases h
  | c :: w, p, cs, cs', p', s, s', h => by
    rw [scan] at h
    rw [ends]
    rcases hn : M.next cs c with _ | ⟨acts, target⟩
    · rw [hn] at h; cases h
    rw [hn] at h
    dsimp only at h ⊢
    rcases hp : perform act p acts s with e | s₁
    · rw [hp] at h; cases h
    rw [hp] at h
    dsimp only at h
    split_ifs at h ⊢ with hstop
    · cases h
      exact ⟨1, rfl, rfl, Nat.one_pos, by simp⟩
    · obtain ⟨n, hends, rfl, -, hle⟩ := ends_of_scan h
      exact ⟨n + 1, by rw [hends]; rfl, by omega, Nat.succ_pos n, by simpa using hle⟩

/-- What comes after the action that ends the scan does not matter. -/
theorem scan_append : ∀ {u : List UInt8} (v : List UInt8) {p cs cs' p' : ℕ} {s s' : σ},
    M.scan act u p cs s = .ok (.stops cs' p' s') → M.scan act (u ++ v) p cs s = .ok (.stops cs' p' s')
  | [], _, _, _, _, _, _, _, h => by cases h
  | c :: u, v, p, cs, cs', p', s, s', h => by
    rw [List.cons_append]
    rw [scan] at h ⊢
    rcases hn : M.next cs c with _ | ⟨acts, target⟩
    · rw [hn] at h; cases h
    rw [hn] at h
    dsimp only at h ⊢
    rcases hp : perform act p acts s with e | s₁
    · rw [hp] at h; cases h
    rw [hp] at h
    dsimp only at h ⊢
    split_ifs at h ⊢ with hstop
    · exact h
    · exact scan_append v h

theorem stop_of_spans {K : Marking A Γ} {p : ℕ} : ∀ {acts : List A} {γ : Γ} {x : Span},
    x ∈ spans K p acts γ → x.stop = p
  | [], _, _, h => by cases h
  | a :: acts, γ, x, h => by
    rcases List.mem_append.1 h with h | h
    · obtain ⟨i, -, rfl⟩ := Option.map_eq_some_iff.1 (Option.mem_toList.1 h)
      rfl
    · exact stop_of_spans h

/-- The actions are performed at the bytes of the buffer. -/
theorem stop_lt {K : Marking A Γ} : ∀ {w : List UInt8} {p cs : ℕ} {γ : Γ} {x : Span},
    x ∈ M.elements K w p cs γ → x.stop < p + w.length
  | [], _, _, _, _, h => by cases h
  | c :: w, p, cs, γ, x, h => by
    rw [elements] at h
    rcases hn : M.next cs c with _ | ⟨acts, target⟩
    · rw [hn] at h; cases h
    rw [hn] at h
    rw [List.length_cons]
    rcases List.mem_append.1 h with h | h
    · rw [stop_of_spans h]
      omega
    · split_ifs at h
      · cases h
      · have := stop_lt h
        omega

/-- A property the actions keep is kept by the scan. -/
theorem of_scan {P : σ → Prop}
    (hact : ∀ a p s s', act a p s = .ok s' → P s → P s') : ∀ {w : List UInt8} {p cs : ℕ} {s : σ}
    {r : Scan σ}, M.scan act w p cs s = .ok r → P s →
      match r with
      | .goesOn _ s' => P s'
      | .stops _ _ s' => P s'
      | .fails _ s' => P s' := by
  have hperform : ∀ p acts s s', perform act p acts s = .ok s' → P s → P s' := by
    intro p acts
    induction acts with
    | nil => rintro s s' ⟨⟩ hs; exact hs
    | cons a acts ih =>
      intro s s' h hs
      rw [perform] at h
      rcases ha : act a p s with e | s₁
      · rw [ha] at h; cases h
      · rw [ha] at h
        exact ih s₁ s' h (hact a p s s₁ ha hs)
  intro w
  induction w with
  | nil => rintro p cs s r ⟨⟩ hs; exact hs
  | cons c w ih =>
    intro p cs s r h hs
    rw [scan] at h
    rcases hn : M.next cs c with _ | ⟨acts, target⟩
    · rw [hn] at h; cases h; exact hs
    rw [hn] at h
    dsimp only at h
    rcases hp : perform act p acts s with e | s₁
    · rw [hp] at h; cases h
    rw [hp] at h
    dsimp only at h
    split_ifs at h with hstop
    · cases h; exact hperform p acts s s₁ hp hs
    · exact ih h (hperform p acts s s₁ hp hs)

/-! ## Scans of a part -/

/-- The transitions on the part of the input `w` from `b` to `e` do what those on the whole input do,
    as long as the whole stays `good` and no element is split at `b`.  `Rel cs p` relates the states
    when the bytes before `p` have been read and the scan goes on, `Final p` those when it ends. -/
structure Follows (M : Scanner A) (K : Marking A Γ) (w : List UInt8) (b e : ℕ)
    (whole part : A → ℕ → σ → Except ε σ) (good : σ → Prop) (Rel : ℕ → ℕ → Γ → σ → σ → Prop)
    (Final : ℕ → σ → σ → Prop) : Prop where
  good_of : ∀ a p S S', whole a p S = .ok S' → good S' → good S
  step : ∀ cs c rest acts target p γ S S' s, M.next cs c = some (acts, target) → b ≤ p → p < e →
    w.drop p = c :: rest → (∀ x ∈ spans K p acts γ, ¬ x.SplitAt b) → Rel cs p γ S s →
    perform whole p acts S = .ok S' → good S' →
    ∃ s', perform part (p - b) acts s = .ok s' ∧
      if acts.any M.stops then Final (p + 1) S' s' else Rel target (p + 1) (trackAll K p acts γ) S' s'

variable {K : Marking A Γ} {w : List UInt8} {b e : ℕ} {whole part : A → ℕ → σ → Except ε σ}
  {good : σ → Prop}

theorem good_of_perform (h : ∀ a p S S', whole a p S = .ok S' → good S' → good S) {p : ℕ} :
    ∀ {acts : List A} {S S' : σ}, perform whole p acts S = .ok S' → good S' → good S
  | [], _, _, hp, hg => by cases hp; exact hg
  | a :: acts, S, S', hp, hg => by
    rw [perform] at hp
    rcases ha : whole a p S with e | S₁
    · rw [ha] at hp; cases hp
    · rw [ha] at hp
      exact h a p S S₁ ha (good_of_perform h hp hg)

theorem good_of_scan (h : ∀ a p S S', whole a p S = .ok S' → good S' → good S) {u : List UInt8}
    {p cs cs' p' : ℕ} {S S' : σ} (hs : M.scan whole u p cs S = .ok (.stops cs' p' S'))
    (hg : good S') : good S := by
  by_contra hbad
  exact of_scan (P := fun s => ¬ good s) (fun a p s s' ha hb hg => hb (h a p s s' ha hg)) hs hbad hg

/-- The actions of a transition follow, if each of them does. -/
theorem perform_follows {R : Γ → σ → σ → Prop} {p : ℕ}
    (hgood : ∀ a p S S', whole a p S = .ok S' → good S' → good S) (hb : b ≤ p) : ∀ {acts : List A},
    (∀ a ∈ acts, ∀ γ S S' s, (∀ i ∈ K.uses a γ, b ≤ i) → R γ S s → whole a p S = .ok S' → good S' →
      ∃ s', part a (p - b) s = .ok s' ∧ R (K.track a p γ) S' s') →
    ∀ {γ : Γ} {S S' s : σ}, (∀ x ∈ spans K p acts γ, ¬ x.SplitAt b) → R γ S s →
      perform whole p acts S = .ok S' → good S' →
      ∃ s', perform part (p - b) acts s = .ok s' ∧ R (trackAll K p acts γ) S' s'
  | [], _, _, _, _, s, _, hrel, hp, _ => by cases hp; exact ⟨s, rfl, hrel⟩
  | a :: acts, hact, γ, S, S', s, hspans, hrel, hp, hg => by
    rw [perform] at hp
    rcases ha : whole a p S with e | S₁
    · rw [ha] at hp; cases hp
    rw [ha] at hp
    have huses : ∀ i ∈ K.uses a γ, b ≤ i := by
      intro i hi
      have hx := hspans ⟨i, p⟩ (by simp [spans, Option.mem_def.1 hi])
      exact Nat.le_of_not_lt fun hlt => hx ⟨hlt, hb⟩
    obtain ⟨s₁, hs₁, hrel₁⟩ := hact a (by simp) γ S S₁ s huses hrel ha (good_of_perform hgood hp hg)
    obtain ⟨s', hs', hrel'⟩ := perform_follows hgood hb (fun a' ha' => hact a' (by simp [ha']))
      (fun x hx => hspans x (by simp [spans, hx])) hrel₁ hp hg
    exact ⟨s', by rw [perform, hs₁]; exact hs', hrel'⟩

/-- **The scan of the part follows the scan of the whole** if no element is split where the part
    starts.  It ends with the scan of the whole, or at the end of the part `u`; then the scan of the
    whole goes on with the bytes `v` after it. -/
theorem scan_follows {Rel : ℕ → ℕ → Γ → σ → σ → Prop} {Final : ℕ → σ → σ → Prop}
    (h : Follows M K w b e whole part good Rel Final) {cs' p' : ℕ} {S' : σ} :
    ∀ (u v : List UInt8) {p cs : ℕ} {γ : Γ} {S s : σ}, w.drop p = u ++ v → b ≤ p →
      p + u.length ≤ e → Rel cs p γ S s → (∀ x ∈ M.elements K (u ++ v) p cs γ, ¬ x.SplitAt b) →
      M.scan whole (u ++ v) p cs S = .ok (.stops cs' p' S') → good S' →
      (∃ s', p < p' ∧ p' ≤ p + u.length ∧
        M.scan part u (p - b) cs s = .ok (.stops cs' (p' - b) s') ∧ Final p' S' s') ∨
      ∃ cs₁ γ₁ S₁ s₁, M.scan part u (p - b) cs s = .ok (.goesOn cs₁ s₁) ∧
        Rel cs₁ (p + u.length) γ₁ S₁ s₁ ∧
        M.scan whole v (p + u.length) cs₁ S₁ = .ok (.stops cs' p' S') ∧
        ∀ x ∈ M.elements K v (p + u.length) cs₁ γ₁, x ∈ M.elements K (u ++ v) p cs γ
  | [], v, p, cs, γ, S, s, _, _, _, hrel, _, hscan, _ =>
    .inr ⟨cs, γ, S, s, rfl, hrel, hscan, fun _ hx => hx⟩
  | c :: u, v, p, cs, γ, S, s, hw, hb, he, hrel, hel, hscan, hg => by
    rw [List.length_cons] at he ⊢
    rw [List.cons_append] at hscan hel hw ⊢
    rw [elements] at hel ⊢
    rw [scan] at hscan
    rcases hn : M.next cs c with _ | ⟨acts, target⟩
    · rw [hn] at hscan; cases hscan
    rw [hn] at hscan hel
    dsimp only at hscan hel ⊢
    rcases hp : perform whole p acts S with e | S₁
    · rw [hp] at hscan; cases hscan
    rw [hp] at hscan
    dsimp only at hscan
    have hg₁ : good S₁ := by
      split_ifs at hscan
      · cases hscan; exact hg
      · exact good_of_scan h.good_of hscan hg
    obtain ⟨s₁, hs₁, hrel₁⟩ := h.step cs c (u ++ v) acts target p γ S S₁ s hn hb (by omega) hw
      (fun x hx => hel x (List.mem_append_left _ hx)) hrel hp hg₁
    rw [scan_cons hn, hs₁]
    dsimp only
    split_ifs at hscan hel hrel₁ ⊢ with hstop
    · cases hscan
      exact .inl ⟨s₁, by omega, by omega, by rw [Nat.sub_add_comm hb], hrel₁⟩
    · have hw' : w.drop (p + 1) = u ++ v := by rw [← List.drop_drop, hw]; rfl
      rw [← Nat.sub_add_comm hb]
      rcases scan_follows h u v hw' (by omega) (by omega) hrel₁
          (fun x hx => hel x (List.mem_append_right _ hx)) hscan hg with
        ⟨s', h₁, h₂, h₃, h₄⟩ | ⟨cs₁, γ₁, S₂, s₂, h₁, h₂, h₃, h₄⟩
      · exact .inl ⟨s', by omega, by omega, h₃, h₄⟩
      · have hlen : p + 1 + u.length = p + (u.length + 1) := by omega
        rw [hlen] at h₂ h₃ h₄
        exact .inr ⟨cs₁, γ₁, S₂, s₂, h₁, h₂, h₃, fun x hx => List.mem_append_right _ (h₄ x hx)⟩

end Scanner
end Lib
