/-
  Leases: entries that stand as long as they are renewed.

  * `Event`: what happens to an entry; a check takes it out if its stamp is older
    than `limit`;
  * `apply`: what an event makes of an entry;
  * `Stands`, read off the events: the entry was put, nobody has replaced or
    dropped it since, and no check has found it too old;
  * `foldl_eq_some_iff`: an entry is there after some events exactly if it stands;
  * `expire` is a check of all entries of a dictionary, `lookup_expire` what it
    leaves.
-/
import Ancfl.Lib.Dict
import Mathlib.Data.List.Induction

namespace Lib.Lease

inductive Event (V : Type)
  | put (v : V)
  | change (f : V → V)
  | drop
  | check (now : ℤ)

variable {K V : Type} {limit : ℤ} {stamp : V → ℤ} {v w : V} {es : List (Event V)}

def apply (limit : ℤ) (stamp : V → ℤ) : Option V → Event V → Option V
  | _, .put v => some v
  | o, .change f => o.map f
  | _, .drop => none
  | o, .check now => o.filter fun v => decide (now - stamp v ≤ limit)

theorem apply_check (now : ℤ) :
    apply limit stamp (some v) (.check now) = if now - stamp v ≤ limit then some v else none := by
  rw [apply, Option.filter_some]
  by_cases h : now - stamp v ≤ limit
  · rw [if_pos h, if_pos (decide_eq_true h)]
  · rw [if_neg h, if_neg (by rwa [decide_eq_true_iff])]

/-- The events change `v` to `w`, and no check finds it too old on the way. -/
inductive Kept (limit : ℤ) (stamp : V → ℤ) : V → List (Event V) → V → Prop
  | nil (v : V) : Kept limit stamp v [] v
  | change {f : V → V} {v w : V} {es : List (Event V)} :
      Kept limit stamp v es w → Kept limit stamp v (es ++ [.change f]) (f w)
  | check {now : ℤ} {v w : V} {es : List (Event V)} :
      Kept limit stamp v es w → now - stamp w ≤ limit → Kept limit stamp v (es ++ [.check now]) w

/-- The entry `w` stands after the events. -/
def Stands (limit : ℤ) (stamp : V → ℤ) (es : List (Event V)) (w : V) : Prop :=
  ∃ before v after, es = before ++ .put v :: after ∧ Kept limit stamp v after w

theorem Kept.foldl_eq (h : Kept limit stamp v es w) : es.foldl (apply limit stamp) (some v) = some w := by
  induction h with
  | nil => rfl
  | change h ih => rw [List.foldl_append, ih]; rfl
  | check h hnow ih =>
    rw [List.foldl_append, ih, List.foldl_cons, List.foldl_nil, apply_check, if_pos hnow]

/-- What was put still stands, and so it does after one more event. -/
theorem Stands.snoc {u : V} {e : Event V} (h : Stands limit stamp es w)
    (hkept : ∀ {v after}, Kept limit stamp v after w → Kept limit stamp v (after ++ [e]) u) :
    Stands limit stamp (es ++ [e]) u := by
  obtain ⟨before, v, after, rfl, h⟩ := h
  exact ⟨before, v, after ++ [e], by simp, hkept h⟩

/-- An entry is there after the events exactly if it **stands**. -/
theorem foldl_eq_some_iff : es.foldl (apply limit stamp) none = some w ↔ Stands limit stamp es w := by
  constructor
  · intro h
    induction es using List.reverseRecOn generalizing w with
    | nil => cases h
    | append_singleton es e ih =>
      rw [List.foldl_append] at h
      cases e with
      | put v =>
        obtain rfl : v = w := Option.some.inj h
        exact ⟨es, v, [], rfl, .nil v⟩
      | change f =>
        obtain ⟨u, hu, rfl⟩ := Option.map_eq_some_iff.1 h
        exact (ih hu).snoc .change
      | drop => cases h
      | check now =>
        obtain ⟨hw, hnow⟩ := Option.filter_eq_some_iff.1 h
        exact (ih hw).snoc fun h => .check h (of_decide_eq_true hnow)
  · rintro ⟨before, v, after, rfl, h⟩
    rw [List.foldl_append, List.foldl_cons]
    exact h.foldl_eq

theorem Kept.holds {P : V → Prop} (h : Kept limit stamp v es w) (hv : P v)
    (hchange : ∀ f, .change f ∈ es → ∀ v, P v → P (f v)) : P w := by
  induction h with
  | nil => exact hv
  | change _ ih => exact hchange _ (by simp) _ (ih hv fun f hf => hchange f (by simp [hf]))
  | check _ _ ih => exact ih hv fun f hf => hchange f (by simp [hf])

/-- What holds of all that is put, and stays so in changes. -/
theorem Stands.holds {P : V → Prop} (h : Stands limit stamp es w) (hput : ∀ v, .put v ∈ es → P v)
    (hchange : ∀ f, .change f ∈ es → ∀ v, P v → P (f v)) : P w := by
  obtain ⟨before, v, after, rfl, h⟩ := h
  exact h.holds (hput v (by simp)) fun f hf => hchange f (by simp [hf])

/-! ## Dictionaries -/

variable [DecidableEq K]

/-- The entries that are too old, and then each of them is erased; `order` is the order in which the
    entries are visited. -/
def expire (limit : ℤ) (stamp : V → ℤ) (now : ℤ) (order : List (K × V)) (m : Dict K V) : Dict K V :=
  Dict.eraseAll ((order.filter fun e => decide (now - stamp e.2 > limit)).map Prod.fst) m

theorem lookup_expire {now : ℤ} {order : List (K × V)} {m : Dict K V} (horder : Dict.Visits m order) (k : K) :
    (expire limit stamp now order m).lookup k = apply limit stamp (m.lookup k) (.check now) := by
  have hmem : k ∈ ((order.filter fun e => decide (now - stamp e.2 > limit)).map Prod.fst) ↔
      ∃ v, m.lookup k = some v ∧ now - stamp v > limit := by
    simp [horder.mem_iff]
  rw [expire, Dict.lookup_eraseAll]
  cases hk : m.lookup k with
  | none => split_ifs <;> rfl
  | some v =>
    simp only [hmem, hk, Option.some.injEq, exists_eq_left']
    by_cases hv : now - stamp v > limit
    · rw [if_pos hv, apply_check, if_neg (Int.not_le.2 hv)]
    · rw [if_neg hv, apply_check, if_pos (Int.not_lt.1 hv)]

end Lib.Lease
