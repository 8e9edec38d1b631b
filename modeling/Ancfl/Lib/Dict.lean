/-
  Dictionaries: the maps of the standard library, as association lists without
  a key twice. The order of the entries is not the one of the keys.

  * `mapVals` changes every value;
  * `eraseAll` takes the entries of a list of keys out;
  * `Visits`: a list of the entries, in some order;
  * `lookup_insert_iff`, `lookup_eraseAll`, `lookup_mapVals`: what is found
    afterwards;
  * `rows m k`: the list of a key in a dictionary of lists, empty where there is
    none; `onRows` changes it.
-/
import Mathlib.Data.List.AList
import Mathlib.Logic.Function.Basic

namespace Lib

/-- `std::map`, `std::unordered_map` -/
abbrev Dict (K V : Type) := AList fun _ : K => V

namespace Dict

variable {K V W : Type} [DecidableEq K] {m : Dict K V} {k k' : K} {v : V}

theorem lookup_insert_iff : (m.insert k v).lookup k' = if k' = k then some v else m.lookup k' := by
  split_ifs with h
  · rw [h, AList.lookup_insert]
  · exact AList.lookup_insert_ne h

theorem lookup_erase_iff : (m.erase k).lookup k' = if k' = k then none else m.lookup k' := by
  split_ifs with h
  · rw [h, AList.lookup_erase]
  · exact AList.lookup_erase_ne h

theorem lookup_insert_eq : (m.insert k v).lookup = Function.update m.lookup k (some v) := by
  funext other
  rw [lookup_insert_iff, Function.update_apply]

theorem lookup_erase_eq : (m.erase k).lookup = Function.update m.lookup k none := by
  funext other
  rw [lookup_erase_iff, Function.update_apply]

def eraseAll (ks : List K) (m : Dict K V) : Dict K V := ks.foldl (fun m k => m.erase k) m

theorem lookup_eraseAll {ks : List K} : (eraseAll ks m).lookup k = if k ∈ ks then none else m.lookup k := by
  unfold eraseAll
  induction ks generalizing m with
  | nil => rfl
  | cons k' ks ih =>
    rw [List.foldl_cons, ih, lookup_erase_iff]
    by_cases hk : k = k'
    · simp [hk]
    · simp [hk]

/-- `order` has the entries in the order in which a loop visits them. -/
def Visits (m : Dict K V) (order : List (K × V)) : Prop :=
  (order.map Prod.fst).Nodup ∧ ∀ k v, (k, v) ∈ order ↔ m.lookup k = some v

theorem Visits.mem_iff {order : List (K × V)} (h : Visits m order) : (k, v) ∈ order ↔ m.lookup k = some v :=
  h.2 k v

theorem visits_entries (m : Dict K V) : m.Visits (m.entries.map fun e => (e.1, e.2)) := by
  refine ⟨?_, fun k v => ?_⟩
  · rw [List.map_map]
    exact m.nodupKeys
  · rw [← Option.mem_def, AList.mem_lookup_iff, List.mem_map]
    constructor
    · rintro ⟨e, he, heq⟩
      obtain ⟨rfl, rfl⟩ := Prod.mk.inj heq
      exact he
    · exact fun h => ⟨⟨k, v⟩, h, rfl⟩

/-- Change every value. -/
def mapVals (f : V → W) (m : Dict K V) : Dict K W where
  entries := m.entries.map fun e => ⟨e.1, f e.2⟩
  nodupKeys := by
    have h := m.nodupKeys
    rw [List.NodupKeys] at h ⊢
    simpa [List.keys, List.map_map, Function.comp_def] using h

theorem lookup_mapVals (f : V → W) : (mapVals f m).lookup k = (m.lookup k).map f := by
  show List.dlookup k (m.entries.map fun e => (⟨e.1, f e.2⟩ : Sigma fun _ : K => W)) =
    (List.dlookup k m.entries).map f
  induction m.entries with
  | nil => rfl
  | cons e l ih =>
    obtain ⟨a, b⟩ := e
    rw [List.map_cons]
    by_cases h : k = a
    · subst h
      simp
    · rw [List.dlookup_cons_ne _ _ h, List.dlookup_cons_ne _ _ h, ih]

/-! ## Dictionaries of lists -/

section
variable {m : Dict K (List V)} {l : List V}

/-- The list of a key, where a key that is missing has the empty one. -/
def rows (m : Dict K (List V)) (k : K) : List V := (m.lookup k).getD []

theorem rows_of_lookup (h : m.lookup k = some l) : rows m k = l := by rw [rows, h]; rfl

theorem rows_insert : rows (m.insert k l) k' = if k' = k then l else rows m k' := by
  rw [rows, lookup_insert_iff]
  split_ifs with h <;> rfl

theorem rows_mapVals {f : List V → List W} (h : f [] = []) : rows (mapVals f m) k = f (rows m k) := by
  rw [rows, rows, lookup_mapVals]
  cases m.lookup k with
  | none => exact h.symm
  | some l => rfl

/-- Change the list of a key, if it has one. -/
def onRows (k : K) (f : List V → List V) (m : Dict K (List V)) : Dict K (List V) :=
  match m.lookup k with
  | none => m
  | some l => m.insert k (f l)

theorem rows_onRows {f : List V → List V} (h : f [] = []) :
    rows (onRows k f m) k' = if k' = k then f (rows m k) else rows m k' := by
  unfold onRows
  cases hm : m.lookup k with
  | none =>
    have hnil : rows m k = [] := by rw [rows, hm]; rfl
    show rows m k' = _
    split_ifs with hk
    · rw [hk, hnil, h]
    · rfl
  | some l =>
    rw [rows_of_lookup hm]
    exact rows_insert

/-- An entry that is changed leaves the others. -/
theorem lookup_insert_of_ne (h : k' ≠ k) : (m.insert k l).lookup k' = m.lookup k' :=
  AList.lookup_insert_ne h

/-- What holds of every list, and of the new one. -/
theorem forall_rows_insert {P : K → List V → Prop} (h : ∀ k, P k (rows m k)) (hl : P k l) (k' : K) :
    P k' (rows (m.insert k l) k') := by
  rw [rows_insert]
  split_ifs with hk
  · exact hk ▸ hl
  · exact h k'

end

end Dict

end Lib
