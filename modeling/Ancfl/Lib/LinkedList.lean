/-
  Linked lists whose nodes are found through an index.

  * a `ListNode` is an element at an address, an iterator is an address; `deref`,
    `assign`, `eraseAt` and `toFront` are undefined (`none`) for an iterator that
    is not in the list;
  * `Indexed key index l`: the index maps the key of each element of `l` to its
    node, each key once; `Indexed.split`: what is found is a node of the list;
  * `deref_split` and the others: the operations on that node.
-/
import Mathlib.Data.Finmap
import Mathlib.Data.List.Perm.Basic

namespace Lib

structure ListNode (α : Type) where
  addr : ℕ
  val : α
deriving DecidableEq

variable {α K : Type} [DecidableEq K]

/-! ## Iterators -/

/-- The place of an iterator. -/
def place (l : List (ListNode α)) (it : ℕ) : Option ℕ := l.findIdx? fun n => n.addr = it

/-- `*it` -/
def deref (l : List (ListNode α)) (it : ℕ) : Option α := do
  let i ← place l it
  return (← l[i]?).val

/-- `*it = f(*it)` -/
def assign (l : List (ListNode α)) (it : ℕ) (f : α → α) : Option (List (ListNode α)) := do
  let i ← place l it
  return l.modify i fun n => { n with val := f n.val }

/-- `erase(it)` -/
def eraseAt (l : List (ListNode α)) (it : ℕ) : Option (List (ListNode α)) := do
  let i ← place l it
  return l.eraseIdx i

/-- `splice(begin(), l, it)` -/
def toFront (l : List (ListNode α)) (it : ℕ) : Option (List (ListNode α)) := do
  let i ← place l it
  return (← l[i]?) :: l.eraseIdx i

section
variable {l₁ l₂ : List (ListNode α)} {n : ListNode α}

theorem place_split (h : ∀ m ∈ l₁, m.addr ≠ n.addr) : place (l₁ ++ n :: l₂) n.addr = some l₁.length := by
  rw [place, List.findIdx?_append, List.findIdx?_eq_none_iff.2 fun m hm => by simpa using h m hm,
    List.findIdx?_cons]
  simp

theorem getElem?_split (l₁ l₂ : List (ListNode α)) (n : ListNode α) :
    (l₁ ++ n :: l₂)[l₁.length]? = some n := by
  simp

theorem deref_split (h : ∀ m ∈ l₁, m.addr ≠ n.addr) : deref (l₁ ++ n :: l₂) n.addr = some n.val := by
  rw [deref, place_split h, Option.bind_eq_bind, Option.bind_some, getElem?_split]
  rfl

theorem assign_split (h : ∀ m ∈ l₁, m.addr ≠ n.addr) (f : α → α) :
    assign (l₁ ++ n :: l₂) n.addr f = some (l₁ ++ { n with val := f n.val } :: l₂) := by
  rw [assign, place_split h, Option.bind_eq_bind, Option.bind_some,
    List.modify_eq_take_drop, List.take_left, List.drop_left]
  rfl

theorem eraseAt_split (h : ∀ m ∈ l₁, m.addr ≠ n.addr) :
    eraseAt (l₁ ++ n :: l₂) n.addr = some (l₁ ++ l₂) := by
  rw [eraseAt, place_split h, Option.bind_eq_bind, Option.bind_some,
    List.eraseIdx_append_of_length_le le_rfl, Nat.sub_self, List.eraseIdx_cons_zero]
  rfl

theorem toFront_split (h : ∀ m ∈ l₁, m.addr ≠ n.addr) :
    toFront (l₁ ++ n :: l₂) n.addr = some (n :: (l₁ ++ l₂)) := by
  rw [toFront, place_split h, Option.bind_eq_bind, Option.bind_some, getElem?_split,
    Option.bind_eq_bind, Option.bind_some, List.eraseIdx_append_of_length_le le_rfl, Nat.sub_self,
    List.eraseIdx_cons_zero]
  rfl

theorem addr_ne_of_nodup (h : ((l₁ ++ n :: l₂).map ListNode.addr).Nodup) :
    ∀ m ∈ l₁, m.addr ≠ n.addr := by
  rw [List.map_append, List.map_cons] at h
  intro m hm heq
  exact (List.nodup_append.1 h).2.2 _ (List.mem_map_of_mem hm) _ List.mem_cons_self heq

/-- An iterator of a list whose nodes have different addresses. -/
theorem deref_eq_some_iff {l : List (ListNode α)} (h : (l.map ListNode.addr).Nodup) {it : ℕ} {x : α} :
    deref l it = some x ↔ ⟨it, x⟩ ∈ l := by
  constructor
  · intro hx
    obtain ⟨i, hi, hx⟩ := Option.bind_eq_some_iff.1 hx
    obtain ⟨n, hn, hx⟩ := Option.bind_eq_some_iff.1 hx
    obtain ⟨hlt, haddr, -⟩ := List.findIdx?_eq_some_iff_getElem.1 hi
    rw [List.getElem?_eq_getElem hlt] at hn
    obtain rfl := Option.some.inj hn
    obtain rfl := Option.some.inj hx
    rw [← of_decide_eq_true haddr]
    exact List.getElem_mem hlt
  · intro hx
    obtain ⟨l₁, l₂, rfl⟩ := List.append_of_mem hx
    exact deref_split (addr_ne_of_nodup h)

end

/-! ## The index -/

/-- The index maps the keys of the elements to their nodes, and both are different for different
    nodes. -/
structure Indexed (key : α → K) (index : Finmap fun _ : K => ℕ) (l : List (ListNode α)) : Prop where
  addr_nodup : (l.map ListNode.addr).Nodup
  key_nodup : (l.map fun n => key n.val).Nodup
  lookup_iff : ∀ k it, index.lookup k = some it ↔ ∃ n ∈ l, n.addr = it ∧ key n.val = k

section
variable {key : α → K} {index : Finmap fun _ : K => ℕ} {l l₁ l₂ : List (ListNode α)} {n : ListNode α}
  {k : K}

theorem indexed_nil (key : α → K) : Indexed key ∅ [] :=
  ⟨.nil, .nil, fun k it => by simp⟩

theorem Indexed.perm (h : Indexed key index l) {l' : List (ListNode α)} (hp : l.Perm l') :
    Indexed key index l' where
  addr_nodup := (hp.map _).nodup_iff.1 h.addr_nodup
  key_nodup := (hp.map _).nodup_iff.1 h.key_nodup
  lookup_iff k it := by
    rw [h.lookup_iff]
    exact exists_congr fun n => and_congr_left' hp.mem_iff

/-- The keys of the index are those of the elements. -/
theorem Indexed.mem_iff (h : Indexed key index l) : k ∈ index ↔ ∃ n ∈ l, key n.val = k := by
  rw [← Finmap.lookup_isSome, Option.isSome_iff_exists]
  constructor
  · rintro ⟨it, hit⟩
    obtain ⟨n, hn, -, hk⟩ := (h.lookup_iff k it).1 hit
    exact ⟨n, hn, hk⟩
  · rintro ⟨n, hn, hk⟩
    exact ⟨n.addr, (h.lookup_iff k n.addr).2 ⟨n, hn, rfl, hk⟩⟩

/-- The index has as many keys as the list has nodes. -/
theorem Indexed.card_eq (h : Indexed key index l) : index.keys.card = l.length := by
  have hkeys : index.keys = (l.map fun n => key n.val).toFinset := by
    ext k
    rw [Finmap.mem_keys, h.mem_iff, List.mem_toFinset, List.mem_map]
  rw [hkeys, List.toFinset_card_of_nodup h.key_nodup, List.length_map]

/-- **What is found is a node of the list.** -/
theorem Indexed.split (h : Indexed key index l) {it : ℕ} (hk : index.lookup k = some it) :
    ∃ l₁ n l₂, l = l₁ ++ n :: l₂ ∧ n.addr = it ∧ key n.val = k := by
  obtain ⟨n, hn, hit, hkey⟩ := (h.lookup_iff k it).1 hk
  obtain ⟨l₁, l₂, rfl⟩ := List.append_of_mem hn
  exact ⟨l₁, n, l₂, rfl, hit, hkey⟩

/-- A new node at the front. -/
theorem Indexed.push (h : Indexed key index l) (hk : key n.val ∉ index)
    (hfresh : ∀ m ∈ l, m.addr ≠ n.addr) :
    Indexed key (index.insert (key n.val) n.addr) (n :: l) where
  addr_nodup := by
    rw [List.map_cons, List.nodup_cons]
    refine ⟨fun hmem => ?_, h.addr_nodup⟩
    obtain ⟨m, hm, heq⟩ := List.mem_map.1 hmem
    exact hfresh m hm heq
  key_nodup := by
    rw [List.map_cons, List.nodup_cons]
    refine ⟨fun hmem => ?_, h.key_nodup⟩
    obtain ⟨m, hm, heq⟩ := List.mem_map.1 hmem
    exact hk (h.mem_iff.2 ⟨m, hm, heq⟩)
  lookup_iff k it := by
    by_cases hkn : k = key n.val
    · subst hkn
      rw [Finmap.lookup_insert, Option.some.injEq]
      constructor
      · intro heq
        exact ⟨n, List.mem_cons_self, heq, rfl⟩
      · rintro ⟨m, hm, heq, hkey⟩
        rcases List.mem_cons.1 hm with rfl | hm
        · exact heq
        · exact (hk (h.mem_iff.2 ⟨m, hm, hkey⟩)).elim
    · rw [Finmap.lookup_insert_of_ne _ hkn, h.lookup_iff]
      constructor
      · rintro ⟨m, hm, hmk⟩
        exact ⟨m, List.mem_cons_of_mem n hm, hmk⟩
      · rintro ⟨m, hm, heq, hkey⟩
        rcases List.mem_cons.1 hm with rfl | hm
        · exact (hkn hkey.symm).elim
        · exact ⟨m, hm, heq, hkey⟩

/-- A node and its key are dropped. -/
theorem Indexed.erase (h : Indexed key index (l₁ ++ n :: l₂)) :
    Indexed key (index.erase (key n.val)) (l₁ ++ l₂) := by
  have h' := h.perm List.perm_middle
  have hkey := List.nodup_cons.1 (List.map_cons (f := fun m : ListNode α => key m.val) ▸ h'.key_nodup)
  refine ⟨?_, hkey.2, fun k it => ?_⟩
  · exact (List.nodup_cons.1 (List.map_cons (f := ListNode.addr (α := α)) ▸ h'.addr_nodup)).2
  by_cases hkn : k = key n.val
  · rw [hkn, Finmap.lookup_erase]
    refine ⟨nofun, ?_⟩
    rintro ⟨m, hm, -, hmk⟩
    exact (hkey.1 (List.mem_map.2 ⟨m, hm, hmk⟩)).elim
  · rw [Finmap.lookup_erase_ne hkn, h'.lookup_iff]
    constructor
    · rintro ⟨m, hm, heq, hmk⟩
      rcases List.mem_cons.1 hm with rfl | hm
      · exact (hkn hmk.symm).elim
      · exact ⟨m, hm, heq, hmk⟩
    · rintro ⟨m, hm, hmk⟩
      exact ⟨m, List.mem_cons_of_mem n hm, hmk⟩

/-- An element is changed, its key is not. -/
theorem Indexed.assign (h : Indexed key index (l₁ ++ n :: l₂)) {x : α} (hx : key x = key n.val) :
    Indexed key index (l₁ ++ { n with val := x } :: l₂) := by
  have hmap : ∀ {β : Type} (f : ListNode α → β), f { n with val := x } = f n →
      (l₁ ++ { n with val := x } :: l₂).map f = (l₁ ++ n :: l₂).map f := by
    intro β f hf
    rw [List.map_append, List.map_cons, hf, ← List.map_cons, ← List.map_append]
  refine ⟨hmap ListNode.addr rfl ▸ h.addr_nodup, hmap (fun m => key m.val) hx ▸ h.key_nodup,
    fun k it => ?_⟩
  have hpair : ∀ l : List (ListNode α), (∃ m ∈ l, m.addr = it ∧ key m.val = k) ↔
      (it, k) ∈ l.map fun m => (m.addr, key m.val) := fun l => by
    simp only [List.mem_map, Prod.mk.injEq]
  rw [h.lookup_iff, hpair, hpair, hmap _ (Prod.ext rfl hx)]

end

end Lib
