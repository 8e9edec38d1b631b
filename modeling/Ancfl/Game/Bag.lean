/-
  `BagModule`.

  * `BagModule`: the slots of the roles, and the counter of `GenerateItemId`;
  * `Op`: the operations that change a bag; an access outside of the slots is
    not defined;
  * `Placed`: the slots are where their `slot_index` says, and not too many;
  * `Op.call_ret`, `Op.placed`: an operation on placed slots returns, and leaves
    the slots placed.
-/
import Ancfl.Lib.Dict
import Ancfl.Lib.First
import Ancfl.Lib.Int32
import Ancfl.Lib.Mutex
import Ancfl.Lib.Pool
import Mathlib.Algebra.Order.Ring.Int

namespace Ancfl.Game.Bag

open Lib

structure ItemInfo where
  item_id : BitVec 64
  item_config_id : ℤ
  count : ℤ
  quality : ℤ
  level : ℤ
  bind_type : ℤ
  expire_time : ℤ
  extra_data : String
deriving DecidableEq

structure BagSlot where
  slot_index : ℤ
  item : ItemInfo
  is_empty : Bool
deriving DecidableEq

/-- `next_id` is a static variable of `GenerateItemId`. -/
structure BagModule where
  bag_cache_ : Dict (BitVec 64) (List BagSlot)
  next_id : BitVec 64

def BASE_BAG_SIZE : ℕ := 40

def MAX_BAG_SIZE : ℤ := 200

/-- `ItemInfo()` -/
def ItemInfo.zero : ItemInfo := ⟨0, 0, 0, 0, 0, 0, 0, ""⟩

namespace BagSlot

/-- A slot that is emptied. -/
def clear (slot : BagSlot) : BagSlot := { slot with is_empty := true, item := .zero }

/-- A slot that holds an item of a configuration. -/
def isOf (item_config_id : ℤ) (slot : BagSlot) : Bool :=
  !slot.is_empty && decide (slot.item.item_config_id = item_config_id)

/-- The slot of an item. -/
def hasId (item_id : BitVec 64) (slot : BagSlot) : Bool :=
  !slot.is_empty && decide (slot.item.item_id = item_id)

def setCount (count : ℤ) (slot : BagSlot) : BagSlot := { slot with item := { slot.item with count } }

/-- A new item in an empty slot; its `extra_data` is not set. -/
def fill (item_id : BitVec 64) (item_config_id count quality : ℤ) (slot : BagSlot) : BagSlot where
  slot_index := slot.slot_index
  item := ⟨item_id, item_config_id, count, quality, 1, 0, 0, slot.item.extra_data⟩
  is_empty := false

end BagSlot

/-! ## The slots of a role -/

/-- `slots[i]` is changed by `f`; there has to be such a slot. -/
def onSlot (i : ℤ) (f : BagSlot → BagSlot) (slots : List BagSlot) : Option (List BagSlot) :=
  if 0 ≤ i ∧ i < slots.length then some (slots.modify i.toNat f) else none

/-- The `slot_index` of the first slot that is looked for, or `-1`. -/
def slotIndex (p : BagSlot → Bool) (slots : List BagSlot) : ℤ :=
  match slots.find? p with
  | none => -1
  | some slot => slot.slot_index

def FindEmptySlot (slots : List BagSlot) : ℤ := slotIndex (·.is_empty) slots

def FindStackableSlot (item_config_id : ℤ) (slots : List BagSlot) : ℤ :=
  slotIndex (·.isOf item_config_id) slots

def itemCount (item_config_id : ℤ) (slots : List BagSlot) : ℤ :=
  slots.foldl (fun count slot =>
    if slot.isOf item_config_id then toInt32 (count + slot.item.count) else count) 0

/-- What `RemoveItem` does to the slot of the item. -/
def BagSlot.remove (count : ℤ) (slot : BagSlot) : Bool × BagSlot :=
  if slot.item.count < count then (false, slot)
  else
    let slot := slot.setCount (toInt32 (slot.item.count - count))
    if slot.item.count = 0 then (true, slot.clear) else (true, slot)

def removeItem (item_id : BitVec 64) (count : ℤ) (slots : List BagSlot) : Bool × List BagSlot :=
  match onFirst (·.hasId item_id) (·.remove count) slots with
  | none => (false, slots)
  | some r => r

/-- The check of the slots of `MoveItem` and `SwapItem`. -/
def invalid (slots : List BagSlot) (i j : ℤ) : Prop :=
  i < 0 ∨ toInt32 slots.length ≤ i ∨ j < 0 ∨ toInt32 slots.length ≤ j

instance (slots : List BagSlot) (i j : ℤ) : Decidable (invalid slots i j) := by
  unfold invalid
  infer_instance

def moveItem (from_slot to_slot : ℤ) (slots : List BagSlot) : Option (Bool × List BagSlot) :=
  if invalid slots from_slot to_slot then some (false, slots)
  else if from_slot = to_slot then some (true, slots)
  else
    match slots[from_slot.toNat]?, slots[to_slot.toNat]? with
    | some source, some target =>
      if !target.is_empty then some (false, slots)
      else some (true, (slots.set to_slot.toNat { source with slot_index := to_slot }).set
        from_slot.toNat ⟨from_slot, .zero, true⟩)
    | _, _ => none

def swapItem (slot1 slot2 : ℤ) (slots : List BagSlot) : Option (Bool × List BagSlot) :=
  if invalid slots slot1 slot2 then some (false, slots)
  else if slot1 = slot2 then some (true, slots)
  else
    match slots[slot1.toNat]?, slots[slot2.toNat]? with
    | some first, some second =>
      some (true, (slots.set slot1.toNat { second with slot_index := slot1 }).set slot2.toNat
        { first with slot_index := slot2 })
    | _, _ => none

/-- Slots from the index `first` on, with items that are not initialized but for their string. -/
def newSlots (junk : ℤ → ItemInfo) (first : ℤ) (n : ℕ) : List BagSlot :=
  (List.range n).map fun k : ℕ =>
    ⟨first + k, { junk (first + k) with extra_data := "" }, true⟩

def expandBag (junk : ℤ → ItemInfo) (expand_count : ℤ) (slots : List BagSlot) : Bool × List BagSlot :=
  let current_size := toInt32 slots.length
  let new_size := toInt32 (current_size + expand_count)
  if MAX_BAG_SIZE < new_size then (false, slots)
  else (true, slots ++ newSlots junk current_size (new_size - current_size).toNat)

/-! ## The operations -/

namespace BagModule

def setBag (role_id : BitVec 64) (slots : List BagSlot) (s : BagModule) : BagModule :=
  { s with bag_cache_ := s.bag_cache_.insert role_id slots }

/-- Change the slots of a role, if it has a bag. -/
def changeBag (role_id : BitVec 64) (f : List BagSlot → Option (Bool × List BagSlot)) (s : BagModule) :
    Option (Bool × BagModule) :=
  match s.bag_cache_.lookup role_id with
  | none => some (false, s)
  | some slots => (f slots).map fun (b, slots) => (b, s.setBag role_id slots)

def addItem (role_id : BitVec 64) (item_config_id count quality : ℤ) (s : BagModule) :
    Option (Bool × BagModule) :=
  match s.bag_cache_.lookup role_id with
  | none => some (false, s)
  | some slots =>
    let stackable_slot := FindStackableSlot item_config_id slots
    if 0 ≤ stackable_slot then
      (onSlot stackable_slot (fun slot => slot.setCount (toInt32 (slot.item.count + count))) slots).map
        fun slots => (true, s.setBag role_id slots)
    else
      let empty_slot := FindEmptySlot slots
      if empty_slot < 0 then some (false, s)
      else
        (onSlot empty_slot (·.fill s.next_id item_config_id count quality) slots).map
          fun slots => (true, { s.setBag role_id slots with next_id := s.next_id + 1 })

def InitBag (role_id : BitVec 64) : Locked BagModule Bool :=
  .lockGuard (.perform fun s =>
    match s.bag_cache_.lookup role_id with
    | some _ => (true, s)
    | none => (true, s.setBag role_id
      ((List.range BASE_BAG_SIZE).map fun n : ℕ => ⟨n, .zero, true⟩)))

def AddItem (role_id : BitVec 64) (item_config_id count quality : ℤ) : Locked BagModule Bool :=
  .lockGuard (.performWhere (addItem role_id item_config_id count quality))

/-- An operation on the slots of a role. -/
def onBag (role_id : BitVec 64) (f : List BagSlot → Option (Bool × List BagSlot)) :
    Locked BagModule Bool :=
  .lockGuard (.performWhere (changeBag role_id f))

def RemoveItem (role_id item_id : BitVec 64) (count : ℤ) : Locked BagModule Bool :=
  onBag role_id fun slots => some (removeItem item_id count slots)

def MoveItem (role_id : BitVec 64) (from_slot to_slot : ℤ) : Locked BagModule Bool :=
  onBag role_id (moveItem from_slot to_slot)

def SwapItem (role_id : BitVec 64) (slot1 slot2 : ℤ) : Locked BagModule Bool :=
  onBag role_id (swapItem slot1 slot2)

def GetItemCount (role_id : BitVec 64) (item_config_id : ℤ) : Locked BagModule (Option ℤ) :=
  .lockGuard (.perform fun s => ((s.bag_cache_.lookup role_id).map (itemCount item_config_id), s))

def ExpandBag (junk : ℤ → ItemInfo) (role_id : BitVec 64) (expand_count : ℤ) : Locked BagModule Bool :=
  onBag role_id fun slots => some (expandBag junk expand_count slots)

/-- What `UseItem` and `DropItem` do: the item is counted as if its id were the one of its
    configuration, and the result of `RemoveItem` is not looked at. -/
def takeItem (role_id item_id : BitVec 64) (count : ℤ) : Locked BagModule Bool := do
  match ← GetItemCount role_id (toInt32 item_id.toNat) with
  | none => return false
  | some current_count =>
    if current_count < count then return false
    else do
      let _ ← RemoveItem role_id item_id count
      return true

def UseItem (role_id item_id : BitVec 64) (count : ℤ) : Locked BagModule Bool :=
  takeItem role_id item_id count

def DropItem (role_id item_id : BitVec 64) (count : ℤ) : Locked BagModule Bool :=
  takeItem role_id item_id count

end BagModule

/-- The operations that change a bag. -/
inductive Op
  | InitBag (role_id : BitVec 64)
  | AddItem (role_id : BitVec 64) (item_config_id count quality : ℤ)
  | RemoveItem (role_id item_id : BitVec 64) (count : ℤ)
  | MoveItem (role_id : BitVec 64) (from_slot to_slot : ℤ)
  | SwapItem (role_id : BitVec 64) (slot1 slot2 : ℤ)
  | ExpandBag (role_id : BitVec 64) (expand_count : ℤ)

/-- A call of an operation; `junk` is in the items of new slots. -/
def Op.call (junk : ℤ → ItemInfo) : Op → Locked BagModule Bool
  | InitBag role_id => BagModule.InitBag role_id
  | AddItem role_id item_config_id count quality =>
    BagModule.AddItem role_id item_config_id count quality
  | RemoveItem role_id item_id count => BagModule.RemoveItem role_id item_id count
  | MoveItem role_id from_slot to_slot => BagModule.MoveItem role_id from_slot to_slot
  | SwapItem role_id slot1 slot2 => BagModule.SwapItem role_id slot1 slot2
  | ExpandBag role_id expand_count => BagModule.ExpandBag junk role_id expand_count

def Op.role : Op → BitVec 64
  | InitBag role_id | AddItem role_id _ _ _ | RemoveItem role_id _ _ | MoveItem role_id _ _
  | SwapItem role_id _ _ | ExpandBag role_id _ => role_id

/-- The operations that only move items, or make room. -/
def Op.Moves : Op → Prop
  | MoveItem _ _ _ | SwapItem _ _ _ | ExpandBag _ _ => True
  | _ => False

/-- After the constructor, where the counter of the ids is at `start`. -/
def constructed (start : BitVec 64) : BagModule := ⟨∅, start⟩

/-! ## What an operation does to the slots of its role -/

structure Placed (slots : List BagSlot) : Prop where
  index : ∀ (n : ℕ) (slot : BagSlot), slots[n]? = some slot → slot.slot_index = n
  size : (slots.length : ℤ) ≤ MAX_BAG_SIZE

/-- The slots, the result, and the slots and the counter afterwards. -/
inductive Op.Does (slots : List BagSlot) (next_id : BitVec 64) :
    Op → Bool → List BagSlot → BitVec 64 → Prop
  | init {role_id : BitVec 64} : Does slots next_id (.InitBag role_id) true slots next_id
  | full {role_id : BitVec 64} {item_config_id count quality : ℤ}
      (hother : ∀ slot ∈ slots, slot.isOf item_config_id = false) :
      Does slots next_id (.AddItem role_id item_config_id count quality) false slots next_id
  | stack {role_id : BitVec 64} {item_config_id count quality : ℤ} {n : ℕ} {slot : BagSlot}
      (hslot : slots[n]? = some slot) (hof : slot.isOf item_config_id = true) :
      Does slots next_id (.AddItem role_id item_config_id count quality) true
        (slots.set n (slot.setCount (toInt32 (slot.item.count + count)))) next_id
  | fill {role_id : BitVec 64} {item_config_id count quality : ℤ} {n : ℕ} {slot : BagSlot}
      (hother : ∀ slot ∈ slots, slot.isOf item_config_id = false)
      (hslot : slots[n]? = some slot) (hempty : slot.is_empty = true) :
      Does slots next_id (.AddItem role_id item_config_id count quality) true
        (slots.set n (slot.fill next_id item_config_id count quality)) (next_id + 1)
  | refuse {role_id item_id : BitVec 64} {count : ℤ}
      (hfew : ∀ slot, slots.find? (·.hasId item_id) = some slot → slot.item.count < count) :
      Does slots next_id (.RemoveItem role_id item_id count) false slots next_id
  | remove {role_id item_id : BitVec 64} {count : ℤ} {n : ℕ} {slot : BagSlot}
      (hslot : slots[n]? = some slot) (hid : slot.hasId item_id = true)
      (hfind : slots.find? (·.hasId item_id) = some slot) (hcount : count ≤ slot.item.count) :
      Does slots next_id (.RemoveItem role_id item_id count) true
        (slots.set n (slot.remove count).2) next_id
  | stay {op : Op} {b : Bool} (hmove : op.Moves) : Does slots next_id op b slots next_id
  | move {role_id : BitVec 64} {n m : ℕ} {source target : BagSlot} (hne : n ≠ m)
      (hsource : slots[n]? = some source) (htarget : slots[m]? = some target)
      (hempty : target.is_empty = true) :
      Does slots next_id (.MoveItem role_id n m) true
        ((slots.set m { source with slot_index := m }).set n ⟨n, .zero, true⟩) next_id
  | swap {role_id : BitVec 64} {n m : ℕ} {first second : BagSlot} (hne : n ≠ m)
      (hfirst : slots[n]? = some first) (hsecond : slots[m]? = some second) :
      Does slots next_id (.SwapItem role_id n m) true
        ((slots.set n { second with slot_index := n }).set m { first with slot_index := m }) next_id
  | expand {role_id : BitVec 64} {expand_count : ℤ} {new : List BagSlot}
      (hempty : ∀ slot ∈ new, slot.is_empty = true)
      (hindex : ∀ (n : ℕ) (slot : BagSlot), new[n]? = some slot → slot.slot_index = slots.length + n)
      (hsize : (slots.length + new.length : ℤ) ≤ MAX_BAG_SIZE) :
      Does slots next_id (.ExpandBag role_id expand_count) true (slots ++ new) next_id

section
variable {slots slots' : List BagSlot} {next_id next_id' : BitVec 64} {n : ℕ} {slot : BagSlot}
  {p : BagSlot → Bool} {f : BagSlot → BagSlot}

theorem onSlot_eq (h : slots[n]? = some slot) : onSlot n f slots = some (slots.set n (f slot)) := by
  obtain ⟨hlt, -⟩ := List.getElem?_eq_some_iff.1 h
  rw [onSlot, if_pos ⟨Int.natCast_nonneg n, Int.ofNat_lt.2 hlt⟩, Int.toNat_natCast, modify_eq_set h]

/-- A slot that is found is the one at its `slot_index`. -/
theorem Placed.slotIndex (h : Placed slots) (p : BagSlot → Bool) :
    (Bag.slotIndex p slots = -1 ∧ ∀ slot ∈ slots, p slot = false) ∨
      ∃ (n : ℕ) (slot : BagSlot), slots[n]? = some slot ∧ p slot = true ∧ Bag.slotIndex p slots = n := by
  unfold Bag.slotIndex
  cases hfind : slots.find? p with
  | none => exact .inl ⟨rfl, fun slot hslot => by simpa using List.find?_eq_none.1 hfind slot hslot⟩
  | some slot =>
    obtain ⟨n, hn⟩ := List.mem_iff_getElem?.1 (List.mem_of_find?_eq_some hfind)
    exact .inr ⟨n, slot, hn, List.find?_some hfind, h.index n slot hn⟩

theorem Placed.toInt32_length (h : Placed slots) : toInt32 slots.length = slots.length := by
  have hsize := h.size
  unfold MAX_BAG_SIZE at hsize
  exact toInt32_of_lt (by omega) (by omega)

/-- A slot number that passes the check of `MoveItem` and `SwapItem`. -/
theorem Placed.valid {i j : ℤ} (h : Placed slots) (hij : ¬invalid slots i j) :
    ∃ (n m : ℕ) (source target : BagSlot), i = n ∧ j = m ∧ slots[n]? = some source ∧
      slots[m]? = some target := by
  unfold invalid at hij
  rw [h.toInt32_length] at hij
  obtain ⟨n, rfl⟩ := Int.eq_ofNat_of_zero_le (show 0 ≤ i by omega)
  obtain ⟨m, rfl⟩ := Int.eq_ofNat_of_zero_le (show 0 ≤ j by omega)
  have hn : n < slots.length := by omega
  have hm : m < slots.length := by omega
  exact ⟨n, m, slots[n], slots[m], rfl, rfl, List.getElem?_eq_getElem hn, List.getElem?_eq_getElem hm⟩

theorem removeItem_does (role_id item_id : BitVec 64) (count : ℤ) : ∃ b slots',
    removeItem item_id count slots = (b, slots') ∧
      (Op.RemoveItem role_id item_id count).Does slots next_id b slots' next_id := by
  unfold removeItem
  rcases onFirst_find (BagSlot.hasId item_id) (BagSlot.remove count) slots with
    ⟨hfind, hnone⟩ | ⟨n, slot, hslot, hid, hfind, hsome⟩
  · rw [hnone]
    refine ⟨false, slots, rfl, .refuse ?_⟩
    exact fun slot hslot => by rw [hfind] at hslot; cases hslot
  · rw [hsome]
    by_cases hcount : slot.item.count < count
    · have hkept : slot.remove count = (false, slot) := if_pos hcount
      have hset : slots.set n slot = slots := by
        obtain ⟨hlt, rfl⟩ := List.getElem?_eq_some_iff.1 hslot
        exact List.set_getElem_self hlt
      dsimp only
      rw [hkept, hset]
      refine ⟨false, slots, rfl, .refuse fun slot' hslot' => ?_⟩
      rw [hfind] at hslot'
      exact Option.some.inj hslot' ▸ hcount
    · have htrue : (slot.remove count).1 = true := by
        unfold BagSlot.remove
        rw [if_neg hcount]
        dsimp only
        split_ifs <;> rfl
      dsimp only
      rw [htrue]
      exact ⟨true, _, rfl, .remove hslot hid hfind (not_lt.1 hcount)⟩

theorem moveItem_does (h : Placed slots) (role_id : BitVec 64) (i j : ℤ) : ∃ b slots',
    moveItem i j slots = some (b, slots') ∧
      (Op.MoveItem role_id i j).Does slots next_id b slots' next_id := by
  unfold moveItem
  split_ifs with hvalid heq
  · exact ⟨_, _, rfl, .stay trivial⟩
  · exact ⟨_, _, rfl, .stay trivial⟩
  · obtain ⟨n, m, source, target, rfl, rfl, hsource, htarget⟩ := h.valid hvalid
    rw [Int.toNat_natCast, Int.toNat_natCast, hsource, htarget]
    dsimp only
    cases hempty : target.is_empty with
    | false => exact ⟨_, _, rfl, .stay trivial⟩
    | true => exact ⟨_, _, rfl, .move (fun hnm => heq (by rw [hnm])) hsource htarget hempty⟩

theorem swapItem_does (h : Placed slots) (role_id : BitVec 64) (i j : ℤ) : ∃ b slots',
    swapItem i j slots = some (b, slots') ∧
      (Op.SwapItem role_id i j).Does slots next_id b slots' next_id := by
  unfold swapItem
  split_ifs with hvalid heq
  · exact ⟨_, _, rfl, .stay trivial⟩
  · exact ⟨_, _, rfl, .stay trivial⟩
  · obtain ⟨n, m, first, second, rfl, rfl, hfirst, hsecond⟩ := h.valid hvalid
    rw [Int.toNat_natCast, Int.toNat_natCast, hfirst, hsecond]
    exact ⟨_, _, rfl, .swap (fun hnm => heq (by rw [hnm])) hfirst hsecond⟩

theorem newSlots_length (junk : ℤ → ItemInfo) (first : ℤ) : (newSlots junk first n).length = n := by
  rw [newSlots, List.length_map, List.length_range]

theorem newSlots_empty {junk : ℤ → ItemInfo} {first : ℤ} (h : slot ∈ newSlots junk first n) :
    slot.is_empty = true := by
  obtain ⟨k, -, rfl⟩ := List.mem_map.1 h
  rfl

theorem newSlots_index {junk : ℤ → ItemInfo} {first : ℤ} {k : ℕ}
    (h : (newSlots junk first n)[k]? = some slot) : slot.slot_index = first + k := by
  rw [newSlots, List.getElem?_map, Option.map_eq_some_iff] at h
  obtain ⟨m, hm, rfl⟩ := h
  obtain ⟨hlt, hget⟩ := List.getElem?_eq_some_iff.1 hm
  rw [List.getElem_range] at hget
  rw [hget]

theorem expandBag_does (h : Placed slots) (junk : ℤ → ItemInfo) (role_id : BitVec 64) (expand_count : ℤ) :
    ∃ b slots', expandBag junk expand_count slots = (b, slots') ∧
      (Op.ExpandBag role_id expand_count).Does slots next_id b slots' next_id := by
  have hsize := h.size
  have hlength := h.toInt32_length
  by_cases hmax : MAX_BAG_SIZE < toInt32 (slots.length + expand_count)
  · have heq : expandBag junk expand_count slots = (false, slots) := by
      unfold expandBag
      rw [hlength]
      exact if_pos hmax
    exact ⟨false, slots, heq, .stay trivial⟩
  · have heq : expandBag junk expand_count slots = (true, slots ++ newSlots junk slots.length
        (toInt32 (slots.length + expand_count) - slots.length).toNat) := by
      unfold expandBag
      rw [hlength]
      exact if_neg hmax
    refine ⟨true, _, heq, .expand (fun _ => newSlots_empty) (fun _ _ => newSlots_index) ?_⟩
    rw [newSlots_length]
    omega

/-- The slots stay where they are if each write keeps its index. -/
theorem Placed.set (h : Placed slots) (hslot : slot.slot_index = n) : Placed (slots.set n slot) := by
  refine ⟨fun m other hother => ?_, by rw [List.length_set]; exact h.size⟩
  rw [List.getElem?_set] at hother
  split_ifs at hother with hm hlt
  · rw [← hm, ← Option.some.inj hother]
    exact hslot
  · exact h.index m other hother

theorem BagSlot.remove_index (count : ℤ) : (slot.remove count).2.slot_index = slot.slot_index := by
  unfold BagSlot.remove
  dsimp only
  split_ifs <;> rfl

theorem Op.Does.placed {op : Op} {b : Bool} (h : op.Does slots next_id b slots' next_id')
    (hplaced : Placed slots) : Placed slots' := by
  cases h with
  | init | full | refuse | stay => exact hplaced
  | stack hslot =>
    have hindex := hplaced.index _ _ hslot
    exact hplaced.set hindex
  | fill _ hslot =>
    have hindex := hplaced.index _ _ hslot
    exact hplaced.set hindex
  | remove hslot => exact hplaced.set ((BagSlot.remove_index _).trans (hplaced.index _ _ hslot))
  | move => exact (hplaced.set rfl).set rfl
  | swap => exact (hplaced.set rfl).set rfl
  | @expand _ _ new _ hindex hsize =>
    refine ⟨fun n slot hslot => ?_, by rw [List.length_append]; exact_mod_cast hsize⟩
    rw [List.getElem?_append] at hslot
    split_ifs at hslot with hn
    · exact hplaced.index n slot hslot
    · rw [hindex _ _ hslot]
      omega

theorem placed_init : Placed ((List.range BASE_BAG_SIZE).map fun n : ℕ => ⟨n, .zero, true⟩) := by
  refine ⟨fun n slot hslot => ?_, by decide⟩
  rw [List.getElem?_map, Option.map_eq_some_iff] at hslot
  obtain ⟨m, hm, rfl⟩ := hslot
  obtain ⟨hlt, hget⟩ := List.getElem?_eq_some_iff.1 hm
  rw [List.getElem_range] at hget
  rw [hget]

end

/-! ## What an operation does to the module -/

section
variable {s t : BagModule} {slots slots' : List BagSlot} {role_id : BitVec 64} {b : Bool} {op : Op}

namespace BagModule

/-- The slots of a role are changed, those of the others are not. -/
def Becomes (s : BagModule) (role_id : BitVec 64) (slots : List BagSlot) (t : BagModule) : Prop :=
  ∀ r, t.bag_cache_.lookup r = if r = role_id then some slots else s.bag_cache_.lookup r

theorem becomes_setBag : s.Becomes role_id slots (s.setBag role_id slots) :=
  fun _ => Dict.lookup_insert_iff

theorem becomes_self (h : s.bag_cache_.lookup role_id = some slots) : s.Becomes role_id slots s := by
  intro r
  split_ifs with hr
  · rw [hr, h]
  · rfl

theorem onBag_ret {f : List BagSlot → Option (Bool × List BagSlot)}
    (h : s.bag_cache_.lookup role_id = some slots) (hf : f slots = some (b, slots')) :
    onBag role_id f .free s = .ret b (s.setBag role_id slots') := by
  have hchange : changeBag role_id f s = some (b, s.setBag role_id slots') := by
    rw [changeBag, h]
    dsimp only
    rw [hf, Option.map_some]
  exact Locked.lockGuard_performWhere Lock.noConfusion hchange

theorem addItem_does (h : s.bag_cache_.lookup role_id = some slots) (hplaced : Placed slots)
    (item_config_id count quality : ℤ) : ∃ b t slots',
      addItem role_id item_config_id count quality s = some (b, t) ∧
        (Op.AddItem role_id item_config_id count quality).Does slots s.next_id b slots' t.next_id ∧
        s.Becomes role_id slots' t := by
  rw [addItem, h]
  dsimp only
  unfold FindStackableSlot FindEmptySlot
  rcases hplaced.slotIndex (·.isOf item_config_id) with ⟨hindex, hother⟩ | ⟨n, slot, hslot, hof, hindex⟩
  · rw [hindex, if_neg (by decide)]
    rcases hplaced.slotIndex (·.is_empty) with ⟨hindex, -⟩ | ⟨n, slot, hslot, hempty, hindex⟩
    · rw [hindex, if_pos (by decide)]
      exact ⟨_, _, _, rfl, .full hother, becomes_self h⟩
    · rw [hindex, if_neg (not_lt.2 (Int.natCast_nonneg n)), onSlot_eq hslot]
      exact ⟨_, _, _, rfl, .fill hother hslot hempty, becomes_setBag⟩
  · rw [hindex, if_pos (Int.natCast_nonneg n), onSlot_eq hslot]
    exact ⟨_, _, _, rfl, .stack hslot hof, becomes_setBag⟩

end BagModule

open BagModule

/-- **An operation on a bag** with placed slots returns. -/
theorem Op.call_bag (junk : ℤ → ItemInfo) (h : s.bag_cache_.lookup op.role = some slots) (hplaced : Placed slots) :
    ∃ b t slots', op.call junk .free s = .ret b t ∧ op.Does slots s.next_id b slots' t.next_id ∧
      s.Becomes op.role slots' t := by
  have hfree : Lock.free ≠ .held := Lock.noConfusion
  cases op with
  | InitBag role_id =>
    have hlookup : s.bag_cache_.lookup role_id = some slots := h
    have hcall : BagModule.InitBag role_id .free s = .ret true s := by
      rw [BagModule.InitBag, Locked.lockGuard_free, Locked.perform_apply, hlookup]
    exact ⟨true, s, slots, hcall, .init, becomes_self h⟩
  | AddItem role_id item_config_id count quality =>
    obtain ⟨b, t, slots', hadd, hdoes, hbecomes⟩ := addItem_does h hplaced item_config_id count quality
    exact ⟨b, t, slots', Locked.lockGuard_performWhere hfree hadd, hdoes, hbecomes⟩
  | RemoveItem role_id item_id count =>
    obtain ⟨b, slots', hremove, hdoes⟩ := removeItem_does role_id item_id count
    exact ⟨b, _, slots', onBag_ret h (congrArg some hremove), hdoes, becomes_setBag⟩
  | MoveItem role_id i j =>
    obtain ⟨b, slots', hmove, hdoes⟩ := moveItem_does hplaced role_id i j
    exact ⟨b, _, slots', onBag_ret h hmove, hdoes, becomes_setBag⟩
  | SwapItem role_id i j =>
    obtain ⟨b, slots', hswap, hdoes⟩ := swapItem_does hplaced role_id i j
    exact ⟨b, _, slots', onBag_ret h hswap, hdoes, becomes_setBag⟩
  | ExpandBag role_id expand_count =>
    obtain ⟨b, slots', hexpand, hdoes⟩ := expandBag_does hplaced junk role_id expand_count
    exact ⟨b, _, slots', onBag_ret h (congrArg some hexpand), hdoes, becomes_setBag⟩

/-- Where there is no bag, `InitBag` makes one and the others fail. -/
theorem Op.call_none (junk : ℤ → ItemInfo) (h : s.bag_cache_.lookup op.role = none) :
    op = .InitBag op.role ∧ op.call junk .free s = .ret true (s.setBag op.role
        ((List.range BASE_BAG_SIZE).map fun n : ℕ => ⟨n, .zero, true⟩)) ∨
      op.call junk .free s = .ret false s := by
  have hfree : Lock.free ≠ .held := Lock.noConfusion
  have hbag : ∀ f, onBag op.role f .free s = .ret false s := by
    intro f
    have hchange : changeBag op.role f s = some (false, s) := by
      rw [changeBag, h]
    exact Locked.lockGuard_performWhere hfree hchange
  cases op with
  | InitBag role_id =>
    refine .inl ⟨rfl, ?_⟩
    have hmissing : s.bag_cache_.lookup role_id = none := h
    rw [Op.call, BagModule.InitBag, Locked.lockGuard_free, Locked.perform_apply, hmissing]
    rfl
  | AddItem role_id item_config_id count quality =>
    have hadd : addItem role_id item_config_id count quality s = some (false, s) := by
      have hmissing : s.bag_cache_.lookup role_id = none := h
      rw [addItem, hmissing]
    exact .inr (Locked.lockGuard_performWhere hfree hadd)
  | RemoveItem | MoveItem | SwapItem | ExpandBag => exact .inr (hbag _)

def BagModule.AllPlaced (s : BagModule) : Prop :=
  ∀ role_id slots, s.bag_cache_.lookup role_id = some slots → Placed slots

theorem BagModule.Becomes.allPlaced (h : s.Becomes role_id slots t) (hs : s.AllPlaced)
    (hslots : Placed slots) : t.AllPlaced := by
  intro r slots' hr
  rw [h r] at hr
  split_ifs at hr
  · exact Option.some.inj hr ▸ hslots
  · exact hs r slots' hr

/-- **An operation returns**, and the slots stay where they are. -/
theorem Op.call_ret (hs : s.AllPlaced) (op : Op) (junk : ℤ → ItemInfo) :
    ∃ b t, op.call junk .free s = .ret b t ∧ t.AllPlaced := by
  cases h : s.bag_cache_.lookup op.role with
  | none =>
    rcases op.call_none junk h with ⟨-, hcall⟩ | hcall
    · exact ⟨true, _, hcall, becomes_setBag.allPlaced hs placed_init⟩
    · exact ⟨false, s, hcall, hs⟩
  | some slots =>
    obtain ⟨b, t, slots', hcall, hdoes, hbecomes⟩ := op.call_bag junk h (hs _ _ h)
    exact ⟨b, t, hcall, hbecomes.allPlaced hs (hdoes.placed (hs _ _ h))⟩

end

end Ancfl.Game.Bag
