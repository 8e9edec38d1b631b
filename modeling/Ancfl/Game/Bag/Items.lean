/-
  The items of the bags over whole runs.

  * `items slots`: the items of the slots that are not empty; `MoveItem`,
    `SwapItem` and `ExpandBag` keep them (`Op.Does.items_eq`);
  * `World`: a module and the log of its additions and removals;
  * `bags_sound`: as long as less than 2^31 units of a kind are in a bag, the slots
    are placed, no item has a count of zero or less, a bag has one slot for a
    configuration at most, and `GetItemCount` says what the log does. The ids of a
    bag differ while the additions have not used up the 2^64 ids.
-/
import Ancfl.Game.Bag
import Ancfl.Lib.Run
import Mathlib.Algebra.Order.BigOperators.Group.Multiset
import Mathlib.Algebra.Order.Group.Multiset

namespace Ancfl.Game.Bag

open Lib

/-- The item of a slot, if it has one. -/
def BagSlot.contents (slot : BagSlot) : Multiset ItemInfo := if slot.is_empty = true then 0 else {slot.item}

/-- The items of a bag. -/
def items (slots : List BagSlot) : Multiset ItemInfo := tally BagSlot.contents slots

/-! ## Items without their slots -/

/-- How many units of a configuration an item is. -/
def ItemInfo.units (item_config_id : ℤ) (item : ItemInfo) : ℤ :=
  if item.item_config_id = item_config_id then item.count else 0

/-- How many units of a configuration there are. -/
def held (item_config_id : ℤ) (m : Multiset ItemInfo) : ℤ := (m.map (ItemInfo.units item_config_id)).sum

structure ItemsSound (m : Multiset ItemInfo) : Prop where
  pos : ∀ item ∈ m, 0 < item.count
  configs : (m.map (·.item_config_id)).Nodup

/-- An addition of units of a configuration to the bag of a role; fewer than zero for a removal. -/
structure Event where
  role_id : BitVec 64
  item_config_id : ℤ
  units : ℤ

/-- How many units of a configuration came into the bag of a role. -/
def Event.of (role_id : BitVec 64) (item_config_id : ℤ) (e : Event) : ℤ :=
  if e.role_id = role_id ∧ e.item_config_id = item_config_id then e.units else 0

/-- What an addition, a removal and the other operations do to the items of a bag. -/
inductive ItemStep (role_id next_id : BitVec 64) (m : Multiset ItemInfo) :
    Option Event → Multiset ItemInfo → BitVec 64 → Prop
  | keep : ItemStep role_id next_id m none m next_id
  | stack {count : ℤ} {item : ItemInfo} {rest : Multiset ItemInfo} (hm : m = item ::ₘ rest) (hcount : 0 < count) :
      ItemStep role_id next_id m (some ⟨role_id, item.item_config_id, count⟩)
        ({ item with count := toInt32 (item.count + count) } ::ₘ rest) next_id
  | fill {item : ItemInfo} (hother : ∀ old ∈ m, old.item_config_id ≠ item.item_config_id)
      (hid : item.item_id = next_id) (hcount : 0 < item.count) :
      ItemStep role_id next_id m (some ⟨role_id, item.item_config_id, item.count⟩) (item ::ₘ m) (next_id + 1)
  | takeAll {item : ItemInfo} {rest : Multiset ItemInfo} (hm : m = item ::ₘ rest) :
      ItemStep role_id next_id m (some ⟨role_id, item.item_config_id, -item.count⟩) rest next_id
  | take {count : ℤ} {item : ItemInfo} {rest : Multiset ItemInfo} (hm : m = item ::ₘ rest) (hcount : 0 < count)
      (hlt : count < item.count) :
      ItemStep role_id next_id m (some ⟨role_id, item.item_config_id, -count⟩)
        ({ item with count := item.count - count } ::ₘ rest) next_id

section
variable {m m' rest : Multiset ItemInfo} {item : ItemInfo} {role_id next_id next_id' : BitVec 64}
  {item_config_id : ℤ} {e : Option Event}

@[simp] theorem held_zero : held item_config_id 0 = 0 := rfl

@[simp] theorem held_cons : held item_config_id (item ::ₘ m) = item.units item_config_id + held item_config_id m := by
  rw [held, Multiset.map_cons, Multiset.sum_cons, held]

theorem ItemsSound.units_nonneg (h : ItemsSound m) (hitem : item ∈ m) : 0 ≤ item.units item_config_id := by
  unfold ItemInfo.units
  split_ifs
  · exact (h.pos item hitem).le
  · exact le_rfl

theorem ItemsSound.held_nonneg (h : ItemsSound m) : 0 ≤ held item_config_id m := by
  refine Multiset.sum_nonneg fun x hx => ?_
  obtain ⟨item, hitem, rfl⟩ := Multiset.mem_map.1 hx
  exact h.units_nonneg hitem

theorem ItemsSound.of_cons (h : ItemsSound (item ::ₘ m)) : ItemsSound m := by
  refine ⟨fun old hold => h.pos old (Multiset.mem_cons_of_mem hold), ?_⟩
  have hconfigs := h.configs
  rw [Multiset.map_cons, Multiset.nodup_cons] at hconfigs
  exact hconfigs.2

/-- An item is no more than there is of its configuration. -/
theorem ItemsSound.count_le (h : ItemsSound (item ::ₘ rest)) :
    item.count ≤ held item.item_config_id (item ::ₘ rest) := by
  have hrest : 0 ≤ held item.item_config_id rest := h.of_cons.held_nonneg
  have hunits : item.units item.item_config_id = item.count := if_pos rfl
  rw [held_cons, hunits]
  omega

/-- The count of an item is changed. -/
theorem ItemsSound.setCount {count : ℤ} (h : ItemsSound (item ::ₘ rest)) (hcount : 0 < count) :
    ItemsSound ({ item with count } ::ₘ rest) := by
  refine ⟨fun old hold => ?_, ?_⟩
  · rcases Multiset.mem_cons.1 hold with rfl | hold
    · exact hcount
    · exact h.of_cons.pos old hold
  · have hconfigs := h.configs
    rw [Multiset.map_cons] at hconfigs ⊢
    exact hconfigs

/-- What came in, if there is no overflow. -/
theorem ItemStep.held_eq (h : ItemStep role_id next_id m e m' next_id') (hm : ItemsSound m)
    (hfits : ∀ e' ∈ e, held e'.item_config_id m + e'.units < 2 ^ 31) (item_config_id : ℤ) :
    held item_config_id m' = held item_config_id m + tally (Event.of role_id item_config_id) e.toList := by
  cases h with
  | keep => simp
  | @stack count item rest heq hcount =>
    have hfit := hfits _ rfl
    subst heq
    have hle := hm.count_le
    have hpos := hm.pos item (Multiset.mem_cons_self item rest)
    dsimp only at hfit
    have hcast : toInt32 (item.count + count) = item.count + count := toInt32_of_lt (by omega) (by omega)
    simp only [held_cons, ItemInfo.units, Event.of, Option.toList_some, tally_cons, tally_nil, hcast, true_and]
    split_ifs <;> omega
  | @fill item hother hid hcount =>
    simp only [held_cons, ItemInfo.units, Event.of, Option.toList_some, tally_cons, tally_nil, true_and]
    split_ifs <;> omega
  | @takeAll item rest heq =>
    subst heq
    simp only [held_cons, ItemInfo.units, Event.of, Option.toList_some, tally_cons, tally_nil, true_and]
    split_ifs <;> omega
  | @take count item rest heq hcount hlt =>
    subst heq
    simp only [held_cons, ItemInfo.units, Event.of, Option.toList_some, tally_cons, tally_nil, true_and]
    split_ifs <;> omega

theorem ItemStep.sound (h : ItemStep role_id next_id m e m' next_id') (hm : ItemsSound m)
    (hfits : ∀ e' ∈ e, held e'.item_config_id m + e'.units < 2 ^ 31) : ItemsSound m' := by
  cases h with
  | keep => exact hm
  | @stack count item rest heq hcount =>
    have hfit := hfits _ rfl
    subst heq
    have hle := hm.count_le
    have hpos := hm.pos item (Multiset.mem_cons_self item rest)
    dsimp only at hfit
    have hcast : toInt32 (item.count + count) = item.count + count := toInt32_of_lt (by omega) (by omega)
    rw [hcast]
    exact hm.setCount (by omega)
  | @fill item hother hid hcount =>
    refine ⟨fun old hold => ?_, ?_⟩
    · rcases Multiset.mem_cons.1 hold with rfl | hold
      · exact hcount
      · exact hm.pos old hold
    · rw [Multiset.map_cons, Multiset.nodup_cons]
      refine ⟨fun hmem => ?_, hm.configs⟩
      obtain ⟨old, hold, heq⟩ := Multiset.mem_map.1 hmem
      exact hother old hold heq
  | takeAll heq =>
    subst heq
    exact hm.of_cons
  | take heq hcount hlt =>
    subst heq
    exact hm.setCount (by omega)

/-- The ids after a step are the ones before, and perhaps the new one. -/
theorem ItemStep.ids (h : ItemStep role_id next_id m e m' next_id') :
    (m'.map (·.item_id) ≤ m.map (·.item_id) ∧ next_id' = next_id) ∨
      (m'.map (·.item_id) = next_id ::ₘ m.map (·.item_id) ∧ next_id' = next_id + 1 ∧
        ∃ e', e = some e' ∧ 0 < e'.units) := by
  cases h with
  | keep => exact .inl ⟨le_rfl, rfl⟩
  | stack heq =>
    subst heq
    exact .inl ⟨by rw [Multiset.map_cons, Multiset.map_cons], rfl⟩
  | fill _ hid hcount => exact .inr ⟨by rw [Multiset.map_cons, hid], rfl, _, rfl, hcount⟩
  | takeAll heq =>
    subst heq
    exact .inl ⟨by rw [Multiset.map_cons]; exact Multiset.le_cons_self _ _, rfl⟩
  | take heq =>
    subst heq
    exact .inl ⟨by rw [Multiset.map_cons, Multiset.map_cons], rfl⟩

end

/-! ## The items after an operation -/

section
variable {slots slots' : List BagSlot} {next_id next_id' : BitVec 64} {n : ℕ} {slot slot' : BagSlot}
  {item : ItemInfo} {op : Op} {b : Bool}

@[simp] theorem items_nil : items [] = 0 := rfl

@[simp] theorem items_append {l l' : List BagSlot} : items (l ++ l') = items l + items l' :=
  tally_append _

theorem contents_of_empty (h : slot.is_empty = true) : slot.contents = 0 := if_pos h

theorem contents_of_item (h : slot.is_empty = false) : slot.contents = {slot.item} := by
  rw [BagSlot.contents, h, if_neg Bool.false_ne_true]

theorem items_set (h : slots[n]? = some slot) (slot' : BagSlot) :
    items (slots.set n slot') + slot.contents = items slots + slot'.contents :=
  tally_set _ h slot'

theorem items_of_empty {l : List BagSlot} (h : ∀ slot ∈ l, slot.is_empty = true) : items l = 0 := by
  induction l with
  | nil => rfl
  | cons slot l ih =>
    rw [items, tally_cons, contents_of_empty (h slot List.mem_cons_self), zero_add]
    exact ih fun slot hslot => h slot (List.mem_cons_of_mem _ hslot)

/-- **Moves keep the items.** -/
theorem Op.Does.items_eq (h : op.Does slots next_id b slots' next_id') (hmove : op.Moves) :
    items slots' = items slots := by
  cases h with
  | init | full | stack | fill | refuse | remove => exact hmove.elim
  | stay => rfl
  | @move role_id n m source target hne hsource htarget hempty =>
    have hto := items_set htarget { source with slot_index := m }
    have hsource' : (slots.set m { source with slot_index := m })[n]? = some source := by
      rw [List.getElem?_set_ne hne.symm, hsource]
    have hfrom := items_set hsource' ⟨n, .zero, true⟩
    have hcontents : BagSlot.contents { source with slot_index := (m : ℤ) } = source.contents := rfl
    have hzero : BagSlot.contents ⟨n, .zero, true⟩ = 0 := rfl
    rw [contents_of_empty hempty, add_zero, hcontents] at hto
    rw [hzero, add_zero, hto] at hfrom
    exact add_right_cancel hfrom
  | @swap role_id n m first second hne hfirst hsecond =>
    have hone := items_set hfirst { second with slot_index := n }
    have hsecond' : (slots.set n { second with slot_index := n })[m]? = some second := by
      rw [List.getElem?_set_ne hne, hsecond]
    have htwo := items_set hsecond' { first with slot_index := m }
    have hcontents : BagSlot.contents { second with slot_index := (n : ℤ) } = second.contents := rfl
    have hcontents' : BagSlot.contents { first with slot_index := (m : ℤ) } = first.contents := rfl
    rw [hcontents] at hone
    rw [hcontents'] at htwo
    exact add_right_cancel (htwo.trans hone)
  | expand hempty => rw [items_append, items_of_empty hempty, add_zero]

/-- The item of a slot and the others. -/
theorem items_split (h : slots[n]? = some slot) : ∃ rest, items slots = slot.contents + rest ∧
    ∀ slot', items (slots.set n slot') = slot'.contents + rest := by
  refine ⟨items (slots.eraseIdx n), (tally_eraseIdx _ h).symm, fun slot' => ?_⟩
  obtain ⟨hlt, -⟩ := List.getElem?_eq_some_iff.1 h
  have hset : (slots.set n slot')[n]? = some slot' := List.getElem?_set_self hlt
  have herase := tally_eraseIdx BagSlot.contents hset
  rw [List.eraseIdx_set_eq] at herase
  exact herase.symm

theorem mem_items (hslot : slot ∈ slots) (hempty : slot.is_empty = false) : slot.item ∈ items slots := by
  obtain ⟨n, hn⟩ := List.mem_iff_getElem?.1 hslot
  obtain ⟨rest, hrest, -⟩ := items_split hn
  rw [hrest, contents_of_item hempty]
  exact Multiset.mem_add.2 (.inl (Multiset.mem_singleton_self _))

theorem exists_of_mem_items (h : item ∈ items slots) :
    ∃ slot ∈ slots, slot.is_empty = false ∧ slot.item = item := by
  induction slots with
  | nil => simp at h
  | cons slot slots ih =>
    rw [items, tally_cons] at h
    rcases Multiset.mem_add.1 h with h | h
    · cases hempty : slot.is_empty with
      | true => simp [contents_of_empty hempty] at h
      | false =>
        rw [contents_of_item hempty] at h
        exact ⟨slot, List.mem_cons_self, hempty, (Multiset.mem_singleton.1 h).symm⟩
    · obtain ⟨old, hold, hitem⟩ := ih h
      exact ⟨old, List.mem_cons_of_mem _ hold, hitem⟩

/-- The arguments that are looked at: `int32_t` counts, of at least one. -/
def Op.Valid : Op → Prop
  | AddItem _ _ count _ | RemoveItem _ _ count => 1 ≤ count ∧ count < 2 ^ 31
  | ExpandBag _ expand_count => 0 ≤ expand_count ∧ expand_count < 2 ^ 31
  | _ => True

/-- What a call that returns `b` does to the log. -/
def Op.event (slots : List BagSlot) (b : Bool) : Op → Option Event
  | AddItem role_id item_config_id count _ => if b = true then some ⟨role_id, item_config_id, count⟩ else none
  | RemoveItem role_id item_id count =>
    if b = true then (slots.find? (·.hasId item_id)).map fun slot =>
      ⟨role_id, slot.item.item_config_id, -count⟩
    else none
  | _ => none

/-- A successful removal. -/
theorem ItemStep.of_remove {role_id next_id : BitVec 64} {count : ℤ} {rest : Multiset ItemInfo}
    (hempty : slot.is_empty = false) (hcount : 1 ≤ count) (hle : count ≤ slot.item.count)
    (hhigh : slot.item.count < 2 ^ 31) :
    ItemStep role_id next_id (slot.item ::ₘ rest) (some ⟨role_id, slot.item.item_config_id, -count⟩)
      ((slot.remove count).2.contents + rest) next_id := by
  have hcast : toInt32 (slot.item.count - count) = slot.item.count - count :=
    toInt32_of_lt (by omega) (by omega)
  unfold BagSlot.remove
  rw [if_neg (not_lt.2 hle), hcast]
  dsimp only [BagSlot.setCount]
  split_ifs with hzero
  · obtain rfl : count = slot.item.count := by omega
    rw [contents_of_empty rfl, zero_add]
    exact .takeAll rfl
  · rw [contents_of_item (by exact hempty)]
    exact .take rfl (by omega) (by omega)

theorem Op.Does.itemStep (h : op.Does slots next_id b slots' next_id') (hvalid : op.Valid)
    (hhigh : ∀ item ∈ items slots, item.count < 2 ^ 31) :
    ItemStep op.role next_id (items slots) (op.event slots b) (items slots') next_id' := by
  have hmoves : op.Moves → ItemStep op.role next_id (items slots) (op.event slots b) (items slots') next_id := by
    intro hmove
    rw [h.items_eq hmove]
    cases op with
    | InitBag | AddItem | RemoveItem => exact hmove.elim
    | MoveItem | SwapItem | ExpandBag => exact .keep
  cases h with
  | init | full | refuse => exact .keep
  | stay hmove => exact hmoves hmove
  | move | swap | expand => exact hmoves trivial
  | @stack role_id item_config_id count quality n slot hslot hof =>
    obtain ⟨hempty, rfl⟩ : slot.is_empty = false ∧ slot.item.item_config_id = item_config_id := by
      simpa [BagSlot.isOf] using hof
    obtain ⟨rest, hitems, hset⟩ := items_split hslot
    rw [hset, hitems, contents_of_item hempty, contents_of_item (by exact hempty)]
    exact .stack rfl (by have := hvalid.1; omega)
  | @fill role_id item_config_id count quality n slot hother hslot hempty =>
    obtain ⟨rest, hitems, hset⟩ := items_split hslot
    have hrest : items slots = rest := by rw [hitems, contents_of_empty hempty, zero_add]
    rw [hset, contents_of_item rfl, ← hrest]
    refine @ItemStep.fill _ _ _ (slot.fill next_id item_config_id count quality).item (fun old hold heq => ?_) rfl ?_
    · obtain ⟨other, hmem, hother_item, rfl⟩ := exists_of_mem_items hold
      have hnot := hother other hmem
      simp [BagSlot.isOf, hother_item] at hnot
      exact hnot heq
    · have hone : 1 ≤ count := hvalid.1
      show 0 < count
      omega
  | @remove role_id item_id count n slot hslot hid hfind hcount =>
    obtain ⟨hempty, -⟩ : slot.is_empty = false ∧ slot.item.item_id = item_id := by
      simpa [BagSlot.hasId] using hid
    obtain ⟨rest, hitems, hset⟩ := items_split hslot
    have hevent : (Op.RemoveItem role_id item_id count).event slots true =
        some ⟨role_id, slot.item.item_config_id, -count⟩ := by
      rw [Op.event, if_pos rfl, hfind]
      rfl
    have hitem := hhigh slot.item (mem_items (List.mem_of_getElem? hslot) hempty)
    rw [hset, hevent, hitems, contents_of_item hempty]
    exact ItemStep.of_remove hempty hvalid.1 hcount hitem

/-- The units that `GetItemCount` adds up. -/
theorem itemCount_eq (item_config_id : ℤ) (slots : List BagSlot) :
    itemCount item_config_id slots = toInt32 (held item_config_id (items slots)) := by
  have hfold : ∀ x : ℤ, slots.foldl (fun count slot =>
      if slot.isOf item_config_id then toInt32 (count + slot.item.count) else count) (toInt32 x) =
        toInt32 (x + held item_config_id (items slots)) := by
    induction slots with
    | nil =>
      intro x
      rw [List.foldl_nil, items_nil, held_zero, add_zero]
    | cons slot slots ih =>
      intro x
      rw [List.foldl_cons, items, tally_cons]
      cases hempty : slot.is_empty with
      | true =>
        have hnot : slot.isOf item_config_id = false := by simp [BagSlot.isOf, hempty]
        rw [hnot, if_neg Bool.false_ne_true, contents_of_empty hempty, zero_add]
        exact ih x
      | false =>
        rw [contents_of_item hempty, Multiset.singleton_add, held_cons, ItemInfo.units, ← add_assoc]
        by_cases hconfig : slot.item.item_config_id = item_config_id
        · have hof : slot.isOf item_config_id = true := by simp [BagSlot.isOf, hempty, hconfig]
          have hcast : toInt32 (toInt32 x + slot.item.count) = toInt32 (x + slot.item.count) :=
            Int.bmod_add_bmod
          rw [if_pos hof, if_pos hconfig, hcast]
          exact ih _
        · have hnot : slot.isOf item_config_id = false := by simp [BagSlot.isOf, hconfig]
          rw [hnot, if_neg Bool.false_ne_true, if_neg hconfig, add_zero]
          exact ih x
  have hzero := hfold 0
  rw [zero_add] at hzero
  exact hzero

end

/-! ## Runs -/

structure World where
  module : BagModule
  log : List Event

/-- How many units of a configuration came into the bag of a role, less those that were removed. -/
def balance (role_id : BitVec 64) (item_config_id : ℤ) (log : List Event) : ℤ :=
  tally (Event.of role_id item_config_id) log

/-- How many units were added, to all bags together. -/
def gained (log : List Event) : ℤ := tally (fun e : Event => max e.units 0) log

/-- A call of an operation, with the `junk` of new slots. -/
def World.Step (w : World) (call : (ℤ → ItemInfo) × Op) (w' : World) : Prop :=
  ∃ b t, call.2.Valid ∧ call.2.call call.1 .free w.module = .ret b t ∧
    w' = ⟨t, w.log ++ (call.2.event (w.module.bag_cache_.rows call.2.role) b).toList⟩

/-- Less than 2^31 units of a configuration are in a bag. -/
def World.Below (w : World) : Prop :=
  ∀ role_id item_config_id, balance role_id item_config_id w.log < 2 ^ 31

structure World.Sound (w : World) : Prop where
  placed : w.module.AllPlaced
  items : ∀ role_id slots, w.module.bag_cache_.lookup role_id = some slots → ItemsSound (items slots)
  ids : gained w.log ≤ 2 ^ 64 → ∀ role_id slots, w.module.bag_cache_.lookup role_id = some slots →
    ((Bag.items slots).map (·.item_id)).Nodup
  count : ∀ role_id item_config_id, BagModule.GetItemCount role_id item_config_id .free w.module =
    .ret (if (w.module.bag_cache_.lookup role_id).isSome = true then
      some (balance role_id item_config_id w.log) else none) w.module

/-- The ids are among the first `made` ones. -/
def Numbered (start : BitVec 64) (made : ℕ) (ids : Multiset (BitVec 64)) : Prop :=
  ∀ id ∈ ids, ∃ k < made, id = start + BitVec.ofNat 64 k

/-- `start` is the first id. -/
structure World.Inv (start : BitVec 64) (w : World) : Prop where
  placed : w.module.AllPlaced
  items : ∀ role_id, ItemsSound (items (w.module.bag_cache_.rows role_id))
  held : ∀ role_id item_config_id, held item_config_id (Bag.items (w.module.bag_cache_.rows role_id)) =
    balance role_id item_config_id w.log
  below : w.Below
  ids : ∃ made : ℕ, (made : ℤ) ≤ gained w.log ∧ w.module.next_id = start + BitVec.ofNat 64 made ∧
    ∀ role_id, Numbered start made ((Bag.items (w.module.bag_cache_.rows role_id)).map (·.item_id)) ∧
      (gained w.log ≤ 2 ^ 64 → ((Bag.items (w.module.bag_cache_.rows role_id)).map (·.item_id)).Nodup)

section
variable {w w' : World} {start role_id next_id next_id' : BitVec 64} {slots slots' : List BagSlot} {t : BagModule}
  {m m' : Multiset ItemInfo} {e : Option Event} {made made' : ℕ} {ids ids' : Multiset (BitVec 64)} {b : Bool}
  {op : Op}

theorem Numbered.mono (h : Numbered start made ids) (hmade : made ≤ made') (hids : ids' ≤ ids) :
    Numbered start made' ids' := by
  intro id hid
  obtain ⟨k, hk, heq⟩ := h id (Multiset.mem_of_le hids hid)
  exact ⟨k, by omega, heq⟩

theorem Numbered.cons (h : Numbered start made ids) :
    Numbered start (made + 1) ((start + BitVec.ofNat 64 made) ::ₘ ids) := by
  intro id hid
  rcases Multiset.mem_cons.1 hid with rfl | hid
  · exact ⟨made, by omega, rfl⟩
  · obtain ⟨k, hk, heq⟩ := h id hid
    exact ⟨k, by omega, heq⟩

/-- The next id is new while there are ids left. -/
theorem Numbered.not_mem (h : Numbered start made ids) (hmade : made < 2 ^ 64) :
    start + BitVec.ofNat 64 made ∉ ids := by
  intro hmem
  obtain ⟨k, hk, heq⟩ := h _ hmem
  have hnat := congrArg BitVec.toNat ((BitVec.add_right_inj start).1 heq)
  rw [BitVec.toNat_ofNat, BitVec.toNat_ofNat, Nat.mod_eq_of_lt hmade, Nat.mod_eq_of_lt (by omega)] at hnat
  omega

theorem gained_append (log : List Event) (e : Option Event) : gained log ≤ gained (log ++ e.toList) := by
  rw [gained, gained, tally_append]
  have hnonneg : 0 ≤ tally (fun e : Event => max e.units 0) e.toList :=
    tally_nonneg fun e _ => le_max_right _ _
  omega

theorem ItemStep.role (h : ItemStep role_id next_id m e m' next_id') : ∀ e' ∈ e, e'.role_id = role_id := by
  intro e' he'
  cases h with
  | keep => cases he'
  | stack | fill | takeAll | take =>
    cases he'
    rfl

theorem tally_of_other {role_id' : BitVec 64} (h : ∀ e' ∈ e, e'.role_id = role_id) (hne : role_id' ≠ role_id)
    (item_config_id : ℤ) : tally (Event.of role_id' item_config_id) e.toList = 0 := by
  cases e with
  | none => rfl
  | some e' =>
    have hrole := h e' rfl
    rw [Option.toList_some, tally_cons, tally_nil, add_zero]
    exact if_neg fun he => hne (he.1.symm.trans hrole)

theorem BagModule.Becomes.rows {s : BagModule} (h : s.Becomes role_id slots t) (r : BitVec 64) :
    t.bag_cache_.rows r = if r = role_id then slots else s.bag_cache_.rows r := by
  unfold Dict.rows
  rw [h r]
  split_ifs <;> rfl

/-- **A step of the items of one bag** keeps the invariant. -/
theorem World.Inv.change (h : w.Inv start) (hbecomes : w.module.Becomes role_id slots' t)
    (hplaced : Placed slots') (hstep : ItemStep role_id w.module.next_id
      (Bag.items (w.module.bag_cache_.rows role_id)) e (Bag.items slots') t.next_id)
    (hbelow : World.Below ⟨t, w.log ++ e.toList⟩) : World.Inv start ⟨t, w.log ++ e.toList⟩ := by
  have hfits : ∀ e' ∈ e, Bag.held e'.item_config_id (Bag.items (w.module.bag_cache_.rows role_id)) + e'.units
      < 2 ^ 31 := by
    intro e' he'
    have hrole := hstep.role e' he'
    have hlt := hbelow role_id e'.item_config_id
    have hof : Event.of role_id e'.item_config_id e' = e'.units := if_pos ⟨hrole, rfl⟩
    cases he'
    rw [h.held, ← hof]
    simpa [balance, Event.of] using hlt
  refine ⟨hbecomes.allPlaced h.placed hplaced, fun r => ?_, fun r item_config_id => ?_, hbelow, ?_⟩
  · dsimp only
    rw [hbecomes.rows]
    split_ifs with hr
    · exact hstep.sound (h.items role_id) hfits
    · exact h.items r
  · dsimp only
    rw [hbecomes.rows, balance, tally_append]
    split_ifs with hr
    · subst hr
      rw [hstep.held_eq (h.items r) hfits, h.held, balance]
    · rw [tally_of_other hstep.role hr, add_zero, h.held, balance]
  · obtain ⟨made, hmade, hnext, hids⟩ := h.ids
    have hgained := gained_append w.log e
    rcases hstep.ids with ⟨hle, hsame⟩ | ⟨hnew, hnext', e', rfl, hpos⟩
    · refine ⟨made, hmade.trans hgained, hsame.trans hnext, fun r => ?_⟩
      dsimp only
      rw [hbecomes.rows]
      split_ifs with hr
      · exact ⟨(hids role_id).1.mono le_rfl hle,
          fun hfew => Multiset.nodup_of_le hle ((hids role_id).2 (hgained.trans hfew))⟩
      · exact ⟨(hids r).1, fun hfew => (hids r).2 (hgained.trans hfew)⟩
    · have hmore : (made + 1 : ℤ) ≤ gained (w.log ++ [e']) := by
        rw [gained, tally_append, tally_cons, tally_nil, max_eq_left hpos.le]
        unfold gained at hmade
        omega
      refine ⟨made + 1, by exact_mod_cast hmore, ?_, fun r => ?_⟩
      · rw [hnext', hnext, BitVec.ofNat_add, BitVec.add_assoc]
        rfl
      · dsimp only
        rw [hbecomes.rows]
        split_ifs with hr
        · rw [hnew, hnext]
          refine ⟨(hids role_id).1.cons, fun hfew => ?_⟩
          rw [Option.toList_some] at hfew hgained
          exact Multiset.nodup_cons.2 ⟨(hids role_id).1.not_mem (by omega), (hids role_id).2 (hgained.trans hfew)⟩
        · exact ⟨(hids r).1.mono (by omega) le_rfl, fun hfew => (hids r).2 (hgained.trans hfew)⟩

theorem Op.event_false (op : Op) (slots : List BagSlot) : op.event slots false = none := by
  cases op <;> rfl

theorem ItemsSound.empty : ItemsSound 0 := ⟨fun _ h => absurd h (Multiset.notMem_zero _), Multiset.nodup_zero⟩

theorem World.inv_constructed (start : BitVec 64) : World.Inv start ⟨constructed start, []⟩ := by
  refine ⟨nofun, fun _ => ItemsSound.empty, fun _ _ => rfl, fun _ _ => show (0 : ℤ) < 2 ^ 31 by decide, 0, le_rfl,
    (BitVec.add_zero start).symm, fun _ => ⟨fun id hid => ?_, fun _ => Multiset.nodup_zero⟩⟩
  exact absurd hid (Multiset.notMem_zero id)

/-- What there is of an item fits in an `int32_t`. -/
theorem World.Inv.count_lt (h : w.Inv start) {item : ItemInfo}
    (hitem : item ∈ Bag.items (w.module.bag_cache_.rows role_id)) : item.count < 2 ^ 31 := by
  obtain ⟨rest, hrest⟩ := Multiset.exists_cons_of_mem hitem
  have hsound := h.items role_id
  rw [hrest] at hsound
  have hle := hsound.count_le
  rw [← hrest, h.held] at hle
  exact hle.trans_lt (h.below role_id item.item_config_id)

theorem World.Inv.step {call : (ℤ → ItemInfo) × Op} (h : w.Inv start) (hstep : w.Step call w')
    (hbelow : w'.Below) : w'.Inv start := by
  obtain ⟨b, t, hvalid, hcall, rfl⟩ := hstep
  obtain ⟨junk, op⟩ := call
  dsimp only at hvalid hcall hbelow ⊢
  cases hbag : w.module.bag_cache_.lookup op.role with
  | none =>
    have hrows : w.module.bag_cache_.rows op.role = [] := by rw [Dict.rows, hbag]; rfl
    rcases op.call_none junk hbag with ⟨hinit, hret⟩ | hret
    · obtain ⟨rfl, rfl⟩ := Out.ret.inj (hret.symm.trans hcall)
      have hevent : op.event (w.module.bag_cache_.rows op.role) true = none := by rw [hinit]; rfl
      rw [hevent] at hbelow ⊢
      refine h.change BagModule.becomes_setBag placed_init ?_ hbelow
      have hempty : Bag.items ((List.range BASE_BAG_SIZE).map fun n : ℕ => ⟨n, .zero, true⟩) = 0 := by
        refine items_of_empty fun slot hslot => ?_
        obtain ⟨n, -, rfl⟩ := List.mem_map.1 hslot
        rfl
      rw [hempty, hrows]
      exact .keep
    · obtain ⟨rfl, rfl⟩ := Out.ret.inj (hret.symm.trans hcall)
      rw [Op.event_false, Option.toList_none, List.append_nil]
      exact h
  | some slots =>
    have hrows : w.module.bag_cache_.rows op.role = slots := Dict.rows_of_lookup hbag
    have hplaced := h.placed _ _ hbag
    obtain ⟨b', t', slots', hret, hdoes, hbecomes⟩ := op.call_bag junk hbag hplaced
    obtain ⟨rfl, rfl⟩ := Out.ret.inj (hret.symm.trans hcall)
    refine h.change hbecomes (hdoes.placed hplaced) ?_ hbelow
    rw [hrows]
    exact hdoes.itemStep hvalid fun item hitem => h.count_lt (by rw [hrows]; exact hitem)

theorem World.Inv.balance_nonneg (h : w.Inv start) (item_config_id : ℤ) :
    0 ≤ balance role_id item_config_id w.log := by
  rw [← h.held]
  exact (h.items role_id).held_nonneg

theorem World.Inv.sound (h : w.Inv start) : w.Sound := by
  refine ⟨h.placed, fun role_id slots hbag => ?_, fun hfew role_id slots hbag => ?_,
    fun role_id item_config_id => ?_⟩
  · have hitems := h.items role_id
    rw [Dict.rows_of_lookup hbag] at hitems
    exact hitems
  · obtain ⟨made, -, -, hids⟩ := h.ids
    have hnodup := (hids role_id).2 hfew
    rw [Dict.rows_of_lookup hbag] at hnodup
    exact hnodup
  · rw [BagModule.GetItemCount, Locked.lockGuard_free, Locked.perform_apply]
    dsimp only
    cases hbag : w.module.bag_cache_.lookup role_id with
    | none => rfl
    | some slots =>
      have hheld := h.held role_id item_config_id
      have hlow := @World.Inv.balance_nonneg w start role_id h item_config_id
      have hhigh := h.below role_id item_config_id
      rw [Dict.rows_of_lookup hbag] at hheld
      rw [Option.map_some, itemCount_eq, hheld, toInt32_of_lt (by omega) hhigh]
      rfl

/-- `MoveItem`, `SwapItem` and `ExpandBag` keep the items of all bags. -/
theorem World.Step.items_eq {call : (ℤ → ItemInfo) × Op} (h : w.Inv start) (hstep : w.Step call w')
    (hmove : call.2.Moves) (role_id : BitVec 64) :
    Bag.items (w'.module.bag_cache_.rows role_id) = Bag.items (w.module.bag_cache_.rows role_id) := by
  obtain ⟨b, t, hvalid, hcall, rfl⟩ := hstep
  obtain ⟨junk, op⟩ := call
  dsimp only at hvalid hcall hmove ⊢
  cases hbag : w.module.bag_cache_.lookup op.role with
  | none =>
    rcases op.call_none junk hbag with ⟨hinit, -⟩ | hret
    · rw [hinit] at hmove
      exact hmove.elim
    · obtain ⟨rfl, rfl⟩ := Out.ret.inj (hret.symm.trans hcall)
      rfl
  | some slots =>
    have hrows : w.module.bag_cache_.rows op.role = slots := Dict.rows_of_lookup hbag
    obtain ⟨b', t', slots', hret, hdoes, hbecomes⟩ := op.call_bag junk hbag (h.placed _ _ hbag)
    obtain ⟨rfl, rfl⟩ := Out.ret.inj (hret.symm.trans hcall)
    rw [hbecomes.rows]
    split_ifs with hr
    · rw [hr, hdoes.items_eq hmove, hrows]
    · rfl

/-- **The bags are sound** in every run in which less than 2^31 units of a configuration are in a bag
    at any time; every operation returns, and moves keep the items. -/
theorem bags_sound {calls : List ((ℤ → ItemInfo) × Op)}
    (hr : Run (fun w call w' => World.Step w call w' ∧ w'.Below) ⟨constructed start, []⟩ calls w) :
    w.Sound ∧
      (∀ junk op, op.Valid → ∃ w', w.Step (junk, op) w') ∧
      ∀ call w', w.Step call w' → call.2.Moves → ∀ role_id,
        Bag.items (w'.module.bag_cache_.rows role_id) = Bag.items (w.module.bag_cache_.rows role_id) := by
  have hinv : w.Inv start :=
    Run.invariant (fun _ _ _ h hstep => h.step hstep.1 hstep.2) (World.inv_constructed start) hr
  refine ⟨hinv.sound, fun junk op hvalid => ?_, fun call w' hstep hmove => hstep.items_eq hinv hmove⟩
  obtain ⟨b, t, hcall, -⟩ := op.call_ret hinv.placed junk
  exact ⟨_, b, t, hvalid, hcall, rfl⟩

theorem World.step_below {call : (ℤ → ItemInfo) × Op} {log : List Event} (hvalid : call.2.Valid)
    (hcall : call.2.call call.1 .free w.module = .ret b t)
    (hlog : w.log ++ (call.2.event (w.module.bag_cache_.rows call.2.role) b).toList = log)
    (hbelow : ∀ role_id item_config_id, balance role_id item_config_id log < 2 ^ 31) :
    w.Step call ⟨t, log⟩ ∧ World.Below ⟨t, log⟩ :=
  ⟨⟨b, t, hvalid, hcall, by rw [hlog]⟩, hbelow⟩

end

theorem bags_sound_three : ∃ w, Run (fun w call w' => World.Step w call w' ∧ w'.Below) ⟨constructed 1, []⟩
    [(fun _ => .zero, .InitBag 1), (fun _ => .zero, .AddItem 1 7 5 1), (fun _ => .zero, .MoveItem 1 0 3),
      (fun _ => .zero, .RemoveItem 1 1 2)] w ∧ w.Sound ∧ balance 1 7 w.log = 3 := by
  obtain ⟨s, t, u, v, hinit, hadd, hmove, hremove, hevent⟩ : ∃ s t u v,
      (Op.InitBag 1).call (fun _ => .zero) .free (constructed 1) = .ret true s ∧
      (Op.AddItem 1 7 5 1).call (fun _ => .zero) .free s = .ret true t ∧
      (Op.MoveItem 1 0 3).call (fun _ => .zero) .free t = .ret true u ∧
      (Op.RemoveItem 1 1 2).call (fun _ => .zero) .free u = .ret true v ∧
      (Op.RemoveItem 1 1 2).event (u.bag_cache_.rows 1) true = some ⟨1, 7, -2⟩ :=
    ⟨_, _, _, _, rfl, rfl, rfl, rfl, rfl⟩
  have hfive : ∀ role_id item_config_id, balance role_id item_config_id [⟨1, 7, 5⟩] < 2 ^ 31 := by
    intro role_id item_config_id
    simp only [balance, tally_cons, tally_nil, Event.of]
    split_ifs <;> omega
  have hthree : ∀ role_id item_config_id, balance role_id item_config_id [⟨1, 7, 5⟩, ⟨1, 7, -2⟩] < 2 ^ 31 := by
    intro role_id item_config_id
    simp only [balance, tally_cons, tally_nil, Event.of]
    split_ifs <;> omega
  have hnone : World.Step ⟨constructed 1, []⟩ (fun _ => .zero, .InitBag 1) ⟨s, []⟩ ∧ World.Below ⟨s, []⟩ :=
    World.step_below trivial hinit rfl fun _ _ => show (0 : ℤ) < 2 ^ 31 by decide
  have hadded : World.Step ⟨s, []⟩ (fun _ => .zero, .AddItem 1 7 5 1) ⟨t, [⟨1, 7, 5⟩]⟩ ∧
      World.Below ⟨t, [⟨1, 7, 5⟩]⟩ :=
    World.step_below ⟨show (1 : ℤ) ≤ 5 by decide, show (5 : ℤ) < 2 ^ 31 by decide⟩ hadd rfl hfive
  have hmoved : World.Step ⟨t, [⟨1, 7, 5⟩]⟩ (fun _ => .zero, .MoveItem 1 0 3) ⟨u, [⟨1, 7, 5⟩]⟩ ∧
      World.Below ⟨u, [⟨1, 7, 5⟩]⟩ :=
    World.step_below trivial hmove rfl hfive
  have hremoved : World.Step ⟨u, [⟨1, 7, 5⟩]⟩ (fun _ => .zero, .RemoveItem 1 1 2)
      ⟨v, [⟨1, 7, 5⟩, ⟨1, 7, -2⟩]⟩ ∧ World.Below ⟨v, [⟨1, 7, 5⟩, ⟨1, 7, -2⟩]⟩ := by
    refine World.step_below ⟨show (1 : ℤ) ≤ 2 by decide, show (2 : ℤ) < 2 ^ 31 by decide⟩ hremove ?_ hthree
    show [_] ++ ((Op.RemoveItem 1 1 2).event (u.bag_cache_.rows 1) true).toList = _
    rw [hevent]
    rfl
  have hrun : Run (fun w call w' => World.Step w call w' ∧ w'.Below) ⟨constructed 1, []⟩
      [(fun _ => .zero, .InitBag 1), (fun _ => .zero, .AddItem 1 7 5 1), (fun _ => .zero, .MoveItem 1 0 3),
        (fun _ => .zero, .RemoveItem 1 1 2)] ⟨v, [⟨1, 7, 5⟩, ⟨1, 7, -2⟩]⟩ :=
    .cons hnone (.cons hadded (.cons hmoved (.cons hremoved (.nil _))))
  exact ⟨_, hrun, (bags_sound hrun).1, show balance 1 7 [⟨1, 7, 5⟩, ⟨1, 7, -2⟩] = 3 by decide⟩

end Ancfl.Game.Bag
