/-
  `UseItem` and `DropItem`.

  * `Reach`: a call with `int32_t` counts, also of zero or less;
  * `Exact`: a call succeeds if and only if the bag holds so many units of the
    item, and then it removes them;
  * `use_drop_iff`: this holds of `UseItem` and `DropItem` in exactly those states
    in which `GetItemCount` of the low 32 bits of the item's id answers the
    question (`Agrees`), in every state that is reached.
-/
import Ancfl.Game.Bag
import Ancfl.Lib.Run

namespace Ancfl.Game.Bag

open Lib

/-- The counts are `int32_t`. -/
def Op.Int32 : Op → Prop
  | AddItem _ _ count _ | RemoveItem _ _ count => -(2 ^ 31) ≤ count ∧ count < 2 ^ 31
  | _ => True

/-- A call of an operation, with the `junk` of new slots. -/
def Reach (s : BagModule) (call : (ℤ → ItemInfo) × Op) (t : BagModule) : Prop :=
  call.2.Int32 ∧ ∃ b, call.2.call call.1 .free s = .ret b t

/-- The bag has an item of this id, with so many units. -/
def Holds (s : BagModule) (role_id item_id : BitVec 64) (count : ℤ) : Prop :=
  ∃ slots, s.bag_cache_.lookup role_id = some slots ∧ ∃ slot ∈ slots, slot.hasId item_id = true ∧
    count ≤ slot.item.count

def Same (s t : BagModule) : Prop :=
  t.next_id = s.next_id ∧ ∀ role_id, t.bag_cache_.lookup role_id = s.bag_cache_.lookup role_id

/-- So many units of an item are gone, and nothing else is changed. -/
def Taken (s : BagModule) (role_id item_id : BitVec 64) (count : ℤ) (t : BagModule) : Prop :=
  t.next_id = s.next_id ∧ ∃ slots n slot, s.bag_cache_.lookup role_id = some slots ∧
    slots[n]? = some slot ∧ slot.hasId item_id = true ∧ count ≤ slot.item.count ∧
    s.Becomes role_id (slots.set n
      (if slot.item.count = count then slot.clear else slot.setCount (slot.item.count - count))) t

/-- What using or dropping units of an item should do. -/
def Exact (call : Locked BagModule Bool) (s : BagModule) (role_id item_id : BitVec 64) (count : ℤ) : Prop :=
  ∃ b t, call .free s = .ret b t ∧ (b = true ↔ 1 ≤ count ∧ Holds s role_id item_id count) ∧
    (1 ≤ count ∧ Holds s role_id item_id count → Taken s role_id item_id count t) ∧
    (¬(1 ≤ count ∧ Holds s role_id item_id count) → Same s t)

/-- The units whose configuration is the low 32 bits of the id are enough for the call where the item
    has enough, in the first slot of its id, and too few where it has not. -/
def Agrees (s : BagModule) (role_id item_id : BitVec 64) (count : ℤ) : Prop :=
  (1 ≤ count ∧ Holds s role_id item_id count → ∃ slots slot, s.bag_cache_.lookup role_id = some slots ∧
    count ≤ itemCount (toInt32 item_id.toNat) slots ∧
    slots.find? (·.hasId item_id) = some slot ∧ count ≤ slot.item.count) ∧
  (¬(1 ≤ count ∧ Holds s role_id item_id count) → ∀ slots, s.bag_cache_.lookup role_id = some slots →
    itemCount (toInt32 item_id.toNat) slots < count)

/-! ## The counts of the items -/

/-- The counts of items are `int32_t`. -/
def Counts (slots : List BagSlot) : Prop :=
  ∀ slot ∈ slots, slot.is_empty = false → -(2 ^ 31) ≤ slot.item.count ∧ slot.item.count < 2 ^ 31

section
variable {slots slots' : List BagSlot} {next_id next_id' : BitVec 64} {n : ℕ} {slot : BagSlot} {op : Op}
  {b : Bool} {s t : BagModule} {role_id item_id : BitVec 64} {count : ℤ}

theorem Counts.set (h : Counts slots)
    (hslot : slot.is_empty = false → -(2 ^ 31) ≤ slot.item.count ∧ slot.item.count < 2 ^ 31) :
    Counts (slots.set n slot) := by
  intro other hother hempty
  rcases List.mem_or_eq_of_mem_set hother with hother | rfl
  · exact h other hother hempty
  · exact hslot hempty

theorem Op.Does.counts (h : op.Does slots next_id b slots' next_id') (hint : op.Int32) (hslots : Counts slots) :
    Counts slots' := by
  cases h with
  | init | full | refuse | stay => exact hslots
  | stack => exact hslots.set fun _ => toInt32_range _
  | fill => exact hslots.set fun _ => hint
  | remove hslot =>
    refine hslots.set fun hempty => ?_
    unfold BagSlot.remove at hempty ⊢
    dsimp only at hempty ⊢
    split_ifs at hempty ⊢
    · exact hslots _ (List.mem_of_getElem? hslot) hempty
    · cases hempty
    · exact toInt32_range _
  | @move role_id n m source _ _ hsource =>
    have hcounts := hslots _ (List.mem_of_getElem? hsource)
    have hto : Counts (slots.set m { source with slot_index := m }) := hslots.set hcounts
    refine hto.set fun hempty => ?_
    cases hempty
  | @swap role_id n m first second _ hfirst hsecond =>
    have htwo := hslots _ (List.mem_of_getElem? hsecond)
    have hone : Counts (slots.set n { second with slot_index := n }) := hslots.set htwo
    have hcounts := hslots _ (List.mem_of_getElem? hfirst)
    exact hone.set hcounts
  | expand hempty =>
    intro slot hslot hnot
    rcases List.mem_append.1 hslot with hslot | hslot
    · exact hslots slot hslot hnot
    · rw [hempty slot hslot] at hnot
      cases hnot

def AllCounts (s : BagModule) : Prop :=
  ∀ role_id slots, s.bag_cache_.lookup role_id = some slots → Counts slots

theorem Reach.keeps {call : (ℤ → ItemInfo) × Op} (hplaced : s.AllPlaced) (hcounts : AllCounts s)
    (h : Reach s call t) : t.AllPlaced ∧ AllCounts t := by
  obtain ⟨hint, b, hcall⟩ := h
  obtain ⟨b', t', hcall', hplaced'⟩ := call.2.call_ret hplaced call.1
  obtain ⟨rfl, rfl⟩ := Out.ret.inj (hcall'.symm.trans hcall)
  refine ⟨hplaced', fun role_id slots hslots => ?_⟩
  cases hbag : s.bag_cache_.lookup call.2.role with
  | none =>
    rcases call.2.call_none call.1 hbag with ⟨-, hret⟩ | hret
    · obtain ⟨-, rfl⟩ := Out.ret.inj (hret.symm.trans hcall)
      rw [BagModule.becomes_setBag role_id] at hslots
      split_ifs at hslots
      · rw [← Option.some.inj hslots]
        intro slot hslot hempty
        obtain ⟨n, -, rfl⟩ := List.mem_map.1 hslot
        cases hempty
      · exact hcounts role_id slots hslots
    · obtain ⟨-, rfl⟩ := Out.ret.inj (hret.symm.trans hcall)
      exact hcounts role_id slots hslots
  | some old =>
    obtain ⟨b', t', slots', hret, hdoes, hbecomes⟩ := call.2.call_bag call.1 hbag (hplaced _ _ hbag)
    obtain ⟨-, rfl⟩ := Out.ret.inj (hret.symm.trans hcall)
    rw [hbecomes role_id] at hslots
    split_ifs at hslots
    · rw [← Option.some.inj hslots]
      exact hdoes.counts hint (hcounts _ _ hbag)
    · exact hcounts role_id slots hslots

/-! ## What the calls do -/

theorem takeItem_none (h : s.bag_cache_.lookup role_id = none) :
    BagModule.takeItem role_id item_id count .free s = .ret false s := by
  have hcount : BagModule.GetItemCount role_id (toInt32 item_id.toNat) .free s = .ret none s := by
    rw [BagModule.GetItemCount, Locked.lockGuard_free, Locked.perform_apply, h]
    rfl
  rw [BagModule.takeItem, Locked.bind_apply hcount]
  rfl

theorem getItemCount_some (h : s.bag_cache_.lookup role_id = some slots) :
    BagModule.GetItemCount role_id (toInt32 item_id.toNat) .free s =
      .ret (some (itemCount (toInt32 item_id.toNat) slots)) s := by
  rw [BagModule.GetItemCount, Locked.lockGuard_free, Locked.perform_apply, h]
  rfl

theorem takeItem_few (h : s.bag_cache_.lookup role_id = some slots)
    (hfew : itemCount (toInt32 item_id.toNat) slots < count) :
    BagModule.takeItem role_id item_id count .free s = .ret false s := by
  rw [BagModule.takeItem, Locked.bind_apply (getItemCount_some h)]
  dsimp only
  rw [if_pos hfew]
  rfl

/-- The removal may fail, and the call returns `true` all the same. -/
theorem takeItem_many (h : s.bag_cache_.lookup role_id = some slots)
    (hmany : count ≤ itemCount (toInt32 item_id.toNat) slots) :
    ∃ b t slots', BagModule.takeItem role_id item_id count .free s = .ret true t ∧ t.next_id = s.next_id ∧
      s.Becomes role_id slots' t ∧
      (Op.RemoveItem role_id item_id count).Does slots s.next_id b slots' s.next_id := by
  obtain ⟨b, slots', hremove, hdoes⟩ := @removeItem_does slots s.next_id role_id item_id count
  have hret : BagModule.RemoveItem role_id item_id count .free s = .ret b (s.setBag role_id slots') :=
    BagModule.onBag_ret h (congrArg some hremove)
  refine ⟨b, s.setBag role_id slots', slots', ?_, rfl, BagModule.becomes_setBag, hdoes⟩
  rw [BagModule.takeItem, Locked.bind_apply (getItemCount_some h)]
  dsimp only
  rw [if_neg (not_lt.2 hmany), Locked.bind_apply hret]
  rfl

theorem remove_eq (hone : 1 ≤ count) (hle : count ≤ slot.item.count) (hhigh : slot.item.count < 2 ^ 31) :
    (slot.remove count).2 =
      if slot.item.count = count then slot.clear else slot.setCount (slot.item.count - count) := by
  have hcast : toInt32 (slot.item.count - count) = slot.item.count - count :=
    toInt32_of_lt (by omega) (by omega)
  unfold BagSlot.remove
  rw [if_neg (not_lt.2 hle), hcast]
  dsimp only [BagSlot.setCount]
  split_ifs with hzero heq
  · rfl
  · omega
  · omega
  · rfl

/-- The first slot of the id is not changed if it has too few. -/
theorem not_taken (h : s.bag_cache_.lookup role_id = some slots) (hone : 1 ≤ count)
    (hsame : s.Becomes role_id slots t) : ¬Taken s role_id item_id count t := by
  rintro ⟨-, slots', n, slot, hslots', hslot, hid, hle, hbecomes⟩
  obtain rfl := Option.some.inj (h.symm.trans hslots')
  have hlookup := hsame role_id
  rw [hbecomes role_id, if_pos rfl, if_pos rfl] at hlookup
  have hset := congrArg (fun slots : List BagSlot => slots[n]?) (Option.some.inj hlookup)
  obtain ⟨hlt, -⟩ := List.getElem?_eq_some_iff.1 hslot
  rw [List.getElem?_set_self hlt, hslot] at hset
  have heq := Option.some.inj hset
  have hempty : slot.is_empty = false := by
    have hboth : slot.is_empty = false ∧ slot.item.item_id = item_id := by
      simpa [BagSlot.hasId] using hid
    exact hboth.1
  split_ifs at heq with hall
  · rw [← heq] at hempty
    cases hempty
  · have hcount := congrArg (fun slot : BagSlot => slot.item.count) heq
    dsimp only [BagSlot.setCount] at hcount
    omega

/-- **Where using and dropping are exact**. -/
theorem takeItem_exact (hcounts : AllCounts s) :
    Exact (BagModule.takeItem role_id item_id count) s role_id item_id count ↔ Agrees s role_id item_id count := by
  cases h : s.bag_cache_.lookup role_id with
  | none =>
    have hnot : ¬(1 ≤ count ∧ Holds s role_id item_id count) := by
      rintro ⟨-, slots, hslots, -⟩
      rw [h] at hslots
      cases hslots
    refine iff_of_true ⟨false, s, takeItem_none h, iff_of_false Bool.false_ne_true hnot, fun hyes => absurd hyes hnot,
      fun _ => ⟨rfl, fun _ => rfl⟩⟩ ⟨fun hyes => absurd hyes hnot, fun _ slots hslots => ?_⟩
    rw [h] at hslots
    cases hslots
  | some slots =>
    by_cases hfew : itemCount (toInt32 item_id.toNat) slots < count
    · -- the call fails: it should, unless the bag has enough
      constructor
      · rintro ⟨b, t, hcall, hiff, -, -⟩
        obtain ⟨rfl, rfl⟩ := Out.ret.inj ((takeItem_few h hfew).symm.trans hcall)
        have hnot := fun hyes => Bool.false_ne_true (hiff.2 hyes)
        refine ⟨fun hyes => absurd hyes hnot, fun _ slots' hslots' => ?_⟩
        exact Option.some.inj (h.symm.trans hslots') ▸ hfew
      · rintro ⟨hyes, -⟩
        have hnot : ¬(1 ≤ count ∧ Holds s role_id item_id count) := by
          intro hholds
          obtain ⟨slots', -, hslots', hmany, -⟩ := hyes hholds
          obtain rfl := Option.some.inj (h.symm.trans hslots')
          exact absurd hfew (not_lt.2 hmany)
        exact ⟨false, s, takeItem_few h hfew, iff_of_false Bool.false_ne_true hnot,
          fun hyes => absurd hyes hnot, fun _ => ⟨rfl, fun _ => rfl⟩⟩
    · obtain ⟨removed, t, slots', hcall, hnext, hbecomes, hdoes⟩ := takeItem_many h (not_lt.1 hfew)
      constructor
      · rintro ⟨b, t', hcall', hiff, htaken, -⟩
        obtain ⟨rfl, rfl⟩ := Out.ret.inj (hcall.symm.trans hcall')
        have hyes := hiff.1 rfl
        refine ⟨fun _ => ?_, fun hnot => absurd hyes hnot⟩
        cases hdoes with
        | refuse => exact absurd (htaken hyes) (not_taken h hyes.1 hbecomes)
        | remove _ _ hfind hcount => exact ⟨slots, _, h, not_lt.1 hfew, hfind, hcount⟩
        | stay hmove => exact hmove.elim
      · rintro ⟨hagree, hnot⟩
        have hyes : 1 ≤ count ∧ Holds s role_id item_id count := by
          by_contra hno
          exact hfew (hnot hno slots h)
        refine ⟨true, t, hcall, iff_of_true rfl hyes, fun _ => ?_, fun hno => absurd hyes hno⟩
        obtain ⟨slots₀, first, hslots₀, -, hfirst, henough⟩ := hagree hyes
        obtain rfl := Option.some.inj (h.symm.trans hslots₀)
        cases hdoes with
        | refuse hrefused => exact absurd (hrefused first hfirst) (not_lt.2 henough)
        | @remove _ _ _ n slot hslot hid _ hcount =>
          have hhas : slot.is_empty = false ∧ slot.item.item_id = item_id := by
            simpa [BagSlot.hasId] using hid
          have hhigh := (hcounts role_id slots h slot (List.mem_of_getElem? hslot) hhas.1).2
          rw [remove_eq hyes.1 hcount hhigh] at hbecomes
          exact ⟨hnext, slots, n, slot, h, hslot, hid, hcount, hbecomes⟩
        | stay hmove => exact hmove.elim

/-- `UseItem` and `DropItem` are exact in the states where the count of the low 32 bits agrees. -/
theorem use_drop_iff {start : BitVec 64} {calls : List ((ℤ → ItemInfo) × Op)}
    (hr : Run Reach (constructed start) calls s) (role_id item_id : BitVec 64) (count : ℤ) :
    (Exact (BagModule.UseItem role_id item_id count) s role_id item_id count ↔ Agrees s role_id item_id count) ∧
      (Exact (BagModule.DropItem role_id item_id count) s role_id item_id count ↔
        Agrees s role_id item_id count) := by
  have hkept : s.AllPlaced ∧ AllCounts s := by
    refine Run.invariant (P := fun s => s.AllPlaced ∧ AllCounts s)
      (fun _ _ _ h hstep => Reach.keeps h.1 h.2 hstep) ⟨?_, ?_⟩ hr
    · intro _ _ h
      cases h
    · intro _ _ h
      cases h
  exact ⟨takeItem_exact hkept.2, takeItem_exact hkept.2⟩

end

/-- Role `1` with five units of the item `start`, of the configuration `7`. -/
def fiveOf (start : BitVec 64) : BagModule :=
  { ((constructed start).setBag 1 ((List.range BASE_BAG_SIZE).map fun n : ℕ => ⟨n, .zero, true⟩)).setBag 1
      (((List.range BASE_BAG_SIZE).map fun n : ℕ => ⟨n, .zero, true⟩).set 0
        ⟨0, ⟨start, 7, 5, 1, 1, 0, 0, ""⟩, false⟩) with next_id := start + 1 }

theorem reach_five (start : BitVec 64) : Run Reach (constructed start)
    [(fun _ => .zero, .InitBag 1), (fun _ => .zero, .AddItem 1 7 5 1)] (fiveOf start) := by
  have hadd : Reach ((constructed start).setBag 1
      ((List.range BASE_BAG_SIZE).map fun n : ℕ => ⟨n, .zero, true⟩))
      (fun _ => .zero, .AddItem 1 7 5 1) (fiveOf start) :=
    ⟨⟨show -(2 ^ 31) ≤ (5 : ℤ) by decide, show (5 : ℤ) < 2 ^ 31 by decide⟩, true, rfl⟩
  exact .cons ⟨trivial, true, rfl⟩ (.cons hadd (.nil _))

/-- The id of the item is the one of its configuration. -/
theorem use_drop_iff_seven : Exact (BagModule.UseItem 1 7 2) (fiveOf 7) 1 7 2 := by
  have hholds : 1 ≤ (2 : ℤ) ∧ Holds (fiveOf 7) 1 7 2 :=
    ⟨by decide, _, rfl, ⟨0, ⟨7, 7, 5, 1, 1, 0, 0, ""⟩, false⟩, List.mem_cons_self, rfl, by decide⟩
  refine (use_drop_iff (reach_five 7) 1 7 2).1.2 ⟨fun _ => ⟨_, _, rfl, ?_, rfl, ?_⟩, fun hnot => absurd hholds hnot⟩
  · decide
  · decide

/-- A unit of an item whose id is far from the one of its configuration. -/
theorem not_use_drop : ¬∀ start calls s, Run Reach (constructed start) calls s →
    ∀ role_id item_id count, -(2 ^ 31) ≤ count → count < 2 ^ 31 →
      Exact (BagModule.UseItem role_id item_id count) s role_id item_id count ∧
        Exact (BagModule.DropItem role_id item_id count) s role_id item_id count := by
  intro h
  have hholds : 1 ≤ (1 : ℤ) ∧ Holds (fiveOf 10000000000000) 1 10000000000000 1 :=
    ⟨le_rfl, _, rfl, ⟨0, ⟨10000000000000, 7, 5, 1, 1, 0, 0, ""⟩, false⟩, List.mem_cons_self, rfl, by decide⟩
  obtain ⟨b, t, hcall, hiff, -, -⟩ := (h _ _ _ (reach_five 10000000000000) 1 10000000000000 1 (by decide) (by decide)).1
  have hfails : BagModule.UseItem 1 10000000000000 1 .free (fiveOf 10000000000000) =
      .ret false (fiveOf 10000000000000) := takeItem_few rfl (by decide)
  obtain ⟨rfl, -⟩ := Out.ret.inj (hfails.symm.trans hcall)
  exact Bool.false_ne_true (hiff.2 hholds)

end Ancfl.Game.Bag
