/-
  The purchase limit over interleaved calls of `BuyItem`.

  * `Purchase`: a call with its arguments and how far it is; `Purchase.next` is
    its next locked section, of which a purchase has up to three;
  * `World.Step`: calls begin, and one of them goes on;
  * `buyItem_run`: a call of `BuyItem` alone is such a run;
  * `limit_kept`: a limit holds as long as the question for it counts what was
    bought and what other calls are about to buy, or refuses. `GetItemBuyCount`
    returns a `bool`, so that it counts one at most, and an item with a limit
    above one is sold as often as it is asked for (`sold_again`).
-/
import Ancfl.Game.Shop
import Ancfl.Lib.Pool
import Ancfl.Lib.Run
import Mathlib.Algebra.BigOperators.Group.List.Basic

namespace Ancfl.Game.Shop

open Lib

/-- The questions of `CanBuyItem` and the section of `BuyItem`. -/
inductive Phase
  /-- before the item is looked up -/
  | finding
  /-- before the bought ones of a limited item are counted -/
  | counting (item : ShopItem)
  /-- allowed by `CanBuyItem` -/
  | buying
deriving DecidableEq

structure Purchase where
  role_id : BitVec 64
  shop_id : ℤ
  item_config_id : ℤ
  count : ℤ
  now : ℤ
  phase : Phase
deriving DecidableEq

inductive Outcome
  | goes (phase : Phase)
  | ended (success : Bool)

namespace Purchase

/-- What `CanBuyItem` says when the limit is no obstacle. -/
def afford (p : Purchase) (item : ShopItem) : Outcome :=
  if ShopModule.affordable p.role_id item p.count then .goes .buying else .ended false

/-- The next locked section, and what follows it without a lock. -/
def next (p : Purchase) (s : ShopModule) : Outcome × ShopModule :=
  match p.phase with
  | .finding =>
    match s.shopItem p.shop_id p.item_config_id with
    | none => (.ended false, s)
    | some item =>
      if p.count ≤ 0 then (.ended false, s)
      else if 0 < item.buy_limit then (.goes (.counting item), s)
      else (p.afford item, s)
  | .counting item =>
    let current_count := (decide (s.bought p.role_id p.shop_id p.item_config_id ≠ 0)).toInt
    if item.buy_limit < toInt32 (current_count + p.count) then (.ended false, s)
    else (p.afford item, s)
  | .buying =>
    match s.shopItem p.shop_id p.item_config_id with
    | none => (.ended false, s)
    | some item =>
      if ShopModule.DeductMoney p.role_id item.price_type (ShopModule.totalPrice item p.count) then
        (.ended true, (ShopModule.addRecord p.role_id ⟨p.shop_id, p.item_config_id, p.count, p.now⟩
          (s.addBought p.role_id p.shop_id p.item_config_id p.count).2).2)
      else (.ended false, s)

/-- What a purchase is of: a role, a shop and an item. -/
def key (p : Purchase) : BitVec 64 × ℤ × ℤ := (p.role_id, p.shop_id, p.item_config_id)

/-- How many of an item a call buys. -/
def amount (k : BitVec 64 × ℤ × ℤ) (p : Purchase) : ℤ := if p.key = k then p.count else 0

/-- How many of an item a call is about to buy. -/
def reserved (k : BitVec 64 × ℤ × ℤ) (p : Purchase) : ℤ :=
  if p.phase = .buying then p.amount k else 0

end Purchase

/-- `sold` are the calls that returned `true`. -/
structure World where
  shop : ShopModule
  calls : List Purchase
  sold : List Purchase

inductive Label
  /-- a call begins -/
  | call (p : Purchase)
  /-- the `n`-th call does its next section -/
  | go (n : ℕ)

inductive World.Step : World → Label → World → Prop
  | call {w : World} {p : Purchase} (hphase : p.phase = .finding) (hlow : -(2 ^ 31) ≤ p.count)
      (hhigh : p.count < 2 ^ 31) : Step w (.call p) { w with calls := w.calls ++ [p] }
  | goes {w : World} {n : ℕ} {p : Purchase} {phase : Phase} {s : ShopModule}
      (hp : w.calls[n]? = some p) (hnext : p.next w.shop = (.goes phase, s)) :
      Step w (.go n) { w with shop := s, calls := w.calls.set n { p with phase := phase } }
  | ended {w : World} {n : ℕ} {p : Purchase} {success : Bool} {s : ShopModule}
      (hp : w.calls[n]? = some p) (hnext : p.next w.shop = (.ended success, s)) :
      Step w (.go n) ⟨s, w.calls.eraseIdx n, if success = true then w.sold ++ [p] else w.sold⟩

/-- The question for the limit of an item: what was bought and what is about to be bought leaves room
    for the purchase, or the comparison of the code refuses it. -/
def Careful (w : World) : Label → Prop
  | .call _ => True
  | .go n => ∀ p item, w.calls[n]? = some p → p.phase = .counting item →
    let bought := w.shop.bought p.role_id p.shop_id p.item_config_id
    bought + tally (Purchase.reserved p.key) w.calls + p.count ≤ item.buy_limit ∨
      (bought = 0 ∧ item.buy_limit < p.count) ∨
      (bought ≠ 0 ∧ item.buy_limit ≤ p.count ∧ p.count < 2 ^ 31 - 1)

/-! ## What was bought -/

namespace ShopModule

variable {s : ShopModule} {role_id role_id' : BitVec 64}
  {shop_id shop_id' item_config_id item_config_id' count : ℤ}

theorem bought_addBought : (s.addBought role_id shop_id item_config_id count).2.bought role_id' shop_id'
    item_config_id' =
    if (role_id', shop_id', item_config_id') = (role_id, shop_id, item_config_id) then
      toInt32 (s.bought role_id shop_id item_config_id + count)
    else s.bought role_id' shop_id' item_config_id' := by
  unfold addBought bought
  dsimp only
  by_cases hrole : role_id' = role_id
  · subst hrole
    rw [AList.lookup_insert]
    by_cases hshop : shop_id' = shop_id
    · subst hshop
      by_cases hitem : item_config_id' = item_config_id
      · subst hitem
        simp
      · simp [hitem, AList.lookup_insert_ne hitem]
    · simp [hshop, AList.lookup_insert_ne hshop]
  · simp [hrole, AList.lookup_insert_ne hrole]

theorem bought_addRecord {record : PurchaseRecord} : (s.addRecord role_id record).2.bought role_id' shop_id'
    item_config_id' = s.bought role_id' shop_id' item_config_id' := rfl

end ShopModule

/-! ## What a section does -/

namespace Purchase

variable {p : Purchase} {s t : ShopModule} {phase : Phase} {success : Bool} {item : ShopItem}

theorem afford_goes (h : p.afford item = .goes phase) : phase = .buying := by
  unfold afford at h
  split_ifs at h
  cases h
  rfl

theorem afford_ended (h : p.afford item = .ended success) : success = false := by
  unfold afford at h
  split_ifs at h
  cases h
  rfl

theorem next_goes (h : p.next s = (.goes phase, t)) : t = s ∧
    ((p.phase = .finding ∧ ∃ item, s.shopItem p.shop_id p.item_config_id = some item ∧ 0 < p.count ∧
        ((0 < item.buy_limit ∧ phase = .counting item) ∨ (item.buy_limit ≤ 0 ∧ phase = .buying))) ∨
      ∃ item, p.phase = .counting item ∧ phase = .buying ∧
        toInt32 ((decide (s.bought p.role_id p.shop_id p.item_config_id ≠ 0)).toInt + p.count) ≤
          item.buy_limit) := by
  unfold next at h
  cases hphase : p.phase with
  | finding =>
    rw [hphase] at h
    dsimp only at h
    cases hitem : s.shopItem p.shop_id p.item_config_id with
    | none =>
      rw [hitem] at h
      cases h
    | some item =>
      rw [hitem] at h
      dsimp only at h
      split_ifs at h with hcount hlimit
      · cases h
      · cases h
        exact ⟨rfl, .inl ⟨rfl, item, rfl, not_le.1 hcount, .inl ⟨hlimit, rfl⟩⟩⟩
      · obtain ⟨hafford, rfl⟩ := Prod.mk.inj h
        exact ⟨rfl, .inl ⟨rfl, item, rfl, not_le.1 hcount, .inr ⟨not_lt.1 hlimit, afford_goes hafford⟩⟩⟩
  | counting item =>
    rw [hphase] at h
    dsimp only at h
    split_ifs at h with hlimit
    · cases h
    · obtain ⟨hafford, rfl⟩ := Prod.mk.inj h
      exact ⟨rfl, .inr ⟨item, rfl, afford_goes hafford, not_lt.1 hlimit⟩⟩
  | buying =>
    rw [hphase] at h
    dsimp only at h
    split at h
    · cases h
    · split_ifs at h
      · cases h
      · cases h

theorem next_ended (h : p.next s = (.ended success, t)) : (success = false ∧ t = s) ∨
    (success = true ∧ p.phase = .buying ∧ ∃ record,
      t = (ShopModule.addRecord p.role_id record
        (s.addBought p.role_id p.shop_id p.item_config_id p.count).2).2) := by
  unfold next at h
  cases hphase : p.phase with
  | finding =>
    rw [hphase] at h
    dsimp only at h
    split at h
    · cases h
      exact .inl ⟨rfl, rfl⟩
    · split_ifs at h
      · cases h
        exact .inl ⟨rfl, rfl⟩
      · cases h
      · obtain ⟨hafford, rfl⟩ := Prod.mk.inj h
        exact .inl ⟨afford_ended hafford, rfl⟩
  | counting item =>
    rw [hphase] at h
    dsimp only at h
    split_ifs at h
    · cases h
      exact .inl ⟨rfl, rfl⟩
    · obtain ⟨hafford, rfl⟩ := Prod.mk.inj h
      exact .inl ⟨afford_ended hafford, rfl⟩
  | buying =>
    rw [hphase] at h
    dsimp only at h
    split at h
    · cases h
      exact .inl ⟨rfl, rfl⟩
    · split_ifs at h
      · cases h
        exact .inr ⟨rfl, rfl, _, rfl⟩
      · cases h
        exact .inl ⟨rfl, rfl⟩

end Purchase

/-! ## The invariant -/

/-- `buy_limit` is an `int32_t`. -/
def Limited (s : ShopModule) (shop_id item_config_id : ℤ) (item : ShopItem) : Prop :=
  s.shopItem shop_id item_config_id = some item ∧ 0 < item.buy_limit

structure World.Inv (w : World) : Prop where
  limits : ∀ shop_id item_config_id item, w.shop.shopItem shop_id item_config_id = some item →
    item.buy_limit < 2 ^ 31
  counting : ∀ p ∈ w.calls, ∀ item, p.phase = .counting item →
    Limited w.shop p.shop_id p.item_config_id item ∧ 0 < p.count
  buying : ∀ p ∈ w.calls, p.phase = .buying → 0 < p.count
  high : ∀ p ∈ w.calls, p.count < 2 ^ 31
  kept : ∀ role_id shop_id item_config_id item, Limited w.shop shop_id item_config_id item →
    w.shop.bought role_id shop_id item_config_id =
      tally (Purchase.amount (role_id, shop_id, item_config_id)) w.sold ∧
    0 ≤ w.shop.bought role_id shop_id item_config_id ∧
    w.shop.bought role_id shop_id item_config_id +
      tally (Purchase.reserved (role_id, shop_id, item_config_id)) w.calls ≤ item.buy_limit

section
variable {w w' : World} {p : Purchase} {n : ℕ} {k : BitVec 64 × ℤ × ℤ}

theorem World.Inv.reserved_nonneg (h : w.Inv) : ∀ p ∈ w.calls, 0 ≤ p.reserved k := by
  intro p hp
  unfold Purchase.reserved Purchase.amount
  split_ifs with hphase
  · exact (h.buying p hp hphase).le
  · exact le_rfl
  · exact le_rfl

/-- The comparison of the code, where it lets a purchase pass. -/
theorem room_of_passed {bought reserved count limit : ℤ} (hcount : 0 < count) (hhigh : count < 2 ^ 31)
    (hpassed : toInt32 ((decide (bought ≠ 0)).toInt + count) ≤ limit)
    (hcareful : bought + reserved + count ≤ limit ∨ (bought = 0 ∧ limit < count) ∨
      (bought ≠ 0 ∧ limit ≤ count ∧ count < 2 ^ 31 - 1)) : bought + reserved + count ≤ limit := by
  rcases hcareful with h | ⟨hzero, hlt⟩ | ⟨hne, hle, hlt⟩
  · exact h
  · have hcast : toInt32 (0 + count) = 0 + count := toInt32_of_lt (by omega) (by omega)
    rw [decide_eq_false (not_not.2 hzero)] at hpassed
    change toInt32 (0 + count) ≤ limit at hpassed
    omega
  · have hcast : toInt32 (1 + count) = 1 + count := toInt32_of_lt (by omega) (by omega)
    rw [decide_eq_true hne] at hpassed
    change toInt32 (1 + count) ≤ limit at hpassed
    omega

theorem World.Inv.call (h : w.Inv) (hphase : p.phase = .finding) (hhigh : p.count < 2 ^ 31) :
    World.Inv { w with calls := w.calls ++ [p] } := by
  have hmem : ∀ q ∈ w.calls ++ [p], q ∈ w.calls ∨ q = p := fun q hq => by simpa using hq
  refine ⟨h.limits, fun q hq item hcounting => ?_, fun q hq hbuying => ?_, fun q hq => ?_,
    fun role_id shop_id item_config_id item hitem => ?_⟩
  · rcases hmem q hq with hq | rfl
    · exact h.counting q hq item hcounting
    · rw [hphase] at hcounting
      cases hcounting
  · rcases hmem q hq with hq | rfl
    · exact h.buying q hq hbuying
    · rw [hphase] at hbuying
      cases hbuying
  · rcases hmem q hq with hq | rfl
    · exact h.high q hq
    · exact hhigh
  · have hzero : p.reserved (role_id, shop_id, item_config_id) = 0 := if_neg (by rw [hphase]; simp)
    have htally : tally (Purchase.reserved (role_id, shop_id, item_config_id)) (w.calls ++ [p]) =
        tally (Purchase.reserved (role_id, shop_id, item_config_id)) w.calls := by
      rw [tally_append, tally_cons, tally_nil, hzero, add_zero, add_zero]
    rw [htally]
    exact h.kept role_id shop_id item_config_id item hitem

theorem tally_reserved_set (hp : w.calls[n]? = some p) (phase : Phase) :
    tally (Purchase.reserved k) (w.calls.set n { p with phase := phase }) + p.reserved k =
      tally (Purchase.reserved k) w.calls + Purchase.reserved k { p with phase := phase } :=
  tally_set (Purchase.reserved k) hp { p with phase := phase }

theorem reserved_of_ne (h : p.phase ≠ .buying) : p.reserved k = 0 := if_neg h

theorem reserved_buying : Purchase.reserved k { p with phase := .buying } = p.amount k := if_pos rfl

/-- A section that goes on leaves the shop as it is. -/
theorem World.Inv.goes {phase : Phase} {t : ShopModule} (h : w.Inv) (hcareful : Careful w (.go n))
    (hp : w.calls[n]? = some p) (hnext : p.next w.shop = (.goes phase, t)) :
    World.Inv { w with shop := t, calls := w.calls.set n { p with phase := phase } } := by
  obtain ⟨rfl, hcases⟩ := Purchase.next_goes hnext
  have hmemp : p ∈ w.calls := List.mem_of_getElem? hp
  have hmem : ∀ q ∈ w.calls.set n { p with phase := phase }, q ∈ w.calls ∨ q = { p with phase := phase } :=
    fun q hq => List.mem_or_eq_of_mem_set hq
  have hcount : 0 < p.count := by
    rcases hcases with ⟨-, item, -, hcount, -⟩ | ⟨item, hphase, -, -⟩
    · exact hcount
    · exact (h.counting p hmemp item hphase).2
  have hnot : p.phase ≠ .buying := by
    rcases hcases with ⟨hphase, -⟩ | ⟨item, hphase, -⟩
    · rw [hphase]
      exact Phase.noConfusion
    · rw [hphase]
      exact Phase.noConfusion
  refine ⟨h.limits, fun q hq item hcounting => ?_, fun q hq hbuying => ?_, fun q hq => ?_,
    fun role_id shop_id item_config_id item hitem => ?_⟩
  · rcases hmem q hq with hq | rfl
    · exact h.counting q hq item hcounting
    · rcases hcases with ⟨-, item', hfind, -, ⟨hlimit, hphase⟩ | ⟨-, hphase⟩⟩ | ⟨item', -, hphase, -⟩
      · obtain rfl : phase = .counting item := hcounting
        cases hphase
        exact ⟨⟨hfind, hlimit⟩, hcount⟩
      · obtain rfl : phase = .counting item := hcounting
        cases hphase
      · obtain rfl : phase = .counting item := hcounting
        cases hphase
  · rcases hmem q hq with hq | rfl
    · exact h.buying q hq hbuying
    · exact hcount
  · rcases hmem q hq with hq | rfl
    · exact h.high q hq
    · exact h.high p hmemp
  · obtain ⟨hsold, hnonneg, hroom⟩ := h.kept role_id shop_id item_config_id item hitem
    refine ⟨hsold, hnonneg, ?_⟩
    have hset := @tally_reserved_set w p n (role_id, shop_id, item_config_id) hp phase
    rw [reserved_of_ne hnot, add_zero] at hset
    change _ + tally _ (w.calls.set n { p with phase := phase }) ≤ _
    rw [hset, ← add_assoc]
    by_cases hbuying : phase = .buying
    swap
    · rw [reserved_of_ne hbuying, add_zero]
      exact hroom
    subst hbuying
    rw [reserved_buying, Purchase.amount]
    split_ifs with hkey
    swap
    · rw [add_zero]
      exact hroom
    -- the limited item of this purchase: its question for the limit has just been passed
    obtain ⟨rfl, rfl, rfl⟩ : p.role_id = role_id ∧ p.shop_id = shop_id ∧ p.item_config_id = item_config_id := by
      simpa [Purchase.key] using hkey
    rcases hcases with ⟨-, item', hfind, -, ⟨-, hphase⟩ | ⟨hlimit, -⟩⟩ | ⟨item', hphase, -, hpassed⟩
    · cases hphase
    · obtain rfl := Option.some.inj (hfind.symm.trans hitem.1)
      exact absurd hitem.2 (not_lt.2 hlimit)
    · obtain rfl := Option.some.inj ((h.counting p hmemp item' hphase).1.1.symm.trans hitem.1)
      exact room_of_passed hcount (h.high p hmemp) hpassed (hcareful p item' hp hphase)

/-- A call that ends without a purchase. -/
theorem World.Inv.refused (h : w.Inv) (hp : w.calls[n]? = some p) :
    World.Inv ⟨w.shop, w.calls.eraseIdx n, w.sold⟩ := by
  have hmem : ∀ q ∈ w.calls.eraseIdx n, q ∈ w.calls := fun q hq => List.mem_of_mem_eraseIdx hq
  refine ⟨h.limits, fun q hq => h.counting q (hmem q hq), fun q hq => h.buying q (hmem q hq),
    fun q hq => h.high q (hmem q hq), fun role_id shop_id item_config_id item hitem => ?_⟩
  obtain ⟨hsold, hnonneg, hroom⟩ := h.kept role_id shop_id item_config_id item hitem
  have herase := tally_eraseIdx (Purchase.reserved (role_id, shop_id, item_config_id)) hp
  have hreserved := h.reserved_nonneg (k := (role_id, shop_id, item_config_id)) p (List.mem_of_getElem? hp)
  dsimp only
  exact ⟨hsold, hnonneg, by omega⟩

/-- A call that ends with a purchase records what it had reserved. -/
theorem World.Inv.record {record : PurchaseRecord} (h : w.Inv) (hp : w.calls[n]? = some p)
    (hbuying : p.phase = .buying) :
    World.Inv ⟨(ShopModule.addRecord p.role_id record
      (w.shop.addBought p.role_id p.shop_id p.item_config_id p.count).2).2, w.calls.eraseIdx n,
      w.sold ++ [p]⟩ := by
  have hmemp : p ∈ w.calls := List.mem_of_getElem? hp
  have hmem : ∀ q ∈ w.calls.eraseIdx n, q ∈ w.calls := fun q hq => List.mem_of_mem_eraseIdx hq
  refine ⟨h.limits, fun q hq => h.counting q (hmem q hq), fun q hq => h.buying q (hmem q hq),
    fun q hq => h.high q (hmem q hq), fun role_id shop_id item_config_id item hitem => ?_⟩
  have hitem : Limited w.shop shop_id item_config_id item := hitem
  obtain ⟨hsold, hnonneg, hroom⟩ := h.kept role_id shop_id item_config_id item hitem
  have herase := tally_eraseIdx (Purchase.reserved (role_id, shop_id, item_config_id)) hp
  have hrest : 0 ≤ tally (Purchase.reserved (role_id, shop_id, item_config_id)) (w.calls.eraseIdx n) :=
    tally_nonneg fun q hq => h.reserved_nonneg q (hmem q hq)
  dsimp only
  rw [ShopModule.bought_addRecord, ShopModule.bought_addBought, tally_append, tally_cons, tally_nil, add_zero]
  by_cases hkey : (role_id, shop_id, item_config_id) = (p.role_id, p.shop_id, p.item_config_id)
  · obtain ⟨rfl, rfl, rfl⟩ : role_id = p.role_id ∧ shop_id = p.shop_id ∧ item_config_id = p.item_config_id := by
      simpa using hkey
    have hamount : p.amount (p.role_id, p.shop_id, p.item_config_id) = p.count := if_pos rfl
    have hreserved : p.reserved (p.role_id, p.shop_id, p.item_config_id) = p.count :=
      (if_pos hbuying).trans hamount
    have hcount := h.buying p hmemp hbuying
    have hlimit := h.limits p.shop_id p.item_config_id item hitem.1
    rw [if_pos rfl, hamount, toInt32_of_lt (by omega) (by omega)]
    refine ⟨by rw [hsold], by omega, by omega⟩
  · have hamount : p.amount (role_id, shop_id, item_config_id) = 0 := if_neg (Ne.symm hkey)
    have hreserved : p.reserved (role_id, shop_id, item_config_id) = 0 := by
      rw [Purchase.reserved, if_pos hbuying, hamount]
    rw [if_neg hkey, hamount, add_zero]
    exact ⟨hsold, hnonneg, by omega⟩

theorem World.Inv.step {l : Label} (h : w.Inv) (hstep : World.Step w l w') (hcareful : Careful w l) :
    w'.Inv := by
  cases hstep with
  | call hphase _ hhigh => exact h.call hphase hhigh
  | goes hp hnext => exact h.goes hcareful hp hnext
  | @ended n p success t hp hnext =>
    rcases Purchase.next_ended hnext with ⟨rfl, rfl⟩ | ⟨rfl, hbuying, record, rfl⟩
    · exact h.refused hp
    · exact h.record hp hbuying

end

theorem World.inv_nil {s : ShopModule} (hlimits : ∀ shop_id item_config_id item,
    s.shopItem shop_id item_config_id = some item → item.buy_limit < 2 ^ 31)
    (hnew : ∀ role_id shop_id item_config_id, s.bought role_id shop_id item_config_id = 0) :
    World.Inv ⟨s, [], []⟩ := by
  refine ⟨hlimits, fun _ hp => absurd hp List.not_mem_nil, fun _ hp => absurd hp List.not_mem_nil,
    fun _ hp => absurd hp List.not_mem_nil, fun role_id shop_id item_config_id item hitem => ?_⟩
  dsimp only
  rw [hnew, tally_nil, tally_nil]
  exact ⟨rfl, le_rfl, hitem.2.le⟩

/-- **The limit is kept** in every run of interleaved calls whose questions for the limit are
    careful. -/
theorem limit_kept {s : ShopModule} {ls : List Label} {w : World}
    (hlimits : ∀ shop_id item_config_id item, s.shopItem shop_id item_config_id = some item →
      item.buy_limit < 2 ^ 31)
    (hnew : ∀ role_id shop_id item_config_id, s.bought role_id shop_id item_config_id = 0)
    (hr : Run (fun w l w' => World.Step w l w' ∧ Careful w l) ⟨s, [], []⟩ ls w) :
    ∀ role_id shop_id item_config_id item, w.shop.shopItem shop_id item_config_id = some item →
      0 < item.buy_limit →
      tally (Purchase.amount (role_id, shop_id, item_config_id)) w.sold ≤ item.buy_limit := by
  intro role_id shop_id item_config_id item hitem hlimit
  have hinv : w.Inv :=
    Run.invariant (fun _ _ _ h hstep => h.step hstep.1 hstep.2) (World.inv_nil hlimits hnew) hr
  obtain ⟨hsold, -, hroom⟩ := hinv.kept role_id shop_id item_config_id item ⟨hitem, hlimit⟩
  have hreserved : 0 ≤ tally (Purchase.reserved (role_id, shop_id, item_config_id)) w.calls :=
    tally_nonneg hinv.reserved_nonneg
  omega

/-! ## A call alone -/

section
variable {s : ShopModule} {sold : List Purchase} {p : Purchase} {phase : Phase} {success : Bool}
  {item : ShopItem}

theorem only_goes (h : p.next s = (.goes phase, s)) :
    World.Step ⟨s, [p], sold⟩ (.go 0) ⟨s, [{ p with phase := phase }], sold⟩ :=
  @World.Step.goes ⟨s, [p], sold⟩ 0 p phase s rfl h

theorem only_ended {t : ShopModule} (h : p.next s = (.ended success, t)) :
    World.Step ⟨s, [p], sold⟩ (.go 0) ⟨t, [], if success = true then sold ++ [p] else sold⟩ :=
  @World.Step.ended ⟨s, [p], sold⟩ 0 p success t rfl h

/-- The shop after a purchase. -/
def Purchase.made (p : Purchase) (s : ShopModule) : ShopModule :=
  (ShopModule.addRecord p.role_id ⟨p.shop_id, p.item_config_id, p.count, p.now⟩
    (s.addBought p.role_id p.shop_id p.item_config_id p.count).2).2

theorem Purchase.next_buying (hphase : p.phase = .buying)
    (hitem : s.shopItem p.shop_id p.item_config_id = some item) :
    p.next s = (.ended true, p.made s) := by
  simp only [Purchase.next, hphase, hitem]
  rfl

theorem buyItem_apply : ∃ b : Bool,
    ShopModule.BuyItem p.now p.role_id p.shop_id p.item_config_id p.count .reentrant s =
      .ret b (if b = true then p.made s else s) ∧
    (b = true ↔ Buyable p.role_id p.shop_id p.item_config_id p.count s) := by
  have hfind : ShopModule.GetShopItem p.shop_id p.item_config_id .reentrant s =
      .ret (s.shopItem p.shop_id p.item_config_id) s := rfl
  obtain ⟨b, hb, hiff⟩ : ∃ b,
      ShopModule.CanBuyItem p.role_id p.shop_id p.item_config_id p.count .reentrant s = .ret b s ∧
        (b = true ↔ Buyable p.role_id p.shop_id p.item_config_id p.count s) :=
    canBuyItem_ret Lock.noConfusion
  refine ⟨b, ?_, hiff⟩
  rw [ShopModule.BuyItem, Locked.bind_apply hb]
  cases b with
  | false => rfl
  | true =>
    obtain ⟨item, hitem, -⟩ := hiff.1 rfl
    rw [if_pos rfl]
    change (ShopModule.GetShopItem p.shop_id p.item_config_id >>= _ : Locked ShopModule Bool) .reentrant s = _
    rw [Locked.bind_apply hfind, hitem]
    rfl

/-- `BuyItem` by itself is a run of its sections. -/
theorem buyItem_run (hphase : p.phase = .finding) (hlow : -(2 ^ 31) ≤ p.count) (hhigh : p.count < 2 ^ 31) :
    ∃ b t ls,
      ShopModule.BuyItem p.now p.role_id p.shop_id p.item_config_id p.count .reentrant s = .ret b t ∧
      Run World.Step ⟨s, [], sold⟩ ls
        ⟨t, [], if b = true then sold ++ [{ p with phase := .buying }] else sold⟩ := by
  obtain ⟨b, hb, hiff⟩ := @buyItem_apply s p
  have hcall : World.Step ⟨s, [], sold⟩ (.call p) ⟨s, [p], sold⟩ := .call hphase hlow hhigh
  by_cases hbuyable : Buyable p.role_id p.shop_id p.item_config_id p.count s
  · obtain rfl : b = true := hiff.2 hbuyable
    obtain ⟨item, hitem, hcount, hlimit⟩ := hbuyable
    have hmade : Run World.Step ⟨s, [{ p with phase := .buying }], sold⟩ [.go 0]
        ⟨p.made s, [], sold ++ [{ p with phase := .buying }]⟩ :=
      .cons (only_ended (Purchase.next_buying rfl hitem)) (.nil _)
    by_cases hlimited : 0 < item.buy_limit
    · have hfind : p.next s = (.goes (.counting item), s) := by
        simp only [Purchase.next, hphase, hitem, if_neg (not_le.2 hcount), if_pos hlimited]
      have hpassed : ¬item.buy_limit <
          toInt32 ((decide (s.bought p.role_id p.shop_id p.item_config_id ≠ 0)).toInt + p.count) :=
        not_lt.2 (hlimit.resolve_left (not_le.2 hlimited))
      have hquestion : Purchase.next { p with phase := .counting item } s = (.goes .buying, s) := by
        simp only [Purchase.next, if_neg hpassed]
        rfl
      exact ⟨true, _, _, hb, .cons hcall (.cons (only_goes hfind) (.cons (only_goes hquestion) hmade))⟩
    · have hfind : p.next s = (.goes .buying, s) := by
        simp only [Purchase.next, hphase, hitem, if_neg (not_le.2 hcount), if_neg hlimited]
        rfl
      exact ⟨true, _, _, hb, .cons hcall (.cons (only_goes hfind) hmade)⟩
  · obtain rfl : b = false := Bool.eq_false_iff.2 fun htrue => hbuyable (hiff.1 htrue)
    refine ⟨false, s, ?_⟩
    rw [if_neg Bool.false_ne_true]
    cases hitem : s.shopItem p.shop_id p.item_config_id with
    | none =>
      have hfind : p.next s = (.ended false, s) := by
        simp only [Purchase.next, hphase, hitem]
      exact ⟨_, hb, .cons hcall (.cons (only_ended hfind) (.nil _))⟩
    | some item =>
      by_cases hcount : p.count ≤ 0
      · have hfind : p.next s = (.ended false, s) := by
          simp only [Purchase.next, hphase, hitem, if_pos hcount]
        exact ⟨_, hb, .cons hcall (.cons (only_ended hfind) (.nil _))⟩
      · have hlimited : 0 < item.buy_limit := by
          by_contra h
          exact hbuyable ⟨item, hitem, not_le.1 hcount, .inl (not_lt.1 h)⟩
        have hfind : p.next s = (.goes (.counting item), s) := by
          simp only [Purchase.next, hphase, hitem, if_neg hcount, if_pos hlimited]
        have hreached : item.buy_limit <
            toInt32 ((decide (s.bought p.role_id p.shop_id p.item_config_id ≠ 0)).toInt + p.count) := by
          by_contra h
          exact hbuyable ⟨item, hitem, not_le.1 hcount, .inr (not_lt.1 h)⟩
        have hquestion : Purchase.next { p with phase := .counting item } s = (.ended false, s) := by
          simp only [Purchase.next, if_pos hreached]
        exact ⟨_, hb, .cons hcall (.cons (only_goes hfind) (.cons (only_ended hquestion) (.nil _)))⟩

/-- A purchase of one is allowed of every item with a limit above one, however many were bought. -/
theorem sold_again (hitem : s.shopItem p.shop_id p.item_config_id = some item) (hlimit : 2 ≤ item.buy_limit)
    (hphase : p.phase = .finding) (hcount : p.count = 1) (n : ℕ) :
    ∃ ls t, Run World.Step ⟨s, [], []⟩ ls ⟨t, [], List.replicate n { p with phase := .buying }⟩ ∧
      t.shop_configs_ = s.shop_configs_ := by
  induction n with
  | zero => exact ⟨[], s, .nil _, rfl⟩
  | succ n ih =>
    obtain ⟨ls, t, hrun, hsame⟩ := ih
    have hitem' : t.shopItem p.shop_id p.item_config_id = some item := by
      rw [ShopModule.shopItem, hsame]
      exact hitem
    have hbuyable : Buyable p.role_id p.shop_id p.item_config_id p.count t := by
      refine ⟨item, hitem', by omega, .inr ?_⟩
      rw [hcount]
      cases decide (t.bought p.role_id p.shop_id p.item_config_id ≠ 0)
      · exact (show toInt32 (0 + 1) ≤ 2 by decide).trans hlimit
      · exact (show toInt32 (1 + 1) ≤ 2 by decide).trans hlimit
    obtain ⟨b, hb, hiff⟩ := @buyItem_apply t p
    obtain ⟨b', u, ls', hb', hnext⟩ := @buyItem_run t (List.replicate n { p with phase := .buying }) p
      hphase (by omega) (by omega)
    rw [hiff.2 hbuyable, hb'] at hb
    obtain ⟨rfl, rfl⟩ := Out.ret.inj hb
    rw [if_pos rfl, if_pos rfl, ← List.replicate_succ'] at hnext
    exact ⟨ls ++ ls', _, Run.append_iff.2 ⟨_, hrun, hnext⟩, hsame⟩

end

/-- A shop `1` that sells at most two of its item `7` to a role. -/
def twoOnly : ShopModule where
  shop_configs_ := (∅ : Dict ℤ ShopInfo).insert 1 ⟨1, .NORMAL, "", [⟨7, 0, 10, 0, 2⟩], 0, 0, true⟩
  buy_count_cache_ := ∅
  purchase_records_cache_ := ∅

theorem shopItem_twoOnly {shop_id item_config_id : ℤ} {item : ShopItem}
    (h : twoOnly.shopItem shop_id item_config_id = some item) : item = ⟨7, 0, 10, 0, 2⟩ := by
  unfold twoOnly ShopModule.shopItem at h
  obtain ⟨shop, hshop, hitem⟩ := Option.bind_eq_some_iff.1 h
  by_cases hid : shop_id = 1
  · subst hid
    rw [AList.lookup_insert] at hshop
    obtain rfl := Option.some.inj hshop
    exact List.mem_singleton.1 (List.mem_of_find?_eq_some hitem)
  · rw [AList.lookup_insert_ne hid] at hshop
    cases hshop

theorem limit_kept_two : tally (Purchase.amount (5, 1, 7)) [(⟨5, 1, 7, 2, 0, .buying⟩ : Purchase)] ≤ 2 := by
  have hcareful : Careful ⟨twoOnly, [⟨5, 1, 7, 2, 0, .counting ⟨7, 0, 10, 0, 2⟩⟩], []⟩ (.go 0) := by
    intro p item hp hphase
    obtain rfl := Option.some.inj hp
    cases hphase
    exact .inl (by decide)
  have hrun : Run (fun w l w' => World.Step w l w' ∧ Careful w l) ⟨twoOnly, [], []⟩
      [.call ⟨5, 1, 7, 2, 0, .finding⟩, .go 0, .go 0, .go 0]
      ⟨Purchase.made ⟨5, 1, 7, 2, 0, .buying⟩ twoOnly, [], [⟨5, 1, 7, 2, 0, .buying⟩]⟩ := by
    refine .cons ⟨.call rfl (by decide) (by decide), trivial⟩
      (.cons ⟨only_goes rfl, fun p item hp hphase => ?_⟩ (.cons ⟨only_goes rfl, hcareful⟩
        (.cons ⟨only_ended rfl, fun p item hp hphase => ?_⟩ (.nil _))))
    · obtain rfl := Option.some.inj hp
      cases hphase
    · obtain rfl := Option.some.inj hp
      cases hphase
  exact limit_kept (fun _ _ _ h => by rw [shopItem_twoOnly h]; decide) (fun _ _ _ => rfl) hrun 5 1 7
    ⟨7, 0, 10, 0, 2⟩ rfl (by decide)

/-- Three times one of an item that is sold twice. -/
theorem not_limit_kept : ¬∀ s ls w, (∀ shop_id item_config_id item,
    s.shopItem shop_id item_config_id = some item → item.buy_limit < 2 ^ 31) →
    (∀ role_id shop_id item_config_id, s.bought role_id shop_id item_config_id = 0) →
    Run World.Step ⟨s, [], []⟩ ls w →
    ∀ role_id shop_id item_config_id item, w.shop.shopItem shop_id item_config_id = some item →
      0 < item.buy_limit →
      tally (Purchase.amount (role_id, shop_id, item_config_id)) w.sold ≤ item.buy_limit := by
  intro h
  obtain ⟨ls, t, hrun, hsame⟩ := @sold_again twoOnly ⟨5, 1, 7, 1, 0, .finding⟩ ⟨7, 0, 10, 0, 2⟩ rfl (by decide) rfl rfl 3
  have hitem : t.shopItem 1 7 = some ⟨7, 0, 10, 0, 2⟩ := by
    rw [ShopModule.shopItem, hsame]
    rfl
  have hthree := h twoOnly ls _ (fun _ _ _ h => by rw [shopItem_twoOnly h]; decide) (fun _ _ _ => rfl) hrun
    5 1 7 _ hitem (by decide)
  have hsold : tally (Purchase.amount (5, 1, 7)) (List.replicate 3 (⟨5, 1, 7, 1, 0, .buying⟩ : Purchase)) = 3 := by
    decide
  exact absurd (hsold.symm.trans_le hthree) (by decide)

end Ancfl.Game.Shop
