/-
  What a purchase costs.

  * `unitPrice`: the price of one, by the configuration of the item;
    `CalculatePrice` is to compute it, and returns a `bool`;
  * `buyItem_passes`: whatever the check of the money and its deduction answer,
    `BuyItem` asks both for `totalPrice`. Its mutex may be taken twice here;
  * `costs_iff`: that is the price iff one costs 0 or 1.
-/
import Ancfl.Game.Shop

namespace Ancfl.Game.Shop

open Lib

/-- The check of the money and its deduction: role, kind of money, amount. -/
abbrev Money := BitVec 64 → ℤ → ℤ → Bool

namespace ShopModule

/-- `CanBuyItem` with any check of the money. -/
def CanBuyItemWith (check : Money) (role_id : BitVec 64) (shop_id item_config_id count : ℤ) :
    Locked ShopModule Bool := do
  match ← GetShopItem shop_id item_config_id with
  | none => return false
  | some item =>
    if count ≤ 0 then return false
    else if 0 < item.buy_limit then do
      let current_count := (← GetItemBuyCount role_id shop_id item_config_id).toInt
      if item.buy_limit < toInt32 (current_count + count) then return false
      else return check role_id item.price_type (totalPrice item count)
    else return check role_id item.price_type (totalPrice item count)

/-- `BuyItem` with any check of the money, and any deduction. -/
def BuyItemWith (check deduct : Money) (now : ℤ) (role_id : BitVec 64)
    (shop_id item_config_id count : ℤ) : Locked ShopModule Bool := do
  if ← CanBuyItemWith check role_id shop_id item_config_id count then
    .lockGuard do
      match ← GetShopItem shop_id item_config_id with
      | none => return false
      | some item =>
        if deduct role_id item.price_type (totalPrice item count) then do
          let _ ← AddItemBuyCount role_id shop_id item_config_id count
          .perform (addRecord role_id ⟨shop_id, item_config_id, count, now⟩)
        else return false
  else return false

/-- They are the operations, with the check and the deduction that there are. -/
theorem buyItemWith_eq : BuyItemWith CheckMoneyEnough DeductMoney = BuyItem := rfl

end ShopModule

/-- The price of one: with a discount from 1 to 99 it is that percentage. -/
def unitPrice (item : ShopItem) : ℤ :=
  if 1 ≤ item.discount ∧ item.discount ≤ 99 then item.price * item.discount / 100 else item.price

/-- No product of the computation overflows. -/
def NoOverflow (item : ShopItem) (count : ℤ) : Prop :=
  (1 ≤ item.discount ∧ item.discount ≤ 99 → Fits32 (item.price * item.discount)) ∧
    Fits32 ((ShopModule.CalculatePrice item.price item.discount).toInt * count)

/-- The amount that `BuyItem` asks the check of the money and the deduction for: it returns whether
    both allow it. -/
def Passes (s : ShopModule) (role_id : BitVec 64) (shop_id item_config_id count price_type amount : ℤ) :
    Prop :=
  ∀ (check deduct : Money) (now : ℤ), ∃ s',
    ShopModule.BuyItemWith check deduct now role_id shop_id item_config_id count .reentrant s =
      .ret (check role_id price_type amount && deduct role_id price_type amount) s'

/-- A purchase costs the price of one for each, and nothing overflows. -/
def Costs (s : ShopModule) (role_id : BitVec 64) (shop_id item_config_id count : ℤ) (item : ShopItem) :
    Prop :=
  Passes s role_id shop_id item_config_id count item.price_type (count * unitPrice item) ∧
    NoOverflow item count

section
variable {role_id : BitVec 64} {shop_id item_config_id count : ℤ} {s : ShopModule} {item : ShopItem}

theorem canBuyItemWith_ret (check : Money) (hitem : s.shopItem shop_id item_config_id = some item)
    (hbuy : Buyable role_id shop_id item_config_id count s) :
    ShopModule.CanBuyItemWith check role_id shop_id item_config_id count .reentrant s =
      .ret (check role_id item.price_type (ShopModule.totalPrice item count)) s := by
  obtain ⟨_, hitem', hcount, hlimit⟩ := hbuy
  obtain rfl := Option.some.inj (hitem.symm.trans hitem')
  have hfind : ShopModule.GetShopItem shop_id item_config_id .reentrant s = .ret (some item) s := by
    rw [← hitem]
    rfl
  have hbought : ShopModule.GetItemBuyCount role_id shop_id item_config_id .reentrant s =
      .ret (decide (s.bought role_id shop_id item_config_id ≠ 0)) s := rfl
  rw [ShopModule.CanBuyItemWith, Locked.bind_apply hfind]
  dsimp only
  rw [if_neg (not_le.2 hcount)]
  split_ifs with hlimited
  · rw [Locked.bind_apply hbought, if_neg (not_lt.2 (hlimit.resolve_left (not_le.2 hlimited)))]
    rfl
  · rfl

/-- **The amount that is passed** is `totalPrice`, to the check and to the deduction. -/
theorem buyItem_passes (hitem : s.shopItem shop_id item_config_id = some item)
    (hbuy : Buyable role_id shop_id item_config_id count s) {amount : ℤ} :
    Passes s role_id shop_id item_config_id count item.price_type amount ↔
      ShopModule.totalPrice item count = amount := by
  have hfind : ShopModule.GetShopItem shop_id item_config_id .reentrant s = .ret (some item) s := by
    rw [← hitem]
    rfl
  have hret (check deduct : Money) (now : ℤ) : ∃ s',
      ShopModule.BuyItemWith check deduct now role_id shop_id item_config_id count .reentrant s =
        .ret (check role_id item.price_type (ShopModule.totalPrice item count) &&
          deduct role_id item.price_type (ShopModule.totalPrice item count)) s' := by
    rw [ShopModule.BuyItemWith, Locked.bind_apply (canBuyItemWith_ret check hitem hbuy)]
    cases check role_id item.price_type (ShopModule.totalPrice item count) with
    | false => exact ⟨s, rfl⟩
    | true =>
      rw [if_pos rfl, Locked.lockGuard, Locked.bind_apply hfind]
      dsimp only
      cases deduct role_id item.price_type (ShopModule.totalPrice item count) with
      | false => exact ⟨s, rfl⟩
      | true => exact ⟨_, rfl⟩
  constructor
  · intro h
    -- a check for the amount itself
    obtain ⟨s₁, h₁⟩ := h (fun _ _ a => decide (a = amount)) (fun _ _ _ => true) 0
    obtain ⟨s₂, h₂⟩ := hret (fun _ _ a => decide (a = amount)) (fun _ _ _ => true) 0
    obtain ⟨hsame, -⟩ := Out.ret.inj (h₂.symm.trans h₁)
    simpa using hsame
  · rintro rfl
    exact hret

/-- `CalculatePrice` says whether one costs anything. -/
theorem calculatePrice_toInt (hprice : 0 ≤ item.price)
    (hfits : 1 ≤ item.discount ∧ item.discount ≤ 99 → Fits32 (item.price * item.discount)) :
    (ShopModule.CalculatePrice item.price item.discount).toInt = if unitPrice item = 0 then 0 else 1 := by
  rw [ShopModule.CalculatePrice, unitPrice]
  by_cases hdiscount : 1 ≤ item.discount ∧ item.discount ≤ 99
  · obtain ⟨hlow, hhigh⟩ := hfits hdiscount
    have hpos : 0 ≤ item.price * item.discount := Int.mul_nonneg hprice (by omega)
    rw [if_neg (by omega), if_pos hdiscount, toInt32_of_lt hlow hhigh, Int.tdiv_eq_ediv_of_nonneg hpos]
    split_ifs with hzero <;> simp [hzero]
  · rw [if_pos (by omega), if_neg hdiscount]
    split_ifs with hzero <;> simp [hzero]

/-- **A purchase costs what it should iff one costs 0 or 1.** -/
theorem costs_iff (hitem : s.shopItem shop_id item_config_id = some item) (hprice : 0 ≤ item.price)
    (hbuy : Buyable role_id shop_id item_config_id count s) (hcount : count < 2 ^ 31) :
    Costs s role_id shop_id item_config_id count item ↔ unitPrice item ≤ 1 := by
  have hpos : 0 < count := hbuy.choose_spec.2.1
  rw [Costs, buyItem_passes hitem hbuy]
  constructor
  · rintro ⟨htotal, hfits, -, -⟩
    rw [ShopModule.totalPrice, calculatePrice_toInt hprice hfits] at htotal
    by_contra hlt
    rw [if_neg (by omega), one_mul, toInt32_of_lt (by omega) hcount] at htotal
    have htwo : count * 2 ≤ count * unitPrice item := Int.mul_le_mul_of_nonneg_left (by omega) hpos.le
    omega
  · intro hunit
    have hfits : 1 ≤ item.discount ∧ item.discount ≤ 99 → Fits32 (item.price * item.discount) := by
      intro hdiscount
      rw [unitPrice, if_pos hdiscount] at hunit
      have hnonneg : 0 ≤ item.price * item.discount := Int.mul_nonneg hprice (by omega)
      constructor <;> omega
    have hone : (ShopModule.CalculatePrice item.price item.discount).toInt = unitPrice item := by
      have hnonneg : 0 ≤ unitPrice item := by
        rw [unitPrice]
        split_ifs with hdiscount
        · exact Int.ediv_nonneg (Int.mul_nonneg hprice (by omega)) (by decide)
        · exact hprice
      rw [calculatePrice_toInt hprice hfits]
      split_ifs <;> omega
    have hrange : Fits32 (unitPrice item * count) := by
      have hcalc := calculatePrice_toInt hprice hfits
      rw [hone] at hcalc
      rw [hcalc]
      constructor <;> split_ifs <;> omega
    refine ⟨?_, hfits, by rw [hone]; exact hrange⟩
    rw [ShopModule.totalPrice, hone, toInt32_of_lt hrange.1 hrange.2, Int.mul_comm]

end

/-- A shop that sells one item, without a limit. -/
def oneItem (price discount : ℤ) : ShopModule :=
  ⟨AList.singleton 1 ⟨1, .NORMAL, "Shop", [⟨7, 1, price, discount, 0⟩], 0, 0, true⟩, ∅, ∅⟩

theorem oneItem_buyable (price discount : ℤ) :
    Buyable 5 1 7 3 (oneItem price discount) :=
  ⟨⟨7, 1, price, discount, 0⟩, rfl, by omega, .inl le_rfl⟩

/-- Three for 3 each, at one half. -/
theorem costs_half : Costs (oneItem 3 50) 5 1 7 3 ⟨7, 1, 3, 50, 0⟩ :=
  (costs_iff rfl (Int.zero_le_ofNat 3) (oneItem_buyable 3 50) (by omega)).2 le_rfl

/-- **Three for 100 each cost 3.** -/
theorem not_costs : ¬∀ (s : ShopModule) (role_id : BitVec 64) (shop_id item_config_id count : ℤ)
    (item : ShopItem), s.shopItem shop_id item_config_id = some item → 0 ≤ item.price →
    Buyable role_id shop_id item_config_id count s → count < 2 ^ 31 →
    Costs s role_id shop_id item_config_id count item := by
  intro h
  have hcosts := h (oneItem 100 0) 5 1 7 3 ⟨7, 1, 100, 0, 0⟩ rfl (Int.zero_le_ofNat 100)
    (oneItem_buyable 100 0) (by omega)
  have hunit : (100 : ℤ) ≤ 1 :=
    (costs_iff rfl (Int.zero_le_ofNat 100) (oneItem_buyable 100 0) (by omega)).1 hcosts
  omega

end Ancfl.Game.Shop
