/-
  `ShopModule`.

  * `ShopModule`: the shops, and what the roles have bought;
  * `Op`: the public operations; `CanBuyItem` locks `cache_mutex_` for each of
    its questions, `BuyItem` keeps it locked and asks again;
  * `deadlocks_iff`: `BuyItem` deadlocks on exactly those purchases that
    `CanBuyItem` allows, the other operations never do.
-/
import Ancfl.Lib.Dict
import Ancfl.Lib.Int32
import Ancfl.Lib.Mutex
import Mathlib.Algebra.Order.Ring.Int

namespace Ancfl.Game.Shop

open Lib

inductive ShopType
  | NORMAL | MYSTERY | GUILD | PVP | ACTIVITY
deriving DecidableEq

structure ShopItem where
  config_id : ℤ
  price_type : ℤ
  price : ℤ
  discount : ℤ
  buy_limit : ℤ
deriving DecidableEq

structure ShopInfo where
  shop_id : ℤ
  type : ShopType
  shop_name : String
  items : List ShopItem
  refresh_time : ℤ
  refresh_cost : ℤ
  is_open : Bool
deriving DecidableEq

structure PurchaseRecord where
  shop_id : ℤ
  item_config_id : ℤ
  buy_count : ℤ
  buy_time : ℤ
deriving DecidableEq

structure ShopModule where
  shop_configs_ : Dict ℤ ShopInfo
  buy_count_cache_ : Dict (BitVec 64) (Dict ℤ (Dict ℤ ℤ))
  purchase_records_cache_ : Dict (BitVec 64) (List PurchaseRecord)

def MAX_PURCHASE_RECORDS : ℕ := 100

namespace ShopModule

/-! ## Without a lock of their own -/

/-- What `CalculatePrice` returns is a `bool`, as is what `GetItemBuyCount` does. -/
def CalculatePrice (base_price discount : ℤ) : Bool :=
  if discount ≤ 0 ∨ 100 ≤ discount then base_price ≠ 0
  else (toInt32 (base_price * discount)).tdiv 100 ≠ 0

def CheckMoneyEnough (_role_id : BitVec 64) (_price_type _amount : ℤ) : Bool := true

def DeductMoney (_role_id : BitVec 64) (_price_type _amount : ℤ) : Bool := true

def totalPrice (item : ShopItem) (count : ℤ) : ℤ :=
  toInt32 ((CalculatePrice item.price item.discount).toInt * count)

def init (role_id : BitVec 64) (s : ShopModule) : Bool × ShopModule :=
  (true, { s with
    buy_count_cache_ := s.buy_count_cache_.insert role_id ∅
    purchase_records_cache_ := s.purchase_records_cache_.insert role_id [] })

def shopItem (shop_id item_config_id : ℤ) (s : ShopModule) : Option ShopItem :=
  (s.shop_configs_.lookup shop_id).bind fun shop =>
    shop.items.find? fun item => item.config_id = item_config_id

/-- How many of an item a role has bought in a shop. -/
def bought (role_id : BitVec 64) (shop_id item_config_id : ℤ) (s : ShopModule) : ℤ :=
  (((s.buy_count_cache_.lookup role_id).getD ∅).lookup shop_id |>.getD ∅).lookup item_config_id
    |>.getD 0

def addBought (role_id : BitVec 64) (shop_id item_config_id count : ℤ) (s : ShopModule) :
    Bool × ShopModule :=
  let shops := (s.buy_count_cache_.lookup role_id).getD ∅
  let items := (shops.lookup shop_id).getD ∅
  let items := items.insert item_config_id
    (toInt32 (s.bought role_id shop_id item_config_id + count))
  (true, { s with buy_count_cache_ := s.buy_count_cache_.insert role_id (shops.insert shop_id items) })

def addRecord (role_id : BitVec 64) (record : PurchaseRecord) (s : ShopModule) : Bool × ShopModule :=
  let records := (s.purchase_records_cache_.lookup role_id).getD [] ++ [record]
  let records := if MAX_PURCHASE_RECORDS < records.length then records.tail else records
  (true, { s with purchase_records_cache_ := s.purchase_records_cache_.insert role_id records })

/-! ## The operations -/

def InitShop (role_id : BitVec 64) : Locked ShopModule Bool := .lockGuard (.perform (init role_id))

def GetShopList : Locked ShopModule (List ShopInfo) :=
  .lockGuard (.perform fun s => (s.shop_configs_.entries.map (·.2), s))

def GetShopInfo (shop_id : ℤ) : Locked ShopModule (Option ShopInfo) :=
  .lockGuard (.perform fun s => (s.shop_configs_.lookup shop_id, s))

def GetShopItems (shop_id : ℤ) : Locked ShopModule (Option (List ShopItem)) :=
  .lockGuard (.perform fun s => ((s.shop_configs_.lookup shop_id).map (·.items), s))

def GetShopItem (shop_id item_config_id : ℤ) : Locked ShopModule (Option ShopItem) :=
  .lockGuard (.perform fun s => (s.shopItem shop_id item_config_id, s))

def GetItemBuyCount (role_id : BitVec 64) (shop_id item_config_id : ℤ) : Locked ShopModule Bool :=
  .lockGuard (.perform fun s => (s.bought role_id shop_id item_config_id ≠ 0, s))

def AddItemBuyCount (role_id : BitVec 64) (shop_id item_config_id count : ℤ) :
    Locked ShopModule Bool :=
  .lockGuard (.perform (addBought role_id shop_id item_config_id count))

/-- `CanBuyItem` past its check of the limit. -/
def affordable (role_id : BitVec 64) (item : ShopItem) (count : ℤ) : Bool :=
  CheckMoneyEnough role_id item.price_type (totalPrice item count)

def CanBuyItem (role_id : BitVec 64) (shop_id item_config_id count : ℤ) : Locked ShopModule Bool := do
  match ← GetShopItem shop_id item_config_id with
  | none => return false
  | some item =>
    if count ≤ 0 then return false
    else if 0 < item.buy_limit then do
      let current_count := (← GetItemBuyCount role_id shop_id item_config_id).toInt
      if item.buy_limit < toInt32 (current_count + count) then return false
      else return affordable role_id item count
    else return affordable role_id item count

def BuyItem (now : ℤ) (role_id : BitVec 64) (shop_id item_config_id count : ℤ) :
    Locked ShopModule Bool := do
  if ← CanBuyItem role_id shop_id item_config_id count then
    .lockGuard do
      match ← GetShopItem shop_id item_config_id with
      | none => return false
      | some item =>
        if DeductMoney role_id item.price_type (totalPrice item count) then do
          let _ ← AddItemBuyCount role_id shop_id item_config_id count
          .perform (addRecord role_id ⟨shop_id, item_config_id, count, now⟩)
        else return false
  else return false

def GetPurchaseRecords (role_id : BitVec 64) : Locked ShopModule (Option (List PurchaseRecord)) :=
  .lockGuard (.perform fun s => (s.purchase_records_cache_.lookup role_id, s))

def SaveShopData (_role_id : BitVec 64) : Locked ShopModule Bool := return true

def LoadShopData (role_id : BitVec 64) : Locked ShopModule Bool := do
  let _ ← InitShop role_id
  return true

end ShopModule

/-- The public operations. -/
inductive Op
  | InitShop (role_id : BitVec 64)
  | GetShopList
  | GetShopInfo (shop_id : ℤ)
  | GetShopItems (shop_id : ℤ)
  | BuyItem (role_id : BitVec 64) (shop_id item_config_id count : ℤ)
  | CanBuyItem (role_id : BitVec 64) (shop_id item_config_id count : ℤ)
  | GetItemBuyCount (role_id : BitVec 64) (shop_id item_config_id : ℤ)
  | AddItemBuyCount (role_id : BitVec 64) (shop_id item_config_id count : ℤ)
  | GetPurchaseRecords (role_id : BitVec 64)
  | SaveShopData (role_id : BitVec 64)
  | LoadShopData (role_id : BitVec 64)

/-- A call of an operation at the time `now`; what it returns is left out. -/
def Op.call (now : ℤ) : Op → Locked ShopModule Unit
  | InitShop role_id => do let _ ← ShopModule.InitShop role_id
  | GetShopList => do let _ ← ShopModule.GetShopList
  | GetShopInfo shop_id => do let _ ← ShopModule.GetShopInfo shop_id
  | GetShopItems shop_id => do let _ ← ShopModule.GetShopItems shop_id
  | BuyItem role_id shop_id item_config_id count => do
    let _ ← ShopModule.BuyItem now role_id shop_id item_config_id count
  | CanBuyItem role_id shop_id item_config_id count => do
    let _ ← ShopModule.CanBuyItem role_id shop_id item_config_id count
  | GetItemBuyCount role_id shop_id item_config_id => do
    let _ ← ShopModule.GetItemBuyCount role_id shop_id item_config_id
  | AddItemBuyCount role_id shop_id item_config_id count => do
    let _ ← ShopModule.AddItemBuyCount role_id shop_id item_config_id count
  | GetPurchaseRecords role_id => do let _ ← ShopModule.GetPurchaseRecords role_id
  | SaveShopData role_id => do let _ ← ShopModule.SaveShopData role_id
  | LoadShopData role_id => do let _ ← ShopModule.LoadShopData role_id

/-- What may be bought: some of an item of the shop, within its limit if it has one. -/
def Buyable (role_id : BitVec 64) (shop_id item_config_id count : ℤ) (s : ShopModule) : Prop :=
  ∃ item, s.shopItem shop_id item_config_id = some item ∧ 0 < count ∧
    (item.buy_limit ≤ 0 ∨
      toInt32 ((decide (s.bought role_id shop_id item_config_id ≠ 0)).toInt + count) ≤ item.buy_limit)

/-- Where an operation locks twice. -/
def Op.LocksTwice (s : ShopModule) : Op → Prop
  | BuyItem role_id shop_id item_config_id count => Buyable role_id shop_id item_config_id count s
  | _ => False

section
variable {role_id : BitVec 64} {shop_id item_config_id count : ℤ} {s : ShopModule}

/-- `CanBuyItem` returns, whatever it is asked for. -/
theorem canBuyItem_ret {l : Lock} (hlock : l ≠ .held) :
    ∃ b, ShopModule.CanBuyItem role_id shop_id item_config_id count l s = .ret b s ∧
      (b = true ↔ Buyable role_id shop_id item_config_id count s) := by
  have hfind : ShopModule.GetShopItem shop_id item_config_id l s =
      .ret (s.shopItem shop_id item_config_id) s := Locked.lockGuard_perform hlock
  have hcount : ShopModule.GetItemBuyCount role_id shop_id item_config_id l s =
      .ret (decide (s.bought role_id shop_id item_config_id ≠ 0)) s := Locked.lockGuard_perform hlock
  rw [ShopModule.CanBuyItem, Locked.bind_apply hfind]
  unfold Buyable
  cases hitem : s.shopItem shop_id item_config_id with
  | none => exact ⟨false, rfl, by simp⟩
  | some item =>
    dsimp only
    split_ifs with hle hlimit
    · exact ⟨false, rfl, by simp [not_lt.2 hle]⟩
    · rw [Locked.bind_apply hcount]
      split_ifs with hlt
      · refine ⟨false, rfl, iff_of_false Bool.false_ne_true ?_⟩
        rintro ⟨_, ⟨⟩, -, h⟩
        exact h.elim (not_le.2 hlimit) (not_le.2 hlt)
      · exact ⟨true, rfl, iff_of_true rfl ⟨item, rfl, not_le.1 hle, .inr (not_lt.1 hlt)⟩⟩
    · exact ⟨true, rfl, by simp [not_le.1 hle, not_lt.1 hlimit]⟩

theorem deadlocks_iff (now : ℤ) (op : Op) (s : ShopModule) :
    (op.call now).Deadlocks .free s ↔ op.LocksTwice s := by
  cases op
  case BuyItem role_id shop_id item_config_id count =>
    obtain ⟨b, hb, hiff⟩ := @canBuyItem_ret role_id shop_id item_config_id count s .free Lock.noConfusion
    rw [Op.call, Locked.deadlocks_map, ShopModule.BuyItem, Locked.deadlocks_bind hb, Op.LocksTwice,
      ← hiff]
    cases b with
    | false => simp
    | true =>
      refine iff_of_true ?_ rfl
      rw [if_pos rfl, Locked.deadlocks_guard_free]
      exact Locked.bind_of_deadlock (Locked.deadlocks_guard_held _)
  case CanBuyItem role_id shop_id item_config_id count =>
    obtain ⟨b, hb, -⟩ := @canBuyItem_ret role_id shop_id item_config_id count s .free Lock.noConfusion
    refine iff_of_false ?_ id
    rw [Op.call, Locked.deadlocks_map]
    rintro ⟨_, h⟩
    rw [hb] at h
    cases h
  case SaveShopData role_id => exact iff_of_false (Locked.not_deadlocks_pure _) id
  case LoadShopData role_id =>
    refine iff_of_false ?_ id
    rw [Op.call, Locked.deadlocks_map, ShopModule.LoadShopData, Locked.deadlocks_map]
    exact Locked.not_deadlocks_guard _
  all_goals
    refine iff_of_false ?_ id
    rw [Op.call, Locked.deadlocks_map]
    exact Locked.not_deadlocks_guard _

end

end Ancfl.Game.Shop
