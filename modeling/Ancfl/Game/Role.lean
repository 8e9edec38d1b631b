/-
  Experience and levels (`RoleModule::AddRoleExp`).

  * `levelUp` is the loop over the levels, `CalculateRoleProperty` what it puts
    into `property_cache_`; an overflow of an `int32_t` has no defined behaviour;
  * `total`: the experience of all levels. A role whose experience is below the
    threshold of its level (`Settled`) is determined by it (`settled_unique`);
  * `addRoleExp_ret`: a call settles the role and adds to its total;
    `addRoleExp_add`: two calls are one.
-/
import Ancfl.Lib.Dict
import Ancfl.Lib.Int32
import Mathlib.Algebra.BigOperators.Intervals
import Mathlib.Algebra.Order.BigOperators.Group.Finset

namespace Ancfl.Game.Role

open Lib

structure RoleProperty where
  hp : ℤ
  max_hp : ℤ
  mp : ℤ
  max_mp : ℤ
  attack : ℤ
  defense : ℤ
  speed : ℤ
  critical : ℤ
  critical_damage : ℤ
  dodge : ℤ
  hit : ℤ
  armor : ℤ
  magic_resist : ℤ
deriving DecidableEq

/-- What the calls below read and write of a role. -/
structure RoleData where
  level : ℤ
  exp : ℤ
deriving DecidableEq

structure RoleModule where
  role_cache_ : Dict (BitVec 64) RoleData
  property_cache_ : Dict (BitVec 64) RoleProperty

def CalculateRoleProperty (data : RoleData) : Option RoleProperty := do
  let hp ← checked32 (1000 + (← checked32 (data.level * 100)))
  let mp ← checked32 (500 + (← checked32 (data.level * 50)))
  let attack ← checked32 (100 + (← checked32 (data.level * 10)))
  let defense ← checked32 (50 + (← checked32 (data.level * 5)))
  let armor ← checked32 (20 + (← checked32 (data.level * 2)))
  let magic_resist ← checked32 (20 + (← checked32 (data.level * 2)))
  return {
    hp := hp, max_hp := hp, mp := mp, max_mp := mp, attack := attack, defense := defense
    speed := 100, critical := 10, critical_damage := 150, dodge := 10, hit := 90
    armor := armor, magic_resist := magic_resist }

theorem checked32_eq_some {x y : ℤ} (h : checked32 x = some y) : Fits32 x ∧ y = x := by
  unfold checked32 at h
  split_ifs at h with hfits
  exact ⟨hfits, (Option.some.inj h).symm⟩

/-- The loop of `AddRoleExp`. -/
def levelUp (role_id : BitVec 64) (max_exp : ℤ) (data : RoleData)
    (properties : Dict (BitVec 64) RoleProperty) : Option (RoleData × Dict (BitVec 64) RoleProperty) :=
  if max_exp ≤ data.exp then
    match checked32 (data.exp - max_exp), _h : checked32 (data.level + 1) with
    | some exp, some level => do
      let data : RoleData := { level := level, exp := exp }
      let max_exp ← checked32 (data.level * 1000)
      let property ← CalculateRoleProperty data
      levelUp role_id max_exp data (properties.insert role_id property)
    | _, _ => none
  else some (data, properties)
termination_by (2 ^ 31 - data.level).toNat
decreasing_by
  obtain ⟨⟨-, hhigh⟩, rfl⟩ := checked32_eq_some _h
  omega

def AddRoleExp (role_id : BitVec 64) (exp : ℤ) (m : RoleModule) : Option (Bool × RoleModule) :=
  match m.role_cache_.lookup role_id with
  | none => some (false, m)
  | some data => do
    let exp ← checked32 (data.exp + exp)
    let max_exp ← checked32 (data.level * 1000)
    let (data, properties) ← levelUp role_id max_exp { data with exp := exp } m.property_cache_
    return (true, ⟨m.role_cache_.insert role_id data, properties⟩)

/-! ## The experience of all levels -/

/-- The experience that the levels below `level` take. -/
def needed (level : ℤ) : ℤ := 1000 * ∑ i ∈ Finset.range level.toNat, (i : ℤ)

def total (data : RoleData) : ℤ := needed data.level + data.exp

/-- The experience is below the threshold of the level. -/
structure Settled (data : RoleData) : Prop where
  level : 1 ≤ data.level
  exp : 0 ≤ data.exp
  lt : data.exp < data.level * 1000

theorem needed_succ {level : ℤ} (h : 0 ≤ level) : needed (level + 1) = needed level + level * 1000 := by
  rw [needed, needed, Int.toNat_add h (by decide), Int.toNat_one, Finset.sum_range_succ,
    Int.toNat_of_nonneg h]
  omega

theorem needed_mono {l l' : ℤ} (h : l ≤ l') : needed l ≤ needed l' := by
  refine Int.mul_le_mul_of_nonneg_left ?_ (by decide)
  refine Finset.sum_le_sum_of_subset_of_nonneg ?_ fun i _ _ => Int.natCast_nonneg i
  exact Finset.range_mono (Int.toNat_le_toNat h)

section
variable {role_id : BitVec 64} {data data' : RoleData} {a b : ℤ} {m : RoleModule}
  {properties : Dict (BitVec 64) RoleProperty}

theorem Settled.total_lt (h : Settled data) : total data < needed (data.level + 1) := by
  have hlevel := h.level
  have hlt := h.lt
  rw [needed_succ (by omega), total]
  omega

theorem Settled.needed_le (h : Settled data) : needed data.level ≤ total data := by
  have hexp := h.exp
  rw [total]
  omega

/-- More experience, no lower level. -/
theorem Settled.level_le (h : Settled data) (h' : Settled data') (hle : total data ≤ total data') :
    data.level ≤ data'.level := by
  by_contra hlt
  have hmono := needed_mono (show data'.level + 1 ≤ data.level by omega)
  have htotal := h'.total_lt
  have hneeded := h.needed_le
  omega

/-- **The total says level and experience.** -/
theorem settled_unique (h : Settled data) (h' : Settled data') (heq : total data = total data') :
    data = data' := by
  have hlevel : data.level = data'.level :=
    Int.le_antisymm (h.level_le h' heq.le) (h'.level_le h heq.ge)
  rw [total, total, hlevel] at heq
  cases data
  cases data'
  simp only [RoleData.mk.injEq]
  exact ⟨hlevel, by simpa using heq⟩

/-- Every level that the experience is enough for has a threshold that is an `int32_t`. -/
def Thresholds (data : RoleData) : Prop :=
  ∀ level, 1 ≤ level → needed level ≤ total data → level * 1000 < 2 ^ 31

/-- The property is that of the level. -/
theorem calculateRoleProperty_congr (h : data'.level = data.level) :
    CalculateRoleProperty data' = CalculateRoleProperty data := by
  simp only [CalculateRoleProperty, h]

theorem calculateRoleProperty_some (hlevel : 1 ≤ data.level) (hthreshold : data.level * 1000 < 2 ^ 31) :
    ∃ property, CalculateRoleProperty data = some property := by
  have hproduct {k : ℤ} (hk : 0 ≤ k) (hk' : k ≤ 100) :
      0 ≤ data.level * k ∧ checked32 (data.level * k) = some (data.level * k) ∧
        ∀ c, 0 ≤ c → c ≤ 1000 → checked32 (c + data.level * k) = some (c + data.level * k) := by
    have hpos : 0 ≤ data.level * k := Int.mul_nonneg (by omega) hk
    have hle : data.level * k ≤ data.level * 100 := Int.mul_le_mul_of_nonneg_left hk' (by omega)
    exact ⟨hpos, checked32_of_fits ⟨by omega, by omega⟩,
      fun c hc hc' => checked32_of_fits ⟨by omega, by omega⟩⟩
  obtain ⟨-, h100, hhp⟩ := @hproduct 100 (by omega) (by omega)
  obtain ⟨-, h50, hmp⟩ := @hproduct 50 (by omega) (by omega)
  obtain ⟨-, h10, hattack⟩ := @hproduct 10 (by omega) (by omega)
  obtain ⟨-, h5, hdefense⟩ := @hproduct 5 (by omega) (by omega)
  obtain ⟨-, h2, harmor⟩ := @hproduct 2 (by omega) (by omega)
  simp only [CalculateRoleProperty, h100, h50, h10, h5, h2, Option.bind_eq_bind, Option.bind_some,
    hhp 1000 (by omega) (by omega), hmp 500 (by omega) (by omega), hattack 100 (by omega) (by omega),
    hdefense 50 (by omega) (by omega), harmor 20 (by omega) (by omega)]
  exact ⟨_, rfl⟩

/-- A turn of the loop. -/
theorem levelUp_turn {max_exp max_exp' exp level : ℤ} {property : RoleProperty} (hup : max_exp ≤ data.exp)
    (hexp : checked32 (data.exp - max_exp) = some exp) (hlevel : checked32 (data.level + 1) = some level)
    (hmax : checked32 (level * 1000) = some max_exp')
    (hproperty : CalculateRoleProperty ⟨level, exp⟩ = some property) :
    levelUp role_id max_exp data properties =
      levelUp role_id max_exp' ⟨level, exp⟩ (properties.insert role_id property) := by
  rw [levelUp, if_pos hup]
  split
  · next hexp' hlevel' =>
    obtain rfl := Option.some.inj (hexp.symm.trans hexp')
    obtain rfl := Option.some.inj (hlevel.symm.trans hlevel')
    simp only [hmax, hproperty, Option.bind_eq_bind, Option.bind_some]
  · next hnot => exact (hnot _ _ hexp hlevel).elim

/-- What the loop leaves in `property_cache_`: the property of the level, if it is a new one. -/
def Recalculated (role_id : BitVec 64) (data data' : RoleData)
    (properties properties' : Dict (BitVec 64) RoleProperty) : Prop :=
  (data'.level = data.level ∧ properties' = properties) ∨
    (data'.level ≠ data.level ∧ ∃ property, CalculateRoleProperty data' = some property ∧
      properties' = properties.insert role_id property)

/-- **The loop ends, with the role settled**, and keeps the total. -/
theorem levelUp_ret : ∀ (n : ℕ) (data : RoleData) (properties : Dict (BitVec 64) RoleProperty),
    data.exp.toNat = n → 1 ≤ data.level → 0 ≤ data.exp → data.exp < 2 ^ 31 → Thresholds data →
    ∃ data' properties', levelUp role_id (data.level * 1000) data properties = some (data', properties') ∧
      Settled data' ∧ total data' = total data ∧ data.level ≤ data'.level ∧
      Recalculated role_id data data' properties properties' := by
  intro n
  induction n using Nat.strong_induction_on with
  | _ n ih =>
    intro data properties hn hlevel hexp hmax hthresholds
    by_cases hup : data.level * 1000 ≤ data.exp
    · obtain ⟨next, hnext⟩ : ∃ next : RoleData, next = ⟨data.level + 1, data.exp - data.level * 1000⟩ :=
        ⟨_, rfl⟩
      have hnextLevel : next.level = data.level + 1 := by rw [hnext]
      have hnextExp : next.exp = data.exp - data.level * 1000 := by rw [hnext]
      have htotal : total next = total data := by
        rw [total, total, hnextLevel, hnextExp, needed_succ (by omega)]
        omega
      have hthresholds' : Thresholds next := fun level h1 hle => hthresholds level h1 (htotal ▸ hle)
      have hfits : next.level * 1000 < 2 ^ 31 := by
        refine hthresholds' _ (by omega) ?_
        rw [total]
        omega
      obtain ⟨property, hproperty⟩ := calculateRoleProperty_some (by omega) hfits
      obtain ⟨data', properties', hret, hsettled, htotal', hle, hrecalculated⟩ :=
        ih next.exp.toNat (by omega) next (properties.insert role_id property) rfl (by omega) (by omega)
          (by omega) hthresholds'
      refine ⟨data', properties', ?_, hsettled, htotal'.trans htotal, by omega, .inr ⟨by omega, ?_⟩⟩
      · rw [hnext] at hproperty hret
        rw [← hret]
        exact levelUp_turn hup (checked32_of_fits ⟨by omega, by omega⟩)
          (checked32_of_fits ⟨by omega, by omega⟩) (checked32_of_fits ⟨by omega, by omega⟩) hproperty
      · rcases hrecalculated with ⟨hsame, rfl⟩ | ⟨-, property', hproperty', rfl⟩
        · refine ⟨property, ?_, rfl⟩
          rw [calculateRoleProperty_congr hsame, hproperty]
        · exact ⟨property', hproperty', AList.insert_insert _⟩
    · refine ⟨data, properties, ?_, ⟨hlevel, hexp, not_le.1 hup⟩, rfl, le_rfl, .inl ⟨rfl, rfl⟩⟩
      rw [levelUp, if_neg hup]

/-- The levels that a settled role has the experience for are not above its own. -/
theorem Settled.level_of_needed {level : ℤ} (h : Settled data) (hle : needed level ≤ total data) :
    level ≤ data.level := by
  by_contra hlt
  have hmono := needed_mono (show data.level + 1 ≤ level by omega)
  have htotal := h.total_lt
  omega

/-- A loop that goes through has passed no threshold that overflows. -/
theorem thresholds_of_levelUp : ∀ (n : ℕ) (data : RoleData) (properties : Dict (BitVec 64) RoleProperty)
    (r : RoleData × Dict (BitVec 64) RoleProperty), data.exp.toNat = n → 1 ≤ data.level → 0 ≤ data.exp →
    data.level * 1000 < 2 ^ 31 → levelUp role_id (data.level * 1000) data properties = some r →
    Thresholds data := by
  intro n
  induction n using Nat.strong_induction_on with
  | _ n ih =>
    intro data properties r hn hlevel hexp hthreshold h
    by_cases hup : data.level * 1000 ≤ data.exp
    · rw [levelUp, if_pos hup] at h
      split at h
      · next exp level hexp' hlevel' =>
        obtain ⟨-, rfl⟩ := checked32_eq_some hexp'
        obtain ⟨-, rfl⟩ := checked32_eq_some hlevel'
        obtain ⟨max_exp, hmax, h⟩ := Option.bind_eq_some_iff.1 h
        obtain ⟨property, -, h⟩ := Option.bind_eq_some_iff.1 h
        obtain ⟨⟨-, hfits⟩, rfl⟩ := checked32_eq_some hmax
        have hnext := ih (data.exp - data.level * 1000).toNat (by omega)
          ⟨data.level + 1, data.exp - data.level * 1000⟩ _ r rfl (by show 1 ≤ data.level + 1; omega)
          (by show 0 ≤ data.exp - data.level * 1000; omega) hfits h
        refine fun level h1 hle => hnext level h1 (hle.trans_eq ?_)
        rw [total, total, needed_succ (by omega)]
        show _ = needed data.level + data.level * 1000 + (data.exp - data.level * 1000)
        omega
      · cases h
    · intro level _ hle
      have hlevel' := Settled.level_of_needed ⟨hlevel, hexp, not_le.1 hup⟩ hle
      omega

/-! ## Calls -/

/-- Adding `amount` overflows nothing: neither the experience nor a threshold. -/
def NoOverflow (data : RoleData) (amount : ℤ) : Prop :=
  data.exp + amount < 2 ^ 31 ∧ Thresholds { data with exp := data.exp + amount }

/-- What a call that adds `amount` to a role leaves: the role is settled, its total has grown by the
    amount, its property is the one of a level that is new, and the other roles are as they were. -/
structure Grown (role_id : BitVec 64) (m m' : RoleModule) (data data' : RoleData) (amount : ℤ) : Prop where
  lookup : m'.role_cache_.lookup role_id = some data'
  settled : Settled data'
  total_eq : total data' = total data + amount
  property : data'.level ≠ data.level → ∃ property, CalculateRoleProperty data' = some property ∧
    m'.property_cache_.lookup role_id = some property
  others : ∀ other ≠ role_id, m'.role_cache_.lookup other = m.role_cache_.lookup other ∧
    m'.property_cache_.lookup other = m.property_cache_.lookup other

theorem total_add (data : RoleData) (amount : ℤ) :
    total { data with exp := data.exp + amount } = total data + amount :=
  (Int.add_assoc _ _ _).symm

theorem NoOverflow.mono (h : NoOverflow data b) (hab : a ≤ b) : NoOverflow data a := by
  obtain ⟨hexp, hthresholds⟩ := h
  refine ⟨by omega, fun level h1 hle => hthresholds level h1 ?_⟩
  rw [total_add] at hle ⊢
  omega

/-- A part of the amount leaves room for the rest. -/
theorem NoOverflow.rest (h : NoOverflow data (a + b)) (hlevel : data.level ≤ data'.level)
    (htotal : total data' = total data + a) : NoOverflow data' b := by
  obtain ⟨hexp, hthresholds⟩ := h
  refine ⟨?_, fun level h1 hle => hthresholds level h1 ?_⟩
  · have hmono := needed_mono hlevel
    rw [total, total] at htotal
    omega
  · rw [total_add] at hle ⊢
    omega

/-- **A call settles the role** with its new total. -/
theorem addRoleExp_ret (hdata : m.role_cache_.lookup role_id = some data) (hsettled : Settled data)
    (ha : 0 ≤ a) (hno : NoOverflow data a) : ∃ data' properties',
      AddRoleExp role_id a m = some (true, ⟨m.role_cache_.insert role_id data', properties'⟩) ∧
      Settled data' ∧ total data' = total data + a ∧ data.level ≤ data'.level ∧
      Recalculated role_id data data' m.property_cache_ properties' := by
  obtain ⟨hlevel, hexp, hlt⟩ := hsettled
  obtain ⟨hmax, hthresholds⟩ := hno
  have hthreshold : data.level * 1000 < 2 ^ 31 := by
    refine hthresholds _ hlevel ?_
    rw [total_add, total]
    omega
  obtain ⟨data', properties', hret, hsettled', htotal, hle, hrecalculated⟩ :=
    @levelUp_ret role_id _ { data with exp := data.exp + a } m.property_cache_ rfl hlevel
      (by show 0 ≤ data.exp + a; omega) hmax hthresholds
  refine ⟨data', properties', ?_, hsettled', htotal.trans (total_add data a), hle, hrecalculated⟩
  have hexp' : checked32 (data.exp + a) = some (data.exp + a) := checked32_of_fits ⟨by omega, hmax⟩
  have hmax' : checked32 (data.level * 1000) = some (data.level * 1000) :=
    checked32_of_fits ⟨by omega, hthreshold⟩
  simp only [AddRoleExp, hdata, hexp', hmax', hret, Option.bind_eq_bind, Option.bind_some,
    Option.pure_def]

/-- A call is defined exactly if nothing overflows. -/
theorem addRoleExp_isSome_iff (hdata : m.role_cache_.lookup role_id = some data) (hsettled : Settled data)
    (ha : 0 ≤ a) : (AddRoleExp role_id a m).isSome ↔ NoOverflow data a := by
  constructor
  · intro h
    obtain ⟨r, hr⟩ := Option.isSome_iff_exists.1 h
    simp only [AddRoleExp, hdata] at hr
    obtain ⟨exp, hexp, hr⟩ := Option.bind_eq_some_iff.1 hr
    obtain ⟨max_exp, hmax, hr⟩ := Option.bind_eq_some_iff.1 hr
    obtain ⟨s, hs, -⟩ := Option.bind_eq_some_iff.1 hr
    obtain ⟨⟨-, hlt⟩, rfl⟩ := checked32_eq_some hexp
    obtain ⟨⟨-, hthreshold⟩, rfl⟩ := checked32_eq_some hmax
    refine ⟨hlt, thresholds_of_levelUp _ _ m.property_cache_ s rfl hsettled.level ?_ hthreshold hs⟩
    have hexp := hsettled.exp
    show 0 ≤ data.exp + a
    omega
  · intro h
    obtain ⟨data', properties', hret, -⟩ := addRoleExp_ret hdata hsettled ha h
    rw [hret]
    rfl

theorem Recalculated.grown {properties' : Dict (BitVec 64) RoleProperty}
    (h : Recalculated role_id data data' m.property_cache_ properties') (hsettled : Settled data')
    (htotal : total data' = total data + a) :
    Grown role_id m ⟨m.role_cache_.insert role_id data', properties'⟩ data data' a where
  lookup := AList.lookup_insert _
  settled := hsettled
  total_eq := htotal
  property hne := by
    rcases h with ⟨heq, -⟩ | ⟨-, property, hproperty, rfl⟩
    · exact absurd heq hne
    · exact ⟨property, hproperty, AList.lookup_insert _⟩
  others other hne := by
    refine ⟨AList.lookup_insert_ne hne, ?_⟩
    rcases h with ⟨-, rfl⟩ | ⟨-, property, -, rfl⟩
    · rfl
    · exact AList.lookup_insert_ne hne

theorem Recalculated.trans {data₁ data₂ : RoleData}
    {properties₁ properties₂ properties₂' : Dict (BitVec 64) RoleProperty}
    (h₁ : Recalculated role_id data data₁ properties properties₁)
    (h₂ : Recalculated role_id data₁ data₂ properties₁ properties₂)
    (h : Recalculated role_id data data₂ properties properties₂')
    (hle₁ : data.level ≤ data₁.level) (hle₂ : data₁.level ≤ data₂.level) :
    properties₂' = properties₂ := by
  rcases h with ⟨heq, rfl⟩ | ⟨hne, property, hproperty, rfl⟩
  · rcases h₁ with ⟨-, rfl⟩ | ⟨hne₁, -⟩
    · rcases h₂ with ⟨-, rfl⟩ | ⟨hne₂, -⟩
      · rfl
      · omega
    · omega
  · rcases h₂ with ⟨heq₂, rfl⟩ | ⟨-, property₂, hproperty₂, rfl⟩
    · rcases h₁ with ⟨heq₁, -⟩ | ⟨-, property₁, hproperty₁, rfl⟩
      · omega
      · rw [calculateRoleProperty_congr heq₂, hproperty₁] at hproperty
        rw [Option.some.inj hproperty]
    · rw [hproperty₂] at hproperty
      obtain rfl := Option.some.inj hproperty
      rcases h₁ with ⟨-, rfl⟩ | ⟨-, property₁, -, rfl⟩
      · rfl
      · rw [AList.insert_insert]

/-- **Experience adds up**: two calls do what one does with the sum, and each of them leaves the role
    settled, with its total grown by the amount. -/
theorem addRoleExp_add (hdata : m.role_cache_.lookup role_id = some data) (hsettled : Settled data)
    (ha : 0 ≤ a) (hb : 0 ≤ b) (hno : NoOverflow data (a + b)) : ∃ m₁ m₂ data₁ data₂,
      AddRoleExp role_id a m = some (true, m₁) ∧ AddRoleExp role_id b m₁ = some (true, m₂) ∧
      AddRoleExp role_id (a + b) m = some (true, m₂) ∧ Grown role_id m m₁ data data₁ a ∧
      Grown role_id m₁ m₂ data₁ data₂ b ∧ Grown role_id m m₂ data data₂ (a + b) := by
  obtain ⟨data₁, properties₁, hret₁, hsettled₁, htotal₁, hle₁, hproperties₁⟩ :=
    addRoleExp_ret hdata hsettled ha (hno.mono (by omega))
  obtain ⟨data₂, properties₂, hret₂, hsettled₂, htotal₂, hle₂, hproperties₂⟩ :=
    addRoleExp_ret (m := ⟨m.role_cache_.insert role_id data₁, properties₁⟩) (AList.lookup_insert _)
      hsettled₁ hb (hno.rest hle₁ htotal₁)
  obtain ⟨data', properties', hret, hsettled', htotal, hle, hproperties⟩ :=
    addRoleExp_ret hdata hsettled (by omega) hno
  obtain rfl : data' = data₂ := settled_unique hsettled' hsettled₂ (by omega)
  obtain rfl := hproperties₁.trans hproperties₂ hproperties hle₁ hle₂
  rw [AList.insert_insert] at hret₂
  refine ⟨_, _, data₁, data', hret₁, hret₂, hret, hproperties₁.grown hsettled₁ htotal₁, ?_,
    hproperties.grown hsettled' htotal⟩
  have hgrown := hproperties₂.grown hsettled₂ htotal₂
  rwa [AList.insert_insert] at hgrown

end

/-- A role of level 1 with 900 gains 500 and 2000, and is of level 2. -/
theorem addRoleExp_levels : ∃ m₁ m₂ data₁ data₂,
    AddRoleExp 7 500 ⟨AList.singleton 7 ⟨1, 900⟩, ∅⟩ = some (true, m₁) ∧
    AddRoleExp 7 2000 m₁ = some (true, m₂) ∧
    AddRoleExp 7 (500 + 2000) ⟨AList.singleton 7 ⟨1, 900⟩, ∅⟩ = some (true, m₂) ∧
    Grown 7 ⟨AList.singleton 7 ⟨1, 900⟩, ∅⟩ m₁ ⟨1, 900⟩ data₁ 500 ∧
    Grown 7 m₁ m₂ data₁ data₂ 2000 ∧
    Grown 7 ⟨AList.singleton 7 ⟨1, 900⟩, ∅⟩ m₂ ⟨1, 900⟩ data₂ (500 + 2000) := by
  have hsettled : Settled ⟨1, 900⟩ := ⟨le_rfl, by decide, by decide⟩
  refine addRoleExp_add rfl hsettled (by omega) (by omega) ⟨by decide, fun level _ hle => ?_⟩
  -- 3400 is not enough for level 4
  by_contra hlt
  have hmono := needed_mono (show 4 ≤ level by omega)
  have hfour : needed 4 = 6000 := rfl
  change needed level ≤ 3400 at hle
  omega

end Ancfl.Game.Role
