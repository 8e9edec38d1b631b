/-
  `BuffModule`.

  * `BuffModule`: the buffs of the targets and the configured ones; what is
    done under `cache_mutex_` is a function on it. To apply a buff's effect or
    to remove it does nothing yet;
  * `Op`: the public operations; `OnTimer` keeps `cache_mutex_` locked while it
    calls `ProcessDotHot`, which locks it too;
  * `deadlocks_iff`: `OnTimer` deadlocks if there is a target, the other
    operations never do.
-/
import Ancfl.Lib.Dict
import Ancfl.Lib.First
import Ancfl.Lib.Int32
import Ancfl.Lib.Mutex
import Mathlib.Algebra.Order.Ring.Int

namespace Ancfl.Game.Buff

open Lib

inductive BuffType
  | BUFF | DEBUFF | DOT | HOT | CONTROL | SHIELD
deriving DecidableEq

inductive BuffEffectType
  | NONE | ATTACK_UP | ATTACK_DOWN | DEFENSE_UP | DEFENSE_DOWN | SPEED_UP | SPEED_DOWN | HP_REGEN
  | MP_REGEN | STUN | SILENCE | POISON | BURN | FREEZE | SHIELD
deriving DecidableEq

structure BuffInfo where
  buff_id : BitVec 64
  buff_config_id : ℤ
  caster_id : BitVec 64
  target_id : BitVec 64
  type : BuffType
  effect_type : BuffEffectType
  effect_value : ℤ
  duration : ℤ
  interval : ℤ
  stack_count : ℤ
  max_stack : ℤ
  start_time : ℤ
  end_time : ℤ
  is_active : Bool
deriving DecidableEq

structure BuffConfig where
  buff_config_id : ℤ
  buff_name : String
  type : BuffType
  effect_type : BuffEffectType
  effect_value : ℤ
  duration : ℤ
  interval : ℤ
  max_stack : ℤ
  is_debuff : Bool
  can_dispel : Bool
deriving DecidableEq

/-- `next_id` is the counter in `GenerateBuffId`. -/
structure BuffModule where
  buff_cache_ : Dict (BitVec 64) (List BuffInfo)
  buff_configs_ : Dict ℤ BuffConfig
  next_id : BitVec 64

/-- What `CalculateBuffEffects` sums up. -/
structure Bonus where
  attack_bonus : ℤ
  defense_bonus : ℤ
  speed_bonus : ℤ
deriving DecidableEq

namespace BuffInfo

/-- Whether a buff is an active one of the configuration. -/
def isOf (buff_config_id : ℤ) (buff : BuffInfo) : Bool :=
  buff.buff_config_id = buff_config_id ∧ buff.is_active

def hasId (buff_id : BitVec 64) (buff : BuffInfo) : Bool := buff.buff_id = buff_id

def stack (buff : BuffInfo) : BuffInfo :=
  if buff.stack_count < buff.max_stack then
    { buff with stack_count := toInt32 (buff.stack_count + 1) }
  else buff

def refresh (now : ℤ) (buff : BuffInfo) : BuffInfo :=
  { buff with start_time := now, end_time := now + buff.duration }

def isExpired (now : ℤ) (buff : BuffInfo) : Bool := buff.is_active ∧ buff.end_time ≤ now

/-- The turn of the loop of `CalculateBuffEffects`. -/
def addTo (bonus : Bonus) (buff : BuffInfo) : Bonus :=
  let value := toInt32 (buff.effect_value * buff.stack_count)
  if buff.is_active then
    match buff.effect_type with
    | .ATTACK_UP => { bonus with attack_bonus := toInt32 (bonus.attack_bonus + value) }
    | .ATTACK_DOWN => { bonus with attack_bonus := toInt32 (bonus.attack_bonus - value) }
    | .DEFENSE_UP => { bonus with defense_bonus := toInt32 (bonus.defense_bonus + value) }
    | .DEFENSE_DOWN => { bonus with defense_bonus := toInt32 (bonus.defense_bonus - value) }
    | .SPEED_UP => { bonus with speed_bonus := toInt32 (bonus.speed_bonus + value) }
    | .SPEED_DOWN => { bonus with speed_bonus := toInt32 (bonus.speed_bonus - value) }
    | _ => bonus
  else bonus

/-- Whether a buff does damage or heals now; `none` if that is undefined, as the remainder modulo
    its interval is. -/
def isDue (now : ℤ) (buff : BuffInfo) : Option Bool :=
  if buff.is_active ∧ (buff.type = .DOT ∨ buff.type = .HOT) then
    let elapsed := toInt32 (now - buff.start_time)
    if buff.interval = 0 ∨ (elapsed = -(2 ^ 31) ∧ buff.interval = -1) then none
    else some (elapsed.tmod buff.interval = 0)
  else some false

end BuffInfo

namespace BuffModule

/-! ## Without a lock of their own -/

def setBuffs (target_id : BitVec 64) (buffs : List BuffInfo) (s : BuffModule) : BuffModule :=
  { s with buff_cache_ := s.buff_cache_.insert target_id buffs }

/-- `GetBuffConfigInternal`, which finds a configuration for every buff and keeps it. -/
def buffConfig (buff_config_id : ℤ) (s : BuffModule) : BuffConfig × BuffModule :=
  match s.buff_configs_.lookup buff_config_id with
  | some config => (config, s)
  | none =>
    let config : BuffConfig := {
      buff_config_id, buff_name := "Buff_" ++ toString buff_config_id, type := .BUFF,
      effect_type := .ATTACK_UP, effect_value := 10, duration := 30, interval := 0, max_stack := 5,
      is_debuff := false, can_dispel := true }
    (config, { s with buff_configs_ := s.buff_configs_.insert buff_config_id config })

/-- What `StackBuffInternal` and `RefreshBuffInternal` do with a buff of a target. -/
def onBuff (target_id buff_id : BitVec 64) (f : BuffInfo → BuffInfo) (s : BuffModule) :
    Bool × BuffModule :=
  match s.buff_cache_.lookup target_id with
  | none => (false, s)
  | some l =>
    match onFirst (·.hasId buff_id) (fun buff => ((), f buff)) l with
    | none => (false, s)
    | some ((), l) => (true, s.setBuffs target_id l)

def stack (target_id buff_id : BitVec 64) : BuffModule → Bool × BuffModule :=
  onBuff target_id buff_id BuffInfo.stack

def refresh (now : ℤ) (target_id buff_id : BitVec 64) : BuffModule → Bool × BuffModule :=
  onBuff target_id buff_id (BuffInfo.refresh now)

def add (now : ℤ) (target_id caster_id : BitVec 64) (buff_config_id : ℤ) (s : BuffModule) :
    Bool × BuffModule :=
  let config := (buffConfig buff_config_id s).1
  let s := (buffConfig buff_config_id s).2
  let l := (s.buff_cache_.lookup target_id).getD []
  match l.find? (·.isOf buff_config_id) with
  | some buff =>
    if buff.stack_count < buff.max_stack then (true, (stack target_id buff.buff_id s).2)
    else (true, (refresh now target_id buff.buff_id s).2)
  | none =>
    let buff : BuffInfo := {
      buff_id := s.next_id, buff_config_id, caster_id, target_id, type := config.type,
      effect_type := config.effect_type, effect_value := config.effect_value,
      duration := config.duration, interval := config.interval, stack_count := 1,
      max_stack := config.max_stack, start_time := now, end_time := now + config.duration,
      is_active := true }
    (true, { s.setBuffs target_id (l ++ [buff]) with next_id := s.next_id + 1 })

/-- What `RemoveBuff` and `RemoveBuffByConfigId` do with the buffs they look for. -/
def removeFirst (target_id : BitVec 64) (p : BuffInfo → Bool) (s : BuffModule) : Bool × BuffModule :=
  match s.buff_cache_.lookup target_id with
  | none => (false, s)
  | some l => if l.any p then (true, s.setBuffs target_id (l.eraseP p)) else (false, s)

/-- What `RemoveAllBuffs` and `RemoveDebuffs` do with the buffs they are about. -/
def removeEach (target_id : BitVec 64) (p : BuffInfo → Bool) (s : BuffModule) : Bool × BuffModule :=
  match s.buff_cache_.lookup target_id with
  | none => (false, s)
  | some l => (true, s.setBuffs target_id (l.filter fun buff => !p buff))

def buffInfo (target_id buff_id : BitVec 64) (s : BuffModule) : Option BuffInfo :=
  (s.buff_cache_.lookup target_id).bind fun l => l.find? (·.hasId buff_id)

/-- Whether a target has a buff of a kind. -/
def has (target_id : BitVec 64) (p : BuffInfo → Bool) (s : BuffModule) : Bool :=
  ((s.buff_cache_.lookup target_id).getD []).any p

def bonus (target_id : BitVec 64) (s : BuffModule) : Bonus :=
  ((s.buff_cache_.lookup target_id).getD []).foldl BuffInfo.addTo ⟨0, 0, 0⟩

def expire (now : ℤ) (s : BuffModule) : Unit × BuffModule :=
  ((), { s with buff_cache_ := s.buff_cache_.mapVals fun l => l.filter fun b => !b.isExpired now })

/-! ## The operations -/

def AddBuff (now : ℤ) (target_id caster_id : BitVec 64) (buff_config_id : ℤ) :
    Locked BuffModule Bool :=
  .lockGuard (.perform (add now target_id caster_id buff_config_id))

def RemoveBuff (target_id buff_id : BitVec 64) : Locked BuffModule Bool :=
  .lockGuard (.perform (removeFirst target_id (·.hasId buff_id)))

def RemoveBuffByConfigId (target_id : BitVec 64) (buff_config_id : ℤ) : Locked BuffModule Bool :=
  .lockGuard (.perform (removeFirst target_id fun buff => buff.buff_config_id = buff_config_id))

def RemoveAllBuffs (target_id : BitVec 64) : Locked BuffModule Bool :=
  .lockGuard (.perform (removeEach target_id fun _ => true))

def RemoveDebuffs (target_id : BitVec 64) : Locked BuffModule Bool :=
  .lockGuard (.perform (removeEach target_id fun buff => buff.type = .DEBUFF))

def GetBuffs (target_id : BitVec 64) : Locked BuffModule (Option (List BuffInfo)) :=
  .lockGuard (.perform fun s => ((s.buff_cache_.lookup target_id).map (·.filter (·.is_active)), s))

def GetBuffInfo (target_id buff_id : BitVec 64) : Locked BuffModule (Option BuffInfo) :=
  .lockGuard (.perform fun s => (s.buffInfo target_id buff_id, s))

def HasBuff (target_id : BitVec 64) (buff_config_id : ℤ) : Locked BuffModule Bool :=
  .lockGuard (.perform fun s => (s.has target_id (·.isOf buff_config_id), s))

def HasDebuff (target_id : BitVec 64) : Locked BuffModule Bool :=
  .lockGuard (.perform fun s => (s.has target_id fun buff => buff.type = .DEBUFF ∧ buff.is_active, s))

def CalculateBuffEffects (target_id : BitVec 64) : Locked BuffModule Bonus :=
  .lockGuard (.perform fun s => (s.bonus target_id, s))

def ApplyBuffEffects (target_id : BitVec 64) : Locked BuffModule Bool :=
  .lockGuard (.perform fun s => ((s.buff_cache_.lookup target_id).isSome, s))

/-- `ProcessDotHot` past its lock. -/
def tick (now : ℤ) (target_id : BitVec 64) : Locked BuffModule Bool := fun _ s =>
  match s.buff_cache_.lookup target_id with
  | none => .ret false s
  | some l => if l.all fun buff => (buff.isDue now).isSome then .ret true s else .undef

def ProcessDotHot (now : ℤ) (target_id : BitVec 64) : Locked BuffModule Bool :=
  .lockGuard (tick now target_id)

def StackBuff (target_id buff_id : BitVec 64) : Locked BuffModule Bool :=
  .lockGuard (.perform (stack target_id buff_id))

def RefreshBuff (now : ℤ) (target_id buff_id : BitVec 64) : Locked BuffModule Bool :=
  .lockGuard (.perform (refresh now target_id buff_id))

def OnUpdate (now : ℤ) : Locked BuffModule Unit := .lockGuard (.perform (expire now))

/-- The loop of `OnTimer`. -/
def processEach (now : ℤ) : List (BitVec 64) → Locked BuffModule Unit
  | [] => return ()
  | target_id :: l => do
    let _ ← ProcessDotHot now target_id
    processEach now l

def OnTimer (now : ℤ) : Locked BuffModule Unit :=
  .lockGuard do
    let targets ← .perform fun s : BuffModule => (s.buff_cache_.keys, s)
    processEach now targets

def LoadBuffData (_target_id : BitVec 64) : Locked BuffModule Bool := return true

def SaveBuffData (target_id : BitVec 64) : Locked BuffModule Bool :=
  .lockGuard (.perform fun s => ((s.buff_cache_.lookup target_id).isSome, s))

end BuffModule

/-- The public operations. -/
inductive Op
  | AddBuff (target_id caster_id : BitVec 64) (buff_config_id : ℤ)
  | RemoveBuff (target_id buff_id : BitVec 64)
  | RemoveBuffByConfigId (target_id : BitVec 64) (buff_config_id : ℤ)
  | RemoveAllBuffs (target_id : BitVec 64)
  | RemoveDebuffs (target_id : BitVec 64)
  | GetBuffs (target_id : BitVec 64)
  | GetBuffInfo (target_id buff_id : BitVec 64)
  | HasBuff (target_id : BitVec 64) (buff_config_id : ℤ)
  | HasDebuff (target_id : BitVec 64)
  | CalculateBuffEffects (target_id : BitVec 64)
  | ApplyBuffEffects (target_id : BitVec 64)
  | ProcessDotHot (target_id : BitVec 64)
  | StackBuff (target_id buff_id : BitVec 64)
  | RefreshBuff (target_id buff_id : BitVec 64)
  | OnUpdate
  | OnTimer
  | LoadBuffData (target_id : BitVec 64)
  | SaveBuffData (target_id : BitVec 64)

/-- A call of an operation at the time `now`; what it returns is left out. -/
def Op.call (now : ℤ) : Op → Locked BuffModule Unit
  | AddBuff target_id caster_id buff_config_id => do
    let _ ← BuffModule.AddBuff now target_id caster_id buff_config_id
  | RemoveBuff target_id buff_id => do let _ ← BuffModule.RemoveBuff target_id buff_id
  | RemoveBuffByConfigId target_id buff_config_id => do
    let _ ← BuffModule.RemoveBuffByConfigId target_id buff_config_id
  | RemoveAllBuffs target_id => do let _ ← BuffModule.RemoveAllBuffs target_id
  | RemoveDebuffs target_id => do let _ ← BuffModule.RemoveDebuffs target_id
  | GetBuffs target_id => do let _ ← BuffModule.GetBuffs target_id
  | GetBuffInfo target_id buff_id => do let _ ← BuffModule.GetBuffInfo target_id buff_id
  | HasBuff target_id buff_config_id => do let _ ← BuffModule.HasBuff target_id buff_config_id
  | HasDebuff target_id => do let _ ← BuffModule.HasDebuff target_id
  | CalculateBuffEffects target_id => do let _ ← BuffModule.CalculateBuffEffects target_id
  | ApplyBuffEffects target_id => do let _ ← BuffModule.ApplyBuffEffects target_id
  | ProcessDotHot target_id => do let _ ← BuffModule.ProcessDotHot now target_id
  | StackBuff target_id buff_id => do let _ ← BuffModule.StackBuff target_id buff_id
  | RefreshBuff target_id buff_id => do let _ ← BuffModule.RefreshBuff now target_id buff_id
  | OnUpdate => BuffModule.OnUpdate now
  | OnTimer => BuffModule.OnTimer now
  | LoadBuffData target_id => do let _ ← BuffModule.LoadBuffData target_id
  | SaveBuffData target_id => do let _ ← BuffModule.SaveBuffData target_id

/-- Where an operation locks twice: for the first target of `OnTimer`. -/
def Op.LocksTwice (s : BuffModule) : Op → Prop
  | OnTimer => s.buff_cache_.keys ≠ []
  | _ => False

section
variable {now : ℤ} {s : BuffModule}

theorem not_deadlocks_processDotHot {target_id : BitVec 64} :
    ¬(BuffModule.ProcessDotHot now target_id).Deadlocks .free s := by
  rintro ⟨t, ht⟩
  rw [BuffModule.ProcessDotHot, Locked.lockGuard_free, BuffModule.tick] at ht
  split at ht
  · cases ht
  · split_ifs at ht

theorem deadlocks_onTimer :
    (BuffModule.OnTimer now).Deadlocks .free s ↔ s.buff_cache_.keys ≠ [] := by
  rw [BuffModule.OnTimer, Locked.deadlocks_guard_free, Locked.deadlocks_perform_bind]
  cases s.buff_cache_.keys with
  | nil => exact iff_of_false (Locked.not_deadlocks_pure _) (not_not.2 rfl)
  | cons target_id l =>
    exact iff_of_true (Locked.bind_of_deadlock (Locked.deadlocks_guard_held _)) (List.cons_ne_nil _ _)

theorem deadlocks_iff (now : ℤ) (op : Op) (s : BuffModule) :
    (op.call now).Deadlocks .free s ↔ op.LocksTwice s := by
  cases op
  case OnTimer => exact deadlocks_onTimer
  case OnUpdate => exact iff_of_false (Locked.not_deadlocks_guard _) id
  case LoadBuffData target_id => exact iff_of_false (Locked.not_deadlocks_pure _) id
  case ProcessDotHot target_id =>
    refine iff_of_false ?_ id
    rw [Op.call, Locked.deadlocks_map]
    exact not_deadlocks_processDotHot
  all_goals
    refine iff_of_false ?_ id
    rw [Op.call, Locked.deadlocks_map]
    exact Locked.not_deadlocks_guard _

end

end Ancfl.Game.Buff
