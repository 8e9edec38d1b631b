/-
  `SkillModule`: the skills of the roles and their cooldowns.

  * `SkillModule`: the skills, the configurations that were asked for, and the
    counter of `GenerateSkillId`;
  * the operations, each of which is one section of `cache_mutex_`, but for
    `UseSkill`: `Cast` is a call of it, and `Cast.next` its next section;
  * `SkillModule.skill`: the entry of a skill that is looked at;
    `Cast.next_skill` and the lemmas before it say what a section does to it.
-/
import Ancfl.Lib.Dict
import Ancfl.Lib.First
import Ancfl.Lib.Int32

namespace Ancfl.Game.Skill

open Lib

inductive SkillType
  | ACTIVE | PASSIVE | BUFF | DEBUFF | HEAL | CONTROL
deriving DecidableEq

inductive SkillTargetType
  | SELF | SINGLE | AOE | LINE | SECTOR
deriving DecidableEq

structure SkillInfo where
  skill_id : BitVec 64
  skill_config_id : ℤ
  level : ℤ
  exp : ℤ
  cooldown_time : ℤ
  last_use_time : ℤ
  is_unlocked : Bool
deriving DecidableEq

structure SkillEffect where
  effect_type : ℤ
  effect_value : ℤ
  duration : ℤ
  interval : ℤ
deriving DecidableEq

structure SkillConfig where
  skill_config_id : ℤ
  skill_name : String
  type : SkillType
  target_type : SkillTargetType
  cast_range : ℤ
  aoe_radius : ℤ
  cooldown : ℤ
  mp_cost : ℤ
  damage : ℤ
  heal : ℤ
  effects : List SkillEffect
deriving DecidableEq

/-- `next_id` is a static variable of `GenerateSkillId`. -/
structure SkillModule where
  skill_cache_ : Dict (BitVec 64) (List SkillInfo)
  skill_configs_ : Dict ℤ SkillConfig
  next_id : BitVec 64

/-- What `GetSkillConfigInternal` makes up. -/
def defaultConfig (skill_config_id : ℤ) : SkillConfig :=
  ⟨skill_config_id, "Skill_" ++ toString skill_config_id, .ACTIVE, .SINGLE, 100, 20, 5, 10, 100, 0, []⟩

namespace SkillInfo

def isOf (skill_config_id : ℤ) (skill : SkillInfo) : Bool := skill.skill_config_id = skill_config_id

/-- The cooldown test of `CanUseSkill`. -/
def coolingDown (now : ℤ) (skill : SkillInfo) : Bool :=
  decide (0 < skill.last_use_time) && decide (now - skill.last_use_time < skill.cooldown_time)

/-- The one of `IsSkillInCooldown`. -/
def inCooldown (now : ℤ) (skill : SkillInfo) : Bool :=
  if skill.last_use_time = 0 then false else decide (now - skill.last_use_time < skill.cooldown_time)

/-- What `GetSkillCooldown` returns: the time since the last use is an `int32_t` there. -/
def remaining (now : ℤ) (skill : SkillInfo) : ℤ :=
  if skill.last_use_time = 0 then 0
  else
    let elapsed := toInt32 (now - skill.last_use_time)
    if skill.cooldown_time ≤ elapsed then 0 else toInt32 (skill.cooldown_time - elapsed)

end SkillInfo

namespace SkillModule

/-- The entry of a skill. -/
def skill (role_id : BitVec 64) (skill_config_id : ℤ) (s : SkillModule) : Option SkillInfo :=
  (s.skill_cache_.rows role_id).find? (·.isOf skill_config_id)

/-- What `GetSkillConfigInternal` gives. -/
def config (skill_config_id : ℤ) (s : SkillModule) : SkillConfig :=
  (s.skill_configs_.lookup skill_config_id).getD (defaultConfig skill_config_id)

/-- What it leaves. -/
def fetched (skill_config_id : ℤ) (s : SkillModule) : SkillModule :=
  match s.skill_configs_.lookup skill_config_id with
  | some _ => s
  | none => { s with skill_configs_ := s.skill_configs_.insert skill_config_id (defaultConfig skill_config_id) }

def setSkills (role_id : BitVec 64) (skills : List SkillInfo) (s : SkillModule) : SkillModule :=
  { s with skill_cache_ := s.skill_cache_.insert role_id skills }

/-! ## The operations -/

def InitSkills (role_id : BitVec 64) (s : SkillModule) : Bool × SkillModule :=
  match s.skill_cache_.lookup role_id with
  | some _ => (true, s)
  | none => (true, s.setSkills role_id [])

def LearnSkill (role_id : BitVec 64) (skill_config_id : ℤ) (s : SkillModule) : Bool × SkillModule :=
  match s.skill_cache_.lookup role_id with
  | none => (false, s)
  | some skills =>
    if skills.any (·.isOf skill_config_id) then (false, s)
    else
      let config := s.config skill_config_id
      let s := s.fetched skill_config_id
      let info := ⟨s.next_id, skill_config_id, 1, 0, config.cooldown, 0, true⟩
      (true, { s.setSkills role_id (skills ++ [info]) with next_id := s.next_id + 1 })

/-- The level after an upgrade, if there is one. -/
def upgradeLevel (skill : SkillInfo) : Bool × SkillInfo :=
  if 10 ≤ skill.level then (false, skill) else (true, { skill with level := skill.level + 1 })

def UpgradeSkill (role_id : BitVec 64) (skill_config_id : ℤ) (s : SkillModule) : Bool × SkillModule :=
  match s.skill_cache_.lookup role_id with
  | none => (false, s)
  | some skills =>
    match onFirst (·.isOf skill_config_id) upgradeLevel skills with
    | none => (false, s)
    | some (b, skills) => (b, s.setSkills role_id skills)

def ForgetSkill (role_id : BitVec 64) (skill_config_id : ℤ) (s : SkillModule) : Bool × SkillModule :=
  match s.skill_cache_.lookup role_id with
  | none => (false, s)
  | some skills =>
    let rest := skills.filter fun skill => !skill.isOf skill_config_id
    if rest.length = skills.length then (false, s) else (true, s.setSkills role_id rest)

def CanUseSkill (now : ℤ) (role_id : BitVec 64) (skill_config_id : ℤ) (s : SkillModule) : Bool :=
  match s.skill role_id skill_config_id with
  | none => false
  | some info => if !info.is_unlocked then false else if info.coolingDown now then false else true

def IsSkillInCooldown (now : ℤ) (role_id : BitVec 64) (skill_config_id : ℤ) (s : SkillModule) : Bool :=
  match s.skill role_id skill_config_id with
  | none => false
  | some skill => skill.inCooldown now

def GetSkillCooldown (now : ℤ) (role_id : BitVec 64) (skill_config_id : ℤ) (s : SkillModule) : ℤ :=
  match s.skill role_id skill_config_id with
  | none => 0
  | some skill => skill.remaining now

/-- The last section of `UseSkill`, where the cooldown starts. -/
def startCooldown (now : ℤ) (role_id : BitVec 64) (skill_config_id cooldown : ℤ) (s : SkillModule) : SkillModule :=
  match s.skill_cache_.lookup role_id with
  | none => s
  | some skills =>
    match onFirst (·.isOf skill_config_id)
      (fun skill => ((), { skill with last_use_time := now, cooldown_time := cooldown })) skills with
    | none => s
    | some (_, skills) => s.setSkills role_id skills

end SkillModule

/-! ## `UseSkill` -/

def IsTargetInRange (_role_id _target_id : BitVec 64) (_range : ℤ) : Bool := true

/-- The targets that `GetSkillTargets` finds. -/
def skillTargets (role_id : BitVec 64) (target_type : SkillTargetType) : List (BitVec 64) :=
  match target_type with
  | .SELF => [role_id]
  | _ => []

/-- How often `GetSkillTargets` and the effects on the targets ask for the configuration again; they do
    nothing else, as `buff_module_` is null. -/
def SkillConfig.reads (config : SkillConfig) (role_id target_id : BitVec 64) : ℕ :=
  let targets :=
    if config.target_type = .SINGLE then (if 0 < target_id then [target_id] else [])
    else skillTargets role_id config.target_type
  (if config.target_type = .SINGLE then 0 else 1) + targets.length *
    ((if 0 < config.damage then 1 else 0) + (if 0 < config.heal then 1 else 0) +
      (if config.effects = [] then 0 else 1))

/-- What a call of `UseSkill` does next. -/
inductive Phase
  /-- `CanUseSkill` -/
  | checking
  /-- `GetSkillConfig` -/
  | configuring
  /-- to ask for the configuration `n` times, and then to start the cooldown -/
  | applying (config : SkillConfig) (n : ℕ)
deriving DecidableEq

structure Cast where
  role_id : BitVec 64
  skill_config_id : ℤ
  target_id : BitVec 64
  phase : Phase
deriving DecidableEq

inductive Outcome
  | goes (phase : Phase)
  | ended (success : Bool)

/-- The next section of a call, and what follows it without a lock. -/
def Cast.next (now : ℤ) (p : Cast) (s : SkillModule) : Outcome × SkillModule :=
  match p.phase with
  | .checking =>
    if s.CanUseSkill now p.role_id p.skill_config_id then (.goes .configuring, s) else (.ended false, s)
  | .configuring =>
    let config := s.config p.skill_config_id
    let s := s.fetched p.skill_config_id
    if 0 < p.target_id ∧ !IsTargetInRange p.role_id p.target_id config.cast_range then (.ended false, s)
    else (.goes (.applying config (config.reads p.role_id p.target_id)), s)
  | .applying config (n + 1) => (.goes (.applying config n), s.fetched p.skill_config_id)
  | .applying config 0 =>
    (.ended true, s.startCooldown now p.role_id p.skill_config_id config.cooldown)

/-! ## What a section does to the entries -/

namespace SkillModule

/-- The entries have the last uses that they had, or none. -/
structure Leaves (s t : SkillModule) : Prop where
  config : ∀ c, t.config c = s.config c
  skill : ∀ role_id c info, t.skill role_id c = some info →
    (∃ old, s.skill role_id c = some old ∧ info.last_use_time = old.last_use_time ∧
      info.cooldown_time = old.cooldown_time) ∨
    (info.last_use_time = 0 ∧ info.cooldown_time = (s.config c).cooldown)

variable {s t : SkillModule} {role_id role_id' : BitVec 64} {c c' now cooldown : ℤ} {skills : List SkillInfo}

theorem Leaves.refl (s : SkillModule) : s.Leaves s :=
  ⟨fun _ => rfl, fun _ _ info h => .inl ⟨info, h, rfl, rfl⟩⟩

theorem Leaves.trans {u : SkillModule} (h : s.Leaves t) (h' : t.Leaves u) : s.Leaves u := by
  refine ⟨fun c => (h'.config c).trans (h.config c), fun role_id c info hinfo => ?_⟩
  rcases h'.skill role_id c info hinfo with ⟨mid, hmid, hlast, hcooldown⟩ | ⟨hlast, hcooldown⟩
  · rcases h.skill role_id c mid hmid with ⟨old, hold, hlast', hcooldown'⟩ | ⟨hlast', hcooldown'⟩
    · exact .inl ⟨old, hold, hlast.trans hlast', hcooldown.trans hcooldown'⟩
    · exact .inr ⟨hlast.trans hlast', hcooldown.trans hcooldown'⟩
  · exact .inr ⟨hlast, by rw [hcooldown, h.config]⟩

theorem config_fetched : (s.fetched c).config c' = s.config c' := by
  unfold fetched
  split
  · rfl
  · rename_i hnone
    show ((s.skill_configs_.insert c (defaultConfig c)).lookup c').getD (defaultConfig c') = s.config c'
    rw [Dict.lookup_insert_iff, config]
    split_ifs with hc
    · rw [hc, hnone]
      rfl
    · rfl

theorem cache_fetched : (s.fetched c).skill_cache_ = s.skill_cache_ := by
  unfold fetched
  split <;> rfl

theorem leaves_fetched : s.Leaves (s.fetched c) := by
  refine ⟨fun _ => config_fetched, fun role_id c' info h => .inl ⟨info, ?_, rfl, rfl⟩⟩
  unfold skill at h ⊢
  rw [cache_fetched] at h
  exact h

/-- The entries after the skills of a role are written. -/
theorem skill_setSkills : (s.setSkills role_id skills).skill role_id' c =
    if role_id' = role_id then skills.find? (·.isOf c) else s.skill role_id' c := by
  show (Dict.rows (s.skill_cache_.insert role_id skills) role_id').find? _ = _
  rw [Dict.rows_insert]
  split_ifs <;> rfl

theorem skill_of_lookup (h : s.skill_cache_.lookup role_id = some skills) :
    s.skill role_id c = skills.find? (·.isOf c) := by
  rw [skill, Dict.rows_of_lookup h]

/-- It is enough to look at the skills that are written. -/
theorem leaves_setSkills (h : s.skill_cache_.lookup role_id = some skills) {new : List SkillInfo}
    (hnew : ∀ c info, new.find? (·.isOf c) = some info →
      (∃ old, skills.find? (·.isOf c) = some old ∧ info.last_use_time = old.last_use_time ∧
        info.cooldown_time = old.cooldown_time) ∨
      (info.last_use_time = 0 ∧ info.cooldown_time = (s.config c).cooldown)) :
    s.Leaves (s.setSkills role_id new) := by
  refine ⟨fun _ => rfl, fun role_id' c info hinfo => ?_⟩
  rw [skill_setSkills] at hinfo
  split_ifs at hinfo with hrole
  · rw [hrole, skill_of_lookup h]
    exact hnew c info hinfo
  · exact .inl ⟨info, hinfo, rfl, rfl⟩

theorem leaves_init : s.Leaves (s.InitSkills role_id).2 := by
  unfold InitSkills
  cases h : s.skill_cache_.lookup role_id with
  | some skills => exact .refl s
  | none =>
    refine ⟨fun _ => rfl, fun role_id' c info hinfo => ?_⟩
    rw [skill_setSkills] at hinfo
    split_ifs at hinfo
    · cases hinfo
    · exact .inl ⟨info, hinfo, rfl, rfl⟩

theorem leaves_learn : s.Leaves (s.LearnSkill role_id c).2 := by
  unfold LearnSkill
  cases h : s.skill_cache_.lookup role_id with
  | none => exact .refl s
  | some skills =>
    dsimp only
    split_ifs with hany
    · exact .refl s
    · have hcache : (s.fetched c).skill_cache_.lookup role_id = some skills := by rw [cache_fetched, h]
      have hwritten : (s.fetched c).Leaves ((s.fetched c).setSkills role_id
          (skills ++ [⟨(s.fetched c).next_id, c, 1, 0, (s.config c).cooldown, 0, true⟩])) := by
        refine leaves_setSkills hcache fun c' info hinfo => ?_
        rw [List.find?_append] at hinfo
        cases hfind : skills.find? (·.isOf c') with
        | some old =>
          rw [hfind] at hinfo
          exact .inl ⟨old, rfl, by cases hinfo; rfl, by cases hinfo; rfl⟩
        | none =>
          rw [hfind, Option.none_or, List.find?_singleton] at hinfo
          split_ifs at hinfo with hof
          cases hinfo
          obtain rfl : c = c' := by simpa [SkillInfo.isOf] using hof
          exact .inr ⟨rfl, congrArg SkillConfig.cooldown config_fetched.symm⟩
      have hall := leaves_fetched.trans hwritten
      exact ⟨hall.config, hall.skill⟩

/-- The entry that a loop changes keeps its configuration. -/
theorem leaves_onFirst {β : Type} {f : SkillInfo → β × SkillInfo} {b : β} {new : List SkillInfo}
    (h : s.skill_cache_.lookup role_id = some skills) (hfirst : onFirst (·.isOf c) f skills = some (b, new))
    (hf : ∀ skill, (f skill).2.skill_config_id = skill.skill_config_id)
    (hkept : ∀ skill, (f skill).2.last_use_time = skill.last_use_time ∧
      (f skill).2.cooldown_time = skill.cooldown_time) : s.Leaves (s.setSkills role_id new) := by
  refine leaves_setSkills h fun c' info hinfo => .inl ?_
  by_cases hc : c' = c
  · subst hc
    obtain ⟨old, hold, hnew⟩ := find?_onFirst (fun skill hof => by simpa [SkillInfo.isOf, hf] using hof) hfirst
    rw [hnew] at hinfo
    cases hinfo
    exact ⟨old, hold, hkept old⟩
  · have hother : ∀ skill : SkillInfo, skill.isOf c = true →
        skill.isOf c' = false ∧ (f skill).2.isOf c' = false := by
      intro skill hof
      have hid : skill.skill_config_id = c := by simpa [SkillInfo.isOf] using hof
      simp [SkillInfo.isOf, hf, hid, Ne.symm hc]
    rw [find?_onFirst_of_not hother hfirst] at hinfo
    exact ⟨info, hinfo, rfl, rfl⟩

theorem leaves_upgrade : s.Leaves (s.UpgradeSkill role_id c).2 := by
  unfold UpgradeSkill
  cases h : s.skill_cache_.lookup role_id with
  | none => exact .refl s
  | some skills =>
    dsimp only
    cases hfirst : onFirst (·.isOf c) upgradeLevel skills with
    | none => exact .refl s
    | some r =>
      refine leaves_onFirst h hfirst (fun skill => ?_) (fun skill => ?_)
      · unfold upgradeLevel
        split_ifs <;> rfl
      · unfold upgradeLevel
        split_ifs <;> exact ⟨rfl, rfl⟩

theorem leaves_forget : s.Leaves (s.ForgetSkill role_id c).2 := by
  unfold ForgetSkill
  cases h : s.skill_cache_.lookup role_id with
  | none => exact .refl s
  | some skills =>
    dsimp only
    split_ifs
    · exact .refl s
    · refine leaves_setSkills h fun c' info hinfo => .inl ⟨info, ?_, rfl, rfl⟩
      rw [List.find?_filter] at hinfo
      have hne : c' ≠ c := by
        rintro rfl
        simpa using List.find?_some hinfo
      have hsame : (fun skill : SkillInfo => decide ((!skill.isOf c) = true ∧ skill.isOf c' = true)) =
          fun skill => skill.isOf c' := by
        funext skill
        by_cases hid : skill.skill_config_id = c'
        · simp [SkillInfo.isOf, hid, hne]
        · simp [SkillInfo.isOf, hid]
      rw [← hsame]
      exact hinfo

/-- The cooldown starts in the entry of the skill, and in no other. -/
theorem startCooldown_spec : (∀ c', (s.startCooldown now role_id c cooldown).config c' = s.config c') ∧
    ∀ role_id' c' info, (s.startCooldown now role_id c cooldown).skill role_id' c' = some info →
      ((role_id' ≠ role_id ∨ c' ≠ c) ∧ s.skill role_id' c' = some info) ∨
      (role_id' = role_id ∧ c' = c ∧ info.last_use_time = now ∧ info.cooldown_time = cooldown) := by
  unfold startCooldown
  cases h : s.skill_cache_.lookup role_id with
  | none =>
    refine ⟨fun _ => rfl, fun role_id' c' info hinfo => .inl ⟨?_, hinfo⟩⟩
    refine .inl ?_
    rintro rfl
    have hnil : s.skill role_id' c' = none := by
      rw [skill, Dict.rows, h]
      rfl
    have hsome : s.skill role_id' c' = some info := hinfo
    rw [hnil] at hsome
    cases hsome
  | some skills =>
    dsimp only
    cases hfirst : onFirst (·.isOf c)
        (fun skill => ((), { skill with last_use_time := now, cooldown_time := cooldown })) skills with
    | none =>
      refine ⟨fun _ => rfl, fun role_id' c' info hinfo => .inl ⟨?_, hinfo⟩⟩
      by_contra hboth
      obtain ⟨rfl, rfl⟩ : role_id' = role_id ∧ c' = c := by
        rw [not_or, not_not, not_not] at hboth
        exact hboth
      have hsome : s.skill role_id' c' = some info := hinfo
      rw [skill_of_lookup h] at hsome
      rcases onFirst_cases (·.isOf c')
        (fun skill => ((), { skill with last_use_time := now, cooldown_time := cooldown })) skills with
        ⟨-, hnot⟩ | ⟨a, x, b, -, -, -, hdone⟩
      · rw [List.find?_eq_none.2 fun skill hskill => by simp [hnot skill hskill]] at hsome
        cases hsome
      · rw [hdone] at hfirst
        cases hfirst
    | some r =>
      obtain ⟨⟨⟩, new⟩ := r
      refine ⟨fun _ => rfl, fun role_id' c' info hinfo => ?_⟩
      have hinfo : (s.setSkills role_id new).skill role_id' c' = some info := hinfo
      rw [skill_setSkills] at hinfo
      split_ifs at hinfo with hrole
      · by_cases hc : c' = c
        · subst hc
          obtain ⟨old, -, hnew⟩ := find?_onFirst (fun skill hof => hof) hfirst
          rw [hnew] at hinfo
          cases hinfo
          exact .inr ⟨hrole, rfl, rfl, rfl⟩
        · have hother : ∀ skill : SkillInfo, skill.isOf c = true → skill.isOf c' = false ∧
              SkillInfo.isOf c' { skill with last_use_time := now, cooldown_time := cooldown } = false := by
            intro skill hof
            have hid : skill.skill_config_id = c := by simpa [SkillInfo.isOf] using hof
            simp [SkillInfo.isOf, hid, Ne.symm hc]
          rw [find?_onFirst_of_not hother hfirst] at hinfo
          refine .inl ⟨.inr hc, ?_⟩
          rw [hrole, skill_of_lookup h]
          exact hinfo
      · exact .inl ⟨.inl hrole, hinfo⟩

end SkillModule

end Ancfl.Game.Skill
