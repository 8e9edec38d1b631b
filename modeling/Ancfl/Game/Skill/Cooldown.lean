/-
  The cooldown over interleaved calls of `UseSkill`.

  * `World`: a module, the time, the calls that have not ended, and the uses
    whose cooldown was started;
  * `Careful`: what a step has to meet, so that `World.Sound` is kept: a call that
    passes `CanUseSkill` is the only one for its role and skill, an entry that was
    made anew is not used before the cooldown is over, and the time since the
    last use is an `int32_t`;
  * `cooldown_holds`: then two uses are at least the cooldown apart, and the
    three tests of the cooldown agree (`agree_iff` says when exactly they do);
  * `not_cooldown_holds`: two calls that are both checked before one of them
    starts the cooldown.
-/
import Ancfl.Game.Skill
import Ancfl.Lib.Pool
import Ancfl.Lib.Run

namespace Ancfl.Game.Skill

open Lib

/-- A use: the time at which its cooldown was started. -/
structure Use where
  key : BitVec 64 × ℤ
  time : ℤ

def Cast.key (p : Cast) : BitVec 64 × ℤ := (p.role_id, p.skill_config_id)

/-- The operations of one section. -/
inductive Op
  | InitSkills (role_id : BitVec 64)
  | LearnSkill (role_id : BitVec 64) (skill_config_id : ℤ)
  | UpgradeSkill (role_id : BitVec 64) (skill_config_id : ℤ)
  | ForgetSkill (role_id : BitVec 64) (skill_config_id : ℤ)

def Op.apply (s : SkillModule) : Op → SkillModule
  | InitSkills role_id => (s.InitSkills role_id).2
  | LearnSkill role_id c => (s.LearnSkill role_id c).2
  | UpgradeSkill role_id c => (s.UpgradeSkill role_id c).2
  | ForgetSkill role_id c => (s.ForgetSkill role_id c).2

/-- `uses` are the calls of `UseSkill` that returned `true`, in their order. -/
structure World where
  module : SkillModule
  clock : ℤ
  casts : List Cast
  uses : List Use

inductive Label
  | op (o : Op)
  /-- a call of `UseSkill` begins -/
  | cast (p : Cast)
  /-- the `n`-th call does its next section -/
  | go (n : ℕ)

/-- A step at a time. -/
inductive World.Step : World → ℤ × Label → World → Prop
  | op {w : World} {now : ℤ} {o : Op} (hpos : 0 < now) (hlater : w.clock ≤ now) :
      Step w (now, .op o) { w with module := o.apply w.module, clock := now }
  | cast {w : World} {now : ℤ} {p : Cast} (hpos : 0 < now) (hlater : w.clock ≤ now)
      (hphase : p.phase = .checking) :
      Step w (now, .cast p) { w with clock := now, casts := w.casts ++ [p] }
  | goes {w : World} {now : ℤ} {n : ℕ} {p : Cast} {phase : Phase} {s : SkillModule} (hpos : 0 < now)
      (hlater : w.clock ≤ now) (hp : w.casts[n]? = some p) (hnext : p.next now w.module = (.goes phase, s)) :
      Step w (now, .go n) ⟨s, now, w.casts.set n { p with phase := phase }, w.uses⟩
  | ended {w : World} {now : ℤ} {n : ℕ} {p : Cast} {success : Bool} {s : SkillModule} (hpos : 0 < now)
      (hlater : w.clock ≤ now) (hp : w.casts[n]? = some p) (hnext : p.next now w.module = (.ended success, s)) :
      Step w (now, .go n)
        ⟨s, now, w.casts.eraseIdx n, if success = true then w.uses ++ [⟨p.key, now⟩] else w.uses⟩

/-- The time since each last use is an `int32_t`, or one that is enough all the same. -/
def Recent (s : SkillModule) (now : ℤ) : Prop :=
  ∀ role_id c info, s.skill role_id c = some info → info.last_use_time = 0 ∨
    now - info.last_use_time < 2 ^ 31 ∨ info.cooldown_time ≤ toInt32 (now - info.last_use_time)

/-- A call that passes `CanUseSkill` is the only one that has, and if the entry has not been used,
    earlier uses of the skill are over. -/
def Careful (w : World) (l : ℤ × Label) : Prop :=
  Recent w.module l.1 ∧ ∀ n p, l.2 = .go n → w.casts[n]? = some p → p.phase = .checking →
    w.module.CanUseSkill l.1 p.role_id p.skill_config_id = true →
    (∀ q ∈ w.casts, q.key = p.key → q.phase = .checking) ∧
    ∀ info, w.module.skill p.role_id p.skill_config_id = some info → info.last_use_time = 0 →
      ∀ u ∈ w.uses, u.key = p.key → u.time + (w.module.config p.skill_config_id).cooldown ≤ l.1

/-- Each use is at least the cooldown after the ones before, and the tests of the cooldown agree. -/
structure World.Sound (w : World) : Prop where
  spaced : w.uses.Pairwise fun u v => u.key = v.key →
    u.time + (w.module.config u.key.2).cooldown ≤ v.time
  agree : ∀ role_id c,
    ((w.module.skill role_id c).any (·.coolingDown w.clock) = true ↔
      w.module.IsSkillInCooldown w.clock role_id c = true) ∧
    (w.module.IsSkillInCooldown w.clock role_id c = true ↔
      w.module.GetSkillCooldown w.clock role_id c ≠ 0)

/-! ## The tests of the cooldown -/

section
variable {info : SkillInfo} {now : ℤ}

theorem coolingDown_iff (hnonneg : 0 ≤ info.last_use_time) :
    info.coolingDown now = true ↔ info.inCooldown now = true := by
  unfold SkillInfo.coolingDown SkillInfo.inCooldown
  rw [Bool.and_eq_true, decide_eq_true_eq, decide_eq_true_eq]
  split_ifs with hzero
  · exact iff_of_false (fun h => by omega) id
  · rw [decide_eq_true_eq]
    exact and_iff_right (by omega)

theorem remaining_ne_iff (hle : info.last_use_time ≤ now) (hlow : -(2 ^ 31) ≤ info.cooldown_time)
    (hhigh : info.cooldown_time < 2 ^ 31)
    (hrecent : info.last_use_time = 0 ∨ now - info.last_use_time < 2 ^ 31 ∨
      info.cooldown_time ≤ toInt32 (now - info.last_use_time)) :
    info.inCooldown now = true ↔ info.remaining now ≠ 0 := by
  unfold SkillInfo.inCooldown SkillInfo.remaining
  split_ifs with hzero
  · exact iff_of_false id (not_not.2 rfl)
  rw [decide_eq_true_eq]
  dsimp only
  rcases hrecent.resolve_left hzero with hsoon | henough
  · have hcast : toInt32 (now - info.last_use_time) = now - info.last_use_time :=
      toInt32_of_lt (by omega) hsoon
    rw [hcast]
    split_ifs with hover
    · exact iff_of_false (not_lt.2 hover) (not_not.2 rfl)
    · have hrest : toInt32 (info.cooldown_time - (now - info.last_use_time)) =
          info.cooldown_time - (now - info.last_use_time) := toInt32_of_lt (by omega) (by omega)
      rw [hrest]
      exact iff_of_true (not_le.1 hover) (by omega)
  · rw [if_pos henough]
    refine iff_of_false (fun hlt => ?_) (not_not.2 rfl)
    have hcast : toInt32 (now - info.last_use_time) = now - info.last_use_time :=
      toInt32_of_lt (by omega) (by omega)
    omega

/-- **Where the tests agree**: later than 2^31 seconds after the last use, `GetSkillCooldown` looks at the
    low 32 bits of the time that has passed. -/
theorem agree_iff (hle : info.last_use_time ≤ now) (hlow : -(2 ^ 31) ≤ info.cooldown_time)
    (hhigh : info.cooldown_time < 2 ^ 31) :
    (info.inCooldown now = true ↔ info.remaining now ≠ 0) ↔ (info.last_use_time = 0 ∨
      now - info.last_use_time < 2 ^ 31 ∨ info.cooldown_time ≤ toInt32 (now - info.last_use_time)) := by
  refine ⟨fun hagree => ?_, remaining_ne_iff hle hlow hhigh⟩
  by_contra hlate
  obtain ⟨hused, hlate, hless⟩ : info.last_use_time ≠ 0 ∧ 2 ^ 31 ≤ now - info.last_use_time ∧
      toInt32 (now - info.last_use_time) < info.cooldown_time := by
    rw [not_or, not_or, not_lt, not_le] at hlate
    exact hlate
  have hover : ¬info.inCooldown now = true := by
    unfold SkillInfo.inCooldown
    rw [if_neg hused, decide_eq_true_eq, not_lt]
    omega
  refine hover (hagree.2 ?_)
  have helapsed := toInt32_range (now - info.last_use_time)
  unfold SkillInfo.remaining
  rw [if_neg hused]
  dsimp only
  rw [if_neg (not_le.2 hless)]
  -- between zero and 2^32, so that it is not zero as an `int32_t`
  generalize toInt32 (now - info.last_use_time) = elapsed at *
  unfold toInt32
  rw [Int.bmod_def]
  split_ifs <;> omega

end

/-! ## What a section does -/

namespace Cast

variable {p : Cast} {now : ℤ} {s t : SkillModule} {phase : Phase} {success : Bool}

theorem next_goes (h : p.next now s = (.goes phase, t)) : s.Leaves t ∧ phase ≠ .checking ∧
    (p.phase = .checking → s.CanUseSkill now p.role_id p.skill_config_id = true) ∧
    ∀ found n, phase = .applying found n →
      found = s.config p.skill_config_id ∨ ∃ m, p.phase = .applying found m := by
  obtain ⟨role_id, c, target_id, q⟩ := p
  unfold next at h
  cases q with
  | checking =>
    dsimp only at h
    split_ifs at h with hpassed
    · cases h
      exact ⟨.refl s, Phase.noConfusion, fun _ => hpassed, fun _ _ hphase => Phase.noConfusion hphase⟩
    · cases h
  | configuring =>
    dsimp only at h
    split_ifs at h
    · cases h
    · cases h
      refine ⟨SkillModule.leaves_fetched, Phase.noConfusion, fun hphase => Phase.noConfusion hphase,
        fun found n hphase => .inl ?_⟩
      cases hphase
      rfl
  | applying config n =>
    cases n with
    | zero => cases h
    | succ n =>
      cases h
      refine ⟨SkillModule.leaves_fetched, Phase.noConfusion, fun hphase => Phase.noConfusion hphase,
        fun found m hphase => .inr ⟨n + 1, ?_⟩⟩
      cases hphase
      rfl

theorem next_ended (h : p.next now s = (.ended success, t)) : (success = false ∧ s.Leaves t) ∨
    (success = true ∧ ∃ config, p.phase = .applying config 0 ∧
      t = s.startCooldown now p.role_id p.skill_config_id config.cooldown) := by
  obtain ⟨role_id, c, target_id, q⟩ := p
  unfold next at h
  cases q with
  | checking =>
    dsimp only at h
    split_ifs at h
    · cases h
    · cases h
      exact .inl ⟨rfl, .refl s⟩
  | configuring =>
    dsimp only at h
    split_ifs at h
    · cases h
      exact .inl ⟨rfl, SkillModule.leaves_fetched⟩
    · cases h
  | applying config n =>
    cases n with
    | zero =>
      cases h
      exact .inr ⟨rfl, config, rfl, rfl⟩
    | succ n => cases h

end Cast

/-! ## The invariant -/

/-- The call has passed `CanUseSkill`. -/
def Cast.Passed (p : Cast) : Prop := p.phase ≠ .checking

structure World.Inv (config : ℤ → SkillConfig) (w : World) : Prop where
  configs : ∀ c, w.module.config c = config c
  clock : 0 ≤ w.clock
  entries : ∀ role_id c info, w.module.skill role_id c = some info →
    info.cooldown_time = (config c).cooldown ∧ 0 ≤ info.last_use_time ∧ info.last_use_time ≤ w.clock ∧
      (info.last_use_time ≠ 0 → ∀ u ∈ w.uses, u.key = (role_id, c) → u.time ≤ info.last_use_time)
  recent : Recent w.module w.clock
  past : ∀ u ∈ w.uses, u.time ≤ w.clock
  applied : ∀ p ∈ w.casts, ∀ found n, p.phase = .applying found n → found = config p.skill_config_id
  spaced : w.uses.Pairwise fun u v => u.key = v.key → u.time + (config u.key.2).cooldown ≤ v.time
  ready : ∀ p ∈ w.casts, p.Passed → ∀ u ∈ w.uses, u.key = p.key →
    u.time + (config p.skill_config_id).cooldown ≤ w.clock
  alone : w.casts.Pairwise fun p q => p.Passed → q.Passed → p.key ≠ q.key

section
variable {config : ℤ → SkillConfig} {w w' : World} {now : ℤ} {p : Cast} {n : ℕ} {phase : Phase} {t : SkillModule}

theorem World.Inv.sound (h : w.Inv config) (hint : ∀ c, -(2 ^ 31) ≤ (config c).cooldown ∧ (config c).cooldown < 2 ^ 31) :
    w.Sound := by
  refine ⟨h.spaced.imp fun huv hkey => ?_, fun role_id c => ?_⟩
  · rw [h.configs]
    exact huv hkey
  · unfold SkillModule.IsSkillInCooldown SkillModule.GetSkillCooldown
    cases hskill : w.module.skill role_id c with
    | none => exact ⟨iff_of_false Bool.false_ne_true Bool.false_ne_true,
        iff_of_false Bool.false_ne_true (not_not.2 rfl)⟩
    | some info =>
      obtain ⟨hcooldown, hnonneg, hle, -⟩ := h.entries role_id c info hskill
      have hrange := hint c
      rw [← hcooldown] at hrange
      exact ⟨coolingDown_iff hnonneg, (agree_iff hle hrange.1 hrange.2).2 (h.recent role_id c info hskill)⟩

/-- Time goes by. -/
theorem World.Inv.tick (h : w.Inv config) (hlater : w.clock ≤ now) (hrecent : Recent w.module now) :
    World.Inv config { w with clock := now } := by
  refine ⟨h.configs, h.clock.trans hlater, fun role_id c info hinfo => ?_, hrecent,
    fun u hu => (h.past u hu).trans hlater, h.applied, h.spaced,
    fun p hp hpassed u hu hkey => (h.ready p hp hpassed u hu hkey).trans hlater, h.alone⟩
  obtain ⟨hcooldown, hnonneg, hle, huses⟩ := h.entries role_id c info hinfo
  exact ⟨hcooldown, hnonneg, hle.trans hlater, huses⟩

/-- A section that starts no cooldown. -/
theorem World.Inv.leaves (h : w.Inv config) (hleaves : w.module.Leaves t) :
    World.Inv config { w with module := t } := by
  refine ⟨fun c => (hleaves.config c).trans (h.configs c), h.clock, fun role_id c info hinfo => ?_,
    fun role_id c info hinfo => ?_, h.past, h.applied, h.spaced, h.ready, h.alone⟩
  · rcases hleaves.skill role_id c info hinfo with ⟨old, hold, hlast, hcooldown⟩ | ⟨hlast, hcooldown⟩
    · rw [hlast, hcooldown]
      exact h.entries role_id c old hold
    · rw [hlast, hcooldown, h.configs]
      exact ⟨rfl, le_rfl, h.clock, fun hne => absurd rfl hne⟩
  · rcases hleaves.skill role_id c info hinfo with ⟨old, hold, hlast, hcooldown⟩ | ⟨hlast, -⟩
    · rw [hlast, hcooldown]
      exact h.recent role_id c old hold
    · exact .inl hlast

theorem World.Inv.cast (h : w.Inv config) (hphase : p.phase = .checking) :
    World.Inv config { w with casts := w.casts ++ [p] } := by
  have hmem : ∀ q ∈ w.casts ++ [p], q ∈ w.casts ∨ q = p := fun q hq => by simpa using hq
  refine ⟨h.configs, h.clock, h.entries, h.recent, h.past, fun q hq found n happlied => ?_, h.spaced,
    fun q hq hpassed => ?_, ?_⟩
  · rcases hmem q hq with hq | rfl
    · exact h.applied q hq found n happlied
    · rw [hphase] at happlied
      cases happlied
  · rcases hmem q hq with hq | rfl
    · exact h.ready q hq hpassed
    · exact absurd hphase hpassed
  · refine List.pairwise_append.2 ⟨h.alone, List.pairwise_singleton _ _, fun q _ r hr _ hpassed => ?_⟩
    rw [List.mem_singleton.1 hr] at hpassed
    exact absurd hphase hpassed

/-- The call that goes on, and the others. -/
theorem World.Inv.alone_iff (hp : w.casts[n]? = some p) :
    (w.casts.Pairwise fun p q => p.Passed → q.Passed → p.key ≠ q.key) ↔
      (∀ q ∈ w.casts.eraseIdx n, p.Passed → q.Passed → p.key ≠ q.key) ∧
        (w.casts.eraseIdx n).Pairwise fun p q => p.Passed → q.Passed → p.key ≠ q.key := by
  exact pairwise_iff_of_getElem? (fun p q hpq hq hp => (hpq hp hq).symm) hp

/-- A call goes on; one that passes `CanUseSkill` is alone and ready. -/
theorem World.Inv.goes (h : w.Inv config) (hp : w.casts[n]? = some p)
    (happlied : ∀ found m, phase = .applying found m → found = config p.skill_config_id)
    (hpassed : p.phase = .checking → (∀ q ∈ w.casts, q.key = p.key → q.phase = .checking) ∧
      ∀ u ∈ w.uses, u.key = p.key → u.time + (config p.skill_config_id).cooldown ≤ w.clock) :
    World.Inv config { w with casts := w.casts.set n { p with phase := phase } } := by
  have hmemp : p ∈ w.casts := List.mem_of_getElem? hp
  have hmem : ∀ q ∈ w.casts.set n { p with phase := phase }, q ∈ w.casts ∨ q = { p with phase := phase } :=
    fun q hq => List.mem_or_eq_of_mem_set hq
  refine ⟨h.configs, h.clock, h.entries, h.recent, h.past, fun q hq found m hphase => ?_, h.spaced,
    fun q hq hq' => ?_, ?_⟩
  · rcases hmem q hq with hq | rfl
    · exact h.applied q hq found m hphase
    · exact happlied found m hphase
  · rcases hmem q hq with hq | rfl
    · exact h.ready q hq hq'
    · by_cases hchecking : p.phase = .checking
      · exact (hpassed hchecking).2
      · exact h.ready p hmemp hchecking
  · obtain ⟨hlt, -⟩ := List.getElem?_eq_some_iff.1 hp
    have hset : ({ w with casts := w.casts.set n { p with phase := phase } } : World).casts[n]? =
        some { p with phase := phase } := List.getElem?_set_self hlt
    obtain ⟨hothers, hrest⟩ := (World.Inv.alone_iff hp).1 h.alone
    refine (World.Inv.alone_iff hset).2 ?_
    dsimp only
    rw [List.eraseIdx_set_eq]
    refine ⟨fun q hq _ hq' hkey => ?_, hrest⟩
    by_cases hchecking : p.phase = .checking
    · exact hq' ((hpassed hchecking).1 q (List.mem_of_mem_eraseIdx hq) hkey.symm)
    · exact hothers q hq hchecking hq' hkey

theorem World.Inv.refused (h : w.Inv config) :
    World.Inv config { w with casts := w.casts.eraseIdx n } :=
  ⟨h.configs, h.clock, h.entries, h.recent, h.past, fun p hp => h.applied p (List.mem_of_mem_eraseIdx hp),
    h.spaced, fun p hp => h.ready p (List.mem_of_mem_eraseIdx hp), h.alone.sublist (List.eraseIdx_sublist ..)⟩

/-- A call ends, and the cooldown starts. -/
theorem World.Inv.used {found : SkillConfig} (h : w.Inv config) (hp : w.casts[n]? = some p)
    (hphase : p.phase = .applying found 0) :
    World.Inv config ⟨w.module.startCooldown w.clock p.role_id p.skill_config_id found.cooldown, w.clock,
      w.casts.eraseIdx n, w.uses ++ [⟨p.key, w.clock⟩]⟩ := by
  have hmemp : p ∈ w.casts := List.mem_of_getElem? hp
  have hpassed : p.Passed := fun hchecking => by rw [hphase] at hchecking; cases hchecking
  have hfound := h.applied p hmemp found 0 hphase
  obtain ⟨hconfig, hskill⟩ :=
    @SkillModule.startCooldown_spec w.module p.role_id p.skill_config_id w.clock found.cooldown
  have huse : ∀ u ∈ w.uses ++ [(⟨p.key, w.clock⟩ : Use)], u ∈ w.uses ∨ u = ⟨p.key, w.clock⟩ :=
    fun u hu => by simpa using hu
  have hpast : ∀ u ∈ w.uses ++ [(⟨p.key, w.clock⟩ : Use)], u.time ≤ w.clock := by
    intro u hu
    rcases huse u hu with hu | rfl
    · exact h.past u hu
    · exact le_rfl
  obtain ⟨hothers, hrest⟩ := (World.Inv.alone_iff hp).1 h.alone
  refine ⟨fun c => (hconfig c).trans (h.configs c), h.clock, fun role_id c info hinfo => ?_,
    fun role_id c info hinfo => ?_, hpast, fun q hq => h.applied q (List.mem_of_mem_eraseIdx hq), ?_,
    fun q hq hq' u hu hkey => ?_, hrest⟩
  · rcases hskill role_id c info hinfo with ⟨hother, hold⟩ | ⟨rfl, rfl, hlast, hcooldown⟩
    · obtain ⟨hcooldown, hnonneg, hle, huses⟩ := h.entries role_id c info hold
      refine ⟨hcooldown, hnonneg, hle, fun hne u hu hkey => ?_⟩
      rcases huse u hu with hu | rfl
      · exact huses hne u hu hkey
      · obtain ⟨hrole, hc⟩ := Prod.mk.inj hkey
        exact (hother.elim (· hrole.symm) (· hc.symm)).elim
    · rw [hlast, hcooldown, hfound]
      exact ⟨rfl, h.clock, le_rfl, fun _ u hu _ => hpast u hu⟩
  · rcases hskill role_id c info hinfo with ⟨-, hold⟩ | ⟨-, -, hlast, -⟩
    · exact h.recent role_id c info hold
    · rw [hlast, sub_self]
      exact .inr (.inl (by decide))
  · refine List.pairwise_append.2 ⟨h.spaced, List.pairwise_singleton _ _, fun u hu v hv hkey => ?_⟩
    rw [List.mem_singleton.1 hv] at hkey ⊢
    have hready := h.ready p hmemp hpassed u hu hkey
    rw [hkey]
    exact hready
  · rcases huse u hu with hu | rfl
    · exact h.ready q (List.mem_of_mem_eraseIdx hq) hq' u hu hkey
    · exact absurd hkey (hothers q hq hpassed hq')

theorem Op.leaves (o : Op) (s : SkillModule) : s.Leaves (o.apply s) := by
  cases o with
  | InitSkills => exact SkillModule.leaves_init
  | LearnSkill => exact SkillModule.leaves_learn
  | UpgradeSkill => exact SkillModule.leaves_upgrade
  | ForgetSkill => exact SkillModule.leaves_forget

/-- The entry of a call that passes `CanUseSkill`: the cooldown of its last use is over. -/
theorem World.Inv.ready_of_can (h : w.Inv config) {role_id : BitVec 64} {c : ℤ}
    (hcan : w.module.CanUseSkill w.clock role_id c = true)
    (hnew : ∀ info, w.module.skill role_id c = some info → info.last_use_time = 0 →
      ∀ u ∈ w.uses, u.key = (role_id, c) → u.time + (w.module.config c).cooldown ≤ w.clock) :
    ∀ u ∈ w.uses, u.key = (role_id, c) → u.time + (config c).cooldown ≤ w.clock := by
  intro u hu hkey
  unfold SkillModule.CanUseSkill at hcan
  cases hskill : w.module.skill role_id c with
  | none =>
    rw [hskill] at hcan
    cases hcan
  | some info =>
    rw [hskill] at hcan
    obtain ⟨hcooldown, hnonneg, -, huses⟩ := h.entries role_id c info hskill
    by_cases hzero : info.last_use_time = 0
    · rw [← h.configs]
      exact hnew info hskill hzero u hu hkey
    · dsimp only at hcan
      split_ifs at hcan with hunlocked hcooling
      have hle := huses hzero u hu hkey
      have hover : ¬(0 < info.last_use_time ∧ w.clock - info.last_use_time < info.cooldown_time) := by
        intro hboth
        refine hcooling ?_
        unfold SkillInfo.coolingDown
        rw [decide_eq_true hboth.1, decide_eq_true hboth.2]
        rfl
      rw [not_and, not_lt] at hover
      have hlate := hover (by omega)
      omega

/-- **What a careful step keeps.** -/
theorem World.Inv.step {l : ℤ × Label} (h : w.Inv config) (hstep : World.Step w l w') (hcareful : Careful w l) :
    w'.Inv config := by
  obtain ⟨hrecent, hcheck⟩ := hcareful
  cases hstep with
  | op _ hlater => exact (h.tick hlater hrecent).leaves (Op.leaves _ _)
  | cast _ hlater hphase => exact (h.tick hlater hrecent).cast hphase
  | @goes now n p phase t _ hlater hp hnext =>
    obtain ⟨hleaves, -, hcan, hfound⟩ := Cast.next_goes hnext
    have htick := h.tick hlater hrecent
    refine World.Inv.leaves (w := { w with clock := now, casts := _ }) (htick.goes hp ?_ ?_) hleaves
    · intro found m happlied
      rcases hfound found m happlied with rfl | ⟨m', hbefore⟩
      · exact h.configs _
      · exact h.applied p (List.mem_of_getElem? hp) found m' hbefore
    · intro hchecking
      obtain ⟨halone, hnew⟩ := hcheck n p rfl hp hchecking (hcan hchecking)
      exact ⟨halone, htick.ready_of_can (hcan hchecking) hnew⟩
  | @ended now n p success t _ hlater hp hnext =>
    have htick := h.tick hlater hrecent
    rcases Cast.next_ended hnext with ⟨rfl, hleaves⟩ | ⟨rfl, found, hphase, rfl⟩
    · exact World.Inv.leaves (w := { w with clock := now, casts := _ }) htick.refused hleaves
    · exact htick.used hp hphase

theorem World.inv_new {s : SkillModule} (hnew : ∀ role_id c, s.skill role_id c = none) :
    World.Inv s.config ⟨s, 0, [], []⟩ := by
  have hnone : ∀ role_id c info, s.skill role_id c ≠ some info := fun role_id c info h => by
    rw [hnew] at h
    cases h
  exact ⟨fun _ => rfl, le_rfl, fun role_id c info h => absurd h (hnone role_id c info),
    fun role_id c info h => absurd h (hnone role_id c info), fun _ h => absurd h List.not_mem_nil,
    fun _ h => absurd h List.not_mem_nil, .nil, fun _ h => absurd h List.not_mem_nil, .nil⟩

/-- **The cooldown holds** in every run of careful steps, from a module without skills. -/
theorem cooldown_holds {s : SkillModule} {ls : List (ℤ × Label)}
    (hint : ∀ c, -(2 ^ 31) ≤ (s.config c).cooldown ∧ (s.config c).cooldown < 2 ^ 31)
    (hnew : ∀ role_id c, s.skill role_id c = none)
    (hr : Run (fun w l w' => World.Step w l w' ∧ Careful w l) ⟨s, 0, [], []⟩ ls w) : w.Sound := by
  have hinv : w.Inv s.config :=
    Run.invariant (fun _ _ _ h hstep => h.step hstep.1 hstep.2) (World.inv_new hnew) hr
  exact hinv.sound hint

end

/-- A module without skills. -/
def noSkills : SkillModule := ⟨∅, ∅, 0⟩

theorem noSkills_int (c : ℤ) :
    -(2 ^ 31) ≤ (noSkills.config c).cooldown ∧ (noSkills.config c).cooldown < 2 ^ 31 :=
  ⟨show -(2 ^ 31) ≤ (5 : ℤ) by decide, show (5 : ℤ) < 2 ^ 31 by decide⟩

theorem recent_of_entries {s : SkillModule} {now : ℤ} (h : ∀ e ∈ s.skill_cache_.entries, ∀ info ∈ e.2,
    info.last_use_time = 0 ∨ now - info.last_use_time < 2 ^ 31 ∨
      info.cooldown_time ≤ toInt32 (now - info.last_use_time)) : Recent s now := by
  intro role_id c info hinfo
  have hmem : info ∈ s.skill_cache_.rows role_id := List.mem_of_find?_eq_some hinfo
  unfold Dict.rows at hmem
  cases hlookup : s.skill_cache_.lookup role_id with
  | none =>
    rw [hlookup] at hmem
    cases hmem
  | some skills =>
    rw [hlookup] at hmem
    exact h ⟨role_id, skills⟩ (AList.mem_lookup_iff.1 hlookup) info hmem

/-- A step that checks nothing. -/
theorem careful_of_recent {w : World} {l : ℤ × Label} (h : Recent w.module l.1)
    (hcheck : ∀ n p, l.2 = .go n → w.casts[n]? = some p → p.phase ≠ .checking) : Careful w l :=
  ⟨h, fun n p hn hp hphase => absurd hphase (hcheck n p hn hp)⟩

theorem cooldown_holds_once : ∃ w, Run (fun w l w' => World.Step w l w' ∧ Careful w l) ⟨noSkills, 0, [], []⟩
    [(1, .op (.InitSkills 5)), (1, .op (.LearnSkill 5 7)), (10, .cast ⟨5, 7, 0, .checking⟩), (10, .go 0),
      (10, .go 0), (10, .go 0)] w ∧ w.uses = [⟨(5, 7), 10⟩] ∧ w.Sound := by
  have hrun : ∃ w, Run (fun w l w' => World.Step w l w' ∧ Careful w l) ⟨noSkills, 0, [], []⟩
      [(1, .op (.InitSkills 5)), (1, .op (.LearnSkill 5 7)), (10, .cast ⟨5, 7, 0, .checking⟩), (10, .go 0),
        (10, .go 0), (10, .go 0)] w ∧ w.uses = [⟨(5, 7), 10⟩] := by
    refine ⟨_, .cons ⟨.op (by decide) (by decide), ?_⟩ (.cons ⟨.op (by decide) (by decide), ?_⟩
      (.cons ⟨.cast (by decide) (by decide) rfl, ?_⟩ (.cons ⟨.goes (by decide) (by decide) rfl rfl, ?_⟩
        (.cons ⟨.goes (by decide) (by decide) rfl rfl, ?_⟩
          (.cons ⟨.ended (by decide) (by decide) rfl rfl, ?_⟩ (.nil _)))))), ?_⟩
    · exact careful_of_recent (recent_of_entries (by decide)) fun _ _ hn => by cases hn
    · exact careful_of_recent (recent_of_entries (by decide)) fun _ _ hn => by cases hn
    · exact careful_of_recent (recent_of_entries (by decide)) fun _ _ hn => by cases hn
    · refine ⟨recent_of_entries (by decide), fun n p hn hp _ _ => ⟨?_, fun _ _ _ u hu => by cases hu⟩⟩
      cases hn
      cases hp
      decide
    · refine careful_of_recent (recent_of_entries (by decide)) fun _ _ hn hp hphase => ?_
      cases hn
      cases hp
      cases hphase
    · refine careful_of_recent (recent_of_entries (by decide)) fun _ _ hn hp hphase => ?_
      cases hn
      cases hp
      cases hphase
    · rfl
  obtain ⟨w, hrun, huses⟩ := hrun
  exact ⟨w, hrun, huses, cooldown_holds noSkills_int (fun _ _ => rfl) hrun⟩

/-- Two calls that are checked before one of them starts the cooldown. -/
theorem not_cooldown_holds : ¬∀ s ls w,
    (∀ c, -(2 ^ 31) ≤ (SkillModule.config c s).cooldown ∧ (SkillModule.config c s).cooldown < 2 ^ 31) →
    (∀ role_id c, SkillModule.skill role_id c s = none) → Run World.Step ⟨s, 0, [], []⟩ ls w → w.Sound := by
  intro h
  have hrun : ∃ w, Run World.Step ⟨noSkills, 0, [], []⟩ [(1, .op (.InitSkills 5)), (1, .op (.LearnSkill 5 7)),
      (10, .cast ⟨5, 7, 0, .checking⟩), (10, .cast ⟨5, 7, 0, .checking⟩), (10, .go 0), (10, .go 1),
      (10, .go 0), (10, .go 1), (10, .go 0), (11, .go 0)] w ∧ w.uses = [⟨(5, 7), 10⟩, ⟨(5, 7), 11⟩] ∧
      (w.module.config 7).cooldown = 5 := by
    refine ⟨_, .cons (.op (by decide) (by decide)) (.cons (.op (by decide) (by decide))
      (.cons (.cast (by decide) (by decide) rfl) (.cons (.cast (by decide) (by decide) rfl)
        (.cons (.goes (by decide) (by decide) rfl rfl) (.cons (.goes (by decide) (by decide) rfl rfl)
          (.cons (.goes (by decide) (by decide) rfl rfl) (.cons (.goes (by decide) (by decide) rfl rfl)
            (.cons (.ended (by decide) (by decide) rfl rfl)
              (.cons (.ended (by decide) (by decide) rfl rfl) (.nil _)))))))))), ?_, ?_⟩
    · rfl
    · rfl
  obtain ⟨w, hrun, huses, hcooldown⟩ := hrun
  have hsound := (h _ _ w noSkills_int (fun _ _ => rfl) hrun).spaced
  rw [huses] at hsound
  have hgap := (List.pairwise_cons.1 hsound).1 ⟨(5, 7), 11⟩ List.mem_cons_self rfl
  rw [hcooldown] at hgap
  exact absurd hgap (by decide)

end Ancfl.Game.Skill
