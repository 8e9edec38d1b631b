/-
  The entries of a target over whole runs.

  * `BuffInfo.Kept`: an entry is active, its stack count and its end are as its
    configuration says;
  * `BuffModule.Kept`: every entry of every target is, and no target has two of
    one configuration;
  * `entries_kept`: this holds in every state that is reached, `OnUpdate` removes
    the entries that have ended, and an operation on a target leaves the others
    as they are.
-/
import Ancfl.Game.Buff
import Ancfl.Lib.Run

namespace Ancfl.Game.Buff

open Lib

/-- `max_stack` is an `int32_t`. -/
structure BuffConfig.Valid (config : BuffConfig) : Prop where
  one_le : 1 ≤ config.max_stack
  lt : config.max_stack < 2 ^ 31

structure BuffInfo.Kept (configs : Dict ℤ BuffConfig) (buff : BuffInfo) : Prop where
  active : buff.is_active = true
  one_le : 1 ≤ buff.stack_count
  le_max : buff.stack_count ≤ buff.max_stack
  ends : buff.end_time = buff.start_time + buff.duration
  config : ∃ config, configs.lookup buff.buff_config_id = some config ∧ config.Valid ∧
    buff.max_stack = config.max_stack ∧ buff.duration = config.duration

structure EntriesKept (configs : Dict ℤ BuffConfig) (l : List BuffInfo) : Prop where
  nodup : (l.map (·.buff_config_id)).Nodup
  kept : ∀ buff ∈ l, buff.Kept configs

structure BuffModule.Kept (s : BuffModule) : Prop where
  configs : ∀ buff_config_id config, s.buff_configs_.lookup buff_config_id = some config → config.Valid
  entries : ∀ target_id, EntriesKept s.buff_configs_ (s.buff_cache_.rows target_id)

namespace BuffInfo.Kept

variable {configs configs' : Dict ℤ BuffConfig} {buff : BuffInfo} {now : ℤ}

theorem mono (h : buff.Kept configs)
    (hsub : ∀ k config, configs.lookup k = some config → configs'.lookup k = some config) :
    buff.Kept configs' := by
  obtain ⟨config, hlookup, hconfig⟩ := h.config
  exact { h with config := ⟨config, hsub _ _ hlookup, hconfig⟩ }

theorem stack (h : buff.Kept configs) : buff.stack.Kept configs := by
  unfold BuffInfo.stack
  split_ifs with hlt
  · obtain ⟨config, -, hvalid, hmax, -⟩ := h.config
    have h32 := hvalid.lt
    have hone := h.one_le
    have hstack : toInt32 (buff.stack_count + 1) = buff.stack_count + 1 :=
      toInt32_of_lt (by omega) (by omega)
    refine ⟨h.active, ?_, ?_, h.ends, h.config⟩
    · show 1 ≤ toInt32 (buff.stack_count + 1)
      omega
    · show toInt32 (buff.stack_count + 1) ≤ buff.max_stack
      omega
  · exact h

theorem refresh (h : buff.Kept configs) : (buff.refresh now).Kept configs :=
  ⟨h.active, h.one_le, h.le_max, rfl, h.config⟩

end BuffInfo.Kept

namespace EntriesKept

variable {configs configs' : Dict ℤ BuffConfig} {l : List BuffInfo} {buff : BuffInfo}

theorem nil : EntriesKept configs [] :=
  ⟨List.nodup_nil, fun _ h => absurd h List.not_mem_nil⟩

theorem mono (h : EntriesKept configs l)
    (hsub : ∀ k config, configs.lookup k = some config → configs'.lookup k = some config) :
    EntriesKept configs' l :=
  ⟨h.nodup, fun buff hbuff => (h.kept buff hbuff).mono hsub⟩

theorem sublist {l' : List BuffInfo} (h : EntriesKept configs l) (hsub : l'.Sublist l) :
    EntriesKept configs l' :=
  ⟨h.nodup.sublist (hsub.map _), fun buff hbuff => h.kept buff (hsub.subset hbuff)⟩

/-- An entry of a configuration that the target has none of. -/
theorem append (h : EntriesKept configs l) (hbuff : buff.Kept configs)
    (hnew : l.find? (·.isOf buff.buff_config_id) = none) : EntriesKept configs (l ++ [buff]) := by
  constructor
  · rw [List.map_append, List.nodup_append]
    refine ⟨h.nodup, List.nodup_singleton _, ?_⟩
    rintro _ hmem _ hid rfl
    obtain ⟨old, hold, rfl⟩ := List.mem_map.1 hmem
    have hof := List.find?_eq_none.1 hnew old hold
    -- every entry is active, so that the one found would be stacked or refreshed
    have heq : old.buff_config_id = buff.buff_config_id := by simpa using hid
    simp [BuffInfo.isOf, heq, (h.kept old hold).active] at hof
  · intro b hb
    rcases List.mem_append.1 hb with hb | hb
    · exact h.kept b hb
    · rw [List.mem_singleton.1 hb]
      exact hbuff

theorem onFirst {p : BuffInfo → Bool} {f : BuffInfo → BuffInfo} (h : EntriesKept configs l)
    (hid : ∀ buff, (f buff).buff_config_id = buff.buff_config_id)
    (hf : ∀ buff : BuffInfo, buff.Kept configs → (f buff).Kept configs) {r : Unit × List BuffInfo}
    (hr : onFirst p (fun buff => ((), f buff)) l = some r) : EntriesKept configs r.2 := by
  refine ⟨?_, forall_onFirst hf h.kept hr⟩
  rw [map_onFirst (fun buff _ => hid buff) hr]
  exact h.nodup

end EntriesKept

theorem BuffInfo.stack_config (buff : BuffInfo) : buff.stack.buff_config_id = buff.buff_config_id := by
  unfold BuffInfo.stack
  split_ifs <;> rfl

namespace BuffModule

variable {s : BuffModule} {now : ℤ} {target_id buff_id caster_id : BitVec 64} {buff_config_id : ℤ}

theorem Kept.setBuffs {l : List BuffInfo} (h : s.Kept) (hl : EntriesKept s.buff_configs_ l) :
    (s.setBuffs target_id l).Kept :=
  ⟨h.configs, Dict.forall_rows_insert h.entries hl⟩

/-- A configuration that is found has been there or is added. -/
theorem buffConfig_spec (h : s.Kept) (buff_config_id : ℤ) :
    (s.buffConfig buff_config_id).2.Kept ∧
      (s.buffConfig buff_config_id).2.buff_configs_.lookup buff_config_id =
        some (s.buffConfig buff_config_id).1 ∧
      (s.buffConfig buff_config_id).2.buff_cache_ = s.buff_cache_ := by
  unfold buffConfig
  cases hlookup : s.buff_configs_.lookup buff_config_id with
  | some config => exact ⟨h, hlookup, rfl⟩
  | none =>
    refine ⟨⟨?_, ?_⟩, AList.lookup_insert _, rfl⟩
    · intro k config hk
      rw [Dict.lookup_insert_iff] at hk
      split_ifs at hk
      · cases hk
        exact ⟨show (1 : ℤ) ≤ 5 by decide, show (5 : ℤ) < 2 ^ 31 by decide⟩
      · exact h.configs k config hk
    · intro target_id
      refine (h.entries target_id).mono fun k config hk => ?_
      rw [Dict.lookup_insert_iff, if_neg, hk]
      rintro rfl
      rw [hlookup] at hk
      cases hk

theorem Kept.onBuff {f : BuffInfo → BuffInfo} (h : s.Kept)
    (hid : ∀ buff, (f buff).buff_config_id = buff.buff_config_id)
    (hf : ∀ buff : BuffInfo, buff.Kept s.buff_configs_ → (f buff).Kept s.buff_configs_) :
    (s.onBuff target_id buff_id f).2.Kept := by
  unfold BuffModule.onBuff
  split
  · exact h
  · next l hl =>
    split
    · exact h
    · next l' hl' =>
      have hrows : EntriesKept s.buff_configs_ l := Dict.rows_of_lookup hl ▸ h.entries target_id
      exact h.setBuffs (hrows.onFirst hid hf hl')

theorem Kept.stack (h : s.Kept) : (s.stack target_id buff_id).2.Kept :=
  h.onBuff BuffInfo.stack_config fun _ => BuffInfo.Kept.stack

theorem Kept.refresh (h : s.Kept) : (s.refresh now target_id buff_id).2.Kept :=
  h.onBuff (fun _ => rfl) fun _ => BuffInfo.Kept.refresh

theorem Kept.add (h : s.Kept) : (s.add now target_id caster_id buff_config_id).2.Kept := by
  obtain ⟨hkept, hconfig, -⟩ := buffConfig_spec h buff_config_id
  have hvalid := hkept.configs _ _ hconfig
  unfold BuffModule.add
  generalize hc : s.buffConfig buff_config_id = c at *
  dsimp only
  split
  · split_ifs
    · exact hkept.stack
    · exact hkept.refresh
  · next hnone =>
    refine ⟨hkept.configs, Dict.forall_rows_insert hkept.entries ?_⟩
    exact (hkept.entries target_id).append
      ⟨rfl, le_rfl, hvalid.one_le, rfl, c.1, hconfig, hvalid, rfl, rfl⟩ hnone

theorem Kept.removeFirst {p : BuffInfo → Bool} (h : s.Kept) : (s.removeFirst target_id p).2.Kept := by
  unfold BuffModule.removeFirst
  split
  · exact h
  · next l hl =>
    split_ifs
    · have hrows : EntriesKept s.buff_configs_ l := Dict.rows_of_lookup hl ▸ h.entries target_id
      exact h.setBuffs (hrows.sublist List.eraseP_sublist)
    · exact h

theorem Kept.removeEach {p : BuffInfo → Bool} (h : s.Kept) : (s.removeEach target_id p).2.Kept := by
  unfold BuffModule.removeEach
  split
  · exact h
  · next l hl =>
    have hrows : EntriesKept s.buff_configs_ l := Dict.rows_of_lookup hl ▸ h.entries target_id
    exact h.setBuffs (hrows.sublist List.filter_sublist)

theorem rows_expire :
    (s.expire now).2.buff_cache_.rows target_id =
      (s.buff_cache_.rows target_id).filter fun buff => !buff.isExpired now :=
  Dict.rows_mapVals rfl

theorem Kept.expire (h : s.Kept) : (s.expire now).2.Kept := by
  refine ⟨h.configs, fun target_id => ?_⟩
  rw [rows_expire]
  exact (h.entries target_id).sublist List.filter_sublist

/-! ## The buffs of the other targets -/

theorem lookup_setBuffs {l : List BuffInfo} {other : BitVec 64} (h : other ≠ target_id) :
    (s.setBuffs target_id l).buff_cache_.lookup other = s.buff_cache_.lookup other :=
  Dict.lookup_insert_of_ne h

theorem buffConfig_cache : (s.buffConfig buff_config_id).2.buff_cache_ = s.buff_cache_ := by
  unfold buffConfig
  split <;> rfl

theorem lookup_onBuff {f : BuffInfo → BuffInfo} {other : BitVec 64} (h : other ≠ target_id) :
    (s.onBuff target_id buff_id f).2.buff_cache_.lookup other = s.buff_cache_.lookup other := by
  unfold onBuff
  split
  · rfl
  · split
    · rfl
    · exact lookup_setBuffs h

theorem lookup_add {other : BitVec 64} (h : other ≠ target_id) :
    (s.add now target_id caster_id buff_config_id).2.buff_cache_.lookup other =
      s.buff_cache_.lookup other := by
  have hcache : (s.buffConfig buff_config_id).2.buff_cache_ = s.buff_cache_ := buffConfig_cache
  unfold add
  dsimp only
  split
  · split_ifs
    · exact (lookup_onBuff h).trans (by rw [hcache])
    · exact (lookup_onBuff h).trans (by rw [hcache])
  · exact (lookup_setBuffs h).trans (by rw [hcache])

theorem lookup_removeFirst {p : BuffInfo → Bool} {other : BitVec 64} (h : other ≠ target_id) :
    (s.removeFirst target_id p).2.buff_cache_.lookup other = s.buff_cache_.lookup other := by
  unfold removeFirst
  split
  · rfl
  · split_ifs
    · exact lookup_setBuffs h
    · rfl

theorem lookup_removeEach {p : BuffInfo → Bool} {other : BitVec 64} (h : other ≠ target_id) :
    (s.removeEach target_id p).2.buff_cache_.lookup other = s.buff_cache_.lookup other := by
  unfold removeEach
  split
  · rfl
  · exact lookup_setBuffs h

end BuffModule

/-! ## Runs -/

/-- What an operation leaves. `ProcessDotHot` and `OnTimer` change nothing where they return. -/
def Op.after (now : ℤ) (s : BuffModule) : Op → BuffModule
  | AddBuff target_id caster_id buff_config_id => (s.add now target_id caster_id buff_config_id).2
  | RemoveBuff target_id buff_id => (s.removeFirst target_id (·.hasId buff_id)).2
  | RemoveBuffByConfigId target_id buff_config_id =>
    (s.removeFirst target_id fun buff => buff.buff_config_id = buff_config_id).2
  | RemoveAllBuffs target_id => (s.removeEach target_id fun _ => true).2
  | RemoveDebuffs target_id => (s.removeEach target_id fun buff => buff.type = .DEBUFF).2
  | StackBuff target_id buff_id => (s.stack target_id buff_id).2
  | RefreshBuff target_id buff_id => (s.refresh now target_id buff_id).2
  | OnUpdate => (s.expire now).2
  | _ => s

/-- The target of an operation that is on one. -/
def Op.target_id : Op → Option (BitVec 64)
  | AddBuff target_id _ _ => some target_id
  | RemoveBuff target_id _ => some target_id
  | RemoveBuffByConfigId target_id _ => some target_id
  | RemoveAllBuffs target_id => some target_id
  | RemoveDebuffs target_id => some target_id
  | GetBuffs target_id => some target_id
  | GetBuffInfo target_id _ => some target_id
  | HasBuff target_id _ => some target_id
  | HasDebuff target_id => some target_id
  | CalculateBuffEffects target_id => some target_id
  | ApplyBuffEffects target_id => some target_id
  | ProcessDotHot target_id => some target_id
  | StackBuff target_id _ => some target_id
  | RefreshBuff target_id _ => some target_id
  | OnUpdate => none
  | OnTimer => none
  | LoadBuffData target_id => some target_id
  | SaveBuffData target_id => some target_id

/-- A call at a time that returns. -/
def Calls (s : BuffModule) (call : ℤ × Op) (t : BuffModule) : Prop :=
  call.2.call call.1 .free s = .ret () t

section
variable {now : ℤ} {op : Op} {s t : BuffModule}

theorem call_after (h : op.call now .free s = .ret () t) : t = op.after now s := by
  cases op
  case OnTimer =>
    have hkeys : s.buff_cache_.keys = [] := by
      by_contra hne
      obtain ⟨u, hu⟩ := deadlocks_onTimer.2 hne
      rw [Op.call, hu] at h
      cases h
    have hrun : BuffModule.OnTimer now .free s = .ret () s := by
      rw [BuffModule.OnTimer, Locked.lockGuard_free, Locked.bind_apply (Locked.perform_apply _), hkeys]
      rfl
    rw [Op.call, hrun] at h
    cases h
    rfl
  case ProcessDotHot target_id =>
    obtain ⟨b, u, hu, hret⟩ := Call.bind_eq_ret.1 h
    cases hret
    rw [BuffModule.ProcessDotHot, Locked.lockGuard_free, BuffModule.tick] at hu
    split at hu
    · cases hu
      rfl
    · split_ifs at hu
      cases hu
      rfl
  all_goals
    cases h
    rfl

theorem calls_addBuff (now : ℤ) (target_id caster_id : BitVec 64) (buff_config_id : ℤ) :
    Calls s (now, .AddBuff target_id caster_id buff_config_id)
      (s.add now target_id caster_id buff_config_id).2 := rfl

theorem calls_onUpdate : Calls s (now, .OnUpdate) (s.expire now).2 := rfl

theorem Calls.kept {call : ℤ × Op} (hs : s.Kept) (h : Calls s call t) : t.Kept := by
  obtain ⟨now, op⟩ := call
  rw [call_after h]
  cases op
  case AddBuff => exact hs.add
  case RemoveBuff => exact hs.removeFirst
  case RemoveBuffByConfigId => exact hs.removeFirst
  case RemoveAllBuffs => exact hs.removeEach
  case RemoveDebuffs => exact hs.removeEach
  case StackBuff => exact hs.stack
  case RefreshBuff => exact hs.refresh
  case OnUpdate => exact hs.expire
  all_goals exact hs

theorem Calls.frame {call : ℤ × Op} {target_id other : BitVec 64} (h : Calls s call t)
    (htarget : call.2.target_id = some target_id) (hne : other ≠ target_id) :
    t.buff_cache_.lookup other = s.buff_cache_.lookup other := by
  obtain ⟨now, op⟩ := call
  rw [call_after h]
  cases op
  case OnUpdate => cases htarget
  all_goals cases htarget
  case AddBuff => exact BuffModule.lookup_add hne
  case RemoveBuff => exact BuffModule.lookup_removeFirst hne
  case RemoveBuffByConfigId => exact BuffModule.lookup_removeFirst hne
  case RemoveAllBuffs => exact BuffModule.lookup_removeEach hne
  case RemoveDebuffs => exact BuffModule.lookup_removeEach hne
  case StackBuff => exact BuffModule.lookup_onBuff hne
  case RefreshBuff => exact BuffModule.lookup_onBuff hne
  all_goals rfl

/-- **OnUpdate**: the entries that have ended are gone, the others stay as they are. -/
theorem Calls.onUpdate (hs : s.Kept) (h : Calls s (now, .OnUpdate) t) (target_id : BitVec 64) :
    t.buff_cache_.rows target_id =
      (s.buff_cache_.rows target_id).filter fun buff => now < buff.end_time := by
  rw [call_after h]
  refine BuffModule.rows_expire.trans (List.filter_congr fun buff hbuff => ?_)
  have hactive := ((hs.entries target_id).kept buff hbuff).active
  by_cases hlt : now < buff.end_time
  · simp [BuffInfo.isExpired, hactive, hlt]
  · simp [BuffInfo.isExpired, hactive, hlt, not_lt.1 hlt]

/-- Where there are no buffs yet. -/
theorem kept_empty (hcache : s.buff_cache_ = ∅)
    (hconfigs : ∀ k config, s.buff_configs_.lookup k = some config → config.Valid) : s.Kept := by
  refine ⟨hconfigs, fun target_id => ?_⟩
  rw [hcache]
  exact .nil

end

/-- **The buffs of every target are as their configurations say**, whatever is called. -/
theorem entries_kept {s₀ s : BuffModule} {calls : List (ℤ × Op)} (hcache : s₀.buff_cache_ = ∅)
    (hconfigs : ∀ k config, s₀.buff_configs_.lookup k = some config → config.Valid)
    (hrun : Run Calls s₀ calls s) :
    (∀ target_id, ((s.buff_cache_.rows target_id).map (·.buff_config_id)).Nodup ∧
      ∀ buff ∈ s.buff_cache_.rows target_id, buff.Kept s.buff_configs_) ∧
    (∀ now, ∃ t, Calls s (now, .OnUpdate) t ∧ ∀ target_id, t.buff_cache_.rows target_id =
      (s.buff_cache_.rows target_id).filter fun buff => now < buff.end_time) ∧
    ∀ call t target_id other, Calls s call t → call.2.target_id = some target_id →
      other ≠ target_id → t.buff_cache_.lookup other = s.buff_cache_.lookup other := by
  have hs := hrun.invariant (P := BuffModule.Kept) (fun _ _ _ => Calls.kept)
    (kept_empty hcache hconfigs)
  refine ⟨fun target_id => ?_, fun now => ?_, ?_⟩
  · exact ⟨(hs.entries target_id).nodup, (hs.entries target_id).kept⟩
  · exact ⟨_, calls_onUpdate, fun target_id => calls_onUpdate.onUpdate hs target_id⟩
  · intro call t target_id other h htarget hne
    exact h.frame htarget hne

/-- No buffs, and one configuration of up to two stacks. -/
def poison : BuffModule where
  buff_cache_ := ∅
  buff_configs_ := (∅ : Dict ℤ BuffConfig).insert 3 {
    buff_config_id := 3, buff_name := "Poison", type := .DEBUFF, effect_type := .POISON,
    effect_value := 4, duration := 20, interval := 1, max_stack := 2, is_debuff := true,
    can_dispel := true }
  next_id := 1

theorem entries_kept_poison : ∃ s,
    Run Calls poison [(0, .AddBuff 1 9 3), (5, .AddBuff 1 9 3), (9, .AddBuff 1 9 4)] s ∧
      ∀ buff ∈ s.buff_cache_.rows 1, buff.Kept s.buff_configs_ := by
  have hrun : Run Calls poison _ _ := .cons (calls_addBuff 0 1 9 3)
    (.cons (calls_addBuff 5 1 9 3) (.cons (calls_addBuff 9 1 9 4) (.nil _)))
  refine ⟨_, hrun, ((entries_kept rfl ?_ hrun).1 1).2⟩
  intro k config hconfig
  have hmem := Dict.lookup_insert_iff.symm.trans hconfig
  split_ifs at hmem
  · cases hmem
    exact ⟨by decide, by decide⟩
  · cases hmem

end Ancfl.Game.Buff
