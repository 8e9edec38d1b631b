/-
  The members of the guilds over whole runs.

  * `GuildModule.Sound`: the guild of a role is the one it is a member of, the
    members are counted, a leader is among them, and names are unique;
  * `GuildModule.roster`: the guilds as a `Roster`, which the operations enter
    and leave;
  * `guilds_sound`: every run is `Sound`, as long as no new guild is given the
    id of one that has members. Ids repeat after 2^64 guilds (`not_guilds_sound`).
-/
import Ancfl.Game.Guild
import Ancfl.Lib.Roster
import Ancfl.Lib.Run

namespace Ancfl.Game.Guild

open Lib

/-! ## Tables -/

section
variable {V : Type} {m : Dict (BitVec 64) V} {k : BitVec 64} {v : V}

theorem toFinset_insert : (m.insert k v).keys.toFinset = insert k m.keys.toFinset := by
  ext k'
  rw [List.mem_toFinset, ← AList.mem_keys, AList.mem_insert, Finset.mem_insert, List.mem_toFinset,
    ← AList.mem_keys]

theorem toFinset_erase : (m.erase k).keys.toFinset = m.keys.toFinset.erase k := by
  ext k'
  rw [List.mem_toFinset, ← AList.mem_keys, AList.mem_erase, Finset.mem_erase, List.mem_toFinset,
    ← AList.mem_keys]

/-- The loop of `DissolveGuild`. -/
theorem lookup_foldl_erase (ks : List (BitVec 64)) (m : Dict (BitVec 64) V) :
    (ks.foldl (fun m k => m.erase k) m).lookup k = if k ∈ ks then none else m.lookup k := by
  induction ks generalizing m with
  | nil => rfl
  | cons k' ks ih =>
    rw [List.foldl_cons, ih, Dict.lookup_erase_iff]
    by_cases hk : k = k'
    · simp [hk]
    · simp [hk]

end

namespace GuildModule

/-- A guild as it should be. -/
structure Counts (guild : MsgGuildInfo) (members : Finset (BitVec 64)) : Prop where
  count : guild.member_count = members.card
  max : guild.max_member_count = 50
  le_max : guild.member_count ≤ guild.max_member_count
  -- `CreateGuild` alone sets `need_approval`
  led : guild.need_approval = true → guild.leader_id ∈ members

/-- What the module keeps. -/
structure Sound (s : GuildModule) : Prop where
  mapped : ∀ role_id guild_id, s.role_guild_map_.lookup role_id = some guild_id ↔
    (s.guild_cache_.lookup guild_id).isSome ∧ role_id ∈ s.members guild_id
  counted : ∀ guild_id guild, s.guild_cache_.lookup guild_id = some guild →
    guild.member_count = (s.members guild_id).keys.length ∧
      guild.member_count ≤ guild.max_member_count
  led : ∀ guild_id guild, s.guild_cache_.lookup guild_id = some guild → guild.need_approval = true →
    guild.leader_id ∈ s.members guild_id
  named : ∀ guild_id guild_id' guild guild', s.guild_cache_.lookup guild_id = some guild →
    s.guild_cache_.lookup guild_id' = some guild' → guild.guild_name = guild'.guild_name →
    guild_id = guild_id'

def roster (s : GuildModule) : Roster (BitVec 64) (BitVec 64) where
  groups := {guild_id | (s.guild_cache_.lookup guild_id).isSome}
  members := fun guild_id => (s.members guild_id).keys.toFinset
  groupOf := s.role_guild_map_.lookup

/-- The invariant, by the roster. -/
structure Inv (s : GuildModule) : Prop where
  roster : s.roster.Consistent
  counts : ∀ guild_id guild, s.guild_cache_.lookup guild_id = some guild →
    Counts guild (s.roster.members guild_id)
  named : ∀ guild_id guild_id' guild guild', s.guild_cache_.lookup guild_id = some guild →
    s.guild_cache_.lookup guild_id' = some guild' → guild.guild_name = guild'.guild_name →
    guild_id = guild_id'

variable {s t : GuildModule} {role_id guild_id : BitVec 64} {guild guild' : MsgGuildInfo}

theorem mem_members : role_id ∈ s.roster.members guild_id ↔ role_id ∈ s.members guild_id := by
  show role_id ∈ (s.members guild_id).keys.toFinset ↔ _
  rw [List.mem_toFinset, AList.mem_keys]

theorem card_members : (s.roster.members guild_id).card = (s.members guild_id).keys.length :=
  List.toFinset_card_of_nodup (s.members guild_id).keys_nodup

theorem Inv.sound (h : s.Inv) : s.Sound := by
  refine ⟨fun role_id guild_id => ?_, fun guild_id guild hguild => ?_, fun guild_id guild hguild hmade => ?_,
    h.named⟩
  · rw [← mem_members]
    exact h.roster.iff role_id guild_id
  · have hcounts := h.counts guild_id guild hguild
    rw [← card_members]
    exact ⟨hcounts.count, hcounts.le_max⟩
  · exact mem_members.1 ((h.counts guild_id guild hguild).led hmade)

/-- A guild that is changed, and its members. -/
theorem Inv.update (h : s.Inv) (hguild : s.guild_cache_.lookup guild_id = some guild)
    (hcache : t.guild_cache_ = s.guild_cache_.insert guild_id guild')
    (hname : guild'.guild_name = guild.guild_name) (hroster : t.roster.Consistent)
    (hothers : ∀ other, other ≠ guild_id → t.roster.members other = s.roster.members other)
    (hcounts : Counts guild' (t.roster.members guild_id)) : t.Inv := by
  have hlookup : ∀ other found, t.guild_cache_.lookup other = some found →
      ∃ old, s.guild_cache_.lookup other = some old ∧ old.guild_name = found.guild_name := by
    intro other found hfound
    rw [hcache, Dict.lookup_insert_iff] at hfound
    split_ifs at hfound with hother
    · cases hfound
      exact ⟨guild, hother ▸ hguild, hname.symm⟩
    · exact ⟨found, hfound, rfl⟩
  refine ⟨hroster, fun other found hfound => ?_, fun g g' a b ha hb hab => ?_⟩
  · rw [hcache, Dict.lookup_insert_iff] at hfound
    split_ifs at hfound with hother
    · cases hfound
      exact hother ▸ hcounts
    · rw [hothers other hother]
      exact h.counts other found hfound
  · obtain ⟨a', ha', haa⟩ := hlookup g a ha
    obtain ⟨b', hb', hbb⟩ := hlookup g' b hb
    exact h.named g g' a' b' ha' hb' (haa.trans (hab.trans hbb.symm))

/-! ## The operations on the roster -/

theorem members_setMembers (role_id guild_id : BitVec 64) (ms : Dict (BitVec 64) MsgGuildMemberInfo) :
    (s.setMembers guild_id ms).members role_id = if role_id = guild_id then ms else s.members role_id := by
  show ((s.member_cache_.insert guild_id ms).lookup role_id).getD ∅ = _
  rw [Dict.lookup_insert_iff]
  split_ifs <;> rfl

/-- A guild that there is may change, with its members. -/
theorem roster_insert {ms : Dict (BitVec 64) MsgGuildMemberInfo}
    (hguild : (s.guild_cache_.lookup guild_id).isSome)
    (hcache : t.guild_cache_ = s.guild_cache_.insert guild_id guild)
    (hmembers : t.member_cache_ = s.member_cache_.insert guild_id ms) :
    t.roster = ⟨s.roster.groups, Function.update s.roster.members guild_id ms.keys.toFinset,
      t.role_guild_map_.lookup⟩ := by
  unfold roster
  congr 1
  · ext other
    show (t.guild_cache_.lookup other).isSome ↔ (s.guild_cache_.lookup other).isSome
    rw [hcache, Dict.lookup_insert_iff]
    split_ifs with hother
    · rw [hother]
      exact iff_of_true rfl hguild
    · rfl
  · funext other
    have hother := members_setMembers (s := s) other guild_id ms
    show (t.members other).keys.toFinset = _
    rw [members, hmembers]
    show ((s.setMembers guild_id ms).members other).keys.toFinset = _
    rw [hother, Function.update_apply]
    split_ifs <;> rfl

theorem roster_join {now : ℤ} {position : GuildPosition}
    (hguild : (s.guild_cache_.lookup guild_id).isSome)
    (hcache : t.guild_cache_ = s.guild_cache_.insert guild_id guild)
    (hmembers : t.member_cache_ = s.member_cache_.insert guild_id
      ((s.members guild_id).insert role_id (newMember now role_id position)))
    (hmap : t.role_guild_map_ = s.role_guild_map_.insert role_id guild_id) :
    t.roster = s.roster.enter role_id guild_id := by
  rw [roster_insert hguild hcache hmembers, hmap, Dict.lookup_insert_eq, toFinset_insert]
  rfl

theorem roster_drop (hguild : s.guild_cache_.lookup guild_id = some guild) :
    (s.dropMember role_id guild_id guild).roster = s.roster.exit role_id guild_id := by
  have hsome : (s.guild_cache_.lookup guild_id).isSome := by rw [hguild]; rfl
  have hroster : (s.dropMember role_id guild_id guild).roster = _ := roster_insert hsome rfl rfl
  have hmap : (s.dropMember role_id guild_id guild).role_guild_map_ = s.role_guild_map_.erase role_id := rfl
  rw [hroster, hmap, Dict.lookup_erase_eq, toFinset_erase]
  rfl

/-- A guild of another level or with other funds. -/
theorem roster_same {ms : Dict (BitVec 64) MsgGuildMemberInfo}
    (hguild : (s.guild_cache_.lookup guild_id).isSome)
    (hcache : t.guild_cache_ = s.guild_cache_.insert guild_id guild)
    (hmembers : t.member_cache_ = s.member_cache_.insert guild_id ms)
    (hkeys : ms.keys.toFinset = (s.members guild_id).keys.toFinset)
    (hmap : t.role_guild_map_ = s.role_guild_map_) : t.roster = s.roster := by
  rw [roster_insert hguild hcache hmembers, hmap, hkeys]
  have hsame : (s.members guild_id).keys.toFinset = s.roster.members guild_id := rfl
  rw [hsame, Function.update_eq_self]
  rfl

theorem roster_setGuild (hguild : (s.guild_cache_.lookup guild_id).isSome) :
    (s.setGuild guild guild_id).roster = s.roster := by
  unfold roster
  congr 1
  ext other
  show ((s.guild_cache_.insert guild_id guild).lookup other).isSome ↔ _
  rw [Dict.lookup_insert_iff]
  split_ifs with hother
  · exact iff_of_true rfl (hother ▸ hguild)
  · rfl

/-- To look for a member makes an empty table. -/
theorem roster_setMembers_self : (s.setMembers guild_id (s.members guild_id)).roster = s.roster := by
  unfold roster
  congr 1
  funext other
  rw [members_setMembers]
  split_ifs with hother
  · rw [hother]
  · rfl

theorem isSome_of_lookup (hguild : s.guild_cache_.lookup guild_id = some guild) :
    (s.guild_cache_.lookup guild_id).isSome := by
  rw [hguild]
  rfl

/-! ## The operations keep the invariant -/

theorem Inv.of_same (h : s.Inv) (hcache : t.guild_cache_ = s.guild_cache_) (hroster : t.roster = s.roster) :
    t.Inv := by
  refine ⟨hroster ▸ h.roster, ?_, ?_⟩
  · rw [hcache, hroster]
    exact h.counts
  · rw [hcache]
    exact h.named

/-- A guild changes, but for its members and its name. -/
theorem Inv.change (h : s.Inv) (hguild : s.guild_cache_.lookup guild_id = some guild)
    (hcache : t.guild_cache_ = s.guild_cache_.insert guild_id guild') (hroster : t.roster = s.roster)
    (hname : guild'.guild_name = guild.guild_name)
    (hcounts : Counts guild (s.roster.members guild_id) → Counts guild' (s.roster.members guild_id)) :
    t.Inv := by
  refine h.update hguild hcache hname ?_ (fun other _ => ?_) ?_
  · rw [hroster]
    exact h.roster
  · rw [hroster]
  · rw [hroster]
    exact hcounts (h.counts guild_id guild hguild)

theorem Inv.join {now : ℤ} (h : s.Inv) (hrole : s.role_guild_map_.lookup role_id = none) :
    (s.join now role_id guild_id).2.Inv := by
  unfold GuildModule.join
  split
  · exact h
  · next guild hguild =>
    split_ifs with hfull
    · exact h
    have hcounts := h.counts guild_id guild hguild
    have hsome := isSome_of_lookup hguild
    have hnew : role_id ∉ s.roster.members guild_id := h.roster.not_mem hrole guild_id
    have hlt := not_le.1 hfull
    have hcount : toInt32 (guild.member_count + 1) = guild.member_count + 1 := by
      have hmax := hcounts.max
      have hcard := hcounts.count
      exact toInt32_of_lt (by omega) (by omega)
    dsimp only
    refine h.update hguild rfl rfl ?_ ?_ ?_
    all_goals rw [roster_join hsome rfl rfl rfl]
    · exact h.roster.enter hrole hsome
    · intro other hother
      exact Function.update_of_ne hother _ _
    · have hmembers : (s.roster.enter role_id guild_id).members guild_id =
          insert role_id (s.roster.members guild_id) := Function.update_self ..
      rw [hmembers]
      refine ⟨?_, hcounts.max, ?_, fun hmade => Finset.mem_insert_of_mem (hcounts.led hmade)⟩
      · rw [Finset.card_insert_of_notMem hnew]
        show toInt32 _ = _
        rw [hcount, hcounts.count]
        rfl
      · show toInt32 _ ≤ _
        rw [hcount]
        exact hlt

/-- Not the leader. -/
theorem Inv.drop (h : s.Inv) (hguild : s.guild_cache_.lookup guild_id = some guild)
    (hrole : s.role_guild_map_.lookup role_id = some guild_id) (hleader : guild.leader_id ≠ role_id) :
    (s.dropMember role_id guild_id guild).Inv := by
  have hcounts := h.counts guild_id guild hguild
  have hmem : role_id ∈ s.roster.members guild_id := ((h.roster.iff role_id guild_id).1 hrole).2
  have hcard := Finset.card_pos.2 ⟨role_id, hmem⟩
  have hcount : toInt32 (guild.member_count - 1) = guild.member_count - 1 := by
    have hmax := hcounts.max
    have hle := hcounts.le_max
    have hcard := hcounts.count
    exact toInt32_of_lt (by omega) (by omega)
  refine h.update hguild rfl rfl ?_ ?_ ?_
  all_goals rw [roster_drop hguild]
  · exact h.roster.exit hrole
  · intro other hother
    exact Function.update_of_ne hother _ _
  · have hmembers : (s.roster.exit role_id guild_id).members guild_id =
        (s.roster.members guild_id).erase role_id := Function.update_self ..
    rw [hmembers]
    have hold := hcounts.count
    have hle := hcounts.le_max
    refine ⟨?_, hcounts.max, ?_, fun hmade => Finset.mem_erase_of_ne_of_mem hleader (hcounts.led hmade)⟩
    · rw [Finset.card_erase_of_mem hmem]
      show toInt32 _ = _
      rw [hcount]
      omega
    · show toInt32 _ ≤ guild.max_member_count
      rw [hcount]
      omega

theorem roster_dissolve : GuildModule.roster { s with
    role_guild_map_ := (s.members guild_id).keys.foldl (fun m role => m.erase role) s.role_guild_map_
    member_cache_ := s.member_cache_.erase guild_id
    guild_cache_ := s.guild_cache_.erase guild_id } = s.roster.close guild_id := by
  unfold roster Roster.close
  congr 1
  · ext other
    show ((s.guild_cache_.erase guild_id).lookup other).isSome ↔
      (s.guild_cache_.lookup other).isSome ∧ other ≠ guild_id
    rw [Dict.lookup_erase_iff]
    split_ifs with hother
    · simp [hother]
    · simp [hother]
  · funext other
    show (((s.member_cache_.erase guild_id).lookup other).getD ∅).keys.toFinset =
      Function.update (fun guild_id => (s.members guild_id).keys.toFinset) guild_id ∅ other
    rw [Dict.lookup_erase_iff, Function.update_apply]
    split_ifs <;> rfl
  · funext other
    rw [lookup_foldl_erase]
    refine if_congr ?_ rfl rfl
    exact List.mem_toFinset.symm

theorem Inv.withGuild {f : BitVec 64 → MsgGuildInfo → GuildModule → Bool × GuildModule} (h : s.Inv)
    (hf : ∀ guild_id guild, s.role_guild_map_.lookup role_id = some guild_id →
      s.guild_cache_.lookup guild_id = some guild → (f guild_id guild s).2.Inv) :
    (GuildModule.withGuild role_id f s).2.Inv := by
  unfold GuildModule.withGuild
  split
  · exact h
  · next guild_id hrole =>
    split
    · exact h
    · next guild hguild => exact hf guild_id guild hrole hguild

theorem Inv.withOwnGuild {f : BitVec 64 → MsgGuildInfo → GuildModule → Bool × GuildModule} (h : s.Inv)
    (hf : ∀ guild_id guild, s.role_guild_map_.lookup role_id = some guild_id →
      s.guild_cache_.lookup guild_id = some guild → guild.leader_id = role_id → (f guild_id guild s).2.Inv) :
    (GuildModule.withOwnGuild role_id f s).2.Inv := by
  refine h.withGuild fun guild_id guild hrole hguild => ?_
  split_ifs with hleader
  · exact h
  · exact hf guild_id guild hrole hguild (not_not.1 hleader)

theorem Inv.leave (h : s.Inv) : (s.leave role_id).2.Inv := by
  refine h.withGuild fun guild_id guild hrole hguild => ?_
  split_ifs with hleader
  · exact h
  · exact h.drop hguild hrole hleader

theorem Inv.kick {target_id : BitVec 64} (h : s.Inv) : (s.kick role_id target_id).2.Inv := by
  refine h.withOwnGuild fun guild_id guild hrole hguild hleader => ?_
  split_ifs with htarget
  · exact h
  · split
    · exact h.of_same rfl roster_setMembers_self
    · next hmember =>
      have hmem : target_id ∈ s.members guild_id := AList.lookup_isSome.1 (by rw [hmember]; rfl)
      have hmapped := (h.roster.iff target_id guild_id).2 ⟨isSome_of_lookup hguild, mem_members.2 hmem⟩
      exact h.drop hguild hmapped htarget

theorem Inv.dissolve (h : s.Inv) : (s.dissolve role_id).2.Inv := by
  refine h.withOwnGuild fun guild_id guild hrole hguild hleader => ?_
  have hold : ∀ other found, (s.guild_cache_.erase guild_id).lookup other = some found →
      s.guild_cache_.lookup other = some found ∧ other ≠ guild_id := by
    intro other found hfound
    rw [Dict.lookup_erase_iff] at hfound
    split_ifs at hfound with hother
    exact ⟨hfound, hother⟩
  refine ⟨?_, fun other found hfound => ?_, fun g g' a b ha hb => ?_⟩
  · rw [roster_dissolve]
    exact h.roster.close
  · obtain ⟨hfound, hother⟩ := hold other found hfound
    rw [roster_dissolve]
    have hmembers : (s.roster.close guild_id).members other = s.roster.members other :=
      Function.update_of_ne hother _ _
    rw [hmembers]
    exact h.counts other found hfound
  · exact h.named g g' a b (hold g a ha).1 (hold g' b hb).1

theorem Inv.upgrade (h : s.Inv) : (s.upgrade role_id).2.Inv := by
  refine h.withOwnGuild fun guild_id guild hrole hguild hleader => ?_
  split_ifs
  · exact h
  · exact h.change hguild rfl (roster_setGuild (isSome_of_lookup hguild)) rfl
      fun hc => ⟨hc.count, hc.max, hc.le_max, hc.led⟩

theorem Inv.announce {announcement : String} (h : s.Inv) : (s.announce role_id announcement).2.Inv := by
  refine h.withOwnGuild fun guild_id guild hrole hguild hleader => ?_
  exact h.change hguild rfl (roster_setGuild (isSome_of_lookup hguild)) rfl
    fun hc => ⟨hc.count, hc.max, hc.le_max, hc.led⟩

theorem Inv.contribute {amount : ℤ} (h : s.Inv) : (s.contribute role_id amount).2.Inv := by
  refine h.withGuild fun guild_id guild hrole hguild => ?_
  have hsome := isSome_of_lookup hguild
  dsimp only
  split
  · refine h.change hguild rfl (roster_same hsome rfl rfl rfl rfl) rfl ?_
    exact fun hc => ⟨hc.count, hc.max, hc.le_max, hc.led⟩
  · next member hmember =>
    refine h.change hguild rfl (roster_same hsome rfl rfl ?_ rfl) rfl ?_
    · -- the contributor is a member already
      have hmem : role_id ∈ s.roster.members guild_id := ((h.roster.iff role_id guild_id).1 hrole).2
      rw [toFinset_insert]
      exact Finset.insert_eq_of_mem hmem
    · exact fun hc => ⟨hc.count, hc.max, hc.le_max, hc.led⟩

theorem Inv.memberInfo (h : s.Inv) : (s.memberInfo role_id).2.Inv := by
  unfold GuildModule.memberInfo
  split
  · exact h
  · exact h.of_same rfl roster_setMembers_self

theorem isGuildNameExist_iff {guild_name : String} : s.isGuildNameExist guild_name = true ↔
    ∃ guild_id guild, s.guild_cache_.lookup guild_id = some guild ∧ guild.guild_name = guild_name := by
  unfold isGuildNameExist
  rw [List.any_eq_true]
  constructor
  · rintro ⟨⟨guild_id, guild⟩, hmem, hname⟩
    exact ⟨guild_id, guild, AList.mem_lookup_iff.2 hmem, by simpa using hname⟩
  · rintro ⟨guild_id, guild, hguild, hname⟩
    exact ⟨⟨guild_id, guild⟩, AList.mem_lookup_iff.1 hguild, by simpa using hname⟩

/-- The new guild of `create`. -/
def newGuild (now : ℤ) (role_id : BitVec 64) (guild_name : String) (s : GuildModule) : MsgGuildInfo where
  guild_id := s.guild_id_counter + 1
  guild_name := guild_name
  leader_id := role_id
  leader_name := ""
  level := 1
  exp := 0
  member_count := 1
  max_member_count := 50
  fund := 0
  announcement := ""
  description := ""
  create_time := now
  need_approval := true

theorem create_cases (now : ℤ) (role_id : BitVec 64) (guild_name : String) (s : GuildModule) :
    (MAX_GUILD_NAME_LENGTH < guild_name.utf8ByteSize ∧ (s.create now role_id guild_name).2 = s) ∨
    (s.create now role_id guild_name).2.guild_cache_ =
        s.guild_cache_.insert (s.guild_id_counter + 1) (s.newGuild now role_id guild_name) ∧
      (s.create now role_id guild_name).2.roster =
        (s.roster.found (s.guild_id_counter + 1)).enter role_id (s.guild_id_counter + 1) ∧
      (s.create now role_id guild_name).2.guild_id_counter = s.guild_id_counter + 1 := by
  unfold create
  split_ifs with hlong
  · exact .inl ⟨hlong, rfl⟩
  · refine .inr ⟨rfl, ?_, rfl⟩
    unfold roster Roster.found Roster.enter
    congr 1
    · ext other
      show ((s.guild_cache_.insert (s.guild_id_counter + 1) _).lookup other).isSome ↔
        other = s.guild_id_counter + 1 ∨ (s.guild_cache_.lookup other).isSome
      rw [Dict.lookup_insert_iff]
      split_ifs with hother
      · exact iff_of_true rfl (.inl hother)
      · exact (or_iff_right hother).symm
    · funext other
      show ((s.setMembers (s.guild_id_counter + 1) _).members other).keys.toFinset = _
      rw [members_setMembers, Function.update_apply]
      split_ifs
      · exact toFinset_insert
      · rfl
    · exact Dict.lookup_insert_eq

theorem Inv.create {now : ℤ} {guild_name : String} (h : s.Inv)
    (hrole : s.role_guild_map_.lookup role_id = none) (hname : ¬s.isGuildNameExist guild_name = true)
    (hunused : s.roster.members (s.guild_id_counter + 1) = ∅) :
    (s.create now role_id guild_name).2.Inv := by
  rcases create_cases now role_id guild_name s with ⟨-, hsame⟩ | ⟨hcache, hroster, -⟩
  · rw [hsame]
    exact h
  refine ⟨?_, fun other found hfound => ?_, fun g g' a b ha hb hab => ?_⟩
  · rw [hroster]
    exact (h.roster.found hunused).enter hrole (Set.mem_insert _ _)
  · rw [hcache, Dict.lookup_insert_iff] at hfound
    rw [hroster]
    split_ifs at hfound with hother
    · cases hfound
      subst hother
      have hmembers : ((s.roster.found (s.guild_id_counter + 1)).enter role_id
          (s.guild_id_counter + 1)).members (s.guild_id_counter + 1) = {role_id} := by
        refine (Function.update_self ..).trans ?_
        show insert role_id (s.roster.members (s.guild_id_counter + 1)) = _
        rw [hunused]
        rfl
      rw [hmembers]
      exact ⟨rfl, rfl, show (1 : ℤ) ≤ 50 by decide, fun _ => Finset.mem_singleton_self _⟩
    · have hmembers : ((s.roster.found (s.guild_id_counter + 1)).enter role_id
          (s.guild_id_counter + 1)).members other = s.roster.members other :=
        Function.update_of_ne hother _ _
      rw [hmembers]
      exact h.counts other found hfound
  · rw [hcache, Dict.lookup_insert_iff] at ha hb
    split_ifs at ha hb with hg hg' hg'
    · rw [hg, hg']
    · cases ha
      exact absurd (isGuildNameExist_iff.2 ⟨g', b, hb, hab.symm⟩) hname
    · cases hb
      exact absurd (isGuildNameExist_iff.2 ⟨g, a, ha, hab⟩) hname
    · exact h.named g g' a b ha hb hab

end GuildModule

/-! ## Runs -/

/-- The operations but for `LoadGuildData`, which overwrites a guild. -/
def Op.IsGuild : Op → Prop
  | LoadGuildData _ => False
  | _ => True

/-- A call at a time, where an inner lock is no deadlock. -/
def Calls (s : GuildModule) (call : ℤ × Op) (t : GuildModule) : Prop :=
  call.2.IsGuild ∧ call.2.call call.1 .reentrant s = .ret () t

/-- A new guild is not given the id of one that has members. -/
def Unused (s : GuildModule) (call : ℤ × Op) : Prop :=
  ∀ role_id guild_name, call.2 = .CreateGuild role_id guild_name →
    (s.members (s.guild_id_counter + 1)).keys = []

/-- What the constructor leaves; the counter is one for all modules. -/
def constructed (now : ℤ) (guild_id_counter : BitVec 64) : GuildModule :=
  (GuildModule.load now 0 ⟨∅, ∅, ∅, guild_id_counter⟩).2

section
variable {s t : GuildModule} {call : ℤ × Op} {now : ℤ} {role_id guild_id : BitVec 64} {guild_name : String}

theorem createGuild_apply : GuildModule.CreateGuild now role_id guild_name .reentrant s =
    if s.isInGuild role_id = true then .ret none s
    else if s.isGuildNameExist guild_name = true then .ret none s
    else .ret (s.create now role_id guild_name).1 (s.create now role_id guild_name).2 := by
  have hin : GuildModule.IsInGuild role_id .reentrant s = .ret (s.isInGuild role_id) s := rfl
  have hname : GuildModule.IsGuildNameExist guild_name .reentrant s =
      .ret (s.isGuildNameExist guild_name) s := rfl
  refine (Locked.bind_apply hin).trans ?_
  split_ifs with h₁ h₂
  · rfl
  · rw [Locked.bind_apply hname, if_pos h₂]
    rfl
  · rw [Locked.bind_apply hname, if_neg h₂]
    rfl

theorem joinGuild_apply : GuildModule.JoinGuild now role_id guild_id .reentrant s =
    if s.isInGuild role_id = true then .ret false s
    else .ret (s.join now role_id guild_id).1 (s.join now role_id guild_id).2 := by
  have hin : GuildModule.IsInGuild role_id .reentrant s = .ret (s.isInGuild role_id) s := rfl
  refine (Locked.bind_apply hin).trans ?_
  split_ifs
  · rfl
  · rfl

theorem lookup_of_not_isInGuild (h : ¬s.isInGuild role_id = true) :
    s.role_guild_map_.lookup role_id = none := by
  simpa [GuildModule.isInGuild] using h

theorem Calls.inv (hs : s.Inv) (h : Calls s call t) (hunused : Unused s call) : t.Inv := by
  obtain ⟨now, op⟩ := call
  obtain ⟨hop, hcall⟩ := h
  cases op
  case CreateGuild role_id guild_name =>
    obtain ⟨b, u, hu, hret⟩ := Call.bind_eq_ret.1 hcall
    cases hret
    rw [createGuild_apply] at hu
    split_ifs at hu with hin hname
    · cases hu
      exact hs
    · cases hu
      exact hs
    · cases hu
      refine hs.create (lookup_of_not_isInGuild hin) hname ?_
      show List.toFinset _ = _
      rw [hunused role_id guild_name rfl]
      rfl
  case JoinGuild role_id guild_id =>
    obtain ⟨b, u, hu, hret⟩ := Call.bind_eq_ret.1 hcall
    cases hret
    rw [joinGuild_apply] at hu
    split_ifs at hu with hin
    · cases hu
      exact hs
    · cases hu
      exact hs.join (lookup_of_not_isInGuild hin)
  case LeaveGuild => cases hcall; exact hs.leave
  case KickMember => cases hcall; exact hs.kick
  case DissolveGuild => cases hcall; exact hs.dissolve
  case Contribute => cases hcall; exact hs.contribute
  case UpgradeGuild => cases hcall; exact hs.upgrade
  case UpdateAnnouncement => cases hcall; exact hs.announce
  case GetGuildMemberInfo => cases hcall; exact hs.memberInfo
  case LoadGuildData => exact absurd hop id
  all_goals
    cases hcall
    exact hs

theorem inv_constructed (now : ℤ) (counter : BitVec 64) : (constructed now counter).Inv := by
  have hlookup : ∀ guild_id, (constructed now counter).guild_cache_.lookup guild_id =
      if guild_id = 0 then some _ else none := fun guild_id => Dict.lookup_insert_iff
  refine ⟨⟨fun role_id guild_id => ?_, fun guild_id _ => rfl⟩, fun guild_id guild hguild => ?_,
    fun g g' a b ha hb _ => ?_⟩
  · refine iff_of_false (fun h => nomatch h) ?_
    rintro ⟨-, hmem⟩
    exact absurd hmem (Finset.notMem_empty _)
  · rw [hlookup] at hguild
    split_ifs at hguild
    cases hguild
    exact ⟨rfl, rfl, show (0 : ℤ) ≤ 50 by decide, fun h => nomatch h⟩
  · rw [hlookup] at ha hb
    split_ifs at ha hb with hg hg'
    rw [hg, hg']

end

/-- **The guilds are sound**: from the constructor on, whatever is called, as long as no new guild is
    given the id of one that has members. -/
theorem guilds_sound {now : ℤ} {counter : BitVec 64} {s : GuildModule} {calls : List (ℤ × Op)}
    (hrun : Run (fun s call t => Calls s call t ∧ Unused s call) (constructed now counter) calls s) :
    s.Sound :=
  (hrun.invariant (P := GuildModule.Inv) (fun _ _ _ hs h => h.1.inv hs h.2)
    (inv_constructed now counter)).sound

/-- A role founds a guild, another one joins it and is kicked. -/
theorem guilds_sound_two : ∃ s, Run (fun s call t => Calls s call t ∧ Unused s call) (constructed 0 1000)
    [(1, .CreateGuild 5 "A"), (2, .JoinGuild 6 1001), (3, .KickMember 5 6)] s ∧ s.Sound := by
  have hrun : Run (fun s call t => Calls s call t ∧ Unused s call) (constructed 0 1000)
      [(1, .CreateGuild 5 "A"), (2, .JoinGuild 6 1001), (3, .KickMember 5 6)] _ :=
    .cons ⟨⟨trivial, rfl⟩, fun _ _ _ => rfl⟩ (.cons ⟨⟨trivial, rfl⟩, fun _ _ h => nomatch h⟩
      (.cons ⟨⟨trivial, rfl⟩, fun _ _ h => nomatch h⟩ (.nil _)))
  exact ⟨_, hrun, guilds_sound hrun⟩

/-! ## An id that is used again -/

/-- Role 5 is in guild 0, and there is no other guild. -/
def one : Roster (BitVec 64) (BitVec 64) where
  groups := {0}
  members := fun guild_id => if guild_id = 0 then {5} else ∅
  groupOf := fun role_id => if role_id = 5 then some 0 else none

/-- So many ids are used up. -/
structure Used (n : ℕ) (s : GuildModule) : Prop where
  roster : s.roster = one
  counter : s.guild_id_counter.toNat = 1000 + n
  named : ¬s.isGuildNameExist "A" = true

section
variable {s : GuildModule} {n : ℕ}

theorem used_joined : Used 0 ((constructed 0 1000).join 0 5 0).2 := by
  refine ⟨?_, rfl, by decide⟩
  have hjoin : ((constructed 0 1000).join 0 5 0).2.roster = (constructed 0 1000).roster.enter 5 0 :=
    GuildModule.roster_join rfl rfl rfl rfl
  rw [hjoin]
  unfold Roster.enter one
  congr 1
  · ext guild_id
    show (((∅ : Dict (BitVec 64) MsgGuildInfo).insert 0 _).lookup guild_id).isSome ↔ guild_id = 0
    rw [Dict.lookup_insert_iff]
    split_ifs with h
    · exact iff_of_true rfl h
    · exact iff_of_false (fun h => nomatch h) h
  · funext guild_id
    rw [Function.update_apply]
    rfl
  · funext role_id
    rw [Function.update_apply]
    rfl

/-- Role 6 founds a guild. -/
theorem Used.create (h : Used n s) :
    Calls s (0, .CreateGuild 6 "A") (s.create 0 6 "A").2 ∧
    (s.create 0 6 "A").2.guild_cache_ =
      s.guild_cache_.insert (s.guild_id_counter + 1) (s.newGuild 0 6 "A") ∧
    (s.create 0 6 "A").2.roster = (one.found (s.guild_id_counter + 1)).enter 6 (s.guild_id_counter + 1) ∧
    (s.create 0 6 "A").2.guild_id_counter = s.guild_id_counter + 1 := by
  have hin : ¬s.isInGuild 6 = true := by
    have hgroup : s.role_guild_map_.lookup 6 = one.groupOf 6 := by rw [← h.roster]; rfl
    rw [GuildModule.isInGuild, hgroup]
    decide
  refine ⟨⟨trivial, ?_⟩, ?_⟩
  · have hcreate : GuildModule.CreateGuild 0 6 "A" .reentrant s =
        .ret (s.create 0 6 "A").1 (s.create 0 6 "A").2 := by
      rw [createGuild_apply, if_neg hin, if_neg h.named]
    exact Locked.bind_apply hcreate
  · rcases GuildModule.create_cases 0 6 "A" s with ⟨hlong, -⟩ | hnew
    · exact absurd hlong (by decide)
    · rw [h.roster] at hnew
      exact hnew

theorem one_consistent : one.Consistent := by
  refine ⟨fun role_id guild_id => ?_, fun guild_id h => if_neg h⟩
  show (if role_id = 5 then some 0 else none) = some guild_id ↔
    guild_id = 0 ∧ role_id ∈ (if guild_id = 0 then {5} else ∅ : Finset (BitVec 64))
  by_cases hguild : guild_id = 0
  · simp [hguild]
  · refine iff_of_false ?_ fun h => hguild h.1
    split_ifs
    · exact fun h => hguild (Option.some.inj h).symm
    · exact fun h => nomatch h

/-- **Founded and dissolved**, a guild uses an id up. -/
theorem Used.next (h : Used n s) (hn : 1001 + n < 2 ^ 64) :
    ∃ t, Run Calls s [(0, .CreateGuild 6 "A"), (0, .DissolveGuild 6)] t ∧ Used (n + 1) t := by
  obtain ⟨hcall, hcache, hroster, hcounter⟩ := h.create
  have hid : (s.guild_id_counter + 1).toNat = 1001 + n := by
    rw [BitVec.toNat_add, h.counter]
    show (1000 + n + 1) % 2 ^ 64 = _
    omega
  have hne : s.guild_id_counter + 1 ≠ 0 := by
    intro hzero
    rw [hzero] at hid
    change 0 = 1001 + n at hid
    omega
  generalize (s.create 0 6 "A").2 = t at hcall hcache hroster hcounter
  generalize s.guild_id_counter + 1 = guild_id at hid hne hcache hroster hcounter
  have hrole : t.role_guild_map_.lookup 6 = some guild_id := by
    have hgroup : t.roster.groupOf = Function.update one.groupOf 6 (some guild_id) := by
      rw [hroster]
      rfl
    exact (congrFun hgroup 6).trans (Function.update_self ..)
  have hguild : t.guild_cache_.lookup guild_id = some (s.newGuild 0 6 "A") := by
    rw [hcache]
    exact AList.lookup_insert _
  have hdissolve : (t.dissolve 6).2 = { t with
      role_guild_map_ := (t.members guild_id).keys.foldl (fun m role => m.erase role) t.role_guild_map_
      member_cache_ := t.member_cache_.erase guild_id
      guild_cache_ := t.guild_cache_.erase guild_id } := by
    unfold GuildModule.dissolve GuildModule.withOwnGuild GuildModule.withGuild
    simp only [hrole, hguild]
    exact congrArg Prod.snd (if_neg (not_not.2 rfl))
  refine ⟨(t.dissolve 6).2, .cons hcall (.cons ⟨trivial, rfl⟩ (.nil _)), ?_⟩
  rw [hdissolve]
  refine ⟨?_, ?_, ?_⟩
  · rw [GuildModule.roster_dissolve, hroster]
    exact one_consistent.close_enter_found rfl hne
  · show t.guild_id_counter.toNat = _
    rw [hcounter, hid]
    omega
  · rw [GuildModule.isGuildNameExist_iff]
    rintro ⟨other, guild, hother, hname⟩
    refine h.named (GuildModule.isGuildNameExist_iff.2 ⟨other, guild, ?_, hname⟩)
    have hlookup := hother
    rw [hcache, Dict.lookup_erase_iff] at hlookup
    split_ifs at hlookup with hne
    rwa [Dict.lookup_insert_iff, if_neg hne] at hlookup

theorem exists_used (n : ℕ) (hn : 1000 + n < 2 ^ 64) :
    ∃ calls s, Run Calls (constructed 0 1000) calls s ∧ Used n s := by
  induction n with
  | zero => exact ⟨[(0, .JoinGuild 5 0)], _, .cons ⟨trivial, rfl⟩ (.nil _), used_joined⟩
  | succ n ih =>
    obtain ⟨calls, s, hrun, hused⟩ := ih (by omega)
    obtain ⟨t, hnext, ht⟩ := hused.next (by omega)
    exact ⟨_, t, Run.append_iff.2 ⟨s, hrun, hnext⟩, ht⟩

end

/-- The guild after 2^64 ids overwrites the one of role 5, which stays in its table. -/
theorem not_guilds_sound : ¬∀ now calls s, Run Calls (constructed now 1000) calls s → s.Sound := by
  intro h
  obtain ⟨calls, s, hrun, hused⟩ := exists_used (2 ^ 64 - 1001) (by omega)
  obtain ⟨hcall, hcache, hroster, -⟩ := hused.create
  have hzero : s.guild_id_counter + 1 = 0 := by
    refine BitVec.eq_of_toNat_eq ?_
    rw [BitVec.toNat_add, hused.counter]
    rfl
  rw [hzero] at hcache hroster
  have hsound := h 0 _ _ (Run.snoc_iff.2 ⟨s, hrun, hcall⟩)
  have hguild : (s.create 0 6 "A").2.guild_cache_.lookup 0 = some (s.newGuild 0 6 "A") := by
    rw [hcache]
    exact AList.lookup_insert _
  have hcount := (hsound.counted 0 _ hguild).1
  rw [← GuildModule.card_members, hroster] at hcount
  change (1 : ℤ) = (((one.found 0).enter 6 0).members 0).card at hcount
  exact absurd hcount (by decide)

end Ancfl.Game.Guild
