/-
  `SceneModule`: scenes, their objects, and where the players are.

  * `Op`: scenes are made and destroyed, players enter and leave, and `OnTimer`
    destroys the empty scenes that are old;
  * `SceneModule.Sound`: `player_scene_map_` says where the players are, there
    are objects for the scenes and for no others, and no scene has too many
    players;
  * `SceneModule.roster`: the scenes as a `Roster`;
  * `scenes_sound_iff`: the module is sound all along a run if and only if no
    scene with players is destroyed or made anew (`Spared`). `DestroyScene` leaves
    the players of the scene in `player_scene_map_` (`not_scenes_sound`).
-/
import Ancfl.Lib.Dict
import Ancfl.Lib.Int32
import Ancfl.Lib.Mutex
import Ancfl.Lib.Roster
import Ancfl.Lib.Run

namespace Ancfl.Game.Scene

open Lib

inductive SceneObjectType
  | NONE | PLAYER | MONSTER | NPC | ITEM | BULLET | SKILL
deriving DecidableEq

/-- The coordinates are left out. -/
structure SceneObject where
  object_id : BitVec 64
  type : SceneObjectType
  owner_id : BitVec 64
  hp : ℤ
  max_hp : ℤ
  is_alive : Bool
  create_time : ℤ
deriving DecidableEq

structure SceneInfo where
  scene_id : ℤ
  scene_config_id : ℤ
  scene_name : String
  max_player_count : ℤ
  scene_type : ℤ
  create_time : ℤ
  is_active : Bool
deriving DecidableEq

abbrev Objects := Dict (BitVec 64) SceneObject

/-- `next_id` is a static variable of `GenerateSceneId`. -/
structure SceneModule where
  scene_cache_ : Dict ℤ SceneInfo
  scene_objects_ : Dict ℤ Objects
  player_scene_map_ : Dict (BitVec 64) ℤ
  next_id : ℤ

def SceneObject.isPlayer (object : SceneObject) : Bool := object.type = .PLAYER

/-- `player_count` of `PlayerEnterScene`. -/
def playerCount (objects : Objects) : ℤ := objects.entries.countP fun e => e.2.isPlayer

def newScene (now scene_id scene_config_id : ℤ) : SceneInfo :=
  ⟨scene_id, scene_config_id, "Scene_" ++ toString scene_id, 100, 1, now, true⟩

def newPlayer (now : ℤ) (role_id : BitVec 64) : SceneObject := ⟨role_id, .PLAYER, role_id, 1000, 1000, true, now⟩

namespace SceneModule

/-! ## The operations -/

def setObjects (scene_id : ℤ) (objects : Objects) (s : SceneModule) : SceneModule :=
  { s with scene_objects_ := s.scene_objects_.insert scene_id objects }

/-- `scene_objects_[scene_id]` -/
def objects (scene_id : ℤ) (s : SceneModule) : Objects := (s.scene_objects_.lookup scene_id).getD ∅

/-- Take an object out of a scene, if there are objects of it. -/
def removeObject (scene_id : ℤ) (object_id : BitVec 64) (s : SceneModule) : SceneModule :=
  match s.scene_objects_.lookup scene_id with
  | none => s
  | some objects => s.setObjects scene_id (objects.erase object_id)

def CreateScene (now scene_config_id : ℤ) : Locked SceneModule ℤ :=
  .lockGuard (.perform fun s =>
    (s.next_id, { s with
      scene_cache_ := s.scene_cache_.insert s.next_id (newScene now s.next_id scene_config_id)
      scene_objects_ := s.scene_objects_.insert s.next_id ∅
      next_id := toInt32 (s.next_id + 1) }))

def DestroyScene (scene_id : ℤ) : Locked SceneModule Bool :=
  .lockGuard (.perform fun s =>
    match s.scene_cache_.lookup scene_id with
    | none => (false, s)
    | some _ => (true, { s with
      scene_objects_ := s.scene_objects_.erase scene_id
      scene_cache_ := s.scene_cache_.erase scene_id }))

/-- The player is taken out of the scene it is in, if that is another one. -/
def leaveOther (role_id : BitVec 64) (scene_id : ℤ) (s : SceneModule) : SceneModule :=
  match s.player_scene_map_.lookup role_id with
  | none => s
  | some old_scene_id => if old_scene_id ≠ scene_id then s.removeObject old_scene_id role_id else s

def PlayerEnterScene (now : ℤ) (role_id : BitVec 64) (scene_id : ℤ) : Locked SceneModule Bool :=
  .lockGuard (.perform fun s =>
    match s.scene_cache_.lookup scene_id with
    | none => (false, s)
    | some info =>
      let s := s.setObjects scene_id (s.objects scene_id)
      if info.max_player_count ≤ playerCount (s.objects scene_id) then (false, s)
      else
        let s := s.leaveOther role_id scene_id
        let s := s.setObjects scene_id ((s.objects scene_id).insert role_id (newPlayer now role_id))
        (true, { s with player_scene_map_ := s.player_scene_map_.insert role_id scene_id }))

def PlayerLeaveScene (role_id : BitVec 64) : Locked SceneModule Bool :=
  .lockGuard (.perform fun s =>
    match s.player_scene_map_.lookup role_id with
    | none => (false, s)
    | some scene_id =>
      let s := s.removeObject scene_id role_id
      (true, { s with player_scene_map_ := s.player_scene_map_.erase role_id }))

/-- The scenes without objects that are older than five minutes. -/
def scenesToDestroy (now : ℤ) (s : SceneModule) : List ℤ :=
  (s.scene_cache_.entries.filter fun e =>
    match s.scene_objects_.lookup e.1 with
    | none => false
    | some objects => objects.entries.isEmpty && decide (300 < now - e.2.create_time)).map (·.1)

def OnTimer (now : ℤ) : Locked SceneModule Unit :=
  .lockGuard (.perform fun s =>
    ((), { s with
      scene_objects_ := s.scene_objects_.eraseAll (s.scenesToDestroy now)
      scene_cache_ := s.scene_cache_.eraseAll (s.scenesToDestroy now) }))

end SceneModule

inductive Op
  | CreateScene (scene_config_id : ℤ)
  | DestroyScene (scene_id : ℤ)
  | PlayerEnterScene (role_id : BitVec 64) (scene_id : ℤ)
  | PlayerLeaveScene (role_id : BitVec 64)
  | OnTimer

/-- A call of an operation at the time `now`; what it returns is left out. -/
def Op.call (now : ℤ) : Op → Locked SceneModule Unit
  | CreateScene scene_config_id => do let _ ← SceneModule.CreateScene now scene_config_id
  | DestroyScene scene_id => do let _ ← SceneModule.DestroyScene scene_id
  | PlayerEnterScene role_id scene_id => do let _ ← SceneModule.PlayerEnterScene now role_id scene_id
  | PlayerLeaveScene role_id => do let _ ← SceneModule.PlayerLeaveScene role_id
  | OnTimer => SceneModule.OnTimer now

/-- After the constructor, where the counter of the ids is at `start`. -/
def constructed (start : ℤ) : SceneModule := ⟨∅, ∅, ∅, start⟩

/-! ## What should hold -/

namespace SceneModule

/-- A role is a player of a scene. -/
def IsPlayer (s : SceneModule) (scene_id : ℤ) (role_id : BitVec 64) : Prop :=
  ∃ object, (s.objects scene_id).lookup role_id = some object ∧ object.type = .PLAYER

structure Sound (s : SceneModule) : Prop where
  map : ∀ role_id scene_id, s.player_scene_map_.lookup role_id = some scene_id ↔
    (s.scene_cache_.lookup scene_id).isSome ∧ s.IsPlayer scene_id role_id
  unique : ∀ role_id scene_id scene_id', s.IsPlayer scene_id role_id → s.IsPlayer scene_id' role_id →
    scene_id = scene_id'
  keys : ∀ scene_id, (s.scene_cache_.lookup scene_id).isSome ↔ (s.scene_objects_.lookup scene_id).isSome
  full : ∀ scene_id info, s.scene_cache_.lookup scene_id = some info →
    playerCount (s.objects scene_id) ≤ info.max_player_count

end SceneModule

/-! ## The players of a scene -/

/-- The ids of the players among some objects. -/
def players (objects : Objects) : Finset (BitVec 64) :=
  ((objects.entries.filter fun e => e.2.isPlayer).map (·.1)).toFinset

section
variable {objects : Objects} {role_id : BitVec 64} {object : SceneObject}

theorem mem_players : role_id ∈ players objects ↔
    ∃ object, objects.lookup role_id = some object ∧ object.type = .PLAYER := by
  unfold players
  rw [List.mem_toFinset, List.mem_map]
  constructor
  · rintro ⟨⟨_, object⟩, hmem, rfl⟩
    obtain ⟨hentry, hplayer⟩ := List.mem_filter.1 hmem
    exact ⟨object, AList.mem_lookup_iff.2 hentry, by simpa [SceneObject.isPlayer] using hplayer⟩
  · rintro ⟨object, hlookup, hplayer⟩
    exact ⟨⟨role_id, object⟩, List.mem_filter.2 ⟨AList.mem_lookup_iff.1 hlookup,
      by simpa [SceneObject.isPlayer] using hplayer⟩, rfl⟩

theorem card_players : ((players objects).card : ℤ) = playerCount objects := by
  have hnodup : ((objects.entries.filter fun e => e.2.isPlayer).map (·.1)).Nodup :=
    objects.keys_nodup.sublist (List.filter_sublist.map _)
  rw [players, List.toFinset_card_of_nodup hnodup, List.length_map, playerCount, List.countP_eq_length_filter]

@[simp] theorem players_empty : players ∅ = ∅ := rfl

theorem players_insert (hplayer : object.type = .PLAYER) :
    players (objects.insert role_id object) = insert role_id (players objects) := by
  ext other
  rw [mem_players, Finset.mem_insert, mem_players, Dict.lookup_insert_iff]
  by_cases hother : other = role_id
  · simp [hother, hplayer]
  · simp [hother]

theorem players_erase : players (objects.erase role_id) = (players objects).erase role_id := by
  ext other
  rw [mem_players, Finset.mem_erase, mem_players, Dict.lookup_erase_iff]
  by_cases hother : other = role_id
  · simp [hother]
  · simp [hother]

end

/-! ## The operations on the roster -/

namespace SceneModule

def roster (s : SceneModule) : Roster (BitVec 64) ℤ where
  groups := {scene_id | (s.scene_cache_.lookup scene_id).isSome}
  members := fun scene_id => players (s.objects scene_id)
  groupOf := s.player_scene_map_.lookup

/-- The same, by the roster. -/
structure Inv (s : SceneModule) : Prop where
  roster : s.roster.Consistent
  keys : ∀ scene_id, (s.scene_cache_.lookup scene_id).isSome ↔ (s.scene_objects_.lookup scene_id).isSome
  full : ∀ scene_id info, s.scene_cache_.lookup scene_id = some info →
    ((s.roster.members scene_id).card : ℤ) ≤ info.max_player_count

variable {s t : SceneModule} {now scene_id scene_id' : ℤ} {role_id : BitVec 64} {objects : Objects} {info : SceneInfo}

theorem mem_members : role_id ∈ s.roster.members scene_id ↔ s.IsPlayer scene_id role_id := mem_players

theorem objects_of_lookup (h : s.scene_objects_.lookup scene_id = some objects) : s.objects scene_id = objects := by
  rw [SceneModule.objects, h]
  rfl

theorem sound_iff : s.Sound ↔ s.Inv := by
  constructor
  · intro h
    refine ⟨⟨fun role_id scene_id => ?_, fun scene_id hscene => ?_⟩, h.keys, fun scene_id info hinfo => ?_⟩
    · rw [mem_members]
      exact h.map role_id scene_id
    · have hnone : s.scene_objects_.lookup scene_id = none :=
        Option.not_isSome_iff_eq_none.1 fun hsome => hscene ((h.keys scene_id).2 hsome)
      show players (s.objects scene_id) = ∅
      rw [SceneModule.objects, hnone]
      rfl
    · exact card_players.trans_le (h.full scene_id info hinfo)
  · intro h
    refine ⟨fun role_id scene_id => ?_, fun role_id scene_id scene_id' hmem hmem' => ?_, h.keys,
      fun scene_id info hinfo => ?_⟩
    · rw [← mem_members]
      exact h.roster.iff role_id scene_id
    · exact h.roster.unique (mem_members.2 hmem) (mem_members.2 hmem')
    · exact card_players.symm.trans_le (h.full scene_id info hinfo)

/-- The players after the objects of a scene are written. -/
theorem members_insert (h : t.scene_objects_ = s.scene_objects_.insert scene_id objects) :
    t.roster.members = Function.update s.roster.members scene_id (players objects) := by
  funext other
  show players (t.objects other) = _
  rw [SceneModule.objects, h, Dict.lookup_insert_iff, Function.update_apply]
  split_ifs <;> rfl

theorem members_erase (h : t.scene_objects_ = s.scene_objects_.erase scene_id) :
    t.roster.members = Function.update s.roster.members scene_id ∅ := by
  funext other
  show players (t.objects other) = _
  rw [SceneModule.objects, h, Dict.lookup_erase_iff, Function.update_apply]
  split_ifs <;> rfl

/-- A scene of which the players are lost, but not from the map. -/
theorem not_consistent (h : s.roster.Consistent) (hplayers : s.roster.members scene_id ≠ ∅)
    (hmembers : t.roster.members = Function.update s.roster.members scene_id ∅)
    (hmap : t.player_scene_map_ = s.player_scene_map_) : ¬t.roster.Consistent := by
  intro ht
  obtain ⟨role_id, hrole⟩ := Finset.nonempty_iff_ne_empty.2 hplayers
  have hgroup : s.roster.groupOf role_id = some scene_id := by
    refine (h.iff role_id scene_id).2 ⟨?_, hrole⟩
    by_contra hmissing
    exact hplayers (h.missing scene_id hmissing)
  have hgroup' : t.roster.groupOf role_id = some scene_id := by
    show t.player_scene_map_.lookup role_id = some scene_id
    rw [hmap]
    exact hgroup
  have hmem := ((ht.iff role_id scene_id).1 hgroup').2
  rw [hmembers, Function.update_self] at hmem
  simp at hmem

theorem removeObject_members (object_id : BitVec 64) : (s.removeObject scene_id object_id).roster.members =
    Function.update s.roster.members scene_id ((s.roster.members scene_id).erase object_id) := by
  unfold removeObject
  cases hobjects : s.scene_objects_.lookup scene_id with
  | none =>
    have hempty : s.roster.members scene_id = ∅ := by
      show players (s.objects scene_id) = ∅
      rw [SceneModule.objects, hobjects]
      rfl
    rw [hempty, Finset.erase_empty, ← hempty, Function.update_eq_self]
  | some objects =>
    have hmembers : (s.setObjects scene_id (objects.erase object_id)).roster.members = _ := members_insert rfl
    dsimp only
    rw [hmembers, players_erase]
    congr 2
    show _ = players (s.objects scene_id)
    rw [objects_of_lookup hobjects]

theorem removeObject_keys (object_id : BitVec 64) :
    ((s.removeObject scene_id object_id).scene_objects_.lookup scene_id').isSome ↔
      (s.scene_objects_.lookup scene_id').isSome := by
  unfold removeObject
  split
  · rfl
  · rename_i objects hobjects
    show ((s.scene_objects_.insert scene_id (objects.erase object_id)).lookup scene_id').isSome ↔ _
    rw [Dict.lookup_insert_iff]
    split_ifs with hid
    · rw [hid, hobjects]
      exact iff_of_true rfl rfl
    · rfl

/-! ## A step -/

/-- The module after `CreateScene`. -/
def created (now scene_config_id : ℤ) (s : SceneModule) : SceneModule :=
  { s with
    scene_cache_ := s.scene_cache_.insert s.next_id (newScene now s.next_id scene_config_id)
    scene_objects_ := s.scene_objects_.insert s.next_id ∅
    next_id := toInt32 (s.next_id + 1) }

theorem inv_created_iff (h : s.Inv) (now scene_config_id : ℤ) :
    (s.created now scene_config_id).Inv ↔ s.roster.members s.next_id = ∅ := by
  have hmembers : (s.created now scene_config_id).roster.members =
      Function.update s.roster.members s.next_id ∅ :=
    @members_insert s (s.created now scene_config_id) s.next_id ∅ rfl
  constructor
  · intro ht
    by_contra hplayers
    exact not_consistent h.roster hplayers hmembers rfl ht.roster
  · intro hnone
    have hroster : (s.created now scene_config_id).roster = s.roster.found s.next_id := by
      have hgroups : (s.created now scene_config_id).roster.groups = insert s.next_id s.roster.groups := by
        ext other
        show ((s.scene_cache_.insert s.next_id _).lookup other).isSome ↔
          other = s.next_id ∨ (s.scene_cache_.lookup other).isSome
        rw [Dict.lookup_insert_iff]
        split_ifs with hother
        · exact iff_of_true rfl (.inl hother)
        · exact (or_iff_right hother).symm
      have hsame : (s.created now scene_config_id).roster.members = s.roster.members := by
        rw [hmembers, ← hnone, Function.update_eq_self]
      exact Roster.ext hgroups hsame rfl
    refine ⟨hroster ▸ h.roster.found hnone, fun other => ?_, fun other info hinfo => ?_⟩
    · show ((s.scene_cache_.insert s.next_id _).lookup other).isSome ↔
        ((s.scene_objects_.insert s.next_id ∅).lookup other).isSome
      rw [Dict.lookup_insert_iff, Dict.lookup_insert_iff]
      split_ifs
      · exact iff_of_true rfl rfl
      · exact h.keys other
    · have hinfo : (s.scene_cache_.insert s.next_id _).lookup other = some info := hinfo
      rw [Dict.lookup_insert_iff] at hinfo
      rw [hmembers, Function.update_apply]
      split_ifs at hinfo ⊢
      · cases hinfo
        exact (show (0 : ℤ) ≤ 100 by decide)
      · exact h.full other info hinfo

/-- Scenes are taken out of both maps. -/
theorem Inv.drop {gone : List ℤ} (h : s.Inv) (hcache : t.scene_cache_ = s.scene_cache_.eraseAll gone)
    (hobjects : t.scene_objects_ = s.scene_objects_.eraseAll gone)
    (hmap : t.player_scene_map_ = s.player_scene_map_) (hgone : ∀ scene_id ∈ gone, s.roster.members scene_id = ∅) :
    t.Inv := by
  have hmembers : t.roster.members = s.roster.members := by
    funext other
    show players (t.objects other) = players (s.objects other)
    rw [SceneModule.objects, hobjects, Dict.lookup_eraseAll]
    split_ifs with hother
    · exact (hgone other hother).symm
    · rfl
  have hroster : t.roster = s.roster.drop {scene_id | scene_id ∈ gone} := by
    have hgroups : t.roster.groups = s.roster.groups \ {scene_id | scene_id ∈ gone} := by
      ext other
      show (t.scene_cache_.lookup other).isSome ↔ (s.scene_cache_.lookup other).isSome ∧ ¬other ∈ gone
      rw [hcache, Dict.lookup_eraseAll]
      split_ifs with hother
      · exact iff_of_false Bool.false_ne_true fun hand => hand.2 hother
      · exact (and_iff_left hother).symm
    have hgroupOf : t.roster.groupOf = s.roster.groupOf :=
      funext fun role_id => congrArg (AList.lookup role_id) hmap
    exact Roster.ext hgroups hmembers hgroupOf
  refine ⟨hroster ▸ h.roster.drop hgone, fun other => ?_, fun other info hinfo => ?_⟩
  · rw [hcache, hobjects, Dict.lookup_eraseAll, Dict.lookup_eraseAll]
    split_ifs
    · rfl
    · exact h.keys other
  · rw [hcache, Dict.lookup_eraseAll] at hinfo
    split_ifs at hinfo
    rw [hmembers]
    exact h.full other info hinfo

/-- The module after `DestroyScene` of a scene that there is. -/
def destroyed (scene_id : ℤ) (s : SceneModule) : SceneModule :=
  { s with
    scene_objects_ := s.scene_objects_.erase scene_id
    scene_cache_ := s.scene_cache_.erase scene_id }

theorem inv_destroyed_iff (h : s.Inv) : (s.destroyed scene_id).Inv ↔ s.roster.members scene_id = ∅ := by
  constructor
  · intro ht
    by_contra hplayers
    exact not_consistent h.roster hplayers (@members_erase s (s.destroyed scene_id) scene_id rfl) rfl ht.roster
  · intro hnone
    exact @Inv.drop s (s.destroyed scene_id) [scene_id] h rfl rfl rfl fun other hother => by
      rw [List.mem_singleton.1 hother, hnone]

theorem members_of_mem_scenesToDestroy (h : scene_id ∈ s.scenesToDestroy now) : s.roster.members scene_id = ∅ := by
  obtain ⟨⟨_, info⟩, hmem, rfl⟩ := List.mem_map.1 h
  have hold := (List.mem_filter.1 hmem).2
  dsimp only at hold ⊢
  show players (s.objects _) = ∅
  rw [SceneModule.objects]
  cases hobjects : s.scene_objects_.lookup _ with
  | none => rfl
  | some objects =>
    rw [hobjects] at hold
    have hempty : objects.entries = [] := by
      simp only [Bool.and_eq_true] at hold
      exact List.isEmpty_iff.1 hold.1
    show players objects = ∅
    rw [players, hempty]
    rfl

theorem removeObject_cache (object_id : BitVec 64) :
    (s.removeObject scene_id object_id).scene_cache_ = s.scene_cache_ := by
  unfold removeObject
  split <;> rfl

theorem removeObject_map (object_id : BitVec 64) :
    (s.removeObject scene_id object_id).player_scene_map_ = s.player_scene_map_ := by
  unfold removeObject
  split <;> rfl

/-- The module after a player has left. -/
def exited (role_id : BitVec 64) (scene_id : ℤ) (s : SceneModule) : SceneModule :=
  let s := s.removeObject scene_id role_id
  { s with player_scene_map_ := s.player_scene_map_.erase role_id }

theorem exited_roster : (s.exited role_id scene_id).roster = s.roster.exit role_id scene_id := by
  refine Roster.ext ?_ (removeObject_members role_id) ?_
  · ext other
    show ((s.removeObject scene_id role_id).scene_cache_.lookup other).isSome ↔ _
    rw [removeObject_cache]
    rfl
  · funext other
    show ((s.removeObject scene_id role_id).player_scene_map_.erase role_id).lookup other = _
    rw [removeObject_map]
    exact congrFun Dict.lookup_erase_eq other

/-- A player comes or goes. -/
theorem Inv.of_roster (h : s.Inv) (hcache : t.scene_cache_ = s.scene_cache_)
    (hkeys : ∀ other, (t.scene_objects_.lookup other).isSome ↔ (s.scene_objects_.lookup other).isSome)
    (hroster : t.roster.Consistent)
    (hfull : ∀ other info, s.scene_cache_.lookup other = some info →
      ((t.roster.members other).card : ℤ) ≤ info.max_player_count) : t.Inv := by
  refine ⟨hroster, fun other => ?_, fun other info hinfo => ?_⟩
  · rw [hcache, hkeys]
    exact h.keys other
  · rw [hcache] at hinfo
    exact hfull other info hinfo

theorem card_exit_le {m : Roster (BitVec 64) ℤ} (other : ℤ) :
    ((m.exit role_id scene_id).members other).card ≤ (m.members other).card :=
  Finset.card_le_card fun _ hr => (Roster.mem_members_exit.1 hr).1

theorem Inv.leave (h : s.Inv) (hrole : s.player_scene_map_.lookup role_id = some scene_id) :
    (s.exited role_id scene_id).Inv := by
  refine h.of_roster (removeObject_cache role_id) (fun other => removeObject_keys role_id) ?_ ?_
  · rw [exited_roster]
    exact h.roster.exit hrole
  · intro other info hinfo
    have hle := @card_exit_le scene_id role_id s.roster other
    have hfull := h.full other info hinfo
    rw [exited_roster]
    omega

/-- What `leaveOther` leaves of the players. -/
theorem leaveOther_spec (s : SceneModule) (role_id : BitVec 64) (scene_id : ℤ) :
    (s.leaveOther role_id scene_id).scene_cache_ = s.scene_cache_ ∧
      (s.leaveOther role_id scene_id).player_scene_map_ = s.player_scene_map_ ∧
      (∀ other, ((s.leaveOther role_id scene_id).scene_objects_.lookup other).isSome ↔
        (s.scene_objects_.lookup other).isSome) ∧
      (s.leaveOther role_id scene_id).roster.members =
        (match s.player_scene_map_.lookup role_id with
          | none => s.roster
          | some old => if old ≠ scene_id then s.roster.exit role_id old else s.roster).members := by
  unfold leaveOther
  cases hrole : s.player_scene_map_.lookup role_id with
  | none => exact ⟨rfl, rfl, fun _ => Iff.rfl, rfl⟩
  | some old =>
    dsimp only
    split_ifs with hne
    · exact ⟨removeObject_cache _, removeObject_map _, fun _ => removeObject_keys _, removeObject_members _⟩
    · exact ⟨rfl, rfl, fun _ => Iff.rfl, rfl⟩

/-- The module after a player has entered. -/
def entered (now : ℤ) (role_id : BitVec 64) (scene_id : ℤ) (s : SceneModule) : SceneModule :=
  let s := s.leaveOther role_id scene_id
  { s with
    scene_objects_ := s.scene_objects_.insert scene_id
      ((s.objects scene_id).insert role_id (newPlayer now role_id))
    player_scene_map_ := s.player_scene_map_.insert role_id scene_id }

theorem entered_roster (h : s.Inv) :
    (s.entered now role_id scene_id).roster =
      (match s.player_scene_map_.lookup role_id with
        | none => s.roster.enter role_id scene_id
        | some old => if old ≠ scene_id then (s.roster.exit role_id old).enter role_id scene_id
          else s.roster) := by
  obtain ⟨hcache, hmap, -, hmembers⟩ := leaveOther_spec s role_id scene_id
  have hgroups : (s.entered now role_id scene_id).roster.groups = s.roster.groups := by
    ext other
    show ((s.leaveOther role_id scene_id).scene_cache_.lookup other).isSome ↔ _
    rw [hcache]
    rfl
  have hgroupOf : (s.entered now role_id scene_id).roster.groupOf =
      Function.update s.roster.groupOf role_id (some scene_id) := by
    funext other
    show ((s.leaveOther role_id scene_id).player_scene_map_.insert role_id scene_id).lookup other = _
    rw [hmap]
    exact congrFun Dict.lookup_insert_eq other
  have hentered : (s.entered now role_id scene_id).roster.members =
      Function.update (s.leaveOther role_id scene_id).roster.members scene_id
        (insert role_id ((s.leaveOther role_id scene_id).roster.members scene_id)) := by
    have hplayers := @members_insert (s.leaveOther role_id scene_id) (s.entered now role_id scene_id) scene_id
      (((s.leaveOther role_id scene_id).objects scene_id).insert role_id (newPlayer now role_id)) rfl
    rw [hplayers, players_insert rfl]
    rfl
  rw [hmembers] at hentered
  cases hrole : s.player_scene_map_.lookup role_id with
  | none =>
    rw [hrole] at hentered
    exact Roster.ext hgroups hentered hgroupOf
  | some old =>
    rw [hrole] at hentered
    dsimp only at hentered ⊢
    split_ifs at hentered ⊢ with hne
    · refine Roster.ext hgroups hentered (hgroupOf.trans ?_)
      exact (Function.update_idem _ _ _).symm
    · obtain rfl : old = scene_id := not_not.1 hne
      have hmem : role_id ∈ s.roster.members old := ((h.roster.iff role_id old).1 hrole).2
      refine Roster.ext hgroups (hentered.trans ?_) (hgroupOf.trans ?_)
      · rw [Finset.insert_eq_of_mem hmem, Function.update_eq_self]
      · have hsome : s.roster.groupOf role_id = some old := hrole
        rw [← hsome, Function.update_eq_self]

theorem Inv.enter (h : s.Inv) (hinfo : s.scene_cache_.lookup scene_id = some info)
    (hroom : playerCount (s.objects scene_id) < info.max_player_count) (now : ℤ) (role_id : BitVec 64) :
    (s.entered now role_id scene_id).Inv := by
  obtain ⟨hcache, -, hkeys, -⟩ := leaveOther_spec s role_id scene_id
  have hscene : (s.scene_cache_.lookup scene_id).isSome := by rw [hinfo]; rfl
  have hroom : ((s.roster.members scene_id).card : ℤ) < info.max_player_count := card_players.trans_lt hroom
  have hkeys' : ∀ other, ((s.entered now role_id scene_id).scene_objects_.lookup other).isSome ↔
      (s.scene_objects_.lookup other).isSome := by
    intro other
    show (((s.leaveOther role_id scene_id).scene_objects_.insert scene_id _).lookup other).isSome ↔ _
    rw [Dict.lookup_insert_iff]
    split_ifs with hother
    · rw [hother]
      exact iff_of_true rfl ((h.keys scene_id).1 hscene)
    · exact hkeys other
  -- one more than before in this scene, and no more in the others
  have hcard : ∀ m : Roster (BitVec 64) ℤ, (∀ other, (m.members other).card ≤ (s.roster.members other).card) →
      ∀ other info', s.scene_cache_.lookup other = some info' →
        (((m.enter role_id scene_id).members other).card : ℤ) ≤ info'.max_player_count := by
    intro m hm other info' hinfo'
    have hle := hm other
    have hfull := h.full other info' hinfo'
    show ((Function.update m.members scene_id (insert role_id (m.members scene_id)) other).card : ℤ) ≤ _
    rw [Function.update_apply]
    split_ifs with hother
    · subst hother
      obtain rfl := Option.some.inj (hinfo.symm.trans hinfo')
      have hinsert := Finset.card_insert_le role_id (m.members other)
      omega
    · omega
  refine h.of_roster hcache hkeys' ?_ ?_
  all_goals
    rw [entered_roster h]
    cases hrole : s.player_scene_map_.lookup role_id with
    | none => ?_
    | some old => ?_
  · exact h.roster.enter hrole hscene
  · dsimp only
    split_ifs with hne
    · exact (h.roster.exit hrole).enter (Function.update_self ..) hscene
    · exact h.roster
  · exact hcard s.roster fun _ => le_rfl
  · dsimp only
    split_ifs with hne
    · exact hcard _ (card_exit_le ·)
    · exact h.full

/-- `operator[]` changes nothing where there is an entry. -/
theorem Inv.touch (h : s.Inv) (hscene : (s.scene_cache_.lookup scene_id).isSome) :
    (s.setObjects scene_id (s.objects scene_id)).Inv := by
  have hmembers : (s.setObjects scene_id (s.objects scene_id)).roster.members = s.roster.members := by
    have hinsert := @members_insert s (s.setObjects scene_id (s.objects scene_id)) scene_id (s.objects scene_id) rfl
    rw [hinsert]
    exact Function.update_eq_self scene_id s.roster.members
  have hroster : (s.setObjects scene_id (s.objects scene_id)).roster = s.roster := Roster.ext rfl hmembers rfl
  refine h.of_roster rfl (fun other => ?_) (hroster ▸ h.roster) (hroster ▸ h.full)
  show ((s.scene_objects_.insert scene_id _).lookup other).isSome ↔ _
  rw [Dict.lookup_insert_iff]
  split_ifs with hother
  · rw [hother]
    exact iff_of_true rfl ((h.keys scene_id).1 hscene)
  · rfl

end SceneModule

/-! ## Runs -/

def Calls (s : SceneModule) (call : ℤ × Op) (t : SceneModule) : Prop :=
  call.2.call call.1 .free s = .ret () t

/-- No scene with players is destroyed by `DestroyScene` or made anew. -/
def Spared (s : SceneModule) (call : ℤ × Op) : Prop :=
  match call.2 with
  | .CreateScene _ => ∀ role_id, ¬s.IsPlayer s.next_id role_id
  | .DestroyScene scene_id => ∀ role_id, ¬s.IsPlayer scene_id role_id
  | _ => True

section
variable {s t : SceneModule} {call : ℤ × Op} {scene_id : ℤ}

theorem members_eq_empty : s.roster.members scene_id = ∅ ↔ ∀ role_id, ¬s.IsPlayer scene_id role_id := by
  rw [Finset.eq_empty_iff_forall_notMem]
  exact forall_congr' fun role_id => not_congr SceneModule.mem_members

/-- The state that an operation leaves. -/
theorem eq_of_ret {α : Type} {x : Locked SceneModule α} {a : α} {u : SceneModule} (hx : x .free s = .ret a u)
    (h : (do let _ ← x : Locked SceneModule Unit) .free s = .ret () t) : t = u := by
  rw [Locked.bind_apply hx] at h
  exact (Out.ret.inj h).2.symm

/-- **What a call does to a sound module**. -/
theorem Calls.sound_iff (h : Calls s call t) (hs : s.Sound) : t.Sound ↔ Spared s call := by
  rw [SceneModule.sound_iff] at hs ⊢
  obtain ⟨now, op⟩ := call
  cases op with
  | CreateScene scene_config_id =>
    cases h
    exact (SceneModule.inv_created_iff hs now scene_config_id).trans members_eq_empty
  | DestroyScene scene_id =>
    have hspared : Spared s (now, .DestroyScene scene_id) ↔ s.roster.members scene_id = ∅ :=
      members_eq_empty.symm
    rw [hspared]
    cases hscene : s.scene_cache_.lookup scene_id with
    | none =>
      have hret : SceneModule.DestroyScene scene_id .free s = .ret false s := by
        rw [SceneModule.DestroyScene, Locked.lockGuard_free, Locked.perform_apply, hscene]
      obtain rfl := eq_of_ret hret h
      refine iff_of_true hs (hs.roster.missing scene_id ?_)
      intro hmem
      have hsome : (t.scene_cache_.lookup scene_id).isSome := hmem
      rw [hscene] at hsome
      cases hsome
    | some info =>
      have hret : SceneModule.DestroyScene scene_id .free s = .ret true (s.destroyed scene_id) := by
        rw [SceneModule.DestroyScene, Locked.lockGuard_free, Locked.perform_apply, hscene]
        rfl
      obtain rfl := eq_of_ret hret h
      exact SceneModule.inv_destroyed_iff hs
  | PlayerEnterScene role_id scene_id =>
    refine iff_of_true ?_ trivial
    cases hscene : s.scene_cache_.lookup scene_id with
    | none =>
      have hret : SceneModule.PlayerEnterScene now role_id scene_id .free s = .ret false s := by
        rw [SceneModule.PlayerEnterScene, Locked.lockGuard_free, Locked.perform_apply, hscene]
      obtain rfl := eq_of_ret hret h
      exact hs
    | some info =>
      have hu : (s.setObjects scene_id (s.objects scene_id)).Inv := hs.touch (by rw [hscene]; rfl)
      by_cases hfull : info.max_player_count ≤
          playerCount ((s.setObjects scene_id (s.objects scene_id)).objects scene_id)
      · have hret : SceneModule.PlayerEnterScene now role_id scene_id .free s =
            .ret false (s.setObjects scene_id (s.objects scene_id)) := by
          rw [SceneModule.PlayerEnterScene, Locked.lockGuard_free, Locked.perform_apply, hscene]
          dsimp only
          rw [if_pos hfull]
        obtain rfl := eq_of_ret hret h
        exact hu
      · have hret : SceneModule.PlayerEnterScene now role_id scene_id .free s =
            .ret true ((s.setObjects scene_id (s.objects scene_id)).entered now role_id scene_id) := by
          rw [SceneModule.PlayerEnterScene, Locked.lockGuard_free, Locked.perform_apply, hscene]
          dsimp only
          rw [if_neg hfull]
          rfl
        obtain rfl := eq_of_ret hret h
        exact hu.enter hscene (not_le.1 hfull) now role_id
  | PlayerLeaveScene role_id =>
    refine iff_of_true ?_ trivial
    cases hrole : s.player_scene_map_.lookup role_id with
    | none =>
      have hret : SceneModule.PlayerLeaveScene role_id .free s = .ret false s := by
        rw [SceneModule.PlayerLeaveScene, Locked.lockGuard_free, Locked.perform_apply, hrole]
      obtain rfl := eq_of_ret hret h
      exact hs
    | some scene_id =>
      have hret : SceneModule.PlayerLeaveScene role_id .free s = .ret true (s.exited role_id scene_id) := by
        rw [SceneModule.PlayerLeaveScene, Locked.lockGuard_free, Locked.perform_apply, hrole]
        rfl
      obtain rfl := eq_of_ret hret h
      exact hs.leave hrole
  | OnTimer =>
    cases h
    refine iff_of_true ?_ trivial
    exact hs.drop rfl rfl rfl fun _ => SceneModule.members_of_mem_scenesToDestroy

theorem sound_constructed (start : ℤ) : (constructed start).Sound := by
  rw [SceneModule.sound_iff]
  refine ⟨⟨fun role_id scene_id => ?_, fun _ _ => rfl⟩, fun _ => Iff.rfl, fun _ _ h => ?_⟩
  · refine iff_of_false (fun h => ?_) fun h => ?_
    · cases h
    · cases h.1
  · cases h

/-- **Where the players are is known** all along a run if and only if no scene with players is
    destroyed or made anew. -/
theorem scenes_sound_iff {start : ℤ} {calls : List (ℤ × Op)} (hr : Run Calls (constructed start) calls s) :
    (∀ calls₁ calls₂ t, calls = calls₁ ++ calls₂ → Run Calls (constructed start) calls₁ t → t.Sound) ↔
      Run (fun s call t => Calls s call t ∧ Spared s call) (constructed start) calls s := by
  refine Run.forall_reached_iff (I := fun _ => True) (P := SceneModule.Sound) (C := Spared) ?_
    (fun _ _ _ _ _ => trivial) (fun _ _ _ _ hs h => h.sound_iff hs) trivial (sound_constructed start) hr
  intro s call t t' ht ht'
  unfold Calls at ht ht'
  rw [ht] at ht'
  cases ht'
  rfl

end

/-- A scene that is left before it is destroyed. -/
theorem scenes_sound_left : ∃ s, Run Calls (constructed 1000) [(0, .CreateScene 7), (1, .PlayerEnterScene 5 1000),
    (2, .PlayerLeaveScene 5), (3, .DestroyScene 1000)] s ∧ s.Sound := by
  have hrun : Run Calls (constructed 1000) [(0, .CreateScene 7), (1, .PlayerEnterScene 5 1000),
      (2, .PlayerLeaveScene 5), (3, .DestroyScene 1000)] _ :=
    .cons rfl (.cons rfl (.cons rfl (.cons rfl (.nil _))))
  refine ⟨_, hrun, (scenes_sound_iff hrun).2 ?_ _ [] _ (List.append_nil _).symm hrun⟩
  refine .cons ⟨rfl, ?_⟩ (.cons ⟨rfl, trivial⟩ (.cons ⟨rfl, trivial⟩ (.cons ⟨rfl, ?_⟩ (.nil _))))
  · rintro role_id ⟨object, hlookup, -⟩
    cases hlookup
  · rintro role_id ⟨object, hlookup, -⟩
    cases hlookup

/-- A scene that is destroyed with a player inside. -/
theorem not_scenes_sound : ¬∀ start calls s, Run Calls (constructed start) calls s → s.Sound := by
  intro h
  have hrun : Run Calls (constructed 1000) [(0, .CreateScene 7), (1, .PlayerEnterScene 5 1000),
      (2, .DestroyScene 1000)] _ :=
    .cons rfl (.cons rfl (.cons rfl (.nil _)))
  have hmap := ((h _ _ _ hrun).map 5 1000).1 rfl
  exact absurd hmap.1 (by decide)

end Ancfl.Game.Scene
