/-
  `GuildModule`.

  * `GuildModule`: the guilds, their members, and the guild of each role; what
    is done under `cache_mutex_` is a function on it;
  * `Op`: the public operations; `CreateGuild` and `JoinGuild` ask `IsInGuild`,
    which locks `cache_mutex_` again;
  * `deadlocks_iff`: these two deadlock whenever they are called, the others
    never do.
-/
import Ancfl.Lib.Dict
import Ancfl.Lib.Int32
import Ancfl.Lib.Mutex

namespace Ancfl.Game.Guild

open Lib

inductive GuildPosition
  | LEADER | VICE_LEADER | ELDER | MEMBER
deriving DecidableEq

def MAX_GUILD_LEVEL : ℤ := 10

def MAX_GUILD_NAME_LENGTH : ℕ := 32

structure GuildInfo where
  guild_id : BitVec 64
  guild_name : String
  leader_id : BitVec 64
  leader_name : String
  level : ℤ
  exp : ℤ
  member_count : ℤ
  max_member_count : ℤ
  fund : ℤ
  announcement : String
  description : String
  create_time : ℤ
deriving DecidableEq

/-- `msg_guild::GuildInfo` -/
structure MsgGuildInfo extends GuildInfo where
  need_approval : Bool
deriving DecidableEq

/-- `last_login_time` is the `last_active_time` of `msg_guild::GuildMemberInfo`. -/
structure GuildMemberInfo where
  role_id : BitVec 64
  role_name : String
  level : ℤ
  profession : ℤ
  position : GuildPosition
  contribution : ℤ
  total_contribution : ℤ
  join_time : ℤ
  last_login_time : ℤ
deriving DecidableEq

/-- `msg_guild::GuildMemberInfo` -/
structure MsgGuildMemberInfo extends GuildMemberInfo where
  is_online : Bool
deriving DecidableEq

/-- `guild_id_counter` is the counter in `GenerateGuildId`. -/
structure GuildModule where
  guild_cache_ : Dict (BitVec 64) MsgGuildInfo
  member_cache_ : Dict (BitVec 64) (Dict (BitVec 64) MsgGuildMemberInfo)
  role_guild_map_ : Dict (BitVec 64) (BitVec 64)
  guild_id_counter : BitVec 64

namespace GuildModule

/-! ## Without a lock of their own -/

/-- `member_cache_[guild_id]`, which makes an entry. -/
def members (guild_id : BitVec 64) (s : GuildModule) : Dict (BitVec 64) MsgGuildMemberInfo :=
  (s.member_cache_.lookup guild_id).getD ∅

def setMembers (guild_id : BitVec 64) (members : Dict (BitVec 64) MsgGuildMemberInfo) (s : GuildModule) :
    GuildModule :=
  { s with member_cache_ := s.member_cache_.insert guild_id members }

def setGuild (guild : MsgGuildInfo) (guild_id : BitVec 64) (s : GuildModule) : GuildModule :=
  { s with guild_cache_ := s.guild_cache_.insert guild_id guild }

/-- The guild of a role; what is done with it. -/
def withGuild (role_id : BitVec 64) (f : BitVec 64 → MsgGuildInfo → GuildModule → Bool × GuildModule)
    (s : GuildModule) : Bool × GuildModule :=
  match s.role_guild_map_.lookup role_id with
  | none => (false, s)
  | some guild_id =>
    match s.guild_cache_.lookup guild_id with
    | none => (false, s)
    | some guild => f guild_id guild s

/-- The same for its leader only. -/
def withOwnGuild (leader_id : BitVec 64) (f : BitVec 64 → MsgGuildInfo → GuildModule → Bool × GuildModule) :
    GuildModule → Bool × GuildModule :=
  withGuild leader_id fun guild_id guild s =>
    if guild.leader_id ≠ leader_id then (false, s) else f guild_id guild s

def isInGuild (role_id : BitVec 64) (s : GuildModule) : Bool :=
  (s.role_guild_map_.lookup role_id).isSome

def isGuildNameExist (guild_name : String) (s : GuildModule) : Bool :=
  s.guild_cache_.entries.any fun pair => pair.2.guild_name = guild_name

def newMember (now : ℤ) (role_id : BitVec 64) (position : GuildPosition) :
    MsgGuildMemberInfo where
  role_id := role_id
  role_name := ""
  level := 0
  profession := 0
  position := position
  contribution := 0
  total_contribution := 0
  join_time := now
  last_login_time := now
  is_online := true

/-- `CreateGuild` past its questions; the id of the guild. -/
def create (now : ℤ) (role_id : BitVec 64) (guild_name : String) (s : GuildModule) :
    Option (BitVec 64) × GuildModule :=
  if MAX_GUILD_NAME_LENGTH < guild_name.utf8ByteSize then (none, s)
  else
    let guild_id := s.guild_id_counter + 1
    let guild : MsgGuildInfo := {
      guild_id, guild_name, leader_id := role_id, leader_name := "", level := 1, exp := 0,
      member_count := 1, max_member_count := 50, fund := 0, announcement := "", description := "",
      create_time := now, need_approval := true }
    let s := { s.setGuild guild guild_id with
      role_guild_map_ := s.role_guild_map_.insert role_id guild_id
      guild_id_counter := guild_id }
    (some guild_id,
      s.setMembers guild_id ((s.members guild_id).insert role_id (newMember now role_id .LEADER)))

/-- `JoinGuild` past its question. -/
def join (now : ℤ) (role_id guild_id : BitVec 64) (s : GuildModule) : Bool × GuildModule :=
  match s.guild_cache_.lookup guild_id with
  | none => (false, s)
  | some guild =>
    if guild.max_member_count ≤ guild.member_count then (false, s)
    else
      let s := s.setMembers guild_id
        ((s.members guild_id).insert role_id (newMember now role_id .MEMBER))
      (true, { s.setGuild { guild with member_count := toInt32 (guild.member_count + 1) } guild_id with
        role_guild_map_ := s.role_guild_map_.insert role_id guild_id })

/-- A member is gone. -/
def dropMember (role_id guild_id : BitVec 64) (guild : MsgGuildInfo) (s : GuildModule) : GuildModule :=
  let s := s.setMembers guild_id ((s.members guild_id).erase role_id)
  { s.setGuild { guild with member_count := toInt32 (guild.member_count - 1) } guild_id with
    role_guild_map_ := s.role_guild_map_.erase role_id }

def leave (role_id : BitVec 64) : GuildModule → Bool × GuildModule :=
  withGuild role_id fun guild_id guild s =>
    if guild.leader_id = role_id then (false, s) else (true, s.dropMember role_id guild_id guild)

def kick (leader_id target_id : BitVec 64) : GuildModule → Bool × GuildModule :=
  withOwnGuild leader_id fun guild_id guild s =>
    if guild.leader_id = target_id then (false, s)
    else
      match (s.members guild_id).lookup target_id with
      | none => (false, s.setMembers guild_id (s.members guild_id))
      | some _ => (true, s.dropMember target_id guild_id guild)

def dissolve (leader_id : BitVec 64) : GuildModule → Bool × GuildModule :=
  withOwnGuild leader_id fun guild_id _ s =>
    (true, { s with
      role_guild_map_ := (s.members guild_id).keys.foldl (fun m role => m.erase role) s.role_guild_map_
      member_cache_ := s.member_cache_.erase guild_id
      guild_cache_ := s.guild_cache_.erase guild_id })

/-- The members in the order of their roles. -/
def memberList (members : Dict (BitVec 64) MsgGuildMemberInfo) : List GuildMemberInfo :=
  (members.entries.mergeSort fun a b => a.1 ≤ b.1).map fun pair => pair.2.toGuildMemberInfo

def memberInfo (role_id : BitVec 64) (s : GuildModule) : Option GuildMemberInfo × GuildModule :=
  match s.role_guild_map_.lookup role_id with
  | none => (none, s)
  | some guild_id =>
    (((s.members guild_id).lookup role_id).map (·.toGuildMemberInfo),
      s.setMembers guild_id (s.members guild_id))

def contribute (role_id : BitVec 64) (amount : ℤ) : GuildModule → Bool × GuildModule :=
  withGuild role_id fun guild_id guild s =>
    let s := s.setGuild { guild with fund := toInt32 (guild.fund + amount) } guild_id
    let members := s.members guild_id
    match members.lookup role_id with
    | none => (true, s.setMembers guild_id members)
    | some member =>
      (true, s.setMembers guild_id (members.insert role_id { member with
        contribution := toInt32 (member.contribution + amount)
        total_contribution := toInt32 (member.total_contribution + amount) }))

def upgrade (leader_id : BitVec 64) : GuildModule → Bool × GuildModule :=
  withOwnGuild leader_id fun guild_id guild s =>
    if MAX_GUILD_LEVEL ≤ guild.level then (false, s)
    else (true, s.setGuild { guild with level := toInt32 (guild.level + 1) } guild_id)

def announce (leader_id : BitVec 64) (announcement : String) : GuildModule → Bool × GuildModule :=
  withOwnGuild leader_id fun guild_id guild s =>
    (true, s.setGuild { guild with announcement := announcement } guild_id)

def load (now : ℤ) (guild_id : BitVec 64) (s : GuildModule) : Bool × GuildModule :=
  let guild : MsgGuildInfo := {
    guild_id, guild_name := "Test Guild", leader_id := 0, leader_name := "Test Leader", level := 1,
    exp := 0, member_count := 0, max_member_count := 50, fund := 0, announcement := "",
    description := "", create_time := now, need_approval := false }
  (true, s.setGuild guild guild_id)

/-! ## The operations -/

def IsInGuild (role_id : BitVec 64) : Locked GuildModule Bool :=
  .lockGuard (.perform fun s => (s.isInGuild role_id, s))

def IsGuildNameExist (guild_name : String) : Locked GuildModule Bool :=
  .lockGuard (.perform fun s => (s.isGuildNameExist guild_name, s))

def CreateGuild (now : ℤ) (role_id : BitVec 64) (guild_name : String) :
    Locked GuildModule (Option (BitVec 64)) :=
  .lockGuard do
    if ← IsInGuild role_id then return none
    else if ← IsGuildNameExist guild_name then return none
    else .perform (create now role_id guild_name)

def JoinGuild (now : ℤ) (role_id guild_id : BitVec 64) : Locked GuildModule Bool :=
  .lockGuard do
    if ← IsInGuild role_id then return false
    else .perform (join now role_id guild_id)

def LeaveGuild (role_id : BitVec 64) : Locked GuildModule Bool := .lockGuard (.perform (leave role_id))

def KickMember (leader_id target_id : BitVec 64) : Locked GuildModule Bool :=
  .lockGuard (.perform (kick leader_id target_id))

def DissolveGuild (leader_id : BitVec 64) : Locked GuildModule Bool :=
  .lockGuard (.perform (dissolve leader_id))

def GetGuildInfo (guild_id : BitVec 64) : Locked GuildModule (Option GuildInfo) :=
  .lockGuard (.perform fun s => ((s.guild_cache_.lookup guild_id).map (·.toGuildInfo), s))

def GetGuildMembers (guild_id : BitVec 64) : Locked GuildModule (Option (List GuildMemberInfo)) :=
  .lockGuard (.perform fun s => ((s.member_cache_.lookup guild_id).map memberList, s))

def GetGuildMemberInfo (role_id : BitVec 64) : Locked GuildModule (Option GuildMemberInfo) :=
  .lockGuard (.perform (memberInfo role_id))

/-- `contribution_type` is not used. -/
def Contribute (role_id : BitVec 64) (_contribution_type amount : ℤ) : Locked GuildModule Bool :=
  .lockGuard (.perform (contribute role_id amount))

def UpgradeGuild (leader_id : BitVec 64) : Locked GuildModule Bool :=
  .lockGuard (.perform (upgrade leader_id))

def UpdateAnnouncement (leader_id : BitVec 64) (announcement : String) : Locked GuildModule Bool :=
  .lockGuard (.perform (announce leader_id announcement))

def SaveGuildData (guild_id : BitVec 64) : Locked GuildModule Bool :=
  .lockGuard (.perform fun s => ((s.guild_cache_.lookup guild_id).isSome, s))

def LoadGuildData (now : ℤ) (guild_id : BitVec 64) : Locked GuildModule Bool :=
  .lockGuard (.perform (load now guild_id))

end GuildModule

/-- The public operations. -/
inductive Op
  | CreateGuild (role_id : BitVec 64) (guild_name : String)
  | JoinGuild (role_id guild_id : BitVec 64)
  | LeaveGuild (role_id : BitVec 64)
  | KickMember (leader_id target_id : BitVec 64)
  | DissolveGuild (leader_id : BitVec 64)
  | GetGuildInfo (guild_id : BitVec 64)
  | GetGuildMembers (guild_id : BitVec 64)
  | GetGuildMemberInfo (role_id : BitVec 64)
  | IsInGuild (role_id : BitVec 64)
  | IsGuildNameExist (guild_name : String)
  | Contribute (role_id : BitVec 64) (contribution_type amount : ℤ)
  | UpgradeGuild (leader_id : BitVec 64)
  | UpdateAnnouncement (leader_id : BitVec 64) (announcement : String)
  | SaveGuildData (guild_id : BitVec 64)
  | LoadGuildData (guild_id : BitVec 64)

/-- A call of an operation at the time `now`; what it returns is left out. -/
def Op.call (now : ℤ) : Op → Locked GuildModule Unit
  | CreateGuild role_id guild_name => do let _ ← GuildModule.CreateGuild now role_id guild_name
  | JoinGuild role_id guild_id => do let _ ← GuildModule.JoinGuild now role_id guild_id
  | LeaveGuild role_id => do let _ ← GuildModule.LeaveGuild role_id
  | KickMember leader_id target_id => do let _ ← GuildModule.KickMember leader_id target_id
  | DissolveGuild leader_id => do let _ ← GuildModule.DissolveGuild leader_id
  | GetGuildInfo guild_id => do let _ ← GuildModule.GetGuildInfo guild_id
  | GetGuildMembers guild_id => do let _ ← GuildModule.GetGuildMembers guild_id
  | GetGuildMemberInfo role_id => do let _ ← GuildModule.GetGuildMemberInfo role_id
  | IsInGuild role_id => do let _ ← GuildModule.IsInGuild role_id
  | IsGuildNameExist guild_name => do let _ ← GuildModule.IsGuildNameExist guild_name
  | Contribute role_id contribution_type amount => do
    let _ ← GuildModule.Contribute role_id contribution_type amount
  | UpgradeGuild leader_id => do let _ ← GuildModule.UpgradeGuild leader_id
  | UpdateAnnouncement leader_id announcement => do
    let _ ← GuildModule.UpdateAnnouncement leader_id announcement
  | SaveGuildData guild_id => do let _ ← GuildModule.SaveGuildData guild_id
  | LoadGuildData guild_id => do let _ ← GuildModule.LoadGuildData now guild_id

/-- Where an operation locks twice: before anything else it asks `IsInGuild`. -/
def Op.LocksTwice : Op → Prop
  | CreateGuild _ _ | JoinGuild _ _ => True
  | _ => False

theorem deadlocks_iff (now : ℤ) (op : Op) (s : GuildModule) :
    (op.call now).Deadlocks .free s ↔ op.LocksTwice := by
  cases op
  case CreateGuild role_id guild_name =>
    refine iff_of_true (Locked.bind_of_deadlock ?_) trivial
    rw [GuildModule.CreateGuild, Locked.deadlocks_guard_free]
    exact Locked.bind_of_deadlock (Locked.deadlocks_guard_held _)
  case JoinGuild role_id guild_id =>
    refine iff_of_true (Locked.bind_of_deadlock ?_) trivial
    rw [GuildModule.JoinGuild, Locked.deadlocks_guard_free]
    exact Locked.bind_of_deadlock (Locked.deadlocks_guard_held _)
  all_goals
    refine iff_of_false ?_ id
    rw [Op.call, Locked.deadlocks_map]
    exact Locked.not_deadlocks_guard _

end Ancfl.Game.Guild
