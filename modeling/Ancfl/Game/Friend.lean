/-
  `FriendModule`.

  * `FriendModule`: the friends, the requests and the recent players of the
    roles; what is done under `cache_mutex_` is a function on it;
  * `Op`: the public operations; `AddFriend` asks `CheckFriendLimit`, which
    locks `cache_mutex_` again, and `RespondToFriendRequest` calls `AddFriend`;
  * `deadlocks_iff`: `AddFriend` always deadlocks, `RespondToFriendRequest` when
    it accepts a request that is pending, the other operations never do.
-/
import Ancfl.Lib.Dict
import Ancfl.Lib.First
import Ancfl.Lib.Mutex
import Mathlib.Algebra.Order.Ring.Int

namespace Ancfl.Game.Friend

open Lib

inductive FriendStatus
  | OFFLINE | ONLINE | IN_BATTLE | IN_TEAM
deriving DecidableEq

inductive FriendRelationType
  | NONE | FRIEND | BLACKLIST | RECENT
deriving DecidableEq

inductive FriendApplyStatus
  | PENDING | ACCEPTED | REJECTED
deriving DecidableEq

structure FriendInfo where
  friend_id : BitVec 64
  friend_name : String
  level : ℤ
  profession : ℤ
  status : FriendStatus
  relation_type : FriendRelationType
  last_login_time : ℤ
  friend_since : ℤ
deriving DecidableEq

structure FriendApplyInfo where
  apply_id : BitVec 64
  requester_id : BitVec 64
  target_id : BitVec 64
  message : String
  status : FriendApplyStatus
  send_time : ℤ
deriving DecidableEq

/-- `next_id` is the counter in `GenerateApplyId`; nothing uses `blacklist_cache_`. -/
structure FriendModule where
  friend_cache_ : Dict (BitVec 64) (List FriendInfo)
  apply_cache_ : Dict (BitVec 64) (List FriendApplyInfo)
  sent_apply_cache_ : Dict (BitVec 64) (List FriendApplyInfo)
  recent_cache_ : Dict (BitVec 64) (List FriendInfo)
  next_id : BitVec 64

def MAX_FRIEND_COUNT : ℕ := 50

def MAX_RECENT_COUNT : ℕ := 20

namespace FriendModule

/-! ## Without a lock of their own -/

def setFriends (role_id : BitVec 64) (friends : List FriendInfo) (s : FriendModule) : FriendModule :=
  { s with friend_cache_ := s.friend_cache_.insert role_id friends }

def setRecent (role_id : BitVec 64) (players : List FriendInfo) (s : FriendModule) : FriendModule :=
  { s with recent_cache_ := s.recent_cache_.insert role_id players }

def init (role_id : BitVec 64) (s : FriendModule) : Bool × FriendModule :=
  match s.friend_cache_.lookup role_id with
  | some _ => (true, s)
  | none => (true, { s with
      friend_cache_ := s.friend_cache_.insert role_id []
      apply_cache_ := s.apply_cache_.insert role_id []
      sent_apply_cache_ := s.sent_apply_cache_.insert role_id []
      recent_cache_ := s.recent_cache_.insert role_id [] })

def friends (role_id : BitVec 64) (s : FriendModule) : Option (List FriendInfo) :=
  (s.friend_cache_.lookup role_id).map fun l => l.filter fun info => info.relation_type = .FRIEND

def friendInfo (role_id friend_id : BitVec 64) (s : FriendModule) : Option FriendInfo :=
  (s.friend_cache_.lookup role_id).bind fun l => l.find? fun info => info.friend_id = friend_id

def belowLimit (role_id : BitVec 64) (s : FriendModule) : Bool :=
  match s.friend_cache_.lookup role_id with
  | none => true
  | some l => l.length < MAX_FRIEND_COUNT

/-- Whether there is the friend in a list. -/
def isFriend (friend_id : BitVec 64) (l : List FriendInfo) : Bool :=
  l.any fun info => info.friend_id = friend_id ∧ info.relation_type = .FRIEND

/-- `AddFriend` past its check of the limit. -/
def add (now : ℤ) (role_id friend_id : BitVec 64) (s : FriendModule) : Bool × FriendModule :=
  let l := (s.friend_cache_.lookup role_id).getD []
  if isFriend friend_id l then (false, s.setFriends role_id l)
  else (true, s.setFriends role_id (l ++ [{
    friend_id, friend_name := "", level := 1, profession := 1, status := .OFFLINE,
    relation_type := .FRIEND, last_login_time := now, friend_since := now }]))

/-- Without the first of a list with the id. -/
def dropFirst (friend_id : BitVec 64) (l : List FriendInfo) : List FriendInfo :=
  l.eraseP fun info => info.friend_id = friend_id

def hasId (friend_id : BitVec 64) (l : List FriendInfo) : Bool :=
  l.any fun info => info.friend_id = friend_id

def remove (role_id friend_id : BitVec 64) (s : FriendModule) : Bool × FriendModule :=
  match s.friend_cache_.lookup role_id with
  | none => (false, s)
  | some l =>
    if hasId friend_id l then (true, s.setFriends role_id (dropFirst friend_id l)) else (false, s)

def sendRequest (now : ℤ) (role_id target_id : BitVec 64) (message : String) (s : FriendModule) :
    Bool × FriendModule :=
  if isFriend target_id ((s.friend_cache_.lookup role_id).getD []) then (false, s)
  else
    let sent := (s.sent_apply_cache_.lookup role_id).getD []
    if sent.any fun apply => apply.target_id = target_id then (false, s)
    else
      let apply : FriendApplyInfo := {
        apply_id := s.next_id, requester_id := role_id, target_id, message, status := .PENDING,
        send_time := now }
      let received := (s.apply_cache_.lookup target_id).getD []
      (true, { s with
        sent_apply_cache_ := s.sent_apply_cache_.insert role_id (sent ++ [apply])
        apply_cache_ := s.apply_cache_.insert target_id (received ++ [apply])
        next_id := s.next_id + 1 })

def requests (role_id : BitVec 64) (s : FriendModule) : Option (List FriendApplyInfo) :=
  (s.apply_cache_.lookup role_id).map fun l => l.filter fun apply => apply.status = .PENDING

def isApply (apply_id : BitVec 64) (apply : FriendApplyInfo) : Bool := apply.apply_id = apply_id

/-- The first request of a list with the id is answered. -/
def answered (apply_id : BitVec 64) (status : FriendApplyStatus) (l : List FriendApplyInfo) :
    List FriendApplyInfo :=
  match onFirst (isApply apply_id) (fun apply => ((), { apply with status := status })) l with
  | none => l
  | some ((), l) => l

/-- The answer is put down for the target and for the sender of a request. -/
def answer (role_id : BitVec 64) (apply : FriendApplyInfo) (status : FriendApplyStatus)
    (s : FriendModule) : Bool × FriendModule :=
  let s := match s.apply_cache_.lookup role_id with
    | none => s
    | some l =>
      { s with apply_cache_ := s.apply_cache_.insert role_id (answered apply.apply_id status l) }
  match s.sent_apply_cache_.lookup apply.requester_id with
  | none => (true, s)
  | some l => (true, { s with
      sent_apply_cache_ :=
        s.sent_apply_cache_.insert apply.requester_id (answered apply.apply_id status l) })

def addRecent (now : ℤ) (role_id player_id : BitVec 64) (player_name : String)
    (level profession : ℤ) (s : FriendModule) : Bool × FriendModule :=
  let players := (s.recent_cache_.lookup role_id).getD []
  match onFirst (fun player => player.friend_id = player_id) (fun player => ((), { player with
      friend_name := player_name, level := level, profession := profession,
      last_login_time := now })) players with
  | some ((), players) => (true, s.setRecent role_id players)
  | none =>
    let players := players ++ [{
      friend_id := player_id, friend_name := player_name, level, profession, status := .OFFLINE,
      relation_type := .NONE, last_login_time := now, friend_since := 0 }]
    (true, s.setRecent role_id
      (if MAX_RECENT_COUNT < players.length then players.tail else players))

def deleteRecent (role_id player_id : BitVec 64) (s : FriendModule) : Bool × FriendModule :=
  match s.recent_cache_.lookup role_id with
  | none => (false, s)
  | some l =>
    if hasId player_id l then (true, s.setRecent role_id (dropFirst player_id l)) else (false, s)

def updateStatus (now : ℤ) (role_id friend_id : BitVec 64) (status : FriendStatus)
    (s : FriendModule) : Bool × FriendModule :=
  match s.friend_cache_.lookup role_id with
  | none => (false, s)
  | some l =>
    match onFirst (fun info => info.friend_id = friend_id) (fun info => ((), { info with
        status := status
        last_login_time := if status = .ONLINE then now else info.last_login_time })) l with
    | none => (false, s)
    | some ((), l) => (true, s.setFriends role_id l)

/-! ## The operations -/

def InitFriends (role_id : BitVec 64) : Locked FriendModule Bool :=
  .lockGuard (.perform (init role_id))

def GetFriends (role_id : BitVec 64) : Locked FriendModule (Option (List FriendInfo)) :=
  .lockGuard (.perform fun s => (s.friends role_id, s))

def GetFriendInfo (role_id friend_id : BitVec 64) : Locked FriendModule (Option FriendInfo) :=
  .lockGuard (.perform fun s => (s.friendInfo role_id friend_id, s))

def CheckFriendLimit (role_id : BitVec 64) : Locked FriendModule Bool :=
  .lockGuard (.perform fun s => (s.belowLimit role_id, s))

def AddFriend (now : ℤ) (role_id friend_id : BitVec 64) : Locked FriendModule Bool :=
  .lockGuard do
    if ← CheckFriendLimit role_id then .perform (add now role_id friend_id) else return false

def SendFriendRequest (now : ℤ) (role_id target_id : BitVec 64) (message : String) :
    Locked FriendModule Bool :=
  .lockGuard (.perform (sendRequest now role_id target_id message))

/-- The request that `RespondToFriendRequest` is about. -/
def applyOf (role_id apply_id : BitVec 64) (s : FriendModule) : Option FriendApplyInfo :=
  (s.apply_cache_.lookup role_id).bind fun l => l.find? (isApply apply_id)

def RespondToFriendRequest (now : ℤ) (role_id apply_id : BitVec 64) (accept : Bool) :
    Locked FriendModule Bool :=
  .lockGuard do
    match ← Locked.perform fun s : FriendModule => (s.applyOf role_id apply_id, s) with
    | none => return false
    | some apply =>
      if apply.status ≠ .PENDING then return false
      else if accept then do
        if ← AddFriend now role_id apply.requester_id then .perform (answer role_id apply .ACCEPTED)
        else return false
      else .perform (answer role_id apply .REJECTED)

def RemoveFriend (role_id friend_id : BitVec 64) : Locked FriendModule Bool :=
  .lockGuard (.perform (remove role_id friend_id))

def GetFriendRequests (role_id : BitVec 64) : Locked FriendModule (Option (List FriendApplyInfo)) :=
  .lockGuard (.perform fun s => (s.requests role_id, s))

def GetRecentPlayers (role_id : BitVec 64) : Locked FriendModule (Option (List FriendInfo)) :=
  .lockGuard (.perform fun s => (s.recent_cache_.lookup role_id, s))

def AddRecentPlayer (now : ℤ) (role_id player_id : BitVec 64) (player_name : String)
    (level profession : ℤ) : Locked FriendModule Bool :=
  .lockGuard (.perform (addRecent now role_id player_id player_name level profession))

def DeleteRecentPlayer (role_id player_id : BitVec 64) : Locked FriendModule Bool :=
  .lockGuard (.perform (deleteRecent role_id player_id))

def UpdateFriendStatus (now : ℤ) (role_id friend_id : BitVec 64) (status : FriendStatus) :
    Locked FriendModule Bool :=
  .lockGuard (.perform (updateStatus now role_id friend_id status))

def SaveFriendData (role_id : BitVec 64) : Locked FriendModule Bool :=
  .lockGuard (.perform fun s => ((s.friend_cache_.lookup role_id).isSome, s))

def LoadFriendData (role_id : BitVec 64) : Locked FriendModule Bool := do
  let _ ← InitFriends role_id
  return true

end FriendModule

/-- The public operations. -/
inductive Op
  | InitFriends (role_id : BitVec 64)
  | GetFriends (role_id : BitVec 64)
  | GetFriendInfo (role_id friend_id : BitVec 64)
  | AddFriend (role_id friend_id : BitVec 64)
  | SendFriendRequest (role_id target_id : BitVec 64) (message : String)
  | RespondToFriendRequest (role_id apply_id : BitVec 64) (accept : Bool)
  | RemoveFriend (role_id friend_id : BitVec 64)
  | GetFriendRequests (role_id : BitVec 64)
  | GetRecentPlayers (role_id : BitVec 64)
  | AddRecentPlayer (role_id player_id : BitVec 64) (player_name : String) (level profession : ℤ)
  | DeleteRecentPlayer (role_id player_id : BitVec 64)
  | UpdateFriendStatus (role_id friend_id : BitVec 64) (status : FriendStatus)
  | SaveFriendData (role_id : BitVec 64)
  | LoadFriendData (role_id : BitVec 64)

/-- A call of an operation at the time `now`; what it returns is left out. -/
def Op.call (now : ℤ) : Op → Locked FriendModule Unit
  | InitFriends role_id => do let _ ← FriendModule.InitFriends role_id
  | GetFriends role_id => do let _ ← FriendModule.GetFriends role_id
  | GetFriendInfo role_id friend_id => do let _ ← FriendModule.GetFriendInfo role_id friend_id
  | AddFriend role_id friend_id => do let _ ← FriendModule.AddFriend now role_id friend_id
  | SendFriendRequest role_id target_id message => do
    let _ ← FriendModule.SendFriendRequest now role_id target_id message
  | RespondToFriendRequest role_id apply_id accept => do
    let _ ← FriendModule.RespondToFriendRequest now role_id apply_id accept
  | RemoveFriend role_id friend_id => do let _ ← FriendModule.RemoveFriend role_id friend_id
  | GetFriendRequests role_id => do let _ ← FriendModule.GetFriendRequests role_id
  | GetRecentPlayers role_id => do let _ ← FriendModule.GetRecentPlayers role_id
  | AddRecentPlayer role_id player_id player_name level profession => do
    let _ ← FriendModule.AddRecentPlayer now role_id player_id player_name level profession
  | DeleteRecentPlayer role_id player_id => do
    let _ ← FriendModule.DeleteRecentPlayer role_id player_id
  | UpdateFriendStatus role_id friend_id status => do
    let _ ← FriendModule.UpdateFriendStatus now role_id friend_id status
  | SaveFriendData role_id => do let _ ← FriendModule.SaveFriendData role_id
  | LoadFriendData role_id => do let _ ← FriendModule.LoadFriendData role_id

/-- Where an operation locks twice. -/
def Op.LocksTwice (s : FriendModule) : Op → Prop
  | AddFriend _ _ => True
  | RespondToFriendRequest role_id apply_id accept =>
    accept ∧ ∃ apply, s.applyOf role_id apply_id = some apply ∧ apply.status = .PENDING
  | _ => False

/-- The limit is checked before anything else. -/
theorem addFriend_deadlocks (now : ℤ) (role_id friend_id : BitVec 64) (s : FriendModule) :
    (FriendModule.AddFriend now role_id friend_id).Deadlocks .free s := by
  rw [FriendModule.AddFriend, Locked.deadlocks_guard_free]
  exact Locked.bind_of_deadlock (Locked.deadlocks_guard_held _)

theorem respond_deadlocks_iff (now : ℤ) (role_id apply_id : BitVec 64) (accept : Bool)
    (s : FriendModule) : (FriendModule.RespondToFriendRequest now role_id apply_id accept).Deadlocks
      .free s ↔ (Op.RespondToFriendRequest role_id apply_id accept).LocksTwice s := by
  rw [FriendModule.RespondToFriendRequest, Locked.deadlocks_guard_free,
    Locked.deadlocks_perform_bind, Op.LocksTwice]
  cases happly : s.applyOf role_id apply_id with
  | none => simp
  | some apply =>
    dsimp only
    by_cases hpending : apply.status = .PENDING
    · cases accept with
      | false => simp [hpending]
      | true =>
        refine iff_of_true ?_ ⟨rfl, apply, rfl, hpending⟩
        rw [if_neg (not_not.2 hpending), if_pos rfl]
        exact Locked.bind_of_deadlock (Locked.deadlocks_guard_held _)
    · rw [if_pos hpending]
      simp [hpending]

theorem deadlocks_iff (now : ℤ) (op : Op) (s : FriendModule) :
    (op.call now).Deadlocks .free s ↔ op.LocksTwice s := by
  cases op
  case AddFriend role_id friend_id =>
    exact iff_of_true (Locked.bind_of_deadlock (addFriend_deadlocks now role_id friend_id s)) trivial
  case RespondToFriendRequest role_id apply_id accept =>
    rw [Op.call, Locked.deadlocks_map]
    exact respond_deadlocks_iff now role_id apply_id accept s
  case LoadFriendData role_id =>
    refine iff_of_false ?_ id
    rw [Op.call, Locked.deadlocks_map, FriendModule.LoadFriendData, Locked.deadlocks_map]
    exact Locked.not_deadlocks_guard _
  all_goals
    refine iff_of_false ?_ id
    rw [Op.call, Locked.deadlocks_map]
    exact Locked.not_deadlocks_guard _

end Ancfl.Game.Friend
