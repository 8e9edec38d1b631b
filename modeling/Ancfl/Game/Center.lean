/-
  The servers and the players that `CenterServer` knows.

  * `Server` is its `ServerInfo`; `exec` performs an operation, and a timer is one;
  * `Alive past server_id info`, `Crossing past role_id player`: read off the operations
    before, as leases that end after 30 and after 3600 seconds;
  * `answers_of_history`: what each operation answers, in any run;
  * `match_of_history`: where a match goes, and who is told.
-/
import Ancfl.Game.Match
import Ancfl.Lib.Lease
import Ancfl.Lib.Family

namespace Ancfl.Game.Center

open Lib Match

/-! ## Operations -/

/-- `ServerInfo` -/
structure Server extends ServerInfo where
  server_id : ℤ
  ip : List UInt8
  port : ℤ
  start_time : ℤ
  last_heartbeat : ℤ
  version : List UInt8
  extra_info : List UInt8

structure CrossServerPlayer where
  role_id : BitVec 64
  role_name : List UInt8 := []
  src_server_id : ℤ
  dest_server_id : ℤ
  cross_type : ℤ
  enter_time : ℤ
  token : List UInt8
  is_online : Bool

structure CenterServer where
  servers_ : Dict ℤ Server
  cross_players_ : Dict (BitVec 64) CrossServerPlayer

def HEARTBEAT_TIMEOUT : ℤ := 30

/-- After an hour a player is taken for an anomaly. -/
def CROSS_TIMEOUT : ℤ := 3600

inductive Message
  | RouteMessageReq (src_server_id dest_server_id : ℤ) (message : List UInt8)
  | BroadcastMessageReq (server_type : ℤ) (message : List UInt8)
deriving DecidableEq

/-- The operations; `now` is what `time(nullptr)` returns. -/
inductive Op
  | RegisterServer (info : Server) (now : ℤ)
  | UnregisterServer (server_id : ℤ)
  | UpdateServerHeartbeat (server_id now : ℤ)
  | GetServerInfo (server_id : ℤ)
  | GetServerList (type : ServerType)
  | GetAllServers
  | SelectBestServer (type : ServerType)
  | SelectServerById (server_id : ℤ)
  | PlayerEnterCross (role_id : BitVec 64) (src_server_id dest_server_id cross_type : ℤ) (token : List UInt8)
      (now : ℤ)
  | PlayerLeaveCross (role_id : BitVec 64)
  | GetCrossPlayer (role_id : BitVec 64)
  | IsPlayerInCross (role_id : BitVec 64)
  | RouteMessage (src_server_id dest_server_id : ℤ) (msg : List UInt8)
  | BroadcastMessage (type : ServerType) (msg : List UInt8)
  | BroadcastToAll (msg : List UInt8)
  | UpdateServerLoad (server_id online_count : ℤ)
  | GetServerLoad (server_id : ℤ)
  /-- `CheckServerHeartbeat` and `CleanupExpiredData` -/
  | OnTimer (now now' : ℤ)

inductive Answer
  | unit
  | bool (success : Bool)
  | number (n : ℤ)
  | info (o : Option Server)
  | list (servers : List Server)
  | player (o : Option CrossServerPlayer)
  /-- with the calls of `SendMessageToServer` -/
  | sent (success : Bool) (messages : List (ℤ × Message))

/-- The number of a `ServerType`. -/
def typeNumber : ServerType → ℤ
  | .LOGIN => 1 | .ACCOUNT => 2 | .LOGIC => 3 | .DB => 4 | .PROXY => 5 | .GATEWAY => 6 | .CENTER => 7

/-- The orders in which the two maps are visited. -/
structure Order where
  servers : List (ℤ × Server)
  players : List (BitVec 64 × CrossServerPlayer)

/-- What `SendMessageToServer` returns is `true`. -/
def broadcast (order : List (ℤ × Server)) (ok : Server → Bool) (req : Message) : Answer :=
  let messages := (order.filter fun s => ok s.2 && s.2.status == .RUNNING).map fun s => (s.1, req)
  .sent (decide (messages.length > 0)) messages

namespace CenterServer

def new : CenterServer := ⟨∅, ∅⟩

/-- Change the entry of a server, if there is one. -/
def onServer (s : CenterServer) (server_id : ℤ) (f : Server → Server) : Answer × CenterServer :=
  match s.servers_.lookup server_id with
  | none => (.bool false, s)
  | some info => (.bool true, { s with servers_ := s.servers_.insert server_id (f info) })

def exec (order : Order) (s : CenterServer) : Op → Answer × CenterServer
  | .RegisterServer info now =>
    let info := { info with last_heartbeat := now, status := .RUNNING }
    (.bool true, { s with servers_ := s.servers_.insert info.server_id info })
  | .UnregisterServer server_id =>
    match s.servers_.lookup server_id with
    | none => (.bool false, s)
    | some _ => (.bool true, { s with servers_ := s.servers_.erase server_id })
  | .UpdateServerHeartbeat server_id now => s.onServer server_id fun info => { info with last_heartbeat := now }
  | .GetServerInfo server_id => (.info (s.servers_.lookup server_id), s)
  | .GetServerList type =>
    (.list ((order.servers.filter fun e => e.2.type == type && e.2.status == .RUNNING).map Prod.snd), s)
  | .GetAllServers => (.list (order.servers.map Prod.snd), s)
  | .SelectBestServer type => (.number (SelectBestServer (order.servers.map fun e => (e.1, e.2.toServerInfo)) type), s)
  | .SelectServerById server_id =>
    match s.servers_.lookup server_id with
    | none => (.number 0, s)
    | some info => (.number (if info.status = .RUNNING then server_id else 0), s)
  | .PlayerEnterCross role_id src_server_id dest_server_id cross_type token now =>
    let player := { role_id, src_server_id, dest_server_id, cross_type, enter_time := now, token, is_online := true }
    (.bool true, { s with cross_players_ := s.cross_players_.insert role_id player })
  | .PlayerLeaveCross role_id =>
    match s.cross_players_.lookup role_id with
    | none => (.bool false, s)
    | some _ => (.bool true, { s with cross_players_ := s.cross_players_.erase role_id })
  | .GetCrossPlayer role_id => (.player (s.cross_players_.lookup role_id), s)
  | .IsPlayerInCross role_id => (.bool (s.cross_players_.lookup role_id).isSome, s)
  | .RouteMessage src_server_id dest_server_id msg =>
    match s.servers_.lookup dest_server_id with
    | none => (.sent false [], s)
    | some info =>
      if info.status = .RUNNING then
        (.sent true [(dest_server_id, .RouteMessageReq src_server_id dest_server_id msg)], s)
      else (.sent false [], s)
  | .BroadcastMessage type msg =>
    (broadcast order.servers (fun info => info.type == type) (.BroadcastMessageReq (typeNumber type) msg), s)
  -- 0 stands for all types
  | .BroadcastToAll msg => (broadcast order.servers (fun _ => true) (.BroadcastMessageReq 0 msg), s)
  | .UpdateServerLoad server_id online_count => s.onServer server_id fun info => { info with online_count }
  | .GetServerLoad server_id => (.number ((s.servers_.lookup server_id).elim (-1) fun info => info.online_count), s)
  | .OnTimer now now' =>
    (.unit, ⟨Lease.expire HEARTBEAT_TIMEOUT (fun info => info.last_heartbeat) now order.servers s.servers_,
      Lease.expire CROSS_TIMEOUT (fun player => player.enter_time) now' order.players s.cross_players_⟩)

/-- An operation with its answer, in any order of visits. -/
def step (s : CenterServer) (l : Op × Answer) (s' : CenterServer) : Prop :=
  ∃ order : Order, s.servers_.Visits order.servers ∧ s.cross_players_.Visits order.players ∧
    exec order s l.1 = (l.2, s')

end CenterServer

/-! ## History -/

/-- What an operation is to the entry of a server. -/
def serverEvent (server_id : ℤ) : Op → Option (Lease.Event Server)
  | .RegisterServer info now =>
    if info.server_id = server_id then some (.put { info with last_heartbeat := now, status := .RUNNING }) else none
  | .UnregisterServer id => if id = server_id then some .drop else none
  | .UpdateServerHeartbeat id now =>
    if id = server_id then some (.change fun info => { info with last_heartbeat := now }) else none
  | .UpdateServerLoad id online_count =>
    if id = server_id then some (.change fun info => { info with online_count }) else none
  | .OnTimer now _ => some (.check now)
  | _ => none

def playerEvent (role_id : BitVec 64) : Op → Option (Lease.Event CrossServerPlayer)
  | .PlayerEnterCross id src_server_id dest_server_id cross_type token now =>
    if id = role_id then
      some (.put { role_id := id, src_server_id, dest_server_id, cross_type, enter_time := now, token,
                   is_online := true })
    else none
  | .PlayerLeaveCross id => if id = role_id then some .drop else none
  | .OnTimer _ now' => some (.check now')
  | _ => none

/-- The server is registered, and no timer since then has found its last heartbeat too old. -/
def Alive (past : List Op) (server_id : ℤ) (info : Server) : Prop :=
  Lease.Stands HEARTBEAT_TIMEOUT (fun info => info.last_heartbeat) (past.filterMap (serverEvent server_id)) info

/-- The player has entered another server, and has neither left it nor been there for too long at a timer. -/
def Crossing (past : List Op) (role_id : BitVec 64) (player : CrossServerPlayer) : Prop :=
  Lease.Stands CROSS_TIMEOUT (fun player => player.enter_time) (past.filterMap (playerEvent role_id)) player

/-- A server that `SelectBestServer` may choose. -/
def HasRoom (type : ServerType) (info : ServerInfo) : Prop :=
  info.type = type ∧ info.online_count < info.max_online ∧ info.online_count < INT32_MAX

/-- The server with the least players of those that have room, and 0 if none has. -/
def Best (past : List Op) (type : ServerType) (server_id : ℤ) : Prop :=
  (server_id = 0 ∧ ∀ id info, Alive past id info → ¬HasRoom type info.toServerInfo) ∨
    ∃ info, Alive past server_id info ∧ HasRoom type info.toServerInfo ∧
      ∀ id other, Alive past id other → HasRoom type other.toServerInfo → info.online_count ≤ other.online_count

/-- Each server that is alive, once. -/
def Lists (past : List Op) (ok : Server → Prop) (l : List Server) : Prop :=
  (l.map fun info => info.server_id).Nodup ∧ ∀ info, info ∈ l ↔ Alive past info.server_id info ∧ ok info

/-- A message to each server that is alive, once. -/
def Reaches (past : List Op) (ok : Server → Prop) (req : Message) (l : List (ℤ × Message)) : Prop :=
  (l.map Prod.fst).Nodup ∧ ∀ m, m ∈ l ↔ ∃ info, Alive past m.1 info ∧ ok info ∧ m.2 = req

/-- What the operation answers, after those of `past`. -/
def Answers (past : List Op) (op : Op) (a : Answer) : Prop :=
  match op with
  | .RegisterServer _ _ | .PlayerEnterCross _ _ _ _ _ _ => a = .bool true
  | .UnregisterServer server_id | .UpdateServerHeartbeat server_id _ | .UpdateServerLoad server_id _ =>
    ∃ success, a = .bool success ∧ (success = true ↔ ∃ info, Alive past server_id info)
  | .GetServerInfo server_id => ∃ o, a = .info o ∧ ∀ info, o = some info ↔ Alive past server_id info
  | .GetServerList type => ∃ l, a = .list l ∧ Lists past (fun info => info.type = type) l
  | .GetAllServers => ∃ l, a = .list l ∧ Lists past (fun _ => True) l
  | .SelectBestServer type => ∃ n, a = .number n ∧ Best past type n
  | .SelectServerById server_id =>
    (a = .number server_id ∧ ∃ info, Alive past server_id info) ∨ (a = .number 0 ∧ ∀ info, ¬Alive past server_id info)
  | .PlayerLeaveCross role_id | .IsPlayerInCross role_id =>
    ∃ success, a = .bool success ∧ (success = true ↔ ∃ player, Crossing past role_id player)
  | .GetCrossPlayer role_id => ∃ o, a = .player o ∧ ∀ player, o = some player ↔ Crossing past role_id player
  | .RouteMessage src_server_id dest_server_id msg =>
    (a = .sent true [(dest_server_id, .RouteMessageReq src_server_id dest_server_id msg)] ∧
      ∃ info, Alive past dest_server_id info) ∨ (a = .sent false [] ∧ ∀ info, ¬Alive past dest_server_id info)
  | .BroadcastMessage type msg => ∃ success l, a = .sent success l ∧ (success = true ↔ l ≠ []) ∧
    Reaches past (fun info => info.type = type) (.BroadcastMessageReq (typeNumber type) msg) l
  | .BroadcastToAll msg => ∃ success l, a = .sent success l ∧ (success = true ↔ l ≠ []) ∧
    Reaches past (fun _ => True) (.BroadcastMessageReq 0 msg) l
  | .GetServerLoad server_id =>
    (∃ info, Alive past server_id info ∧ a = .number info.online_count) ∨
      (a = .number (-1) ∧ ∀ info, ¬Alive past server_id info)
  | .OnTimer _ _ => a = .unit

variable {past : List Op} {s s' : CenterServer} {ls : List (Op × Answer)}

/-- A server keeps the number that it registers with, and it is running. -/
theorem Alive.running {server_id : ℤ} {info : Server} (h : Alive past server_id info) :
    info.status = .RUNNING ∧ info.server_id = server_id := by
  refine Lease.Stands.holds (P := fun info => info.status = .RUNNING ∧ info.server_id = server_id) h
    (fun v hv => ?_) fun f hf v hv => ?_
  · obtain ⟨op, -, hop⟩ := List.mem_filterMap.1 hv
    cases op <;> simp only [serverEvent] at hop <;> try split at hop
    all_goals cases hop
    exact ⟨rfl, ‹_›⟩
  · obtain ⟨op, -, hop⟩ := List.mem_filterMap.1 hf
    cases op <;> simp only [serverEvent] at hop <;> try split at hop
    all_goals cases hop
    all_goals exact hv

/-! ## Steps -/

/-- The entries of the servers, each on its own. -/
theorem servers_of_step {l : Op × Answer} (h : CenterServer.step s l s') :
    Family (fun o e o' => o' = Lease.apply HEARTBEAT_TIMEOUT (fun info => info.last_heartbeat) o e)
      (fun l server_id => serverEvent server_id l.1) (fun server_id => s.servers_.lookup server_id) l
      fun server_id => s'.servers_.lookup server_id := by
  obtain ⟨order, hservers, -, h⟩ := h
  obtain ⟨op, a⟩ := l
  have honServer {id : ℤ} {f : Server → Server} (h : s.onServer id f = (a, s'))
      (hop : ∀ server_id, serverEvent server_id op = if id = server_id then some (.change f) else none) :
      Family (fun o e o' => o' = Lease.apply HEARTBEAT_TIMEOUT (fun info => info.last_heartbeat) o e)
        (fun l server_id => serverEvent server_id l.1) (fun server_id => s.servers_.lookup server_id) (op, a)
        fun server_id => s'.servers_.lookup server_id := by
    rw [CenterServer.onServer] at h
    cases hid : s.servers_.lookup id with
    | none =>
      rw [hid] at h
      obtain ⟨-, rfl⟩ := Prod.mk.inj h
      exact Family.update_self hop (by rw [hid]; rfl)
    | some info =>
      rw [hid] at h
      obtain ⟨-, rfl⟩ := Prod.mk.inj h
      rw [Dict.lookup_insert_eq]
      exact Family.update hop (by rw [hid]; rfl)
  cases op with
  | RegisterServer info now =>
    obtain ⟨-, rfl⟩ := Prod.mk.inj h
    rw [Dict.lookup_insert_eq]
    exact Family.update (fun _ => rfl) rfl
  | UpdateServerHeartbeat id now => exact honServer h fun _ => rfl
  | UpdateServerLoad id online_count => exact honServer h fun _ => rfl
  | UnregisterServer id =>
    simp only [CenterServer.exec] at h
    cases hid : s.servers_.lookup id with
    | none =>
      rw [hid] at h
      obtain ⟨-, rfl⟩ := Prod.mk.inj h
      exact Family.update_self (fun _ => rfl) (by rw [hid]; rfl)
    | some info =>
      rw [hid] at h
      obtain ⟨-, rfl⟩ := Prod.mk.inj h
      rw [Dict.lookup_erase_eq]
      exact Family.update (fun _ => rfl) rfl
  | OnTimer now now' =>
    obtain ⟨-, rfl⟩ := Prod.mk.inj h
    exact fun server_id => Lease.lookup_expire hservers server_id
  | SelectServerById | PlayerLeaveCross | RouteMessage =>
    simp only [CenterServer.exec] at h
    split at h
    all_goals try split at h
    all_goals
      obtain ⟨-, rfl⟩ := Prod.mk.inj h
      exact Family.stay fun _ => rfl
  | _ =>
    obtain ⟨-, rfl⟩ := Prod.mk.inj h
    exact Family.stay fun _ => rfl

theorem players_of_step {l : Op × Answer} (h : CenterServer.step s l s') :
    Family (fun o e o' => o' = Lease.apply CROSS_TIMEOUT (fun player => player.enter_time) o e)
      (fun l role_id => playerEvent role_id l.1) (fun role_id => s.cross_players_.lookup role_id) l
      fun role_id => s'.cross_players_.lookup role_id := by
  obtain ⟨order, -, hplayers, h⟩ := h
  obtain ⟨op, a⟩ := l
  cases op with
  | PlayerEnterCross role_id src_server_id dest_server_id cross_type token now =>
    obtain ⟨-, rfl⟩ := Prod.mk.inj h
    rw [Dict.lookup_insert_eq]
    exact Family.update (fun _ => rfl) rfl
  | PlayerLeaveCross role_id =>
    simp only [CenterServer.exec] at h
    cases hid : s.cross_players_.lookup role_id with
    | none =>
      rw [hid] at h
      obtain ⟨-, rfl⟩ := Prod.mk.inj h
      exact Family.update_self (fun _ => rfl) (by rw [hid]; rfl)
    | some player =>
      rw [hid] at h
      obtain ⟨-, rfl⟩ := Prod.mk.inj h
      rw [Dict.lookup_erase_eq]
      exact Family.update (fun _ => rfl) rfl
  | OnTimer now now' =>
    obtain ⟨-, rfl⟩ := Prod.mk.inj h
    exact fun role_id => Lease.lookup_expire hplayers role_id
  | UnregisterServer | SelectServerById | RouteMessage | UpdateServerHeartbeat | UpdateServerLoad =>
    simp only [CenterServer.exec, CenterServer.onServer] at h
    split at h
    all_goals try split at h
    all_goals
      obtain ⟨-, rfl⟩ := Prod.mk.inj h
      exact Family.stay fun _ => rfl
  | _ =>
    obtain ⟨-, rfl⟩ := Prod.mk.inj h
    exact Family.stay fun _ => rfl

/-- The servers of a run are those that are alive. -/
theorem lookup_servers (hrun : Run CenterServer.step .new ls s) (server_id : ℤ) (info : Server) :
    s.servers_.lookup server_id = some info ↔ Alive (ls.map Prod.fst) server_id info := by
  obtain ⟨m, hfamily, rfl⟩ := Run.simulates (R := fun s m => (fun id => s.servers_.lookup id) = m)
    (fun _ _ _ _ h hstep => ⟨_, h ▸ servers_of_step hstep, rfl⟩) rfl hrun
  rw [Alive, List.filterMap_map, ← Lease.foldl_eq_some_iff]
  rw [Run.foldl_iff.1 (run_family_iff.1 hfamily server_id)]
  rfl

theorem lookup_players (hrun : Run CenterServer.step .new ls s) (role_id : BitVec 64) (player : CrossServerPlayer) :
    s.cross_players_.lookup role_id = some player ↔ Crossing (ls.map Prod.fst) role_id player := by
  obtain ⟨m, hfamily, rfl⟩ := Run.simulates (R := fun s m => (fun id => s.cross_players_.lookup id) = m)
    (fun _ _ _ _ h hstep => ⟨_, h ▸ players_of_step hstep, rfl⟩) rfl hrun
  rw [Crossing, List.filterMap_map, ← Lease.foldl_eq_some_iff]
  rw [Run.foldl_iff.1 (run_family_iff.1 hfamily role_id)]
  rfl

/-! ## Answers -/

/-- The body of the loop of `SelectBestServer`. -/
def choose (type : ServerType) (best : ℤ × ℤ) (e : ℤ × ServerInfo) : ℤ × ℤ :=
  if e.2.type = type ∧ e.2.status = .RUNNING ∧ e.2.online_count < best.2 ∧ e.2.online_count < e.2.max_online then
    (e.1, e.2.online_count)
  else best

/-- What the loop has found in `servers`. -/
def Chosen (type : ServerType) (servers : List (ℤ × ServerInfo)) (best : ℤ × ℤ) : Prop :=
  (best = (0, INT32_MAX) ∧ ∀ e ∈ servers, ¬HasRoom type e.2) ∨
    ∃ info, (best.1, info) ∈ servers ∧ HasRoom type info ∧ best.2 = info.online_count ∧
      ∀ e ∈ servers, HasRoom type e.2 → info.online_count ≤ e.2.online_count

theorem chosen_foldl {type : ServerType} {servers : List (ℤ × ServerInfo)}
    (hrunning : ∀ e ∈ servers, e.2.status = .RUNNING) :
    Chosen type servers (servers.foldl (choose type) (0, INT32_MAX)) := by
  induction servers using List.reverseRecOn with
  | nil => exact .inl ⟨rfl, nofun⟩
  | append_singleton servers e ih =>
    have hchosen := ih fun e he => hrunning e (List.mem_append_left _ he)
    have he : e.2.status = .RUNNING := hrunning e (by simp)
    rw [List.foldl_append]
    generalize servers.foldl (choose type) (0, INT32_MAX) = best at hchosen
    show Chosen type (servers ++ [e]) (choose type best e)
    rw [choose]
    split_ifs with h
    · obtain ⟨htype, -, hlt, hmax⟩ := h
      rcases hchosen with ⟨rfl, hnone⟩ | ⟨info, hmem, hroom, hbest, hleast⟩
      · refine .inr ⟨e.2, by simp, ⟨htype, hmax, hlt⟩, rfl, fun e' he' hroom => ?_⟩
        rcases List.mem_append.1 he' with he' | he'
        · exact absurd hroom (hnone e' he')
        · rw [List.mem_singleton.1 he']
      · refine .inr ⟨e.2, by simp, ⟨htype, hmax, (hbest ▸ hlt).trans hroom.2.2⟩, rfl, fun e' he' hroom' => ?_⟩
        rcases List.mem_append.1 he' with he' | he'
        · exact (hbest ▸ hlt).le.trans (hleast e' he' hroom')
        · rw [List.mem_singleton.1 he']
    · rcases hchosen with ⟨rfl, hnone⟩ | ⟨info, hmem, hroom, hbest, hleast⟩
      · refine .inl ⟨rfl, fun e' he' hroom => ?_⟩
        rcases List.mem_append.1 he' with he' | he'
        · exact hnone e' he' hroom
        · obtain rfl := List.mem_singleton.1 he'
          exact h ⟨hroom.1, he, hroom.2.2, hroom.2.1⟩
      · refine .inr ⟨info, List.mem_append_left _ hmem, hroom, hbest, fun e' he' hroom' => ?_⟩
        rcases List.mem_append.1 he' with he' | he'
        · exact hleast e' he' hroom'
        · obtain rfl := List.mem_singleton.1 he'
          by_contra hlt
          exact h ⟨hroom'.1, he, hbest ▸ Int.not_le.1 hlt, hroom'.2.1⟩

/-- `SelectBestServer`, for the servers in some order. -/
theorem best_of_visits (hrun : Run CenterServer.step .new ls s) {order : List (ℤ × Server)}
    (horder : s.servers_.Visits order) (type : ServerType) :
    Best (ls.map Prod.fst) type (SelectBestServer (order.map fun e => (e.1, e.2.toServerInfo)) type) := by
  have halive (id : ℤ) (info : Server) : (id, info) ∈ order ↔ Alive (ls.map Prod.fst) id info :=
    (horder.2 id info).trans (lookup_servers hrun id info)
  have hchosen : Chosen type (order.map fun e => (e.1, e.2.toServerInfo)) _ := chosen_foldl fun e he => by
    obtain ⟨s, hs, rfl⟩ := List.mem_map.1 he
    exact ((halive s.1 s.2).1 hs).running.1
  rcases hchosen with ⟨hzero, hnone⟩ | ⟨info, hmem, hroom, -, hleast⟩
  · refine .inl ⟨congrArg Prod.fst hzero, fun id info h => ?_⟩
    exact hnone (id, info.toServerInfo) (List.mem_map.2 ⟨(id, info), (halive id info).2 h, rfl⟩)
  · obtain ⟨⟨id, server⟩, hserver, heq⟩ := List.mem_map.1 hmem
    obtain ⟨rfl, rfl⟩ := Prod.mk.inj heq
    refine .inr ⟨server, (halive _ server).1 hserver, hroom, fun id' other h => ?_⟩
    exact hleast (id', other.toServerInfo) (List.mem_map.2 ⟨(id', other), (halive id' other).2 h, rfl⟩)

theorem lists_of_visits (hrun : Run CenterServer.step .new ls s) {order : List (ℤ × Server)}
    (horder : s.servers_.Visits order) {P : Server → Prop} {p : Server → Bool}
    (hp : ∀ info, info.status = .RUNNING → (p info = true ↔ P info)) :
    Lists (ls.map Prod.fst) P ((order.filter fun e => p e.2).map Prod.snd) := by
  have halive (id : ℤ) (info : Server) : (id, info) ∈ order ↔ Alive (ls.map Prod.fst) id info :=
    (horder.2 id info).trans (lookup_servers hrun id info)
  have hid : ∀ e ∈ order, e.2.server_id = e.1 := fun e he => ((halive e.1 e.2).1 he).running.2
  constructor
  · rw [List.map_map]
    have hmap : (order.filter fun e => p e.2).map ((fun info => info.server_id) ∘ Prod.snd) =
        (order.filter fun e => p e.2).map Prod.fst :=
      List.map_congr_left fun e he => hid e (List.mem_filter.1 he).1
    rw [hmap]
    exact horder.1.sublist (List.filter_sublist.map _)
  · intro info
    simp only [List.mem_map, List.mem_filter, Prod.exists, exists_eq_right]
    constructor
    · rintro ⟨id, hmem, hpinfo⟩
      have h := (halive id info).1 hmem
      exact ⟨h.running.2 ▸ h, (hp info h.running.1).1 hpinfo⟩
    · rintro ⟨h, hok⟩
      exact ⟨_, (halive _ info).2 h, (hp info h.running.1).2 hok⟩

theorem reaches_of_visits (hrun : Run CenterServer.step .new ls s) {order : List (ℤ × Server)}
    (horder : s.servers_.Visits order) {P : Server → Prop} {p : Server → Bool} {req : Message}
    (hp : ∀ info, p info = true ↔ P info) : ∃ success l, broadcast order p req = .sent success l ∧
      (success = true ↔ l ≠ []) ∧ Reaches (ls.map Prod.fst) P req l := by
  have halive (id : ℤ) (info : Server) : (id, info) ∈ order ↔ Alive (ls.map Prod.fst) id info :=
    (horder.2 id info).trans (lookup_servers hrun id info)
  refine ⟨_, _, rfl, ?_, ?_, fun m => ?_⟩
  · rw [decide_eq_true_iff, gt_iff_lt, List.length_pos_iff]
  · rw [List.map_map]
    exact horder.1.sublist (List.filter_sublist.map _)
  · simp only [List.mem_map, List.mem_filter, Prod.exists]
    constructor
    · rintro ⟨id, info, ⟨hmem, hok⟩, rfl⟩
      rw [Bool.and_eq_true] at hok
      exact ⟨info, (halive id info).1 hmem, (hp info).1 hok.1, rfl⟩
    · rintro ⟨info, h, hok, rfl⟩
      refine ⟨m.1, info, ⟨(halive _ info).2 h, ?_⟩, rfl⟩
      rw [Bool.and_eq_true, h.running.1]
      exact ⟨(hp info).2 hok, rfl⟩

theorem answers_of_step {l : Op × Answer} (hrun : Run CenterServer.step .new ls s)
    (h : CenterServer.step s l s') : Answers (ls.map Prod.fst) l.1 l.2 := by
  obtain ⟨order, hservers, -, h⟩ := h
  obtain ⟨op, a⟩ := l
  have hserver := lookup_servers hrun
  have hplayer := lookup_players hrun
  cases op with
  | RegisterServer | PlayerEnterCross | OnTimer => exact (Prod.mk.inj h).1.symm
  | UnregisterServer id | UpdateServerHeartbeat id | UpdateServerLoad id =>
    simp only [CenterServer.exec, CenterServer.onServer] at h
    split at h
    · rename_i hid
      refine ⟨false, (Prod.mk.inj h).1.symm, nofun, fun ⟨info, hinfo⟩ => ?_⟩
      cases hid.symm.trans ((hserver id info).2 hinfo)
    · rename_i info hid
      exact ⟨true, (Prod.mk.inj h).1.symm, fun _ => ⟨info, (hserver id info).1 hid⟩, fun _ => rfl⟩
  | PlayerLeaveCross id =>
    simp only [CenterServer.exec] at h
    split at h
    · rename_i hid
      refine ⟨false, (Prod.mk.inj h).1.symm, nofun, fun ⟨player, hin⟩ => ?_⟩
      cases hid.symm.trans ((hplayer id player).2 hin)
    · rename_i player hid
      exact ⟨true, (Prod.mk.inj h).1.symm, fun _ => ⟨player, (hplayer id player).1 hid⟩, fun _ => rfl⟩
  | SelectServerById id | RouteMessage _ id =>
    simp only [CenterServer.exec] at h
    split at h
    · rename_i hid
      refine .inr ⟨(Prod.mk.inj h).1.symm, fun info hinfo => ?_⟩
      cases hid.symm.trans ((hserver id info).2 hinfo)
    · rename_i info hid
      have halive := (hserver id info).1 hid
      rw [if_pos halive.running.1] at h
      exact .inl ⟨(Prod.mk.inj h).1.symm, info, halive⟩
  | GetServerInfo id => exact ⟨_, (Prod.mk.inj h).1.symm, hserver id⟩
  | GetCrossPlayer id => exact ⟨_, (Prod.mk.inj h).1.symm, hplayer id⟩
  | IsPlayerInCross id =>
    refine ⟨_, (Prod.mk.inj h).1.symm, ?_⟩
    simp only [Option.isSome_iff_exists, hplayer]
  | GetServerList type =>
    refine ⟨_, (Prod.mk.inj h).1.symm, lists_of_visits hrun hservers
      (p := fun info => info.type == type && info.status == .RUNNING) fun info hinfo => ?_⟩
    simp [hinfo]
  | GetAllServers =>
    refine ⟨_, (Prod.mk.inj h).1.symm, ?_⟩
    have hall := lists_of_visits hrun hservers (P := fun _ => True) (p := fun _ => true) fun _ _ => by simp
    rwa [List.filter_true] at hall
  | SelectBestServer type => exact ⟨_, (Prod.mk.inj h).1.symm, best_of_visits hrun hservers type⟩
  | BroadcastMessage type msg =>
    obtain rfl := (Prod.mk.inj h).1
    exact reaches_of_visits hrun hservers (P := fun info => info.type = type) fun info => beq_iff_eq
  | BroadcastToAll msg =>
    obtain rfl := (Prod.mk.inj h).1
    exact reaches_of_visits hrun hservers (P := fun _ => True) (p := fun _ => true) fun _ => by simp
  | GetServerLoad id =>
    obtain rfl := (Prod.mk.inj h).1
    cases hid : s.servers_.lookup id with
    | none =>
      refine .inr ⟨rfl, fun info hinfo => ?_⟩
      cases hid.symm.trans ((hserver id info).2 hinfo)
    | some info => exact .inl ⟨info, (hserver id info).1 hid, rfl⟩

/-- **What an operation answers** in any run is told by the operations before it. -/
theorem answers_of_history (hrun : Run CenterServer.step .new ls s) {before after : List (Op × Answer)}
    {l : Op × Answer} (hls : ls = before ++ l :: after) : Answers (before.map Prod.fst) l.1 l.2 := by
  subst hls
  obtain ⟨t, hbefore, hafter⟩ := Run.append_iff.1 hrun
  obtain ⟨u, hstep, -⟩ := Run.cons_iff.1 hafter
  exact answers_of_step hbefore hstep

/-- An order to visit the maps in. -/
def CenterServer.order (s : CenterServer) : Order :=
  ⟨s.servers_.entries.map fun e => (e.1, e.2), s.cross_players_.entries.map fun e => (e.1, e.2)⟩

theorem CenterServer.step_order (s : CenterServer) (op : Op) :
    s.step (op, (s.exec s.order op).1) (s.exec s.order op).2 :=
  ⟨s.order, Dict.visits_entries _, Dict.visits_entries _, rfl⟩

/-- Any operations have a run. -/
theorem exists_run (s : CenterServer) : ∀ ops : List Op, ∃ ls s', ls.map Prod.fst = ops ∧ Run CenterServer.step s ls s'
  | [] => ⟨[], s, rfl, .nil s⟩
  | op :: ops => by
    obtain ⟨ls, s', hls, hrun⟩ := exists_run (s.exec s.order op).2 ops
    exact ⟨_ :: ls, s', by rw [List.map_cons, hls], .cons (s.step_order op) hrun⟩

/-- Two logic servers register, and the one with less players is not heard of again. -/
theorem answers_of_history_timeout :
    let server (id online_count : ℤ) : Server := ⟨⟨.LOGIC, .INIT, online_count, 100⟩, id, [], 0, 0, 0, [], []⟩
    ∃ ls s, ls.map Prod.fst = [.RegisterServer (server 1 5) 0, .RegisterServer (server 2 3) 0,
        .UpdateServerHeartbeat 1 20, .OnTimer 40 40, .SelectBestServer .LOGIC] ∧
      Run CenterServer.step .new ls s ∧ ∀ before l after, ls = before ++ l :: after →
        Answers (before.map Prod.fst) l.1 l.2 := by
  intro server
  obtain ⟨ls, s, hls, hrun⟩ := exists_run .new [.RegisterServer (server 1 5) 0, .RegisterServer (server 2 3) 0,
    .UpdateServerHeartbeat 1 20, .OnTimer 40 40, .SelectBestServer .LOGIC]
  exact ⟨ls, s, hls, hrun, fun _ _ _ => answers_of_history hrun⟩

/-! ## Matches -/

theorem sent_of_success {env : Env} {queues : Queues} {match_type : ℤ} {team_size : BitVec 32}
    {matched : List (BitVec 64)} {sent : List (ℤ × MatchSuccessNtf)}
    (h : (ProcessMatch env queues match_type team_size).1 = ⟨true, matched, sent⟩) :
    0 < SelectBestServer env.servers .LOGIC ∧ sent = (NotifyMatchSuccess env.cross_players
      ⟨match_type, env.room_id, SelectBestServer env.servers .LOGIC, matched⟩).2 := by
  rw [ProcessMatch] at h
  split at h
  · cases h
  · simp only at h
    split_ifs at h with hshort hserver hfailed
    · cases h
    · cases h
    · cases hfailed
    · cases h
      exact ⟨not_le.1 hserver, rfl⟩

/-- **A match goes to the best server** that is alive when it is chosen, and the servers are told on which
    the matched players are when they are told. -/
theorem match_of_history {ls' : List (Op × Answer)} (hrun : Run CenterServer.step .new ls s)
    (hrun' : Run CenterServer.step s ls' s') {env : Env} {order : List (ℤ × Server)}
    (horder : s.servers_.Visits order) (hservers : env.servers = order.map fun e => (e.1, e.2.toServerInfo))
    (hplayers : ∀ role_id, env.cross_players.lookup role_id =
      (s'.cross_players_.lookup role_id).map fun player => player.dest_server_id)
    {queues : Queues} {match_type : ℤ} {team_size : BitVec 32} {matched : List (BitVec 64)}
    {sent : List (ℤ × MatchSuccessNtf)}
    (h : (ProcessMatch env queues match_type team_size).1 = ⟨true, matched, sent⟩) :
    ∃ dest_server_id, 0 < dest_server_id ∧ Best (ls.map Prod.fst) .LOGIC dest_server_id ∧
      ∃ place : BitVec 64 → Option ℤ,
        (∀ role_id id, place role_id = some id ↔ ∃ player, Crossing ((ls ++ ls').map Prod.fst) role_id player ∧
          player.dest_server_id = id) ∧
        sent = matched.filterMap fun role_id =>
          (place role_id).map fun id => (id, ⟨match_type, env.room_id, dest_server_id, matched⟩) := by
  obtain ⟨hpos, hsent⟩ := sent_of_success h
  have hbest := best_of_visits hrun horder .LOGIC
  rw [← hservers] at hbest
  refine ⟨_, hpos, hbest, fun role_id => env.cross_players.lookup role_id, fun role_id id => ?_, hsent⟩
  have hplayer := lookup_players (Run.append_iff.2 ⟨s, hrun, hrun'⟩) role_id
  show env.cross_players.lookup role_id = some id ↔ _
  rw [hplayers, Option.map_eq_some_iff]
  simp only [hplayer]

/-- The server of the match is taken off while the player is told. -/
theorem match_of_history_one :
    let server : Server := ⟨⟨.LOGIC, .INIT, 5, 100⟩, 1, [], 0, 0, 0, [], []⟩
    let past : List Op := [.RegisterServer server 0, .PlayerEnterCross 7 2 3 1 [] 0]
    ∃ dest_server_id, 0 < dest_server_id ∧ Best past .LOGIC dest_server_id ∧
      ∃ place : BitVec 64 → Option ℤ,
        (∀ role_id id, place role_id = some id ↔
          ∃ player, Crossing (past ++ [.UnregisterServer 1]) role_id player ∧ player.dest_server_id = id) ∧
        [(3, ⟨1, 6, 1, [7]⟩)] = [7].filterMap fun role_id =>
          (place role_id).map fun id => (id, (⟨1, 6, dest_server_id, [7]⟩ : MatchSuccessNtf)) := by
  intro server past
  let s₁ := (CenterServer.new.exec CenterServer.new.order (.RegisterServer server 0)).2
  let s₂ := (s₁.exec s₁.order (.PlayerEnterCross 7 2 3 1 [] 0)).2
  let env : Env := ⟨insertion, s₂.order.servers.map fun e => (e.1, e.2.toServerInfo), (∅ : Finmap _).insert 7 3, 6⟩
  have hrun : Run CenterServer.step .new [(.RegisterServer server 0, .bool true),
      (.PlayerEnterCross 7 2 3 1 [] 0, .bool true)] s₂ :=
    .cons (CenterServer.new.step_order _) (.cons (s₁.step_order _) (.nil _))
  have hplayers (role_id : BitVec 64) : env.cross_players.lookup role_id =
      (s₂.cross_players_.lookup role_id).map fun player => player.dest_server_id := by
    show ((∅ : Finmap fun _ : BitVec 64 => ℤ).insert 7 3).lookup role_id =
      (((∅ : Dict (BitVec 64) CrossServerPlayer).insert 7 _).lookup role_id).map _
    rw [Dict.lookup_insert_iff]
    split_ifs with h
    · rw [h, Finmap.lookup_insert]
      rfl
    · rw [Finmap.lookup_insert_of_ne _ h, Finmap.lookup_empty]
      rfl
  have hmatch : (ProcessMatch env ((∅ : Queues).insert 1 [(7, 10)]) 1 1).1 = ⟨true, [7], [(3, ⟨1, 6, 1, [7]⟩)]⟩ := rfl
  exact match_of_history hrun (.cons (s₂.step_order (.UnregisterServer 1)) (.nil _))
    (Dict.visits_entries _) rfl hplayers hmatch

end Ancfl.Game.Center
