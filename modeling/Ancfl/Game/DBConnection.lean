/-
  The connection on which `AccountService` asks `DBService`.

  * `SendDBRequest` is two `send`s and two `recv`s on `db_server_conn_`, which
    all handlers share; `DBService::HandleRecv` takes the requests off it in
    order, and sends each response before it reads on;
  * `Sys`: where each call is, the bytes on their way in both directions, and
    where the service is; a step is one `send` or `recv`;
  * `Phase`: what is on its way while a single call is in progress; `Advances`:
    what a step of the call leads to;
  * `own_of_alone`: a call that returns true has its own response, in a run in
    which a call begins only when the connection is idle, and nothing is cut.
-/
import Ancfl.Game.Message
import Ancfl.Lib.Run
import Mathlib.Data.Finmap

namespace Ancfl.Game.DBConnection

open Lib

/-! ## The two ends -/

def MSG_DB_REQ : BitVec 32 := 100090

def MSG_DB_RESP : BitVec 32 := 100091

/-- What protobuf makes of the messages of a type. -/
structure Proto (M : Type) where
  SerializeToString : M → Option (List UInt8)
  ParseFromArray : List UInt8 → Option M
  parse_serialize : ∀ {m data}, SerializeToString m = some data → ParseFromArray data = some m
  /-- a message of 2 GiB is not serialized -/
  length_lt : ∀ {m data}, SerializeToString m = some data → data.length < 2 ^ 31

/-- `SendDBRequest` before its next `send` or `recv`, or when it has returned: the response, if it
    returned true. -/
inductive Stage (Rsp : Type)
  | sendHeader (req_data : List UInt8)
  | sendBody (req_data : List UInt8)
  | recvHeader
  | recvBody (body_len : ℕ)
  | returned (rsp : Option Rsp)

/-- `HandleRecv` before its next `recv` or `send`; `callers` are the calls whose bytes the header
    was read from. -/
inductive Service (T : Type)
  | recvHeader
  | recvBody (body_len : ℕ) (callers : List T)
  | sendHeader (rsp_data : List UInt8)
  | sendBody (rsp_data : List UInt8)
  | returned

/-- A request that the service has handled, with the calls whose bytes it was read from. -/
structure Handled (T Req Rsp : Type) where
  callers : List T
  req : Req
  rsp : Rsp

/-- `T` are the calls of `SendDBRequest`. -/
structure Sys (T Req Rsp : Type) where
  db_server_conn : Bool
  calls : Finmap fun _ : T => Req × Stage Rsp
  /-- the bytes on their way to the service, with the calls that sent them -/
  requests : List (T × UInt8)
  /-- the bytes on their way back -/
  responses : List UInt8
  service : Service T
  /-- of `HandleRecv` -/
  buffer : List UInt8
  handled : List (Handled T Req Rsp)

inductive Label (T Req Rsp : Type)
  /-- `ConnectToDBServer` -/
  | connect
  | call (t : T) (req : Req)
  /-- the next `send` or `recv` of a call moves `k` bytes, or fails if that is 0; `junk` is what is
      in the memory of `resp_header` -/
  | account (t : T) (k : ℕ) (junk : List UInt8)
  /-- the same of the service; `rsp` is what the `switch` makes of the request -/
  | db (k : ℕ) (junk : List UInt8) (rsp : Rsp)

variable {T Req Rsp : Type}

def init (T Req Rsp : Type) : Sys T Req Rsp := ⟨false, ∅, [], [], .returned, [], []⟩

/-- The header of a message with this body. -/
def header (msg_id : BitVec 32) (body : List UInt8) : MessageHeader :=
  (⟨msg_id, 0, 0, body⟩ : Message).header

/-- The first `k` of the bytes that a `send` or `recv` may move. -/
def moved {α : Type} (k : ℕ) (l : List α) : Option (List α) :=
  if k ≤ l.length then some (l.take k) else none

section
variable [DecidableEq T]

def Sys.set (s : Sys T Req Rsp) (t : T) (req : Req) (stage : Stage Rsp) : Sys T Req Rsp :=
  { s with calls := s.calls.insert t (req, stage) }

def call (P : Proto Req) (s : Sys T Req Rsp) (t : T) (req : Req) : Sys T Req Rsp :=
  if s.db_server_conn then
    match P.SerializeToString req with
    | none => s.set t req (.returned none)
    | some req_data => s.set t req (.sendHeader req_data)
  else s.set t req (.returned none)

def account (R : Proto Rsp) (s : Sys T Req Rsp) (t : T) (k : ℕ) (junk : List UInt8) (req : Req) :
    Stage Rsp → Option (Sys T Req Rsp)
  | .sendHeader req_data => do
    let bytes ← moved k (header MSG_DB_REQ req_data).swap.image
    if bytes = [] then some (s.set t req (.returned none))
    else
      let s := { s with requests := s.requests ++ bytes.map fun b => (t, b) }
      some (s.set t req (.sendBody req_data))
  | .sendBody req_data => do
    let bytes ← moved k req_data
    if bytes = [] then some (s.set t req (.returned none))
    else
      let s := { s with requests := s.requests ++ bytes.map fun b => (t, b) }
      some (s.set t req .recvHeader)
  | .recvHeader => do
    let bytes ← moved k (s.responses.take 20)
    let s := { s with responses := s.responses.drop k }
    if bytes = [] then some (s.set t req (.returned none))
    else
      let resp_header := (MessageHeader.ofImage (overwrite junk 0 bytes)).swap
      if resp_header.msg_len.toNat < 20 ∨ resp_header.msg_len.toNat > 1024 * 1024 then
        some (s.set t req (.returned none))
      else some (s.set t req (.recvBody (resp_header.msg_len.toNat - 20)))
  | .recvBody body_len => do
    let bytes ← moved k (s.responses.take body_len)
    let s := { s with responses := s.responses.drop k }
    if bytes = [] then some (s.set t req (.returned none))
    else
      let resp_buffer := overwrite (List.replicate body_len 0) 0 bytes
      some (s.set t req (.returned (R.ParseFromArray resp_buffer)))
  | .returned _ => none

end

def db (P : Proto Req) (R : Proto Rsp) (s : Sys T Req Rsp) (k : ℕ) (junk : List UInt8) (rsp : Rsp) :
    Option (Sys T Req Rsp) :=
  match s.service with
  | .recvHeader => do
    let bytes ← moved k (s.requests.take 20)
    let s := { s with requests := s.requests.drop k }
    if bytes = [] then some { s with service := .returned }
    else
      let header := (MessageHeader.ofImage (overwrite junk 0 (bytes.map (·.2)))).swap
      if header.msg_len.toNat > 32768 ∨ header.msg_len.toNat < 20 then
        some { s with service := .returned }
      else
        let body_len := header.msg_len.toNat - 20
        if body_len > 0 then
          some { s with
            service := .recvBody body_len (bytes.map (·.1))
            buffer := s.buffer ++ List.replicate (body_len - s.buffer.length) 0 }
        else some { s with service := .recvHeader }
  | .recvBody body_len callers => do
    let bytes : List (T × UInt8) ← moved k (s.requests.take body_len)
    let s := { s with requests := s.requests.drop k }
    if bytes = [] then some { s with service := .returned }
    else
      let s : Sys T Req Rsp := { s with buffer := overwrite s.buffer 0 (bytes.map (·.2)) }
      match P.ParseFromArray (s.buffer.take body_len) with
      | none => some { s with service := .recvHeader }
      | some req =>
        let s : Sys T Req Rsp :=
          { s with handled := s.handled ++ [⟨callers ++ bytes.map (·.1), req, rsp⟩] }
        match R.SerializeToString rsp with
        | none => some { s with service := .recvHeader }
        | some rsp_data => some { s with service := .sendHeader rsp_data }
  | .sendHeader rsp_data => do
    let bytes ← moved k (header MSG_DB_RESP rsp_data).swap.image
    some { s with responses := s.responses ++ bytes, service := .sendBody rsp_data }
  | .sendBody rsp_data => do
    let bytes ← moved k rsp_data
    some { s with responses := s.responses ++ bytes, service := .recvHeader }
  | .returned => none

def next [DecidableEq T] (P : Proto Req) (R : Proto Rsp) (s : Sys T Req Rsp) :
    Label T Req Rsp → Option (Sys T Req Rsp)
  | .connect =>
    -- once there is a connection, `OnTimer5s` makes no other
    if s.db_server_conn then none
    else some { s with
      db_server_conn := true
      requests := []
      responses := []
      service := .recvHeader
      buffer := List.replicate 8192 0 }
  | .call t req => if t ∈ s.calls then none else some (call P s t req)
  | .account t k junk => do
    let (req, stage) ← s.calls.lookup t
    account R s t k junk req stage
  | .db k junk rsp => db P R s k junk rsp

def step [DecidableEq T] (P : Proto Req) (R : Proto Rsp) (s : Sys T Req Rsp) (l : Label T Req Rsp)
    (s' : Sys T Req Rsp) : Prop := next P R s l = some s'

/-! ## What is to hold, and when -/

/-- The response is what the service made of this request, read off the bytes of this call. -/
def IsOwn (handled : List (Handled T Req Rsp)) (t : T) (req : Req) (rsp : Rsp) : Prop :=
  ∃ h ∈ handled, (∀ c ∈ h.callers, c = t) ∧ h.req = req ∧ h.rsp = rsp

section
variable [DecidableEq T]

/-- Every call that returned true has its own response. -/
def Own (s : Sys T Req Rsp) : Prop :=
  ∀ t req rsp, s.calls.lookup t = some (req, .returned (some rsp)) → IsOwn s.handled t req rsp

/-- The call has returned. -/
def Stage.Done (stage : Stage Rsp) : Prop := ∃ rsp, stage = .returned rsp

/-- No call is in progress, nothing is on its way, and the service waits for a request. -/
def Idle (s : Sys T Req Rsp) : Prop :=
  (∀ t x, s.calls.lookup t = some x → x.2.Done) ∧ s.requests = [] ∧ s.responses = [] ∧
    s.service = .recvHeader

/-- The number of bytes that a call asks to be moved. -/
def Stage.asked : Stage Rsp → ℕ
  | .sendHeader _ | .recvHeader => 20
  | .sendBody req_data => req_data.length
  | .recvBody body_len => body_len
  | .returned _ => 0

/-- A call begins on an idle connection; every `send` and `recv` moves all bytes that it is asked
    to, or fails, if it is not a `send` of the service. -/
def Alone (s : Sys T Req Rsp) : Label T Req Rsp → Prop
  | .connect => True
  | .call _ _ => s.db_server_conn = true → Idle s
  | .account t k _ => k = 0 ∨ ∃ x, s.calls.lookup t = some x ∧ k = x.2.asked
  | .db k _ _ =>
    match s.service with
    | .recvHeader => k = 0 ∨ k = 20
    | .recvBody body_len _ => k = 0 ∨ k = body_len
    | .sendHeader _ => k = 20
    | .sendBody rsp_data => k = rsp_data.length
    | .returned => True

end

/-! ## Headers and moves -/

theorem length_header (msg_id : BitVec 32) (body : List UInt8) :
    (header msg_id body).swap.image.length = 20 := MessageHeader.length_image _

theorem header_ne_nil (msg_id : BitVec 32) (body : List UInt8) :
    (header msg_id body).swap.image ≠ [] := by
  intro hnil
  have hlen := length_header msg_id body
  rw [hnil] at hlen
  cases hlen

/-- The header as it is received, over whatever was in memory. -/
theorem ofImage_header (msg_id : BitVec 32) (body junk : List UInt8) :
    (MessageHeader.ofImage (overwrite junk 0 (header msg_id body).swap.image)).swap =
      header msg_id body := by
  rw [overwrite_zero, MessageHeader.ofImage_image, MessageHeader.swap_swap]

theorem msg_len_header (msg_id : BitVec 32) {body : List UInt8} (h : body.length < 2 ^ 31) :
    (header msg_id body).msg_len.toNat = 20 + body.length :=
  Message.msg_len_toNat (m := ⟨msg_id, 0, 0, body⟩) (by
    show 20 + body.length < 2 ^ 32
    omega)

section
variable {α : Type} {k : ℕ} {l bytes : List α}

theorem moved_eq (h : moved k l = some bytes) : k ≤ l.length ∧ bytes = l.take k := by
  rw [moved] at h
  split_ifs at h with hle
  exact ⟨hle, (Option.some.inj h).symm⟩

theorem moved_zero (h : moved 0 l = some bytes) : bytes = [] := (moved_eq h).2

theorem moved_all (h : moved l.length l = some bytes) : bytes = l :=
  (moved_eq h).2.trans l.take_length

/-- A move of all that is asked for, of which there may be too little. -/
theorem moved_take {n : ℕ} (h : moved n (l.take n) = some bytes) :
    n ≤ l.length ∧ bytes = l.take n := by
  obtain ⟨hle, hbytes⟩ := moved_eq h
  rw [List.length_take] at hle
  rw [List.take_take, min_self] at hbytes
  exact ⟨by omega, hbytes⟩

/-- A move of all that is asked for takes what comes first. -/
theorem moved_front {front later rest : List α} (hcome : l ++ later = front ++ rest)
    (h : moved front.length (l.take front.length) = some bytes) :
    bytes = front ∧ l.drop front.length ++ later = rest := by
  obtain ⟨hle, hbytes⟩ := moved_take h
  have htake := congrArg (List.take front.length) hcome
  have hdrop := congrArg (List.drop front.length) hcome
  rw [List.take_append_of_le_length hle, List.take_left] at htake
  rw [List.drop_append_of_le_length hle, List.drop_left] at hdrop
  exact ⟨hbytes.trans htake, hdrop⟩

theorem moved_nil (h : moved k ([] : List α) = some bytes) : k = 0 ∧ bytes = [] := by
  obtain ⟨hle, hbytes⟩ := moved_eq h
  rw [List.take_nil] at hbytes
  exact ⟨by simpa using hle, hbytes⟩

end

/-! ## The phases of a call -/

/-- The bytes of a response that the service has still to send. -/
def pending : Service T → List UInt8
  | .sendHeader rsp_data => (header MSG_DB_RESP rsp_data).swap.image ++ rsp_data
  | .sendBody rsp_data => rsp_data
  | _ => []

/-- The service has no request to handle any more. -/
inductive Last : List (T × UInt8) → Service T → Prop
  | sendHeader (rsp_data : List UInt8) : Last [] (.sendHeader rsp_data)
  | sendBody (rsp_data : List UInt8) : Last [] (.sendBody rsp_data)
  | recvHeader : Last [] .recvHeader
  | returned (requests : List (T × UInt8)) : Last requests .returned

/-- Where the request of call `t` is before it is answered; of its body, `body` was sent. -/
inductive Unanswered (t : T) (req_data body : List UInt8) : List (T × UInt8) → Service T → Prop
  | unread {requests : List (T × UInt8)}
      (hrequests : requests =
        ((header MSG_DB_REQ req_data).swap.image ++ body).map fun b => (t, b)) :
      Unanswered t req_data body requests .recvHeader
  | read {callers : List T} (hdata : req_data ≠ []) (hcallers : ∀ c ∈ callers, c = t) :
      Unanswered t req_data body (body.map fun b => (t, b)) (.recvBody req_data.length callers)
  /-- there is no response to come -/
  | silent (hbody : body = [] → req_data = []) : Unanswered t req_data body [] .recvHeader
  | returned (requests : List (T × UInt8)) : Unanswered t req_data body requests .returned

/-- What is on its way, and where the service is, at each stage of the only call in progress. -/
inductive Phase (P : Proto Req) (R : Proto Rsp) (t : T) (req : Req)
    (handled : List (Handled T Req Rsp)) :
    Stage Rsp → List (T × UInt8) → List UInt8 → Service T → Prop
  | sendHeader {req_data : List UInt8} {service : Service T}
      (hdata : P.SerializeToString req = some req_data)
      (hservice : service = .recvHeader ∨ service = .returned) :
      Phase P R t req handled (.sendHeader req_data) [] [] service
  | sendBody {req_data : List UInt8} {requests : List (T × UInt8)} {service : Service T}
      (hdata : P.SerializeToString req = some req_data)
      (hun : Unanswered t req_data [] requests service) :
      Phase P R t req handled (.sendBody req_data) requests [] service
  | asked {req_data : List UInt8} {requests : List (T × UInt8)} {service : Service T}
      (hdata : P.SerializeToString req = some req_data)
      (hun : Unanswered t req_data req_data requests service) :
      Phase P R t req handled .recvHeader requests [] service
  | answered {rsp : Rsp} {rsp_data responses : List UInt8} {requests : List (T × UInt8)}
      {service : Service T} (hown : IsOwn handled t req rsp)
      (hdata : R.SerializeToString rsp = some rsp_data) (hlast : Last requests service)
      (hcome :
        responses ++ pending service = (header MSG_DB_RESP rsp_data).swap.image ++ rsp_data) :
      Phase P R t req handled .recvHeader requests responses service
  | recvBody {rsp : Rsp} {rsp_data responses : List UInt8} {requests : List (T × UInt8)}
      {service : Service T} (hown : IsOwn handled t req rsp)
      (hdata : R.SerializeToString rsp = some rsp_data) (hlast : Last requests service)
      (hcome : responses ++ pending service = rsp_data) :
      Phase P R t req handled (.recvBody rsp_data.length) requests responses service

theorem IsOwn.mono {handled handled' : List (Handled T Req Rsp)} {t : T} {req : Req} {rsp : Rsp}
    (h : IsOwn handled t req rsp) (hle : handled <+: handled') : IsOwn handled' t req rsp := by
  obtain ⟨x, hx, hown⟩ := h
  exact ⟨x, hle.subset hx, hown⟩

section
variable {P : Proto Req} {R : Proto Rsp} {s s' : Sys T Req Rsp} {k : ℕ} {junk : List UInt8}
  {rsp : Rsp}

/-- A step of the service changes no call, and only adds to what was handled. -/
theorem db_frame (hdb : db P R s k junk rsp = some s') :
    s'.db_server_conn = s.db_server_conn ∧ s'.calls = s.calls ∧ s.handled <+: s'.handled := by
  obtain ⟨conn, calls, requests, responses, service, buffer, handled⟩ := s
  cases service with
  | recvHeader =>
    obtain ⟨bytes, -, hdb⟩ := Option.bind_eq_some_iff.1 hdb
    dsimp only at hdb
    split_ifs at hdb <;> cases hdb <;> exact ⟨rfl, rfl, List.prefix_rfl⟩
  | recvBody body_len callers =>
    obtain ⟨bytes, -, hdb⟩ := Option.bind_eq_some_iff.1 hdb
    dsimp only at hdb
    split_ifs at hdb with hbytes
    · cases hdb; exact ⟨rfl, rfl, List.prefix_rfl⟩
    · cases hparse : P.ParseFromArray _ with
      | none => rw [hparse] at hdb; cases hdb; exact ⟨rfl, rfl, List.prefix_rfl⟩
      | some req =>
        rw [hparse] at hdb
        cases hdata : R.SerializeToString rsp with
        | none => simp only [hdata] at hdb; cases hdb; exact ⟨rfl, rfl, List.prefix_append _ _⟩
        | some rsp_data =>
          simp only [hdata] at hdb; cases hdb; exact ⟨rfl, rfl, List.prefix_append _ _⟩
  | sendHeader rsp_data =>
    obtain ⟨bytes, -, hdb⟩ := Option.bind_eq_some_iff.1 hdb
    cases hdb; exact ⟨rfl, rfl, List.prefix_rfl⟩
  | sendBody rsp_data =>
    obtain ⟨bytes, -, hdb⟩ := Option.bind_eq_some_iff.1 hdb
    cases hdb; exact ⟨rfl, rfl, List.prefix_rfl⟩
  | returned => cases hdb

/-- A service without requests sends what it has to, or returns. -/
theorem db_last [DecidableEq T] (halone : Alone s (.db k junk rsp))
    (hdb : db P R s k junk rsp = some s') (h : Last s.requests s.service) :
    Last s'.requests s'.service ∧
      s'.responses ++ pending s'.service = s.responses ++ pending s.service := by
  obtain ⟨conn, calls, requests, responses, service, buffer, handled⟩ := s
  cases h with
  | sendHeader rsp_data =>
    have hk : k = 20 := halone
    obtain ⟨bytes, hbytes, hs'⟩ := Option.bind_eq_some_iff.1 hdb
    rw [hk, ← length_header MSG_DB_RESP rsp_data] at hbytes
    obtain rfl := moved_all hbytes
    cases hs'
    exact ⟨.sendBody rsp_data, by simp [pending]⟩
  | sendBody rsp_data =>
    obtain rfl : k = rsp_data.length := halone
    obtain ⟨bytes, hbytes, hs'⟩ := Option.bind_eq_some_iff.1 hdb
    obtain rfl := moved_all hbytes
    cases hs'
    exact ⟨.recvHeader, by simp [pending]⟩
  | recvHeader =>
    obtain ⟨bytes, hbytes, hs'⟩ := Option.bind_eq_some_iff.1 hdb
    rw [List.take_nil] at hbytes
    obtain ⟨rfl, rfl⟩ := moved_nil hbytes
    cases hs'
    exact ⟨.returned _, rfl⟩
  | returned => cases hdb

section
variable [DecidableEq T] {t : T} {req : Req} {req_data body : List UInt8}

/-- The service reads the header of the request. -/
theorem db_unread (hdata : P.SerializeToString req = some req_data)
    (hbody : body = [] ∨ body = req_data) (halone : Alone s (.db k junk rsp))
    (hdb : db P R s k junk rsp = some s') (hservice : s.service = .recvHeader)
    (hrequests :
      s.requests = ((header MSG_DB_REQ req_data).swap.image ++ body).map fun b => (t, b)) :
    s'.responses = s.responses ∧ Unanswered t req_data body s'.requests s'.service := by
  simp only [Alone, hservice] at halone
  rw [db, hservice] at hdb
  obtain ⟨bytes, hbytes, hs'⟩ := Option.bind_eq_some_iff.1 hdb
  rcases halone with rfl | rfl
  · obtain rfl := moved_zero hbytes
    cases hs'
    exact ⟨rfl, .returned _⟩
  · have hlen : ((header MSG_DB_REQ req_data).swap.image.map fun b => (t, b)).length = 20 := by
      rw [List.length_map, length_header]
    rw [List.map_append] at hrequests
    obtain ⟨rfl, hrest⟩ := moved_front ((List.append_nil _).trans hrequests) (by rwa [hlen])
    rw [hlen, List.append_nil] at hrest
    have hsnd : ((header MSG_DB_REQ req_data).swap.image.map fun b => (t, b)).map (·.2) =
        (header MSG_DB_REQ req_data).swap.image := by
      rw [List.map_map]
      exact List.map_id _
    have hfst : ∀ c ∈ ((header MSG_DB_REQ req_data).swap.image.map fun b => (t, b)).map (·.1),
        c = t := by simp
    have hmsg := msg_len_header MSG_DB_REQ (P.length_lt hdata)
    dsimp only at hs'
    rw [if_neg fun hnil => header_ne_nil _ _ (List.map_eq_nil_iff.1 hnil), hsnd, ofImage_header,
      hmsg, hrest] at hs'
    split_ifs at hs' with hlong hpos
    · cases hs'
      exact ⟨rfl, .returned _⟩
    · cases hs'
      rw [Nat.add_sub_cancel_left] at *
      exact ⟨rfl, .read (List.length_pos_iff.1 hpos) hfst⟩
    · cases hs'
      have hnil : req_data = [] := List.length_eq_zero_iff.1 (by omega)
      have hbody : body = [] := by rcases hbody with rfl | rfl; exacts [rfl, hnil]
      subst hbody
      exact ⟨rfl, .silent fun _ => hnil⟩

/-- The service reads the body of the request, and makes a response of it. -/
theorem db_read {callers : List T} (hdata : P.SerializeToString req = some req_data)
    (hbody : body = [] ∨ body = req_data) (halone : Alone s (.db k junk rsp))
    (hdb : db P R s k junk rsp = some s') (hservice : s.service = .recvBody req_data.length callers)
    (hrequests : s.requests = body.map fun b => (t, b)) (hne : req_data ≠ [])
    (hcallers : ∀ c ∈ callers, c = t) :
    s'.responses = s.responses ∧ (Unanswered t req_data body s'.requests s'.service ∨
      body ≠ [] ∧ IsOwn s'.handled t req rsp ∧ ∃ rsp_data, R.SerializeToString rsp = some rsp_data ∧
        s'.requests = [] ∧ s'.service = .sendHeader rsp_data) := by
  simp only [Alone, hservice] at halone
  rw [db, hservice] at hdb
  obtain ⟨bytes, hbytes, hs'⟩ := Option.bind_eq_some_iff.1 hdb
  rcases halone with rfl | rfl
  · obtain rfl := moved_zero hbytes
    cases hs'
    exact ⟨rfl, .inl (.returned _)⟩
  · obtain rfl : body = req_data := by
      rcases hbody with rfl | rfl
      · have hle := (moved_take hbytes).1
        rw [hrequests] at hle
        exact absurd (List.length_eq_zero_iff.1 (Nat.le_zero.1 hle)) hne
      · rfl
    have hlen : (body.map fun b => (t, b)).length = body.length := List.length_map _
    obtain ⟨rfl, hrest⟩ := moved_front (congrArg (· ++ []) hrequests) (by rwa [hlen])
    rw [hlen, List.append_nil] at hrest
    have hsnd : (body.map fun b => (t, b)).map (·.2) = body := by
      rw [List.map_map]
      exact List.map_id _
    have hown : ∀ c ∈ callers ++ (body.map fun b => (t, b)).map (·.1), c = t := by
      intro c hc
      rcases List.mem_append.1 hc with hc | hc
      · exact hcallers c hc
      · simp at hc
        exact hc.2
    dsimp only at hs'
    rw [if_neg fun hnil => hne (List.map_eq_nil_iff.1 hnil), hsnd, overwrite_zero, List.take_left,
      P.parse_serialize hdata] at hs'
    dsimp only at hs'
    cases hrsp : R.SerializeToString rsp with
    | none =>
      rw [hrsp] at hs'
      cases hs'
      rw [hrest]
      exact ⟨rfl, .inl (.silent fun h => h)⟩
    | some rsp_data =>
      rw [hrsp] at hs'
      cases hs'
      refine ⟨rfl, .inr ⟨hne, ⟨_, List.mem_append_right _ (List.mem_singleton_self _), hown, rfl,
        rfl⟩, rsp_data, rfl, hrest, rfl⟩⟩

/-- The service reads the request, and makes a response of it, if it does not return. -/
theorem db_unanswered (hdata : P.SerializeToString req = some req_data)
    (hbody : body = [] ∨ body = req_data) (halone : Alone s (.db k junk rsp))
    (hdb : db P R s k junk rsp = some s') (h : Unanswered t req_data body s.requests s.service) :
    s'.responses = s.responses ∧ (Unanswered t req_data body s'.requests s'.service ∨
      body ≠ [] ∧ IsOwn s'.handled t req rsp ∧ ∃ rsp_data, R.SerializeToString rsp = some rsp_data ∧
        s'.requests = [] ∧ s'.service = .sendHeader rsp_data) := by
  generalize hreq : s.requests = requests at h
  generalize hsvc : s.service = service at h
  cases h with
  | unread hrequests =>
    obtain ⟨hresponses, hun⟩ := db_unread hdata hbody halone hdb hsvc (hreq.trans hrequests)
    exact ⟨hresponses, .inl hun⟩
  | read hne hcallers => exact db_read hdata hbody halone hdb hsvc hreq hne hcallers
  | silent hsilent =>
    rw [db, hsvc] at hdb
    obtain ⟨bytes, hbytes, hs'⟩ := Option.bind_eq_some_iff.1 hdb
    rw [hreq, List.take_nil] at hbytes
    obtain ⟨rfl, rfl⟩ := moved_nil hbytes
    cases hs'
    exact ⟨rfl, .inl (.returned _)⟩
  | returned =>
    rw [db, hsvc] at hdb
    cases hdb

end

variable [DecidableEq T] {t : T} {req : Req} {stage : Stage Rsp}

theorem db_phase (halone : Alone s (.db k junk rsp)) (hdb : db P R s k junk rsp = some s')
    (h : Phase P R t req s.handled stage s.requests s.responses s.service) :
    Phase P R t req s'.handled stage s'.requests s'.responses s'.service := by
  obtain ⟨-, -, hhandled⟩ := db_frame hdb
  generalize hreq : s.requests = requests at h
  generalize hrsp : s.responses = responses at h
  generalize hsvc : s.service = service at h
  cases h with
  | sendHeader hdata hservice =>
    -- there is nothing to read, so the service returns if it does anything
    rcases hservice with rfl | rfl
    · rw [db, hsvc] at hdb
      obtain ⟨bytes, hbytes, hs'⟩ := Option.bind_eq_some_iff.1 hdb
      rw [hreq, List.take_nil] at hbytes
      obtain ⟨rfl, rfl⟩ := moved_nil hbytes
      cases hs'
      dsimp only
      rw [hreq, hrsp]
      exact .sendHeader hdata (.inr rfl)
    · rw [db, hsvc] at hdb
      cases hdb
  | sendBody hdata hun =>
    rw [← hreq, ← hsvc] at hun
    obtain ⟨hresponses, hun' | ⟨hne, -⟩⟩ := db_unanswered hdata (.inl rfl) halone hdb hun
    · rw [hresponses, hrsp]
      exact .sendBody hdata hun'
    · exact absurd rfl hne
  | asked hdata hun =>
    rw [← hreq, ← hsvc] at hun
    obtain ⟨hresponses, hun' | ⟨-, hown, rsp_data, hrspdata, hnil, hservice⟩⟩ :=
      db_unanswered hdata (.inr rfl) halone hdb hun
    · rw [hresponses, hrsp]
      exact .asked hdata hun'
    · rw [hresponses, hrsp, hnil, hservice]
      exact .answered hown hrspdata (.sendHeader _) rfl
  | answered hown hdata hlast hcome =>
    rw [← hreq, ← hsvc] at hlast
    obtain ⟨hlast', hsame⟩ := db_last halone hdb hlast
    rw [hrsp, hsvc] at hsame
    exact .answered (hown.mono hhandled) hdata hlast' (hsame.trans hcome)
  | recvBody hown hdata hlast hcome =>
    rw [← hreq, ← hsvc] at hlast
    obtain ⟨hlast', hsame⟩ := db_last halone hdb hlast
    rw [hrsp, hsvc] at hsame
    exact .recvBody (hown.mono hhandled) hdata hlast' (hsame.trans hcome)

/-- What a step of the only call in progress leads to: the next stage, or its return, with its own
    response if any. -/
structure Advances (P : Proto Req) (R : Proto Rsp) (t : T) (req : Req) (s s' : Sys T Req Rsp) :
    Prop where
  conn_eq : s'.db_server_conn = s.db_server_conn
  handled_eq : s'.handled = s.handled
  calls_eq : ∃ stage', s'.calls = s.calls.insert t (req, stage') ∧
    ((∃ found, stage' = .returned found ∧ ∀ rsp, found = some rsp → IsOwn s.handled t req rsp) ∨
      Phase P R t req s'.handled stage' s'.requests s'.responses s'.service)

/-- The call returns, after what it took of the responses. -/
theorem Advances.returned (responses : List UInt8) {found : Option Rsp}
    (hown : ∀ rsp, found = some rsp → IsOwn s.handled t req rsp) :
    Advances P R t req s (({ s with responses := responses }).set t req (.returned found)) :=
  ⟨rfl, rfl, _, rfl, .inl ⟨found, rfl, hown⟩⟩

section
variable {req_data rsp_data : List UInt8}

theorem account_sendHeader (hk : k = 0 ∨ k = 20)
    (haccount : account R s t k junk req (.sendHeader req_data) = some s')
    (hdata : P.SerializeToString req = some req_data) (hrequests : s.requests = [])
    (hresponses : s.responses = []) (hservice : s.service = .recvHeader ∨ s.service = .returned) :
    Advances P R t req s s' := by
  obtain ⟨bytes, hbytes, hs'⟩ := Option.bind_eq_some_iff.1 haccount
  rcases hk with rfl | rfl
  · obtain rfl := moved_zero hbytes
    cases hs'
    exact .returned s.responses nofun
  · rw [← length_header MSG_DB_REQ req_data] at hbytes
    obtain rfl := moved_all hbytes
    dsimp only at hs'
    rw [if_neg (header_ne_nil _ _)] at hs'
    cases hs'
    refine ⟨rfl, rfl, _, rfl, .inr ?_⟩
    simp only [Sys.set, hrequests, hresponses]
    refine .sendBody hdata ?_
    rcases hservice with hservice | hservice
    · rw [hservice]
      exact .unread (by simp)
    · rw [hservice]
      exact .returned _

theorem account_sendBody (hk : k = 0 ∨ k = req_data.length)
    (haccount : account R s t k junk req (.sendBody req_data) = some s')
    (hdata : P.SerializeToString req = some req_data) (hresponses : s.responses = [])
    (hun : Unanswered t req_data [] s.requests s.service) : Advances P R t req s s' := by
  obtain ⟨bytes, hbytes, hs'⟩ := Option.bind_eq_some_iff.1 haccount
  dsimp only at hs'
  split_ifs at hs' with hnil
  · cases hs'
    exact .returned s.responses nofun
  · obtain rfl : bytes = req_data := by
      rcases hk with rfl | rfl
      · exact absurd (moved_zero hbytes) hnil
      · exact moved_all hbytes
    cases hs'
    refine ⟨rfl, rfl, _, rfl, .inr ?_⟩
    simp only [Sys.set, hresponses]
    refine .asked hdata ?_
    generalize s.requests = requests at hun
    generalize s.service = service at hun
    cases hun with
    | unread hrequests => exact .unread (by rw [hrequests]; simp)
    | read hdata hcallers => exact .read hdata hcallers
    | silent hsilent => exact absurd (hsilent rfl) hnil
    | returned => exact .returned _

/-- The call receives the header of its own response. -/
theorem account_recvHeader (hk : k = 0 ∨ k = 20)
    (haccount : account R s t k junk req .recvHeader = some s') (hown : IsOwn s.handled t req rsp)
    (hdata : R.SerializeToString rsp = some rsp_data) (hlast : Last s.requests s.service)
    (hcome :
      s.responses ++ pending s.service = (header MSG_DB_RESP rsp_data).swap.image ++ rsp_data) :
    Advances P R t req s s' := by
  obtain ⟨bytes, hbytes, hs'⟩ := Option.bind_eq_some_iff.1 haccount
  rcases hk with rfl | rfl
  · obtain rfl := moved_zero hbytes
    cases hs'
    exact .returned _ nofun
  · have hlen := length_header MSG_DB_RESP rsp_data
    obtain ⟨rfl, hrest⟩ := moved_front hcome (by rwa [hlen])
    rw [hlen] at hrest
    have hmsg := msg_len_header MSG_DB_RESP (R.length_lt hdata)
    dsimp only at hs'
    rw [if_neg (header_ne_nil _ _), ofImage_header, hmsg, Nat.add_sub_cancel_left] at hs'
    split_ifs at hs' with hlong
    · cases hs'
      exact .returned _ nofun
    · cases hs'
      exact ⟨rfl, rfl, _, rfl, .inr (.recvBody hown hdata hlast hrest)⟩

/-- The call receives the body of its own response. -/
theorem account_recvBody (hk : k = 0 ∨ k = rsp_data.length)
    (haccount : account R s t k junk req (.recvBody rsp_data.length) = some s')
    (hown : IsOwn s.handled t req rsp) (hdata : R.SerializeToString rsp = some rsp_data)
    (hcome : s.responses ++ pending s.service = rsp_data) : Advances P R t req s s' := by
  obtain ⟨bytes, hbytes, hs'⟩ := Option.bind_eq_some_iff.1 haccount
  dsimp only at hs'
  split_ifs at hs' with hnil
  · cases hs'
    exact .returned _ nofun
  · rcases hk with rfl | rfl
    · exact absurd (moved_zero hbytes) hnil
    · obtain ⟨rfl, -⟩ := moved_front (hcome.trans (List.append_nil _).symm) hbytes
      cases hs'
      refine .returned _ fun rsp' hrsp' => ?_
      rw [overwrite_zero, List.drop_eq_nil_of_le (by rw [List.length_replicate]), List.append_nil,
        R.parse_serialize hdata] at hrsp'
      cases hrsp'
      exact hown

end

/-- **A step of the call**: it goes on to the next stage, or returns, its own response if any. -/
theorem account_phase (hk : k = 0 ∨ k = stage.asked)
    (haccount : account R s t k junk req stage = some s')
    (h : Phase P R t req s.handled stage s.requests s.responses s.service) :
    Advances P R t req s s' := by
  generalize hreq : s.requests = requests at h
  generalize hrsp : s.responses = responses at h
  generalize hsvc : s.service = service at h
  cases h with
  | sendHeader hdata hservice =>
    exact account_sendHeader hk haccount hdata hreq hrsp (hsvc ▸ hservice)
  | sendBody hdata hun =>
    subst hreq hsvc
    exact account_sendBody hk haccount hdata hrsp hun
  | asked hdata hun =>
    -- there is no response yet, so the `recv` fails if it does anything
    obtain ⟨bytes, hbytes, hs'⟩ := Option.bind_eq_some_iff.1 haccount
    rw [hrsp, List.take_nil] at hbytes
    obtain ⟨rfl, rfl⟩ := moved_nil hbytes
    cases hs'
    exact .returned _ nofun
  | answered hown hdata hlast hcome =>
    subst hreq hrsp hsvc
    exact account_recvHeader hk haccount hown hdata hlast hcome
  | recvBody hown hdata hlast hcome =>
    subst hrsp hsvc
    exact account_recvBody hk haccount hown hdata hcome

/-! ## Runs -/

/-- At most one call is in progress, and the connection is in one of its phases. -/
inductive Single (P : Proto Req) (R : Proto Rsp) (s : Sys T Req Rsp) : Prop
  | none (hdone : ∀ t x, s.calls.lookup t = some x → x.2.Done)
  | one (t : T) (req : Req) (stage : Stage Rsp) (hconn : s.db_server_conn = true)
      (hcall : s.calls.lookup t = some (req, stage))
      (hdone : ∀ t' x, t' ≠ t → s.calls.lookup t' = some x → x.2.Done)
      (hphase : Phase P R t req s.handled stage s.requests s.responses s.service)

def Inv (P : Proto Req) (R : Proto Rsp) (s : Sys T Req Rsp) : Prop := Own s ∧ Single P R s

theorem Own.mono (h : Own s) (hcalls : s'.calls = s.calls) (hle : s.handled <+: s'.handled) :
    Own s' := by
  intro t req rsp hlook
  rw [hcalls] at hlook
  exact (h t req rsp hlook).mono hle

/-- One call changes its stage. -/
theorem Own.insert (h : Own s) (hcalls : s'.calls = s.calls.insert t (req, stage))
    (hhandled : s'.handled = s.handled)
    (hown : ∀ rsp, stage = .returned (some rsp) → IsOwn s.handled t req rsp) : Own s' := by
  intro t' req' rsp hlook
  rw [hhandled]
  rcases eq_or_ne t' t with rfl | hne
  · rw [hcalls, Finmap.lookup_insert, Option.some.injEq, Prod.mk.injEq] at hlook
    obtain ⟨rfl, hstage⟩ := hlook
    exact hown rsp hstage
  · rw [hcalls, Finmap.lookup_insert_of_ne _ hne] at hlook
    exact h t' req' rsp hlook

/-- A call that returned takes no step. -/
theorem not_account_of_done (hdone : stage.Done) : account R s t k junk req stage = none := by
  obtain ⟨rsp, rfl⟩ := hdone
  rfl

theorem call_inv (halone : s.db_server_conn = true → Idle s) (hnew : t ∉ s.calls) (h : Inv P R s) :
    Inv P R (call P s t req) := by
  obtain ⟨hown, hsingle⟩ := h
  have hne {t' : T} {x : Req × Stage Rsp} (hlook : s.calls.lookup t' = some x) : t' ≠ t := by
    rintro rfl
    exact hnew (Finmap.mem_of_lookup_eq_some hlook)
  -- the calls beside it are what they were
  have hothers {stage : Stage Rsp} {t' : T} {x : Req × Stage Rsp} (ht : t' ≠ t) :
      (s.set t req stage).calls.lookup t' = some x ↔ s.calls.lookup t' = some x := by
    rw [Sys.set, Finmap.lookup_insert_of_ne _ ht]
  have hself {stage : Stage Rsp} {x : Req × Stage Rsp}
      (hlook : (s.set t req stage).calls.lookup t = some x) : x = (req, stage) := by
    rw [Sys.set, Finmap.lookup_insert, Option.some.injEq] at hlook
    exact hlook.symm
  have hfails : Inv P R (s.set t req (.returned none)) := by
    refine ⟨hown.insert rfl rfl nofun, ?_⟩
    have hdone : ∀ t' x, (s.calls.lookup t' = some x → x.2.Done) →
        (s.set t req (.returned none)).calls.lookup t' = some x → x.2.Done := by
      intro t' x hdone hlook
      rcases eq_or_ne t' t with rfl | ht
      · rw [hself hlook]
        exact ⟨none, rfl⟩
      · exact hdone ((hothers ht).1 hlook)
    cases hsingle with
    | none hall => exact .none fun t' x => hdone t' x (hall t' x)
    | one t₀ req₀ stage₀ hconn hcall hall hphase =>
      exact .one t₀ req₀ stage₀ hconn ((hothers (hne hcall)).2 hcall)
        (fun t' x ht => hdone t' x (hall t' x ht)) hphase
  rw [call]
  split_ifs with hconn
  · obtain ⟨hall, hrequests, hresponses, hservice⟩ := halone hconn
    cases hdata : P.SerializeToString req with
    | none => exact hfails
    | some req_data =>
      refine ⟨hown.insert rfl rfl nofun, .one t req _ hconn (Finmap.lookup_insert _) ?_ ?_⟩
      · exact fun t' x ht hlook => hall t' x ((hothers ht).1 hlook)
      · simp only [Sys.set, hrequests, hresponses, hservice]
        exact .sendHeader hdata (.inl rfl)
  · exact hfails

theorem account_inv (hk : k = 0 ∨ k = stage.asked) (hcall : s.calls.lookup t = some (req, stage))
    (haccount : account R s t k junk req stage = some s') (h : Inv P R s) : Inv P R s' := by
  obtain ⟨hown, hsingle⟩ := h
  cases hsingle with
  | none hdone =>
    rw [not_account_of_done (hdone t _ hcall)] at haccount
    cases haccount
  | one t₀ req₀ stage₀ hconn hcall₀ hdone hphase =>
    obtain rfl : t = t₀ := by
      by_contra hne
      rw [not_account_of_done (hdone t _ hne hcall)] at haccount
      cases haccount
    obtain ⟨rfl, rfl⟩ := Prod.mk.inj (Option.some.inj (hcall.symm.trans hcall₀))
    obtain ⟨hconn', hhandled, stage', hcalls, hnext⟩ := account_phase hk haccount hphase
    have hothers : ∀ t' x, t' ≠ t → s'.calls.lookup t' = some x → x.2.Done := by
      intro t' x ht hlook
      rw [hcalls, Finmap.lookup_insert_of_ne _ ht] at hlook
      exact hdone t' x ht hlook
    have hself : s'.calls.lookup t = some (req, stage') := by
      rw [hcalls, Finmap.lookup_insert]
    rcases hnext with ⟨found, rfl, hfound⟩ | hphase'
    · refine ⟨hown.insert hcalls hhandled ?_, .none fun t' x hlook => ?_⟩
      · rintro rsp ⟨⟩
        exact hfound rsp rfl
      · rcases eq_or_ne t' t with rfl | ht
        · obtain rfl := Option.some.inj (hself.symm.trans hlook)
          exact ⟨found, rfl⟩
        · exact hothers t' x ht hlook
    · have hconn'' := hconn'.trans hconn
      refine ⟨hown.insert hcalls hhandled ?_, .one t req stage' hconn'' hself hothers hphase'⟩
      rintro rsp rfl
      cases hphase'

theorem step_inv {l : Label T Req Rsp} (halone : Alone s l) (hstep : step P R s l s')
    (h : Inv P R s) : Inv P R s' := by
  obtain ⟨hown, hsingle⟩ := h
  cases l with
  | connect =>
    rw [step, next] at hstep
    split_ifs at hstep with hconn
    cases hstep
    refine ⟨hown.mono rfl List.prefix_rfl, ?_⟩
    cases hsingle with
    | none hdone => exact .none hdone
    | one _ _ _ hconn' => exact absurd hconn' hconn
  | call t req =>
    rw [step, next] at hstep
    split_ifs at hstep with hnew
    cases hstep
    exact call_inv halone hnew ⟨hown, hsingle⟩
  | account t k junk =>
    obtain ⟨⟨req, stage⟩, hcall, haccount⟩ := Option.bind_eq_some_iff.1 hstep
    refine account_inv ?_ hcall haccount ⟨hown, hsingle⟩
    rcases halone with hk | ⟨x, hx, hk⟩
    · exact .inl hk
    · rw [hcall] at hx
      cases hx
      exact .inr hk
  | db k junk rsp =>
    obtain ⟨hconn, hcalls, hle⟩ := db_frame hstep
    refine ⟨hown.mono hcalls hle, ?_⟩
    cases hsingle with
    | none hdone => exact .none (by rw [hcalls]; exact hdone)
    | one t req stage hconn' hcall hdone hphase =>
      refine .one t req stage (hconn.trans hconn') (by rw [hcalls]; exact hcall) ?_
        (db_phase halone hstep hphase)
      rw [hcalls]
      exact hdone

theorem init_inv : Inv P R (init T Req Rsp) :=
  ⟨fun _ _ _ hlook => by simp [init] at hlook, .none fun _ _ hlook => by simp [init] at hlook⟩

/-- **A call that returns true has its own response**, in a run in which a call begins only when the
    connection is idle, and no `send` or `recv` moves a part of its bytes. -/
theorem own_of_alone {ls : List (Label T Req Rsp)}
    (hrun : Run (fun s l s' => Alone s l ∧ step P R s l s') (init T Req Rsp) ls s) : Own s :=
  (hrun.invariant (P := Inv P R) (fun _ _ _ h hs => step_inv hs.1 hs.2 h) init_inv).1

end

/-- A message with a small number in its first field, and nothing else: a request with an `op_type`,
    or a response with a `ret_code`. -/
def small : Proto (Fin 128) where
  SerializeToString m := some (if m = 0 then [] else [8, UInt8.ofNat m])
  ParseFromArray
    | [] => some 0
    | [8, b] => if h : b.toNat < 128 then some ⟨b.toNat, h⟩ else none
    | _ => none
  parse_serialize {m data} h := by
    cases h
    revert m
    decide
  length_lt {m data} h := by
    cases h
    split_ifs
    · decide
    · show 2 < 2 ^ 31
      decide

/-- A request, and its response. -/
theorem own_single : ∃ s : Sys ℕ (Fin 128) (Fin 128), Run (step small small) (init ℕ _ _)
    [.connect, .call 0 1, .account 0 20 [], .account 0 2 [], .db 20 [] 5, .db 2 [] 5, .db 20 [] 5,
      .db 2 [] 5, .account 0 20 [], .account 0 2 []] s ∧
    s.calls.lookup 0 = some (1, .returned (some 5)) ∧ Own s := by
  obtain ⟨s, hrun, hcall⟩ : ∃ s : Sys ℕ (Fin 128) (Fin 128),
      Run (fun s l s' => Alone s l ∧ step small small s l s') (init ℕ _ _)
        [.connect, .call 0 1, .account 0 20 [], .account 0 2 [], .db 20 [] 5, .db 2 [] 5,
          .db 20 [] 5, .db 2 [] 5, .account 0 20 [], .account 0 2 []] s ∧
        s.calls.lookup 0 = some (1, .returned (some 5)) :=
    ⟨_, .cons ⟨trivial, rfl⟩ (.cons ⟨fun _ => ⟨nofun, rfl, rfl, rfl⟩, rfl⟩
      (.cons ⟨.inr ⟨_, rfl, rfl⟩, rfl⟩ (.cons ⟨.inr ⟨_, rfl, rfl⟩, rfl⟩
      (.cons ⟨.inr rfl, rfl⟩ (.cons ⟨.inr rfl, rfl⟩ (.cons ⟨rfl, rfl⟩ (.cons ⟨rfl, rfl⟩
      (.cons ⟨.inr ⟨_, rfl, rfl⟩, rfl⟩ (.cons ⟨.inr ⟨_, rfl, rfl⟩, rfl⟩ (.nil _)))))))))), rfl⟩
  exact ⟨s, hrun.mono fun _ _ _ h => h.2, hcall, own_of_alone hrun⟩

/-- **Two handlers at once**: the second receives the response to the first. -/
theorem not_own : ¬∀ (ls : List (Label ℕ (Fin 128) (Fin 128))) (s : Sys ℕ (Fin 128) (Fin 128)),
    Run (step small small) (init ℕ _ _) ls s → Own s := by
  intro h
  have hrun : Run (step small small) (init ℕ (Fin 128) (Fin 128))
      [.connect, .call 0 1, .account 0 20 [], .account 0 2 [], .call 1 2, .account 1 20 [],
        .account 1 2 [], .db 20 [] 5, .db 2 [] 5, .db 20 [] 5, .db 2 [] 5, .account 1 20 [],
        .account 1 2 []] _ :=
    Run.of_foldlM rfl
  obtain ⟨x, hx, -, hreq, -⟩ := h _ _ hrun 1 2 5 rfl
  have hfirst : x = ⟨List.replicate 22 0, 1, 5⟩ := List.mem_singleton.1 hx
  rw [hfirst] at hreq
  exact absurd hreq (by decide)

end Ancfl.Game.DBConnection
