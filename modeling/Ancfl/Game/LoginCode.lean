/-
  The login codes of `LoginService`.

  * `HandleSelectServerRequest` stores a code and the time it expires at in two
    maps; `VerifyLoginCode` looks into both, and erases from both;
  * `Sys` keeps what has happened as well: `Outstanding` says which code of the
    history is still to be used;
  * `good_once`: in a run whose clock does not go back, a code is accepted iff
    it is outstanding and at most 300 seconds old; the maps have the same keys,
    and a wrong code changes nothing.
-/
import Ancfl.Lib.Call
import Ancfl.Lib.Run
import Mathlib.Data.Finmap

namespace Ancfl.Game.LoginCode

open Lib

/-! ## The service -/

structure LogicServerInfo where
  server_id : ℤ
  ip : String
  port : ℤ
  cur_online : ℤ
  max_online : ℤ
deriving DecidableEq

structure SelectServerReq where
  account_id : BitVec 64
  server_id : ℤ
deriving DecidableEq

structure SelectServerAck where
  ret_code : ℤ
  account_id : BitVec 64
  server_id : ℤ
  server_addr : String
  server_port : ℤ
  login_code : BitVec 32
deriving DecidableEq

/-- `logic_servers_` is in the order of its iteration. -/
structure LoginService where
  login_codes : Finmap fun _ : BitVec 64 => BitVec 32
  code_expire_time : Finmap fun _ : BitVec 64 => ℤ
  logic_servers : List (ℤ × LogicServerInfo)

/-- The server that is asked for, or the first that has room: its id, address and port. -/
def assignServer (logic_servers : List (ℤ × LogicServerInfo)) (server_id : ℤ) : ℤ × String × ℤ :=
  if 0 < server_id then
    match logic_servers.find? (·.1 = server_id) with
    | some (_, server) =>
      if server.cur_online < server.max_online then (server_id, server.ip, server.port)
      else (server_id, "", 0)
    | none => (server_id, "", 0)
  else
    match logic_servers.find? (fun (_, server) => server.cur_online < server.max_online) with
    | some (_, server) => (server.server_id, server.ip, server.port)
    | none => (server_id, "", 0)

/-- `login_code` is what `GenerateLoginCode` returns. -/
def HandleSelectServerRequest (req : SelectServerReq) (login_code : BitVec 32) (time : ℤ)
    (s : LoginService) : SelectServerAck × LoginService :=
  let (server_id, ip, port) := assignServer s.logic_servers req.server_id
  if ip.isEmpty then (⟨1, req.account_id, 0, "", 0, 0⟩, s)
  else
    (⟨0, req.account_id, server_id, ip, port, login_code⟩,
      { s with
        login_codes := s.login_codes.insert req.account_id login_code
        code_expire_time := s.code_expire_time.insert req.account_id (time + 300) })

/-- `login_codes_.erase(it); code_expire_time_.erase(expire_it)`. -/
def LoginService.erase (s : LoginService) (account_id : BitVec 64) : LoginService :=
  { s with
    login_codes := s.login_codes.erase account_id
    code_expire_time := s.code_expire_time.erase account_id }

def VerifyLoginCode (account_id : BitVec 64) (login_code : BitVec 32) (time : ℤ) :
    Call Empty LoginService Bool := fun s =>
  match s.login_codes.lookup account_id with
  | none => .ret false s
  | some code =>
    match s.code_expire_time.lookup account_id with
    -- the end iterator is erased
    | none => .undef
    | some expire =>
      if expire < time then .ret false (s.erase account_id)
      else if code = login_code then .ret true (s.erase account_id)
      else .ret false s

/-! ## Runs -/

/-- What has happened: a code was stored, or a code was tried. -/
inductive Event
  | selected (account_id : BitVec 64) (login_code : BitVec 32) (time : ℤ)
  | tried (account_id : BitVec 64) (login_code : BitVec 32) (time : ℤ) (accepted : Bool)

structure Sys where
  service : LoginService
  now : ℤ
  history : List Event

inductive Label
  | select (req : SelectServerReq) (login_code : BitVec 32) (time : ℤ)
  | verify (account_id : BitVec 64) (login_code : BitVec 32) (time : ℤ)
  /-- the servers register and report -/
  | servers (logic_servers : List (ℤ × LogicServerInfo))

def init (now : ℤ) : Sys := ⟨⟨∅, ∅, []⟩, now, []⟩

/-- One call, at a time that is not before the last. -/
def next (s : Sys) : Label → Option Sys
  | .select req login_code time =>
    if time < s.now then none
    else
      let (ack, service) := HandleSelectServerRequest req login_code time s.service
      some ⟨service, time, s.history ++
        if ack.ret_code = 0 then [.selected req.account_id login_code time] else []⟩
  | .verify account_id login_code time =>
    if time < s.now then none
    else
      match VerifyLoginCode account_id login_code time s.service with
      | .ret accepted service =>
        some ⟨service, time, s.history ++ [.tried account_id login_code time accepted]⟩
      | _ => none
  | .servers logic_servers => some { s with service.logic_servers := logic_servers }

def step (s : Sys) (l : Label) (s' : Sys) : Prop := next s l = some s'

/-- The event stores a code for the account, or accepts one. -/
def Settles (account_id : BitVec 64) : Event → Prop
  | .selected id _ _ => id = account_id
  | .tried id _ _ accepted => id = account_id ∧ accepted = true

/-- The latest selection for the account gave the code, at `time`, and it has not been accepted. -/
def Outstanding (history : List Event) (account_id : BitVec 64) (login_code : BitVec 32) (time : ℤ) :
    Prop :=
  ∃ before after, history = before ++ .selected account_id login_code time :: after ∧
    ∀ event ∈ after, ¬Settles account_id event

theorem not_outstanding_nil (account_id : BitVec 64) (login_code : BitVec 32) (time : ℤ) :
    ¬Outstanding [] account_id login_code time := by
  rintro ⟨before, after, h, -⟩
  cases before <;> cases h

theorem outstanding_snoc {history : List Event} {event : Event} {account_id : BitVec 64}
    {login_code : BitVec 32} {time : ℤ} :
    Outstanding (history ++ [event]) account_id login_code time ↔
      event = .selected account_id login_code time ∨
      (¬Settles account_id event ∧ Outstanding history account_id login_code time) := by
  constructor
  · rintro ⟨before, after, h, hafter⟩
    rcases List.eq_nil_or_concat after with rfl | ⟨after', last, rfl⟩
    · obtain ⟨-, hevent⟩ := List.append_inj' h rfl
      exact .inl (List.head_eq_of_cons_eq hevent)
    · rw [List.concat_eq_append] at h hafter
      rw [← List.cons_append, ← List.append_assoc] at h
      obtain ⟨hhistory, hlast⟩ := List.append_inj' h rfl
      obtain rfl := List.head_eq_of_cons_eq hlast
      exact .inr ⟨hafter _ (List.mem_append_right _ List.mem_cons_self), before, after', hhistory,
        fun e he => hafter e (List.mem_append_left _ he)⟩
  · rintro (rfl | ⟨hevent, before, after, rfl, hafter⟩)
    · exact ⟨history, [], rfl, fun e he => absurd he List.not_mem_nil⟩
    · refine ⟨before, after ++ [event], by rw [List.append_assoc]; rfl, fun e he => ?_⟩
      rcases List.mem_append.1 he with he | he
      · exact hafter e he
      · exact List.mem_singleton.1 he ▸ hevent

/-! ## The maps and the history -/

/-- A selection stores a code, or finds no server and stores nothing. -/
theorem HandleSelectServerRequest_cases (req : SelectServerReq) (login_code : BitVec 32) (time : ℤ)
    (s : LoginService) :
    ((HandleSelectServerRequest req login_code time s).1.ret_code = 1 ∧
      (HandleSelectServerRequest req login_code time s).2 = s) ∨
    ((HandleSelectServerRequest req login_code time s).1.ret_code = 0 ∧
      (HandleSelectServerRequest req login_code time s).2 = { s with
        login_codes := s.login_codes.insert req.account_id login_code
        code_expire_time := s.code_expire_time.insert req.account_id (time + 300) }) := by
  rw [HandleSelectServerRequest]
  obtain ⟨server_id, ip, port⟩ := assignServer s.logic_servers req.server_id
  by_cases hip : ip.isEmpty
  · exact .inl (by simp [hip])
  · exact .inr (by simp [hip])

/-- The maps hold the same accounts: those with a code that is outstanding, if it has not expired. -/
structure Inv (s : Sys) : Prop where
  stored : ∀ account_id code, s.service.login_codes.lookup account_id = some code →
    ∃ time, s.service.code_expire_time.lookup account_id = some (time + 300) ∧
      Outstanding s.history account_id code time
  expires : ∀ account_id expire, s.service.code_expire_time.lookup account_id = some expire →
    account_id ∈ s.service.login_codes
  outstanding : ∀ account_id code time, Outstanding s.history account_id code time →
    time ≤ s.now ∧ (s.now ≤ time + 300 →
      s.service.login_codes.lookup account_id = some code ∧
      s.service.code_expire_time.lookup account_id = some (time + 300))

/-- Time passes, and servers report. -/
theorem Inv.later {s : Sys} (h : Inv s) {now : ℤ} (hnow : s.now ≤ now)
    (logic_servers : List (ℤ × LogicServerInfo)) :
    Inv ⟨{ s.service with logic_servers := logic_servers }, now, s.history⟩ := by
  refine ⟨h.stored, h.expires, fun account_id code time hout => ?_⟩
  obtain ⟨htime, hlive⟩ := h.outstanding account_id code time hout
  exact ⟨htime.trans hnow, fun hle => hlive (hnow.trans hle)⟩

/-- A code is stored. -/
theorem Inv.select {s : Sys} (h : Inv s) {account_id : BitVec 64} {login_code : BitVec 32}
    {time : ℤ} (hnow : s.now ≤ time) :
    Inv ⟨{ s.service with
      login_codes := s.service.login_codes.insert account_id login_code
      code_expire_time := s.service.code_expire_time.insert account_id (time + 300) }, time,
      s.history ++ [.selected account_id login_code time]⟩ := by
  refine ⟨fun id code hcode => ?_, fun id expire hexpire => ?_, fun id code at' hout => ?_⟩
  · by_cases hid : id = account_id
    · subst hid
      obtain rfl : login_code = code := by
        rw [Finmap.lookup_insert] at hcode
        exact Option.some.inj hcode
      exact ⟨time, Finmap.lookup_insert _, outstanding_snoc.2 (.inl rfl)⟩
    · rw [Finmap.lookup_insert_of_ne _ hid] at hcode
      obtain ⟨at', hat, hout⟩ := h.stored id code hcode
      exact ⟨at', (Finmap.lookup_insert_of_ne _ hid).trans hat,
        outstanding_snoc.2 (.inr ⟨fun heq => hid heq.symm, hout⟩)⟩
  · by_cases hid : id = account_id
    · exact Finmap.mem_insert.2 (.inl hid)
    · rw [Finmap.lookup_insert_of_ne _ hid] at hexpire
      exact Finmap.mem_insert.2 (.inr (h.expires id expire hexpire))
  · obtain hnew | ⟨hsettles, hold⟩ := outstanding_snoc.1 hout
    · cases hnew
      exact ⟨le_rfl, fun _ => ⟨Finmap.lookup_insert _, Finmap.lookup_insert _⟩⟩
    · have hid : id ≠ account_id := fun heq => hsettles heq.symm
      obtain ⟨htime, hlive⟩ := h.outstanding id code at' hold
      rw [Finmap.lookup_insert_of_ne _ hid, Finmap.lookup_insert_of_ne _ hid]
      exact ⟨htime.trans hnow, fun hle => hlive (hnow.trans hle)⟩

/-- A code is tried and nothing changes: it was not accepted. -/
theorem Inv.refuse {s : Sys} (h : Inv s) {account_id : BitVec 64} {login_code : BitVec 32}
    {time : ℤ} (hnow : s.now ≤ time) :
    Inv ⟨s.service, time, s.history ++ [.tried account_id login_code time false]⟩ := by
  have hout {id : BitVec 64} {code : BitVec 32} {at' : ℤ} :
      Outstanding (s.history ++ [.tried account_id login_code time false]) id code at' ↔
        Outstanding s.history id code at' := by
    rw [outstanding_snoc]
    simp [Settles]
  refine ⟨fun id code hcode => ?_, h.expires, fun id code at' hlive => ?_⟩
  · obtain ⟨at', hat, hold⟩ := h.stored id code hcode
    exact ⟨at', hat, hout.2 hold⟩
  · obtain ⟨htime, hlive⟩ := h.outstanding id code at' (hout.1 hlive)
    exact ⟨htime.trans hnow, fun hle => hlive (hnow.trans hle)⟩

/-- Both entries of an account are erased: its code was accepted, or has expired. -/
theorem Inv.erase {s : Sys} (h : Inv s) {account_id : BitVec 64} {login_code : BitVec 32} {time : ℤ}
    {accepted : Bool} (hnow : s.now ≤ time)
    (hdone : accepted = true ∨ ∀ code at', Outstanding s.history account_id code at' →
      at' + 300 < time) :
    Inv ⟨s.service.erase account_id, time,
      s.history ++ [.tried account_id login_code time accepted]⟩ := by
  have hother {id : BitVec 64} {code : BitVec 32} {at' : ℤ} (hid : id ≠ account_id) :
      Outstanding (s.history ++ [.tried account_id login_code time accepted]) id code at' ↔
        Outstanding s.history id code at' := by
    rw [outstanding_snoc]
    simp [Settles, Ne.symm hid]
  refine ⟨fun id code hcode => ?_, fun id expire hexpire => ?_, fun id code at' hlive => ?_⟩
  · by_cases hid : id = account_id
    · rw [hid] at hcode
      cases (Finmap.lookup_erase _ _).symm.trans hcode
    · obtain ⟨at', hat, hold⟩ := h.stored id code ((Finmap.lookup_erase_ne hid).symm.trans hcode)
      exact ⟨at', (Finmap.lookup_erase_ne hid).trans hat, (hother hid).2 hold⟩
  · by_cases hid : id = account_id
    · rw [hid] at hexpire
      cases (Finmap.lookup_erase _ _).symm.trans hexpire
    · exact Finmap.mem_erase.2
        ⟨hid, h.expires id expire ((Finmap.lookup_erase_ne hid).symm.trans hexpire)⟩
  · by_cases hid : id = account_id
    · rw [hid] at hlive
      obtain hnew | ⟨hsettles, hold⟩ := outstanding_snoc.1 hlive
      · cases hnew
      · refine ⟨(h.outstanding _ code at' hold).1.trans hnow, fun hle => ?_⟩
        rcases hdone with hacc | hlate
        · exact absurd ⟨rfl, hacc⟩ hsettles
        · exact absurd hle (not_le.2 (hlate code at' hold))
    · obtain ⟨htime, hlive⟩ := h.outstanding id code at' ((hother hid).1 hlive)
      refine ⟨htime.trans hnow, fun hle => ?_⟩
      obtain ⟨hcode, hexpire⟩ := hlive (hnow.trans hle)
      exact ⟨(Finmap.lookup_erase_ne hid).trans hcode, (Finmap.lookup_erase_ne hid).trans hexpire⟩

/-- What `VerifyLoginCode` does when the maps and the history agree. -/
inductive Verified (s : Sys) (account_id : BitVec 64) (login_code : BitVec 32) (time : ℤ) :
    Bool → LoginService → Prop
  | unknown (hnone : s.service.login_codes.lookup account_id = none) :
    Verified s account_id login_code time false s.service
  | expired {code : BitVec 32} {at' : ℤ} (hout : Outstanding s.history account_id code at')
      (hexpire : s.service.code_expire_time.lookup account_id = some (at' + 300))
      (hlate : at' + 300 < time) :
    Verified s account_id login_code time false (s.service.erase account_id)
  | accepted {at' : ℤ} (hout : Outstanding s.history account_id login_code at')
      (hlive : time ≤ at' + 300) :
    Verified s account_id login_code time true (s.service.erase account_id)
  | wrong {code : BitVec 32} (hcode : s.service.login_codes.lookup account_id = some code)
      (hne : code ≠ login_code) :
    Verified s account_id login_code time false s.service

theorem Inv.verified {s : Sys} (h : Inv s) (account_id : BitVec 64) (login_code : BitVec 32)
    (time : ℤ) : ∃ accepted service,
      VerifyLoginCode account_id login_code time s.service = .ret accepted service ∧
      Verified s account_id login_code time accepted service := by
  unfold VerifyLoginCode
  cases hcode : s.service.login_codes.lookup account_id with
  | none => exact ⟨_, _, rfl, .unknown hcode⟩
  | some code =>
    obtain ⟨at', hexpire, hout⟩ := h.stored account_id code hcode
    simp only [hexpire]
    by_cases hlate : at' + 300 < time
    · exact ⟨_, _, if_pos hlate, .expired hout hexpire hlate⟩
    · rw [if_neg hlate]
      by_cases heq : code = login_code
      · subst heq
        exact ⟨_, _, if_pos rfl, .accepted hout (not_lt.1 hlate)⟩
      · exact ⟨_, _, if_neg heq, .wrong hcode heq⟩

/-- Once an entry has expired, no code of the account is live. -/
theorem Inv.late {s : Sys} (h : Inv s) {account_id : BitVec 64} {at' time : ℤ} (hnow : s.now ≤ time)
    (hexpire : s.service.code_expire_time.lookup account_id = some (at' + 300))
    (hlate : at' + 300 < time) (code : BitVec 32) (at'' : ℤ)
    (hout : Outstanding s.history account_id code at'') : at'' + 300 < time := by
  by_contra hle
  obtain ⟨-, hexpire'⟩ := (h.outstanding account_id code at'' hout).2 (hnow.trans (not_lt.1 hle))
  rw [hexpire] at hexpire'
  exact hle (Option.some.inj hexpire' ▸ hlate)

theorem step_inv {s s' : Sys} {l : Label} (hstep : step s l s') (h : Inv s) : Inv s' := by
  cases l with
  | select req login_code time =>
    rw [step, next] at hstep
    split_ifs at hstep with hback
    have hnow := not_lt.1 hback
    obtain ⟨hret, hsame⟩ | ⟨hret, hstored⟩ :=
      HandleSelectServerRequest_cases req login_code time s.service
    · simp only [hret, hsame] at hstep
      cases hstep
      rw [if_neg (by decide), List.append_nil]
      exact h.later hnow s.service.logic_servers
    · simp only [hret, hstored] at hstep
      cases hstep
      exact h.select hnow
  | verify account_id login_code time =>
    rw [step, next] at hstep
    split_ifs at hstep with hback
    have hnow := not_lt.1 hback
    obtain ⟨accepted, service, hret, hverified⟩ := h.verified account_id login_code time
    rw [hret] at hstep
    cases hstep
    cases hverified with
    | unknown hnone => exact h.refuse hnow
    | expired hout hexpire hlate => exact h.erase hnow (.inr (h.late hnow hexpire hlate))
    | accepted hout hlive => exact h.erase hnow (.inl rfl)
    | wrong hcode hne => exact h.refuse hnow
  | servers logic_servers =>
    cases hstep
    exact h.later le_rfl logic_servers

theorem inv_init (now : ℤ) : Inv (init now) := by
  refine ⟨fun account_id code h => ?_, fun account_id expire h => ?_, fun account_id code at' h => ?_⟩
  · simp [init] at h
  · simp [init] at h
  · exact absurd h (not_outstanding_nil account_id code at')

/-- **A login code is good once and for five minutes.**  The maps hold the same accounts, so no end
    iterator is erased; a code is accepted iff the latest selection of its account gave it, at most
    300 seconds ago, and it was not accepted since; a wrong code changes nothing before then. -/
theorem good_once {now : ℤ} {ls : List Label} {s : Sys} (hrun : Run step (init now) ls s) :
    (∀ account_id, account_id ∈ s.service.login_codes ↔ account_id ∈ s.service.code_expire_time) ∧
    ∀ account_id login_code time, s.now ≤ time → ∃ accepted service,
      VerifyLoginCode account_id login_code time s.service = .ret accepted service ∧
      (accepted = true ↔
        ∃ at', Outstanding s.history account_id login_code at' ∧ time ≤ at' + 300) ∧
      ∀ code at', Outstanding s.history account_id code at' → time ≤ at' + 300 →
        login_code ≠ code → service = s.service := by
  have h := hrun.invariant (P := Inv) (fun s l s' h hstep => step_inv hstep h) (inv_init now)
  refine ⟨fun account_id => ⟨fun hmem => ?_, fun hmem => ?_⟩, fun account_id login_code time hnow => ?_⟩
  · obtain ⟨code, hcode⟩ := Finmap.mem_iff.1 hmem
    obtain ⟨at', hexpire, -⟩ := h.stored account_id code hcode
    exact Finmap.mem_of_lookup_eq_some hexpire
  · obtain ⟨expire, hexpire⟩ := Finmap.mem_iff.1 hmem
    exact h.expires account_id expire hexpire
  · obtain ⟨accepted, service, hret, hverified⟩ := h.verified account_id login_code time
    refine ⟨accepted, service, hret, ?_, fun code at' hout hlive hne => ?_⟩
    · -- a code that is live is the one that is stored
      have hstored (at' : ℤ) (hout : Outstanding s.history account_id login_code at')
          (hlive : time ≤ at' + 300) :=
        (h.outstanding account_id login_code at' hout).2 (hnow.trans hlive)
      cases hverified with
      | unknown hnone =>
        refine ⟨fun hfalse => (Bool.false_ne_true hfalse).elim, fun ⟨at', hout, hlive⟩ => ?_⟩
        cases hnone.symm.trans (hstored at' hout hlive).1
      | expired hout' hexpire hlate =>
        refine ⟨fun hfalse => (Bool.false_ne_true hfalse).elim, fun ⟨at', hout, hlive⟩ => ?_⟩
        exact absurd hlive (not_le.2 (h.late hnow hexpire hlate login_code at' hout))
      | accepted hout hlive => exact iff_of_true rfl ⟨_, hout, hlive⟩
      | wrong hcode hne =>
        refine ⟨fun hfalse => (Bool.false_ne_true hfalse).elim, fun ⟨at', hout, hlive⟩ => ?_⟩
        exact absurd (Option.some.inj (hcode.symm.trans (hstored at' hout hlive).1)) hne
    · obtain ⟨hcode, -⟩ := (h.outstanding account_id code at' hout).2 (hnow.trans hlive)
      cases hverified with
      | unknown hnone => rfl
      | expired hout' hexpire hlate =>
        exact absurd hlive (not_le.2 (h.late hnow hexpire hlate code at' hout))
      | accepted hout' hlive' =>
        obtain ⟨hcode', -⟩ :=
          (h.outstanding account_id login_code _ hout').2 (hnow.trans hlive')
        exact absurd (Option.some.inj (hcode'.symm.trans hcode)) hne
      | wrong hcode' hne' => rfl

/-- A selection and a wrong code; then the right code is accepted. -/
theorem good_once_run : ∃ s : Sys, Run step (init 1000)
    [.servers [(1, ⟨1, "10.0.0.1", 9000, 0, 100⟩)], .select ⟨7, 0⟩ 123456 1010,
      .verify 7 654321 1020] s ∧
    ∃ accepted service, VerifyLoginCode 7 123456 1300 s.service = .ret accepted service ∧
      accepted = true := by
  have hrun : Run step (init 1000)
      [.servers [(1, ⟨1, "10.0.0.1", 9000, 0, 100⟩)], .select ⟨7, 0⟩ 123456 1010,
        .verify 7 654321 1020] _ := .cons rfl (.cons rfl (.cons rfl (.nil _)))
  obtain ⟨accepted, service, hret, haccepted, -⟩ := (good_once hrun).2 7 123456 1300 (by decide)
  refine ⟨_, hrun, accepted, service, hret, haccepted.2 ⟨1010, ?_, by decide⟩⟩
  refine ⟨[], [.tried 7 654321 1020 false], rfl, fun event hevent => ?_⟩
  rw [List.mem_singleton.1 hevent]
  simp [Settles]

end Ancfl.Game.LoginCode
