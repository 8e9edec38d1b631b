/-
  `MailModule`: the mails of the roles.

  * `MailModule`: the boxes; each operation is one section under `cache_mutex_`,
    `next` is such an operation;
  * `Inv`: a mail whose attachments were not granted is in the box of its
    receiver with the status `ATTACHMENT_NOT_TAKEN`, until it expires;
  * `granted_once`: no attachments are granted twice, and none are lost;
  * `full_iff`: a mail is rejected for a box that the player sees as full, iff
    the box is not filled up with mails that were deleted.
-/
import Ancfl.Lib.First
import Ancfl.Lib.Run
import Mathlib.Algebra.Order.Ring.Int
import Mathlib.Data.List.Forall2

namespace Ancfl.Game.Mail

open Lib

/-! ## The module -/

inductive MailStatus
  | UNREAD | READ | ATTACHMENT_NOT_TAKEN | ATTACHMENT_TAKEN | DELETED
deriving DecidableEq

inductive MailType
  | SYSTEM | PLAYER | GUILD | ACTIVITY
deriving DecidableEq

structure MailAttachment where
  attachment_type : ℤ
  item_id : ℤ
  item_count : ℤ
deriving DecidableEq

/-- `serial` is not in the source: it tells the mails apart that were accepted. -/
structure MailInfo where
  serial : ℕ
  mail_id : BitVec 64
  sender_id : BitVec 64
  sender_name : String
  receiver_id : BitVec 64
  title : String
  content : String
  type : MailType
  status : MailStatus
  attachments : List MailAttachment
  send_time : ℤ
  expire_time : ℤ
  read_time : ℤ
deriving DecidableEq

/-- `next_id` is the counter in `GenerateMailId`.  Not in the source are `sent`, the mails that were
    accepted, and `granted`, those whose attachments were given out. -/
structure MailModule where
  mail_cache_ : BitVec 64 → Option (List MailInfo)
  new_mail_notify_ : BitVec 64 → Option Bool
  next_id : BitVec 64
  sent : List MailInfo
  granted : List MailInfo

def MAX_MAIL_COUNT : ℕ := 100

def MAIL_EXPIRE_DAYS : ℤ := 30

namespace MailModule

def setMails (role_id : BitVec 64) (mails : List MailInfo) (s : MailModule) : MailModule :=
  { s with mail_cache_ := Function.update s.mail_cache_ role_id (some mails) }

def setNotify (role_id : BitVec 64) (v : Bool) (s : MailModule) : MailModule :=
  { s with new_mail_notify_ := Function.update s.new_mail_notify_ role_id (some v) }

def InitMail (role_id : BitVec 64) (s : MailModule) : Bool × MailModule :=
  match s.mail_cache_ role_id with
  | some _ => (true, s)
  | none => (true, (s.setMails role_id []).setNotify role_id false)

def GetMails (role_id : BitVec 64) (s : MailModule) : Option (List MailInfo) :=
  (s.mail_cache_ role_id).map fun mails => mails.filter (·.status ≠ .DELETED)

/-- The mails that can make room for others. -/
def seen (mail : MailInfo) : Bool := mail.status = .READ || mail.status = .ATTACHMENT_TAKEN

/-- What a mail is made of. -/
structure Draft where
  sender_id : BitVec 64
  sender_name : String
  receiver_id : BitVec 64
  title : String
  content : String
  type : MailType
  attachments : List MailAttachment

/-- The mail that is put into the box at the time `now`. -/
def Draft.mail (d : Draft) (now : ℤ) (mail_id : BitVec 64) (serial : ℕ) : MailInfo where
  serial := serial
  mail_id := mail_id
  sender_id := d.sender_id
  sender_name := d.sender_name
  receiver_id := d.receiver_id
  title := d.title
  content := d.content
  type := d.type
  status := if d.attachments ≠ [] then .ATTACHMENT_NOT_TAKEN else .UNREAD
  attachments := d.attachments
  send_time := now
  expire_time := now + MAIL_EXPIRE_DAYS * 86400
  read_time := 0

def SendMailWithAttachments (now : ℤ) (d : Draft) (s : MailModule) : Bool × MailModule :=
  let mails := (s.mail_cache_ d.receiver_id).getD []
  let mails := if MAX_MAIL_COUNT ≤ mails.length then mails.eraseP seen else mails
  if MAX_MAIL_COUNT ≤ mails.length then (false, s.setMails d.receiver_id mails)
  else
    let mail := d.mail now s.next_id s.sent.length
    (true, { (s.setMails d.receiver_id (mails ++ [mail])).setNotify d.receiver_id true with
      next_id := s.next_id + 1
      sent := s.sent ++ [mail] })

/-- The mail that an operation looks for. -/
def isMail (mail_id : BitVec 64) (mail : MailInfo) : Bool :=
  mail.mail_id = mail_id && mail.status ≠ .DELETED

def markRead (now : ℤ) (mail : MailInfo) : MailInfo :=
  if mail.status = .UNREAD then { mail with status := .READ, read_time := now } else mail

def ReadMail (now : ℤ) (role_id mail_id : BitVec 64) (s : MailModule) : Bool × MailModule :=
  match s.mail_cache_ role_id with
  | none => (false, s)
  | some mails =>
    match onFirst (isMail mail_id) (fun mail => ((), markRead now mail)) mails with
    | none => (false, s)
    | some ((), mails) => (true, s.setMails role_id mails)

/-- The mail whose attachments are given out, and the mail afterwards. -/
def take (mail : MailInfo) : Option MailInfo × MailInfo :=
  if mail.status ≠ .ATTACHMENT_NOT_TAKEN then (none, mail)
  else (some mail, { mail with status := .ATTACHMENT_TAKEN })

def TakeAttachment (role_id mail_id : BitVec 64) (s : MailModule) : Bool × MailModule :=
  match s.mail_cache_ role_id with
  | none => (false, s)
  | some mails =>
    match onFirst (isMail mail_id) take mails with
    | none => (false, s)
    | some (mail, mails) =>
      (mail.isSome, { s.setMails role_id mails with granted := s.granted ++ mail.toList })

def TakeAllAttachments (role_id : BitVec 64) (s : MailModule) : Bool × MailModule :=
  match s.mail_cache_ role_id with
  | none => (false, s)
  | some mails => (true, { s.setMails role_id (mails.map (take · |>.2)) with
      granted := s.granted ++ mails.filterMap (take · |>.1) })

/-- Whether the mail is deleted, and the mail afterwards. -/
def delete (mail : MailInfo) : Bool × MailInfo :=
  if mail.status = .ATTACHMENT_NOT_TAKEN then (false, mail)
  else (true, { mail with status := .DELETED })

def DeleteMail (role_id mail_id : BitVec 64) (s : MailModule) : Bool × MailModule :=
  match s.mail_cache_ role_id with
  | none => (false, s)
  | some mails =>
    match onFirst (isMail mail_id) delete mails with
    | none => (false, s)
    | some (rt, mails) => (rt, s.setMails role_id mails)

/-- A mail that has been read is deleted. -/
def clear (mail : MailInfo) : MailInfo := if seen mail then { mail with status := .DELETED } else mail

def DeleteReadMails (role_id : BitVec 64) (s : MailModule) : Bool × MailModule :=
  match s.mail_cache_ role_id with
  | none => (false, s)
  | some mails => (true, s.setMails role_id (mails.map clear))

/-- A mail after a look at the clock. -/
def expire (now : ℤ) (mail : MailInfo) : MailInfo :=
  if mail.status ≠ .DELETED ∧ now > mail.expire_time then { mail with status := .DELETED } else mail

def DeleteExpiredMails (now : ℤ) (role_id : BitVec 64) (s : MailModule) : Bool × MailModule :=
  match s.mail_cache_ role_id with
  | none => (false, s)
  | some mails => (true, s.setMails role_id (mails.map (expire now)))

def CleanDeletedMails (role_id : BitVec 64) (s : MailModule) : Bool × MailModule :=
  match s.mail_cache_ role_id with
  | none => (false, s)
  | some mails => (true, s.setMails role_id (mails.filter (·.status ≠ .DELETED)))

def HasNewMail (role_id : BitVec 64) (s : MailModule) : Bool × MailModule :=
  match s.new_mail_notify_ role_id with
  | none => (false, s)
  | some has_new => (has_new, s.setNotify role_id false)

def OnTimer (now : ℤ) (s : MailModule) : MailModule :=
  { s with mail_cache_ := fun role_id => (s.mail_cache_ role_id).map (·.map (expire now)) }

end MailModule

open MailModule

/-! ## Runs -/

/-- An operation; `SendMail`, `SendSystemMail`, `SendSystemMailWithAttachments` and
    `BroadcastSystemMail` are calls of `SendMailWithAttachments`, `CleanExpiredMails` is
    `DeleteExpiredMails` and `LoadMailData` is `InitMail`. -/
inductive Op
  | init (role_id : BitVec 64)
  | send (d : Draft)
  | read (role_id mail_id : BitVec 64)
  | take (role_id mail_id : BitVec 64)
  | takeAll (role_id : BitVec 64)
  | delete (role_id mail_id : BitVec 64)
  | deleteRead (role_id : BitVec 64)
  | deleteExpired (role_id : BitVec 64)
  | cleanDeleted (role_id : BitVec 64)
  | hasNew (role_id : BitVec 64)
  | onTimer

def next (now : ℤ) (s : MailModule) : Op → MailModule
  | .init role_id => (InitMail role_id s).2
  | .send d => (SendMailWithAttachments now d s).2
  | .read role_id mail_id => (ReadMail now role_id mail_id s).2
  | .take role_id mail_id => (TakeAttachment role_id mail_id s).2
  | .takeAll role_id => (TakeAllAttachments role_id s).2
  | .delete role_id mail_id => (DeleteMail role_id mail_id s).2
  | .deleteRead role_id => (DeleteReadMails role_id s).2
  | .deleteExpired role_id => (DeleteExpiredMails now role_id s).2
  | .cleanDeleted role_id => (CleanDeletedMails role_id s).2
  | .hasNew role_id => (HasNewMail role_id s).2
  | .onTimer => OnTimer now s

/-- The module and the clock. -/
structure Sys where
  now : ℤ
  module : MailModule

def init (now : ℤ) (next_id : BitVec 64) : Sys := ⟨now, ⟨fun _ => none, fun _ => none, next_id, [], []⟩⟩

/-- An operation, at a time that is not before the last one. -/
def advance (s : Sys) (l : ℤ × Op) : Option Sys :=
  if s.now ≤ l.1 then some ⟨l.1, next l.1 s.module l.2⟩ else none

def step (s : Sys) (l : ℤ × Op) (s' : Sys) : Prop := advance s l = some s'

/-! ## What is to hold -/

/-- The mails in the box of a role. -/
def MailModule.mails (s : MailModule) (role_id : BitVec 64) : List MailInfo :=
  (s.mail_cache_ role_id).getD []

/-- The mails whose attachments were granted. -/
def MailModule.taken (s : MailModule) : List ℕ := s.granted.map (·.serial)

/-- A mail with attachments that were not granted is in the box of its receiver, until it expires. -/
def Kept (now : ℤ) (s : MailModule) : Prop :=
  ∀ n mail, s.sent[n]? = some mail → mail.attachments ≠ [] → n ∉ s.taken → now ≤ mail.expire_time →
    ∃ m ∈ s.mails mail.receiver_id, m.serial = n ∧ m.status = .ATTACHMENT_NOT_TAKEN

structure Inv (now : ℤ) (s : MailModule) : Prop where
  fits : ∀ role_id, (s.mails role_id).length ≤ MAX_MAIL_COUNT
  known : ∀ role_id, ∀ m ∈ s.mails role_id, ∃ mail, s.sent[m.serial]? = some mail ∧
    mail.receiver_id = role_id ∧ m.attachments = mail.attachments ∧ m.expire_time = mail.expire_time
  distinct : ∀ role_id, ((s.mails role_id).map (·.serial)).Nodup
  pending : ∀ role_id, ∀ m ∈ s.mails role_id, m.status = .ATTACHMENT_NOT_TAKEN → m.serial ∉ s.taken
  once : s.taken.Nodup
  granted : ∀ m ∈ s.granted, ∃ mail, s.sent[m.serial]? = some mail ∧ m.attachments = mail.attachments
  kept : Kept now s

/-! ## What an operation does to a box -/

/-- What an operation at the time `now` makes of a mail; `g` are the mails whose attachments it
    grants. -/
structure Becomes (now : ℤ) (g : List ℕ) (m m' : MailInfo) : Prop where
  serial : m'.serial = m.serial
  attachments : m'.attachments = m.attachments
  expire_time : m'.expire_time = m.expire_time
  pending : m'.status = .ATTACHMENT_NOT_TAKEN → m.status = .ATTACHMENT_NOT_TAKEN ∧ m.serial ∉ g
  kept : m.status = .ATTACHMENT_NOT_TAKEN → now ≤ m.expire_time → m.serial ∉ g →
    m'.status = .ATTACHMENT_NOT_TAKEN

structure BoxStep (now : ℤ) (g : List ℕ) (mails mails' : List MailInfo) : Prop where
  serials : (mails'.map (·.serial)).Sublist (mails.map (·.serial))
  old : ∀ m' ∈ mails', ∃ m ∈ mails, Becomes now g m m'
  kept : ∀ m ∈ mails, m.status = .ATTACHMENT_NOT_TAKEN → now ≤ m.expire_time → m.serial ∉ g →
    ∃ m' ∈ mails', m'.serial = m.serial ∧ m'.status = .ATTACHMENT_NOT_TAKEN

section
variable {now now' : ℤ} {s s' : MailModule} {g : List MailInfo} {gs : List ℕ} {m m' : MailInfo}
  {mails mails' : List MailInfo} {role_id mail_id : BitVec 64}

theorem Becomes.refl (h : m.status = .ATTACHMENT_NOT_TAKEN → m.serial ∉ gs) : Becomes now gs m m :=
  ⟨rfl, rfl, rfl, fun hs => ⟨hs, h hs⟩, fun hs _ _ => hs⟩

theorem BoxStep.refl (h : ∀ m ∈ mails, m.status = .ATTACHMENT_NOT_TAKEN → m.serial ∉ gs) :
    BoxStep now gs mails mails :=
  ⟨List.Sublist.refl _, fun m hm => ⟨m, hm, .refl (h m hm)⟩, fun m hm hs _ _ => ⟨m, hm, rfl, hs⟩⟩

theorem BoxStep.map {f : MailInfo → MailInfo} (h : ∀ m ∈ mails, Becomes now gs m (f m)) :
    BoxStep now gs mails (mails.map f) where
  serials := by
    have hmap : (mails.map f).map (·.serial) = mails.map (·.serial) := by
      rw [List.map_map]
      exact List.map_congr_left fun m hm => (h m hm).serial
    rw [hmap]
  old := by
    intro m' hm'
    obtain ⟨m, hm, rfl⟩ := List.mem_map.1 hm'
    exact ⟨m, hm, h m hm⟩
  kept := fun m hm hs hexp hg => ⟨f m, List.mem_map_of_mem hm, (h m hm).serial, (h m hm).kept hs hexp hg⟩

/-- Mails are removed that are not pending. -/
theorem BoxStep.sublist (hsub : mails'.Sublist mails)
    (h : ∀ m ∈ mails, m.status = .ATTACHMENT_NOT_TAKEN → m ∈ mails') : BoxStep now [] mails mails' where
  serials := hsub.map _
  old := fun m hm => ⟨m, hsub.subset hm, .refl fun _ => List.not_mem_nil⟩
  kept := fun m hm hs _ _ => ⟨m, h m hm hs, rfl, hs⟩

/-- One mail is changed. -/
theorem BoxStep.replace {a b : List MailInfo} (h : Becomes now gs m m')
    (hother : ∀ x ∈ a ++ b, x.status = .ATTACHMENT_NOT_TAKEN → x.serial ∉ gs) :
    BoxStep now gs (a ++ m :: b) (a ++ m' :: b) where
  serials := by simp [h.serial]
  old := by
    intro x hx
    by_cases hxm : x ∈ a ++ b
    · exact ⟨x, by simp_all; tauto, .refl (hother x hxm)⟩
    · obtain rfl : x = m' := by simp_all
      exact ⟨m, by simp, h⟩
  kept := by
    intro x hx hs hexp hg
    by_cases hxm : x ∈ a ++ b
    · exact ⟨x, by simp_all; tauto, rfl, hs⟩
    · obtain rfl : x = m := by simp_all
      exact ⟨m', by simp, h.serial, h.kept hs hexp hg⟩

/-! ## Steps keep the invariant -/

theorem Inv.change (h : Inv now s) (hnow : now ≤ now')
    (hbox : ∀ role_id, BoxStep now' (g.map (·.serial)) (s.mails role_id) (s'.mails role_id))
    (hsent : s'.sent = s.sent) (hgranted : s'.granted = s.granted ++ g)
    (hg : ∀ m ∈ g, ∃ role_id, m ∈ s.mails role_id ∧ m.status = .ATTACHMENT_NOT_TAKEN)
    (hnodup : (g.map (·.serial)).Nodup) : Inv now' s' := by
  have htaken : s'.taken = s.taken ++ g.map (·.serial) := by simp [MailModule.taken, hgranted]
  constructor
  · intro r
    have hlen := (hbox r).serials.length_le
    rw [List.length_map, List.length_map] at hlen
    exact hlen.trans (h.fits r)
  · intro r m' hm'
    obtain ⟨m, hm, hb⟩ := (hbox r).old m' hm'
    rw [hsent, hb.serial, hb.attachments, hb.expire_time]
    exact h.known r m hm
  · exact fun r => (h.distinct r).sublist (hbox r).serials
  · intro r m' hm' hs
    obtain ⟨m, hm, hb⟩ := (hbox r).old m' hm'
    obtain ⟨hs, hmg⟩ := hb.pending hs
    rw [htaken, hb.serial, List.mem_append, not_or]
    exact ⟨h.pending r m hm hs, hmg⟩
  · rw [htaken, List.nodup_append]
    refine ⟨h.once, hnodup, ?_⟩
    rintro n hn _ hng rfl
    obtain ⟨m, hm, rfl⟩ := List.mem_map.1 hng
    obtain ⟨r, hmr, hs⟩ := hg m hm
    exact h.pending r m hmr hs hn
  · intro m hm
    rw [hsent]
    rcases List.mem_append.1 (hgranted ▸ hm) with hm | hm
    · exact h.granted m hm
    · obtain ⟨r, hmr, -⟩ := hg m hm
      obtain ⟨mail, hmail, -, hatt, -⟩ := h.known r m hmr
      exact ⟨mail, hmail, hatt⟩
  · intro n mail hn hatt hnt hexp
    rw [hsent] at hn
    rw [htaken, List.mem_append, not_or] at hnt
    obtain ⟨m, hm, rfl, hs⟩ := h.kept n mail hn hatt hnt.1 (hnow.trans hexp)
    obtain ⟨mail', hn', -, -, hexp'⟩ := h.known _ m hm
    obtain rfl : mail = mail' := Option.some.inj (hn.symm.trans hn')
    obtain ⟨m', hm', hser, hs'⟩ := (hbox _).kept m hm hs (hexp'.symm ▸ hexp) hnt.2
    exact ⟨m', hm', hser, hs'⟩

theorem mails_of_some (h : s.mail_cache_ role_id = some mails) : s.mails role_id = mails := by
  simp [MailModule.mails, h]

@[simp] theorem mails_setMails (s : MailModule) (role_id : BitVec 64) (mails : List MailInfo) :
    (s.setMails role_id mails).mails = Function.update s.mails role_id mails := by
  ext1 r
  by_cases hr : r = role_id
  · subst hr; simp [MailModule.mails, setMails]
  · simp [MailModule.mails, setMails, hr]

/-- An operation on one box. -/
theorem Inv.set (h : Inv now s) (hnow : now ≤ now')
    (hbox : BoxStep now' (g.map (·.serial)) (s.mails role_id) mails')
    (hmails : s'.mails = Function.update s.mails role_id mails') (hsent : s'.sent = s.sent)
    (hgranted : s'.granted = s.granted ++ g)
    (hg : ∀ m ∈ g, m ∈ s.mails role_id ∧ m.status = .ATTACHMENT_NOT_TAKEN)
    (hnodup : (g.map (·.serial)).Nodup) : Inv now' s' := by
  refine h.change hnow (fun r => ?_) hsent hgranted (fun m hm => ⟨role_id, hg m hm⟩) hnodup
  rw [hmails]
  by_cases hr : r = role_id
  · subst hr
    rw [Function.update_self]
    exact hbox
  · rw [Function.update_of_ne hr]
    refine .refl fun m hm _ hmem => hr ?_
    -- a mail is only in the box of its receiver
    obtain ⟨x, hx, hser⟩ := List.mem_map.1 hmem
    obtain ⟨mail, hmail, hrecv, -⟩ := h.known r m hm
    obtain ⟨mail', hmail', hrecv', -⟩ := h.known role_id x (hg x hx).1
    rw [hser] at hmail'
    rw [← hrecv, ← hrecv', Option.some.inj (hmail.symm.trans hmail')]

/-- Time passes. -/
theorem Inv.tick (h : Inv now s) (hnow : now ≤ now') : Inv now' s :=
  h.change (g := []) hnow (fun _ => .refl fun _ _ _ => List.not_mem_nil) rfl (by simp) nofun (by simp)

/-- An operation on one box that grants nothing. -/
theorem Inv.setMails (h : Inv now s) (hnow : now ≤ now') (hbox : BoxStep now' [] (s.mails role_id) mails') :
    Inv now' (s.setMails role_id mails') :=
  h.set (g := []) hnow hbox (by simp) rfl (by simp [MailModule.setMails]) nofun (by simp)

theorem Inv.setNotify (h : Inv now s) {v : Bool} : Inv now (s.setNotify role_id v) :=
  ⟨h.fits, h.known, h.distinct, h.pending, h.once, h.granted, h.kept⟩

/-- A change of a mail that leaves it as it is while it is pending. -/
theorem Becomes.of_kept {f : MailInfo → MailInfo}
    (h : f m = m ∨ m.status ≠ .ATTACHMENT_NOT_TAKEN ∧ (f m).status ≠ .ATTACHMENT_NOT_TAKEN ∧
      (f m).serial = m.serial ∧ (f m).attachments = m.attachments ∧ (f m).expire_time = m.expire_time) :
    Becomes now [] m (f m) := by
  rcases h with h | ⟨hs, hs', hser, hatt, hexp⟩
  · rw [h]
    exact .refl fun _ => List.not_mem_nil
  · exact ⟨hser, hatt, hexp, fun h => absurd h hs', fun h => absurd h hs⟩

theorem becomes_markRead : Becomes now' [] m (markRead now m) := by
  refine .of_kept (f := markRead now) ?_
  unfold markRead
  split_ifs with h
  · exact .inr ⟨by simp [h], nofun, rfl, rfl, rfl⟩
  · exact .inl rfl

theorem becomes_delete : Becomes now [] m (delete m).2 := by
  refine .of_kept (f := fun m => (delete m).2) ?_
  unfold delete
  split_ifs with h
  · exact .inl rfl
  · exact .inr ⟨h, nofun, rfl, rfl, rfl⟩

theorem becomes_clear : Becomes now [] m (clear m) := by
  refine .of_kept (f := clear) ?_
  unfold clear
  split_ifs with h
  · refine .inr ⟨fun hs => ?_, nofun, rfl, rfl, rfl⟩
    simp [seen, hs] at h
  · exact .inl rfl

theorem becomes_expire : Becomes now [] m (expire now m) := by
  unfold expire
  split_ifs with h
  · exact ⟨rfl, rfl, rfl, nofun, fun _ hexp => absurd h.2 (not_lt.2 hexp)⟩
  · exact .refl fun _ => List.not_mem_nil

/-- The attachments of a mail are granted if they are pending. -/
theorem becomes_take (hg : m.status = .ATTACHMENT_NOT_TAKEN → m.serial ∈ gs) :
    Becomes now gs m (take m).2 := by
  unfold take
  split_ifs with h
  · exact .refl fun hs => absurd hs h
  · exact ⟨rfl, rfl, rfl, nofun, fun hs _ hn => absurd (hg hs) hn⟩

theorem inv_read (h : Inv now s) (hnow : now ≤ now') : Inv now' (ReadMail now' role_id mail_id s).2 := by
  unfold ReadMail
  cases hc : s.mail_cache_ role_id with
  | none => exact h.tick hnow
  | some mails =>
    dsimp only
    rcases onFirst_cases (isMail mail_id) (fun mail => ((), markRead now' mail)) mails with
      ⟨hnone, -⟩ | ⟨a, m, b, rfl, -, -, hsome⟩
    · rw [hnone]
      exact h.tick hnow
    · rw [hsome]
      refine h.setMails hnow ?_
      rw [mails_of_some hc]
      exact .replace becomes_markRead fun _ _ _ => List.not_mem_nil

theorem inv_delete (h : Inv now s) (hnow : now ≤ now') : Inv now' (DeleteMail role_id mail_id s).2 := by
  unfold DeleteMail
  cases hc : s.mail_cache_ role_id with
  | none => exact h.tick hnow
  | some mails =>
    dsimp only
    rcases onFirst_cases (isMail mail_id) delete mails with
      ⟨hnone, -⟩ | ⟨a, m, b, rfl, -, -, hsome⟩
    · rw [hnone]
      exact h.tick hnow
    · rw [hsome]
      refine h.setMails hnow ?_
      rw [mails_of_some hc]
      exact .replace becomes_delete fun _ _ _ => List.not_mem_nil

/-- The mails of a box have different serials. -/
theorem Inv.serial_ne {a b : List MailInfo} (h : Inv now s) (hc : s.mails role_id = a ++ m :: b)
    {x : MailInfo} (hx : x ∈ a ++ b) : x.serial ≠ m.serial := by
  have hd := h.distinct role_id
  rw [hc, (List.perm_middle.map _).nodup_iff, List.map_cons, List.nodup_cons] at hd
  exact fun he => hd.1 (he ▸ List.mem_map_of_mem hx)

theorem inv_take (h : Inv now s) (hnow : now ≤ now') : Inv now' (TakeAttachment role_id mail_id s).2 := by
  unfold TakeAttachment
  cases hc : s.mail_cache_ role_id with
  | none => exact h.tick hnow
  | some mails =>
    dsimp only
    rcases onFirst_cases (isMail mail_id) take mails with
      ⟨hnone, -⟩ | ⟨a, m, b, rfl, -, -, hsome⟩
    · rw [hnone]
      exact h.tick hnow
    · have hmails := mails_of_some hc
      rw [hsome]
      refine h.set (g := (take m).1.toList) hnow ?_ (mails_setMails _ _ _) rfl rfl ?_ ?_
      · rw [hmails]
        refine .replace (becomes_take fun hs => by simp [take, hs]) fun x hx _ => ?_
        have hne := h.serial_ne hmails hx
        unfold take
        split_ifs <;> simp [hne]
      · unfold take
        split_ifs with hs <;> simp_all
      · unfold take
        split_ifs <;> simp

theorem inv_takeAll (h : Inv now s) (hnow : now ≤ now') : Inv now' (TakeAllAttachments role_id s).2 := by
  unfold TakeAllAttachments
  cases hc : s.mail_cache_ role_id with
  | none => exact h.tick hnow
  | some mails =>
    have hmails := mails_of_some hc
    have htake (m : MailInfo) : (take m).1 = if m.status = .ATTACHMENT_NOT_TAKEN then some m else none := by
      unfold take
      split_ifs <;> simp_all
    have hpending (m : MailInfo) : m ∈ mails.filterMap (take · |>.1) ↔
        m ∈ mails ∧ m.status = .ATTACHMENT_NOT_TAKEN := by
      simp only [List.mem_filterMap, htake]
      constructor
      · rintro ⟨x, hx, he⟩
        split_ifs at he with hs
        exact Option.some.inj he ▸ ⟨hx, hs⟩
      · rintro ⟨hm, hs⟩
        exact ⟨m, hm, if_pos hs⟩
    refine h.set (g := mails.filterMap (take · |>.1)) hnow ?_ (mails_setMails _ _ _) rfl rfl ?_ ?_
    · rw [hmails]
      exact .map fun m hm => becomes_take fun hs => List.mem_map_of_mem ((hpending m).2 ⟨hm, hs⟩)
    · rw [hmails]
      exact fun m hm => (hpending m).1 hm
    · have hsub : (mails.filterMap (take · |>.1)).Sublist mails := by
        have hfilter : mails.filterMap (take · |>.1) =
            mails.filter (·.status = .ATTACHMENT_NOT_TAKEN) := by
          rw [← List.filterMap_eq_filter]
          refine List.filterMap_congr fun m _ => ?_
          simp [htake, Option.guard]
        rw [hfilter]
        exact List.filter_sublist
      have hd := h.distinct role_id
      rw [hmails] at hd
      exact hd.sublist (hsub.map _)

/-- A loop over a box. -/
theorem inv_map {f : MailInfo → MailInfo} (h : Inv now s) (hnow : now ≤ now')
    (hc : s.mail_cache_ role_id = some mails) (hf : ∀ m, Becomes now' [] m (f m)) :
    Inv now' (s.setMails role_id (mails.map f)) := by
  refine h.setMails hnow ?_
  rw [mails_of_some hc]
  exact .map fun m _ => hf m

/-- A mail is put into a box. -/
theorem Inv.push (h : Inv now s) (mail : MailInfo)
    (hlt : (s.mails mail.receiver_id).length < MAX_MAIL_COUNT)
    (hmails : s'.mails = Function.update s.mails mail.receiver_id (s.mails mail.receiver_id ++ [mail]))
    (hsent : s'.sent = s.sent ++ [mail]) (hgranted : s'.granted = s.granted)
    (hserial : mail.serial = s.sent.length)
    (hstatus : mail.attachments ≠ [] → mail.status = .ATTACHMENT_NOT_TAKEN) : Inv now s' := by
  have hold {n : ℕ} {x : MailInfo} (hn : s.sent[n]? = some x) : s'.sent[n]? = some x := by
    rw [hsent, List.getElem?_append_left (List.getElem?_eq_some_iff.1 hn).1]
    exact hn
  have hnew : s'.sent[mail.serial]? = some mail := by simp [hsent, hserial]
  have hlt_of {n : ℕ} {x : MailInfo} (hn : s.sent[n]? = some x) : n < mail.serial :=
    hserial ▸ (List.getElem?_eq_some_iff.1 hn).1
  have htaken : s'.taken = s.taken := by simp [MailModule.taken, hgranted]
  have hmem {r : BitVec 64} {m : MailInfo} : m ∈ s'.mails r ↔
      m ∈ s.mails r ∨ r = mail.receiver_id ∧ m = mail := by
    rw [hmails]
    by_cases hr : r = mail.receiver_id
    · subst hr; simp
    · simp [hr]
  have hfresh {r : BitVec 64} {m : MailInfo} (hm : m ∈ s.mails r) : m.serial ≠ mail.serial := by
    obtain ⟨x, hx, -⟩ := h.known r m hm
    exact (hlt_of hx).ne
  constructor
  · intro r
    rw [hmails]
    by_cases hr : r = mail.receiver_id
    · subst hr
      rw [Function.update_self, List.length_append]
      exact hlt
    · simpa [hr] using h.fits r
  · intro r m hm
    rcases hmem.1 hm with hm | ⟨rfl, rfl⟩
    · obtain ⟨x, hx, hrest⟩ := h.known r m hm
      exact ⟨x, hold hx, hrest⟩
    · exact ⟨m, hnew, rfl, rfl, rfl⟩
  · intro r
    rw [hmails]
    by_cases hr : r = mail.receiver_id
    · subst hr
      rw [Function.update_self, (List.perm_append_singleton _ _).map _ |>.nodup_iff, List.map_cons,
        List.nodup_cons]
      refine ⟨fun hin => ?_, h.distinct _⟩
      obtain ⟨m, hm, he⟩ := List.mem_map.1 hin
      exact hfresh hm he
    · simpa [hr] using h.distinct r
  · intro r m hm hs
    rw [htaken]
    rcases hmem.1 hm with hm | ⟨rfl, rfl⟩
    · exact h.pending r m hm hs
    · intro hin
      obtain ⟨x, hx, he⟩ := List.mem_map.1 hin
      obtain ⟨y, hy, -⟩ := h.granted x hx
      exact (hlt_of hy).ne he
  · rw [htaken]
    exact h.once
  · intro m hm
    rw [hgranted] at hm
    obtain ⟨x, hx, hatt⟩ := h.granted m hm
    exact ⟨x, hold hx, hatt⟩
  · intro n x hn hatt hnt hexp
    rw [htaken] at hnt
    rw [hsent, List.getElem?_append] at hn
    split_ifs at hn with hlt
    · obtain ⟨m, hm, hrest⟩ := h.kept n x hn hatt hnt hexp
      exact ⟨m, hmem.2 (.inl hm), hrest⟩
    · obtain ⟨hz, rfl⟩ : n - s.sent.length = 0 ∧ x = mail := by
        rw [List.getElem?_singleton] at hn
        split_ifs at hn with h0
        exact ⟨h0, (Option.some.inj hn).symm⟩
      exact ⟨x, hmem.2 (.inr ⟨rfl, rfl⟩), by omega, hstatus hatt⟩

/-- A mail is removed to make room. -/
theorem boxStep_evict (mails : List MailInfo) : BoxStep now [] mails
    (if MAX_MAIL_COUNT ≤ mails.length then mails.eraseP seen else mails) := by
  split_ifs
  · refine .sublist List.eraseP_sublist fun m hm hs => ?_
    exact (List.mem_eraseP_of_neg (by simp [seen, hs])).2 hm
  · exact .refl fun _ _ _ => List.not_mem_nil

theorem inv_send (h : Inv now s) (hnow : now ≤ now') (d : Draft) :
    Inv now' (SendMailWithAttachments now' d s).2 := by
  have hevict := h.setMails hnow (boxStep_evict (s.mails d.receiver_id))
  unfold SendMailWithAttachments
  dsimp only
  rw [← MailModule.mails]
  generalize (if MAX_MAIL_COUNT ≤ (s.mails d.receiver_id).length then
    (s.mails d.receiver_id).eraseP seen else s.mails d.receiver_id) = mails at hevict ⊢
  split_ifs with hfull
  · exact hevict
  · refine hevict.push (d.mail now' s.next_id s.sent.length) ?_ ?_ rfl rfl rfl ?_
    · simpa [Draft.mail] using hfull
    · show (s.setMails d.receiver_id (mails ++ [d.mail now' s.next_id s.sent.length])).mails =
        Function.update (s.setMails d.receiver_id mails).mails d.receiver_id
          ((s.setMails d.receiver_id mails).mails d.receiver_id ++ [_])
      rw [mails_setMails, mails_setMails, Function.update_self, Function.update_idem]
    · exact fun hatt => if_pos hatt

theorem inv_next (h : Inv now s) (hnow : now ≤ now') (op : Op) : Inv now' (next now' s op) := by
  cases op with
  | init role_id =>
    show Inv now' (InitMail role_id s).2
    unfold InitMail
    cases hc : s.mail_cache_ role_id with
    | some mails => exact h.tick hnow
    | none =>
      have hbox : BoxStep now' [] (s.mails role_id) [] := by
        rw [MailModule.mails, hc]
        exact .refl nofun
      exact (h.setMails hnow hbox).setNotify
  | send d => exact inv_send h hnow d
  | read role_id mail_id => exact inv_read h hnow
  | take role_id mail_id => exact inv_take h hnow
  | takeAll role_id => exact inv_takeAll h hnow
  | delete role_id mail_id => exact inv_delete h hnow
  | deleteRead role_id =>
    show Inv now' (DeleteReadMails role_id s).2
    unfold DeleteReadMails
    cases hc : s.mail_cache_ role_id with
    | none => exact h.tick hnow
    | some mails => exact inv_map h hnow hc fun m => becomes_clear
  | deleteExpired role_id =>
    show Inv now' (DeleteExpiredMails now' role_id s).2
    unfold DeleteExpiredMails
    cases hc : s.mail_cache_ role_id with
    | none => exact h.tick hnow
    | some mails => exact inv_map h hnow hc fun m => becomes_expire
  | cleanDeleted role_id =>
    show Inv now' (CleanDeletedMails role_id s).2
    unfold CleanDeletedMails
    cases hc : s.mail_cache_ role_id with
    | none => exact h.tick hnow
    | some mails =>
      refine h.setMails hnow ?_
      rw [mails_of_some hc]
      exact .sublist List.filter_sublist fun m hm hs => List.mem_filter.2 ⟨hm, by simp [hs]⟩
  | hasNew role_id =>
    show Inv now' (HasNewMail role_id s).2
    unfold HasNewMail
    split
    · exact h.tick hnow
    · exact (h.tick hnow).setNotify
  | onTimer =>
    refine h.change (g := []) hnow (fun r => ?_) rfl (by simp [next, OnTimer]) nofun (by simp)
    have hmails : (next now' s .onTimer).mails r = (s.mails r).map (expire now') := by
      simp only [MailModule.mails, next, OnTimer]
      cases s.mail_cache_ r <;> rfl
    rw [hmails]
    exact .map fun m _ => becomes_expire

theorem inv_init (now : ℤ) (next_id : BitVec 64) : Inv now (init now next_id).module :=
  ⟨fun _ => Nat.zero_le _, fun _ _ => nofun, fun _ => List.nodup_nil, fun _ _ => nofun, List.nodup_nil,
    fun _ => nofun, fun _ _ hn => by simp [init] at hn⟩

end

/-- The invariant holds in every run. -/
theorem inv_run {now : ℤ} {next_id : BitVec 64} {ls : List (ℤ × Op)} {s : Sys}
    (hrun : Run step (init now next_id) ls s) : Inv s.now s.module := by
  refine hrun.invariant (P := fun s => Inv s.now s.module) ?_ (inv_init now next_id)
  intro s l s' h hstep
  unfold step advance at hstep
  split_ifs at hstep with hnow
  cases hstep
  exact inv_next h hnow l.2

/-! ## Attachments -/

/-- **Attachments are granted at most once and are not lost**: no mail is granted twice, what is granted
    is what was sent, and until then the mail waits in the box of its receiver, if it has not expired. -/
theorem granted_once {now : ℤ} {next_id : BitVec 64} {ls : List (ℤ × Op)} {s : Sys}
    (hrun : Run step (init now next_id) ls s) :
    s.module.taken.Nodup ∧
      (∀ m ∈ s.module.granted, ∃ mail, s.module.sent[m.serial]? = some mail ∧
        m.attachments = mail.attachments) ∧
      Kept s.now s.module := by
  have h := inv_run hrun
  exact ⟨h.once, h.granted, h.kept⟩

/-- A mail with some gold. -/
def gift : Draft := ⟨1, "ann", 2, "gift", "", .PLAYER, [⟨1, 0, 50⟩]⟩

/-- The attachments of one mail are asked for twice; those of the other wait. -/
theorem granted_once_twice : ∃ s : Sys, Run step (init 100 7) [(100, .send gift), (100, .send gift),
    (105, .take 2 7), (106, .deleteRead 2), (107, .take 2 7)] s ∧
    s.module.taken = [0] ∧ s.module.taken.Nodup ∧ Kept s.now s.module := by
  obtain ⟨s, hs, htaken⟩ : ∃ s : Sys, [(100, .send gift), (100, .send gift),
      (105, .take 2 7), (106, .deleteRead 2), (107, .take 2 7)].foldlM advance (init 100 7) = some s ∧
      s.module.taken = [0] := ⟨_, rfl, rfl⟩
  have hrun : Run step _ _ s := Run.of_foldlM hs
  have h := granted_once hrun
  exact ⟨s, hrun, htaken, h.1, h.2.2⟩

/-! ## Full boxes -/

/-- A mail is rejected if the box is full and none of its mails can make room. -/
theorem send_fails {s : MailModule} {now : ℤ} {d : Draft}
    (hfits : (s.mails d.receiver_id).length ≤ MAX_MAIL_COUNT) :
    (SendMailWithAttachments now d s).1 = false ↔
      (s.mails d.receiver_id).length = MAX_MAIL_COUNT ∧ ∀ m ∈ s.mails d.receiver_id, seen m = false := by
  unfold SendMailWithAttachments
  dsimp only
  rw [← MailModule.mails]
  generalize s.mails d.receiver_id = mails at hfits
  by_cases hfull : MAX_MAIL_COUNT ≤ mails.length
  · have hlen : mails.length = MAX_MAIL_COUNT := le_antisymm hfits hfull
    rw [if_pos hfull]
    by_cases hseen : ∀ m ∈ mails, seen m = false
    · rw [List.eraseP_of_forall_not fun m hm => by simp [hseen m hm], if_pos hfull]
      exact iff_of_true rfl ⟨hlen, hseen⟩
    · have hroom : ¬MAX_MAIL_COUNT ≤ (mails.eraseP seen).length := by
        push Not at hseen
        obtain ⟨m, hm, hs⟩ := hseen
        rw [List.length_eraseP_of_mem hm (by simpa using hs), hlen]
        decide
      rw [if_neg hroom]
      exact iff_of_false nofun fun h => hseen h.2
  · have hlen : mails.length ≠ MAX_MAIL_COUNT := fun h => hfull h.ge
    simp [hfull, hlen]

/-- The player sees a full box, in which there is nothing to make room with. -/
def SeesFull (role_id : BitVec 64) (s : MailModule) : Prop :=
  ∃ mails, GetMails role_id s = some mails ∧ MAX_MAIL_COUNT ≤ mails.length ∧
    ∀ m ∈ mails, m.status ≠ .READ ∧ m.status ≠ .ATTACHMENT_TAKEN

theorem sees_full_iff {s : MailModule} {role_id : BitVec 64}
    (hlen : (s.mails role_id).length = MAX_MAIL_COUNT)
    (hseen : ∀ m ∈ s.mails role_id, seen m = false) :
    SeesFull role_id s ↔ ∀ m ∈ s.mails role_id, m.status ≠ .DELETED := by
  obtain ⟨mails, hc⟩ : ∃ mails, s.mail_cache_ role_id = some mails := by
    cases hc : s.mail_cache_ role_id with
    | none => simp [MailModule.mails, hc, MAX_MAIL_COUNT] at hlen
    | some mails => exact ⟨mails, rfl⟩
  rw [mails_of_some hc] at hlen hseen ⊢
  simp only [SeesFull, GetMails, hc, Option.map_some, Option.some.injEq, exists_eq_left', ← hlen]
  constructor
  · rintro ⟨hle, -⟩ m hm
    have heq := List.filter_sublist.eq_of_length_le hle
    simpa using List.filter_eq_self.1 heq m hm
  · intro h
    rw [List.filter_eq_self.2 fun m hm => by simpa using h m hm]
    refine ⟨le_rfl, fun m hm => ?_⟩
    simpa [seen] using hseen m hm

/-- **Full boxes**: the player sees a full box whenever a mail is rejected, iff the box is not full, has a
    mail that can make room, or has no deleted mails. -/
theorem full_iff {t : ℤ} {next_id : BitVec 64} {ls : List (ℤ × Op)} {s : Sys}
    (hrun : Run step (init t next_id) ls s) (now : ℤ) (d : Draft) :
    ((SendMailWithAttachments now d s.module).1 = false → SeesFull d.receiver_id s.module) ↔
      (s.module.mails d.receiver_id).length < MAX_MAIL_COUNT ∨
      (∃ m ∈ s.module.mails d.receiver_id, m.status = .READ ∨ m.status = .ATTACHMENT_TAKEN) ∨
      ∀ m ∈ s.module.mails d.receiver_id, m.status ≠ .DELETED := by
  have hfits := (inv_run hrun).fits d.receiver_id
  rw [send_fails hfits]
  by_cases hfull : (s.module.mails d.receiver_id).length = MAX_MAIL_COUNT ∧
      ∀ m ∈ s.module.mails d.receiver_id, seen m = false
  · have hroom : ¬∃ m ∈ s.module.mails d.receiver_id, m.status = .READ ∨ m.status = .ATTACHMENT_TAKEN := by
      rintro ⟨m, hm, hs⟩
      have hnot := hfull.2 m hm
      rcases hs with hs | hs <;> simp [seen, hs] at hnot
    rw [sees_full_iff hfull.1 hfull.2, or_iff_right hfull.1.not_lt, or_iff_right hroom]
    exact ⟨fun h => h hfull, fun h _ => h⟩
  · refine iff_of_true (fun h => absurd h hfull) ?_
    rw [not_and_or] at hfull
    rcases hfull with hlen | hseen
    · exact .inl (lt_of_le_of_ne hfits hlen)
    · push Not at hseen
      obtain ⟨m, hm, hs⟩ := hseen
      refine .inr (.inl ⟨m, hm, ?_⟩)
      unfold seen at hs
      simpa only [ne_eq, Bool.not_eq_false, Bool.or_eq_true, decide_eq_true_eq] using hs

/-- A mail without attachments. -/
def note : Draft := ⟨1, "ann", 2, "note", "", .PLAYER, []⟩

/-- A box that fills up. -/
theorem run_send {n : ℕ} (hn : n ≤ MAX_MAIL_COUNT) : ∃ s : Sys,
    Run step (init 0 7) (List.replicate n (0, .send note)) s ∧ s.now = 0 ∧
      (s.module.mails 2).length = n ∧
      ∀ m ∈ s.module.mails 2, m.status = .UNREAD ∧ m.expire_time = MAIL_EXPIRE_DAYS * 86400 := by
  induction n with
  | zero => exact ⟨init 0 7, .nil _, rfl, rfl, nofun⟩
  | succ n ih =>
    obtain ⟨s, hrun, hnow, hlen, hall⟩ := ih (Nat.le_of_succ_le hn)
    have hroom : ¬MAX_MAIL_COUNT ≤ (s.module.mails 2).length := by omega
    have hmails : (next 0 s.module (.send note)).mails 2 =
        s.module.mails 2 ++ [note.mail 0 s.module.next_id s.module.sent.length] := by
      show (SendMailWithAttachments 0 note s.module).2.mails 2 = _
      unfold SendMailWithAttachments
      dsimp only
      rw [show (s.module.mail_cache_ note.receiver_id).getD [] = s.module.mails 2 from rfl,
        if_neg hroom, if_neg hroom]
      simp [MailModule.mails, setMails, setNotify, note]
    refine ⟨⟨0, next 0 s.module (.send note)⟩, ?_, rfl, ?_, ?_⟩
    · rw [List.replicate_succ', Run.snoc_iff]
      exact ⟨s, hrun, if_pos hnow.le⟩
    · rw [hmails, List.length_append, hlen, List.length_singleton]
    · intro m hm
      rw [hmails, List.mem_append, List.mem_singleton] at hm
      rcases hm with hm | rfl
      · exact hall m hm
      · exact ⟨rfl, by simp [Draft.mail]⟩

/-- A box is full of mails that were not read, and so one more is rejected. -/
theorem full_unread : ∃ s : Sys, Run step (init 0 7) (List.replicate 100 (0, .send note)) s ∧
    (SendMailWithAttachments 0 note s.module).1 = false ∧ SeesFull 2 s.module := by
  obtain ⟨s, hrun, -, hlen, hall⟩ := run_send (n := 100) le_rfl
  have hfails : (SendMailWithAttachments 0 note s.module).1 = false :=
    (send_fails hlen.le).2 ⟨hlen, fun m hm => by simp [seen, hall m hm]⟩
  have hdeleted : ∀ m ∈ s.module.mails 2, m.status ≠ .DELETED := fun m hm => by simp [hall m hm]
  exact ⟨s, hrun, hfails, (full_iff hrun 0 note).2 (.inr (.inr hdeleted)) hfails⟩

/-- **A box that is full of deleted mails** rejects a mail, and the player sees no mails. -/
theorem not_full : ¬∀ (t : ℤ) (next_id : BitVec 64) (ls : List (ℤ × Op)) (s : Sys),
    Run step (init t next_id) ls s → ∀ (now : ℤ) (d : Draft),
      (SendMailWithAttachments now d s.module).1 = false → SeesFull d.receiver_id s.module := by
  intro h
  obtain ⟨s, hrun, hnow, hlen, hall⟩ := run_send (n := 100) le_rfl
  -- all mails expire
  have hrun' := Run.snoc_iff.2 ⟨s, hrun, (if_pos (by rw [hnow]; decide) :
    advance s (2592001, .onTimer) = some ⟨2592001, OnTimer 2592001 s.module⟩)⟩
  have hmails : (OnTimer 2592001 s.module).mails 2 = (s.module.mails 2).map (expire 2592001) := by
    simp only [MailModule.mails, OnTimer]
    cases s.module.mail_cache_ 2 <;> rfl
  have hdeleted : ∀ m ∈ (OnTimer 2592001 s.module).mails 2, m.status = .DELETED := by
    rw [hmails]
    intro m hm
    obtain ⟨x, hx, rfl⟩ := List.mem_map.1 hm
    simp [expire, hall x hx, MAIL_EXPIRE_DAYS]
  have hlen' : ((OnTimer 2592001 s.module).mails 2).length = MAX_MAIL_COUNT := by
    rw [hmails, List.length_map, hlen]
    rfl
  have hseen : ∀ m ∈ (OnTimer 2592001 s.module).mails 2, seen m = false :=
    fun m hm => by simp [seen, hdeleted m hm]
  have hsees := h _ _ _ _ hrun' 2592001 note ((send_fails hlen'.le).2 ⟨hlen', hseen⟩)
  have hnone := (sees_full_iff hlen' hseen).1 hsees
  obtain ⟨m, hm⟩ := List.exists_mem_of_length_pos (l := (OnTimer 2592001 s.module).mails 2)
    (by rw [hlen']; decide)
  exact hnone m hm (hdeleted m hm)

end Ancfl.Game.Mail
