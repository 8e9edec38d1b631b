/-
  `SmtpClient` and the mails it sends.

  * `EMail`, `EMailEntity`: a mail and its attachments;
  * `send`: the dialogue with the server, command by command, of which the last
    is the mail text; `send_cmds`: what it has sent when it returns;
  * `mailText_iff`: the receiver finds one mail text with the body of the mail
    iff no line of the body begins with a dot and no line of an attachment is a
    dot.
-/
import Ancfl.Http.Message
import Ancfl.Lib.Lines
import Ancfl.Stream.FixSize
import Ancfl.Util.Base64
import Mathlib.Data.List.GetD

namespace Ancfl.Email

open Lib
open Http (ascii cStr)

/-! ## Mails -/

/-- `operator<` of `std::string` -/
def less (a b : List UInt8) : Bool := decide (a < b)

theorem less_trans (a b c : List UInt8) (hab : less a b) (hbc : less b c) : less a c :=
  haveI : Trans (α := UInt8) (β := UInt8) (γ := UInt8) (· < ·) (· < ·) (· < ·) := ⟨UInt8.lt_trans⟩
  decide_eq_true (List.lt_trans (of_decide_eq_true hab) (of_decide_eq_true hbc))

structure EMailEntity where
  m_headers : OrderedMap (List UInt8) (List UInt8) less := .empty
  m_content : List UInt8

namespace EMailEntity

def addHeader (e : EMailEntity) (key val : List UInt8) : EMailEntity :=
  { e with m_headers := e.m_headers.set less_trans key val }

/-- `CreateAttach`, of the bytes of the file and its base name. -/
def CreateAttach (content name : List UInt8) : EMailEntity :=
  let entity : EMailEntity := { m_content := Util.base64encode content }
  ((entity.addHeader (ascii "Content-Transfer-Encoding") (ascii "base64")).addHeader
    (ascii "Content-Disposition") (ascii "attachment")).addHeader
    (ascii "Content-Type") (ascii "application/octet-stream;name=" ++ name)

def toString (e : EMailEntity) : List UInt8 :=
  e.m_headers.entries.flatMap (fun i => i.1 ++ ascii ": " ++ i.2 ++ CRLF) ++ e.m_content ++ CRLF

end EMailEntity

structure EMail where
  m_fromEMailAddress : List UInt8
  m_fromEMailPasswd : List UInt8
  m_title : List UInt8
  m_body : List UInt8
  m_toEMailAddress : List (List UInt8)
  m_ccEMailAddress : List (List UInt8) := []
  m_bccEMailAddress : List (List UInt8) := []
  m_entitys : List EMailEntity := []

/-- The default `chars` of `random_string`. -/
def chars : List UInt8 := ascii "0123456789abcdefghijklmnopqrstuvwxyzABCDEFGHIJKLMNOPQRSTUVWXYZ"

/-- `rand` are the numbers that `rand()` returns. -/
def random_string (rand : ℕ → ℕ) (len : ℕ) (chars : List UInt8) : List UInt8 :=
  if len = 0 ∨ chars = [] then []
  else (List.range len).map fun i => chars.getD (rand i % chars.length) 0

namespace EMail

/-- `XX` of `To` and `Cc` -/
def addresses (v : List (List UInt8)) : List UInt8 :=
  (v.mapIdx fun i a => (if i = 0 then [] else ascii ",") ++ ascii "<" ++ a ++ ascii ">").flatten ++
    if v = [] then [] else CRLF

def boundary (rand : ℕ → ℕ) (email : EMail) : List UInt8 :=
  if email.m_entitys = [] then [] else random_string rand 16 chars

/-- What `ss` has before the body. -/
def head (rand : ℕ → ℕ) (email : EMail) : List UInt8 :=
  (ascii "From: <" ++ email.m_fromEMailAddress ++ ascii ">") ++ CRLF ++
    (ascii "To: " ++ addresses email.m_toEMailAddress) ++
    (if email.m_ccEMailAddress = [] then [] else ascii "Cc: " ++ addresses email.m_ccEMailAddress) ++
    (ascii "Subject: " ++ email.m_title) ++ CRLF ++
    (if email.m_entitys = [] then []
      else (ascii "Content-Type: multipart/mixed;boundary=" ++ email.boundary rand) ++ CRLF) ++
    ascii "MIME-Version: 1.0" ++ CRLF ++
    (if email.boundary rand = [] then [] else CRLF ++ (ascii "--" ++ email.boundary rand) ++ CRLF) ++
    ascii "Content-Type: text/html;charset=\"utf-8\"" ++ CRLF ++ CRLF

/-- What `ss` has behind the body and its CRLF. -/
def tail (rand : ℕ → ℕ) (email : EMail) : List UInt8 :=
  email.m_entitys.flatMap (fun i =>
      CRLF ++ (ascii "--" ++ email.boundary rand) ++ CRLF ++ i.toString) ++
    (if email.boundary rand = [] then []
      else CRLF ++ (ascii "--" ++ email.boundary rand ++ ascii "--") ++ CRLF) ++
    CRLF ++ ascii "." ++ CRLF

/-- `ss.str()` -/
def text (rand : ℕ → ℕ) (email : EMail) : List UInt8 :=
  email.head rand ++ email.m_body ++ CRLF ++ email.tail rand

end EMail

/-! ## The dialogue -/

/-- `OK` is 0, `IO_ERROR` is -1. -/
structure SmtpResult where
  result : ℤ
  msg : List UInt8

/-- `m_ss` is the text of the `stringstream`. `cmds` is not in the source: the commands given to
    `doCmd`. -/
structure SmtpClient where
  m_host : List UInt8
  m_ss : List UInt8
  m_authed : Bool
  stream : Stream
  cmds : List (List UInt8)

/-- `TypeUtil::Atoi`, an `int64_t` of what `strtoull` returns -/
def Atoi (str : List UInt8) : ℤ :=
  match (cStr str).dropWhile Http.isspace with
  | 43 :: s => toInt64 (min (Http.digits 10 s 0) (2 ^ 64 - 1) : ℕ)
  | 45 :: s =>
    if Http.digits 10 s 0 < 2 ^ 64 then toInt64 (-(Http.digits 10 s 0)) else toInt64 (2 ^ 64 - 1 : ℕ)
  | s => toInt64 (min (Http.digits 10 s 0) (2 ^ 64 - 1) : ℕ)

/-- `buf.substr(buf.find(' ') + 1)` -/
def afterSpace (buf : List UInt8) : List UInt8 :=
  if 32 ∈ buf then (buf.dropWhile (· ≠ 32)).tail else buf

/-- `replace(str, "\r\n", "")` -/
def dropCRLF : List UInt8 → List UInt8
  | [] => []
  | 13 :: 10 :: s => dropCRLF s
  | c :: s => c :: dropCRLF s

namespace SmtpClient

def doCmd (cmd : List UInt8) (debug : Bool) : Call Empty SmtpClient (Option SmtpResult) := do
  .modify fun s => { s with cmds := s.cmds ++ [cmd] }
  let (written, stream) ← .on (← .gets (·.stream)) (Stream.writeFixSize cmd)
  .modify fun s => { s with stream := stream }
  if written ≤ 0 then return some ⟨-1, ascii "write io error"⟩
  else do
    let ((len, buf), stream) ← .on (← .gets (·.stream)) (Stream.read 4096)
    .modify fun s => { s with
      stream := stream
      m_ss := if 0 < len ∧ debug then s.m_ss ++ ascii "C: " ++ cmd ++ ascii "S: " ++ buf else s.m_ss }
    let code := toInt32 (Atoi buf)
    return if len ≤ 0 then some ⟨-1, ascii "read io error"⟩
      else if 400 ≤ code then some ⟨code, dropCRLF (afterSpace buf)⟩
      else none

/-- `DO_CMD`: a result is the one of `send`. -/
def DO_CMD (cmd : List UInt8) (debug : Bool) : Call SmtpResult SmtpClient Unit := fun s =>
  match doCmd cmd debug s with
  | .undef => .undef
  | .ret (some result) s' => .throw result s'
  | .ret none s' => .ret () s'

/-- The login. -/
def auth (email : EMail) (debug : Bool) : Call SmtpResult SmtpClient Unit := do
  if !(← .gets (·.m_authed)) ∧ email.m_fromEMailAddress ≠ [] then
    DO_CMD (ascii "AUTH LOGIN" ++ CRLF) debug
    DO_CMD (Util.base64encode (email.m_fromEMailAddress.takeWhile (· ≠ 64)) ++ CRLF) debug
    DO_CMD (Util.base64encode email.m_fromEMailPasswd ++ CRLF) debug
    .modify fun s => { s with m_authed := true }

/-- The addresses in the set `targets`. -/
def targets (email : EMail) : List (List UInt8) :=
  ((email.m_toEMailAddress ++ email.m_ccEMailAddress ++ email.m_bccEMailAddress).foldl
    (fun targets i => targets.set less_trans i ())
    (.empty : OrderedMap (List UInt8) Unit less)).entries.map Prod.fst

def dialogue (rand : ℕ → ℕ) (email : EMail) (debug : Bool) :
    Call SmtpResult SmtpClient SmtpResult := do
  DO_CMD (ascii "HELO " ++ (← .gets (·.m_host)) ++ CRLF) debug
  auth email debug
  DO_CMD (ascii "MAIL FROM: <" ++ email.m_fromEMailAddress ++ ascii ">" ++ CRLF) debug
  (targets email).forM fun i => DO_CMD (ascii "RCPT TO: <" ++ i ++ ascii ">" ++ CRLF) debug
  DO_CMD (ascii "DATA" ++ CRLF) debug
  DO_CMD (email.text rand) debug
  return ⟨0, ascii "ok"⟩

/-- `send`; the timeouts of the socket are left out. -/
def send {ε : Type} (rand : ℕ → ℕ) (email : EMail) (debug : Bool) : Call ε SmtpClient SmtpResult :=
  fun s =>
    match dialogue rand email debug s with
    | .undef => .undef
    | .ret result s' | .throw result s' => .ret result s'

/-- The commands of a login. -/
def logins (authed : Bool) (email : EMail) : List (List UInt8) :=
  if !authed ∧ email.m_fromEMailAddress ≠ [] then
    [ascii "AUTH LOGIN" ++ CRLF,
      Util.base64encode (email.m_fromEMailAddress.takeWhile (· ≠ 64)) ++ CRLF,
      Util.base64encode email.m_fromEMailPasswd ++ CRLF]
  else []

/-- The commands up to `DATA`. -/
def envelope (host : List UInt8) (authed : Bool) (email : EMail) : List (List UInt8) :=
  [ascii "HELO " ++ host ++ CRLF] ++ logins authed email ++
    [ascii "MAIL FROM: <" ++ email.m_fromEMailAddress ++ ascii ">" ++ CRLF] ++
    (targets email).map (fun i => ascii "RCPT TO: <" ++ i ++ ascii ">" ++ CRLF) ++
    [ascii "DATA" ++ CRLF]

end SmtpClient

/-! ## What is to hold -/

/-- The addresses and the title have no CR and no LF. -/
def EMail.Clean (email : EMail) : Prop :=
  ∀ s ∈ [email.m_fromEMailAddress, email.m_title] ++ email.m_toEMailAddress ++
    email.m_ccEMailAddress ++ email.m_bccEMailAddress, 13 ∉ s ∧ 10 ∉ s

/-- The receiver finds one mail text, and the body in it is the one of the mail. -/
structure MailText (rand : ℕ → ℕ) (email : EMail) (text : List UInt8) : Prop where
  ends : EndsOnly text
  body : ∃ rest, received text = email.head rand ++ email.m_body ++ CRLF ++ rest

/-- No line of the body begins with a dot, and no line of an attachment is a dot. -/
def EMail.Plain (email : EMail) : Prop :=
  (∀ l ∈ lines email.m_body, ¬Dotted l) ∧ ∀ e ∈ email.m_entitys, dot ∉ lines e.toString

/-! ## The lines of a mail -/

/-- The lines of `s` and of what is put behind it do not begin with a dot if those of the latter do
    not. -/
def Undotted (s : List UInt8) : Prop :=
  ∀ t, (∀ l ∈ lines t, ¬Dotted l) → ∀ l ∈ lines (s ++ t), ¬Dotted l

theorem undotted_crlf : Undotted CRLF := by
  intro t ht l hl
  rcases List.mem_cons.1 hl with rfl | hl
  · exact nofun
  · exact ht l hl

theorem undotted_nil : Undotted [] := fun _ ht => ht

theorem Undotted.append {s s' : List UInt8} (h : Undotted s) (h' : Undotted s') :
    Undotted (s ++ s') := by
  intro t ht
  rw [List.append_assoc]
  exact h _ (h' t ht)

theorem Undotted.ite {p : Prop} [Decidable p] {s s' : List UInt8} (h : p → Undotted s)
    (h' : ¬p → Undotted s') : Undotted (if p then s else s') := by
  split_ifs with hp
  · exact h hp
  · exact h' hp

/-- The beginning of a line that does not begin with a dot. -/
def Opens (s : List UInt8) : Prop := 13 ∉ s ∧ s ≠ [] ∧ ¬Dotted s

instance (s : List UInt8) : Decidable (Opens s) := inferInstanceAs (Decidable (_ ∧ _ ∧ _))

theorem Opens.append {s s' : List UInt8} (h : Opens s) (h' : 13 ∉ s') : Opens (s ++ s') := by
  obtain ⟨hmem, hne, hdot⟩ := h
  refine ⟨fun hs => (List.mem_append.1 hs).elim hmem h', ?_, ?_⟩
  · exact List.append_ne_nil_of_left_ne_nil hne s'
  · rwa [Dotted, List.head?_append_of_ne_nil s hne]

theorem Opens.undotted {s : List UInt8} (h : Opens s) : Undotted s := by
  obtain ⟨hmem, hne, hdot⟩ := h
  intro t ht l hl
  rw [lines_append_of_not_mem hmem] at hl
  cases hlines : lines t with
  | nil => exact absurd hlines (lines_ne_nil t)
  | cons l' ls =>
    rw [hlines] at hl
    rcases List.mem_cons.1 hl with rfl | hl
    · rwa [Dotted, List.head?_append_of_ne_nil s hne]
    · exact ht l (hlines ▸ List.mem_cons_of_mem l' hl)

theorem chars_plain {c : UInt8} (h : c ∈ chars) : c ≠ 13 := by
  rintro rfl
  revert h
  decide

theorem boundary_plain (rand : ℕ → ℕ) (email : EMail) : 13 ∉ email.boundary rand := by
  unfold EMail.boundary random_string
  split_ifs
  · exact List.not_mem_nil
  · exact List.not_mem_nil
  · intro h
    obtain ⟨i, -, hi⟩ := List.mem_map.1 h
    have hlt : rand i % chars.length < chars.length := Nat.mod_lt _ (by decide)
    rw [List.getD_eq_getElem _ _ hlt] at hi
    exact chars_plain (hi ▸ List.getElem_mem hlt) rfl

theorem addresses_undotted {name : List UInt8} {v : List (List UInt8)} (hname : Opens name)
    (hv : ∀ a ∈ v, 13 ∉ a) : Undotted (name ++ EMail.addresses v) := by
  rw [EMail.addresses, ← List.append_assoc]
  refine (hname.append fun hmem => ?_).undotted.append
    (.ite (fun _ => undotted_nil) fun _ => undotted_crlf)
  obtain ⟨s, hs, h⟩ := List.mem_flatten.1 hmem
  obtain ⟨i, hi, rfl⟩ := List.mem_mapIdx.1 hs
  rw [List.mem_append, List.mem_append, List.mem_append] at h
  rcases h with ((h | h) | h) | h
  · split_ifs at h
    · cases h
    · revert h
      decide
  · revert h
    decide
  · exact hv _ (List.getElem_mem hi) h
  · revert h
    decide

theorem head_undotted (rand : ℕ → ℕ) {email : EMail} (h : email.Clean) :
    Undotted (email.head rand) := by
  have hboundary := boundary_plain rand email
  have hfrom : Opens (ascii "From: <" ++ email.m_fromEMailAddress) :=
    .append (by decide) (h _ (by simp)).1
  have hto : Undotted (ascii "To: " ++ EMail.addresses email.m_toEMailAddress) :=
    addresses_undotted (by decide) fun a ha => (h a (by simp [ha])).1
  have hcc : Undotted (if email.m_ccEMailAddress = [] then []
      else ascii "Cc: " ++ EMail.addresses email.m_ccEMailAddress) :=
    .ite (fun _ => undotted_nil) fun _ =>
      addresses_undotted (by decide) fun a ha => (h a (by simp [ha])).1
  have hsubject : Opens (ascii "Subject: " ++ email.m_title) :=
    .append (by decide) (h _ (by simp)).1
  have htype : Opens (ascii "Content-Type: multipart/mixed;boundary=" ++ email.boundary rand) :=
    .append (by decide) hboundary
  have hpart : Opens (ascii "--" ++ email.boundary rand) := .append (by decide) hboundary
  have hversion : Opens (ascii "MIME-Version: 1.0") := by decide
  have hhtml : Opens (ascii "Content-Type: text/html;charset=\"utf-8\"") := by decide
  have hclose : 13 ∉ ascii ">" := by decide
  have htype' : Undotted (if email.m_entitys = [] then []
      else (ascii "Content-Type: multipart/mixed;boundary=" ++ email.boundary rand) ++ CRLF) :=
    .ite (fun _ => undotted_nil) fun _ => htype.undotted.append undotted_crlf
  have hpart' : Undotted (if email.boundary rand = [] then []
      else CRLF ++ (ascii "--" ++ email.boundary rand) ++ CRLF) :=
    .ite (fun _ => undotted_nil) fun _ =>
      (undotted_crlf.append hpart.undotted).append undotted_crlf
  exact (hfrom.append hclose).undotted.append undotted_crlf |>.append hto |>.append hcc
    |>.append hsubject.undotted |>.append undotted_crlf |>.append htype'
    |>.append hversion.undotted |>.append undotted_crlf |>.append hpart'
    |>.append hhtml.undotted |>.append undotted_crlf |>.append undotted_crlf

/-- What is behind the last attachment. -/
def closing (boundary : List UInt8) : List UInt8 :=
  (if boundary = [] then [] else CRLF ++ (ascii "--" ++ boundary ++ ascii "--") ++ CRLF) ++
    CRLF ++ ascii "." ++ CRLF

theorem lines_closing {boundary : List UInt8} (h : 13 ∉ boundary) :
    ∃ ls, lines (closing boundary) = ls ++ [dot, []] ∧ dot ∉ ls := by
  have hdot : lines (ascii ".") = [dot] := rfl
  unfold closing
  split_ifs
  · exact ⟨[[]], rfl, by simp [dot]⟩
  · have hclose : Opens (ascii "--" ++ boundary ++ ascii "--") :=
      .append (.append (by decide) h) (by decide)
    refine ⟨[[], ascii "--" ++ boundary ++ ascii "--", []], ?_, ?_⟩
    · rw [lines_concat, lines_append, lines_concat, lines_crlf, lines_of_not_mem hclose.1, hdot]
      rfl
    · have hne : dot ≠ ascii "--" ++ boundary ++ ascii "--" := fun heq => hclose.2.2 (heq ▸ rfl)
      simp only [List.mem_cons, List.not_mem_nil, or_false, hne]
      simp [dot]

theorem lines_sections {boundary : List UInt8} (h : 13 ∉ boundary) (entitys : List EMailEntity) :
    ∃ ls, lines (entitys.flatMap (fun i => CRLF ++ (ascii "--" ++ boundary) ++ CRLF ++ i.toString) ++
        closing boundary) = ls ++ [dot, []] ∧
      (dot ∈ ls ↔ ∃ e ∈ entitys, dot ∈ lines e.toString) := by
  induction entitys with
  | nil =>
    obtain ⟨ls, hls, hdot⟩ := lines_closing h
    exact ⟨ls, hls, by simp [hdot]⟩
  | cons e entitys ih =>
    obtain ⟨ls, hls, hdot⟩ := ih
    obtain ⟨s, hs⟩ : ∃ s, e.toString = s ++ CRLF := ⟨_, rfl⟩
    have hpart : Opens (ascii "--" ++ boundary) := .append (by decide) h
    have hne : dot ≠ ascii "--" ++ boundary := fun heq => hpart.2.2 (heq ▸ rfl)
    refine ⟨[[], ascii "--" ++ boundary] ++ lines s ++ ls, ?_, ?_⟩
    · rw [List.flatMap_cons, hs, List.append_assoc, ← List.append_assoc (_ ++ CRLF), lines_append,
        hls, lines_append, lines_crlf, lines_of_not_mem hpart.1]
      simp only [List.cons_append, List.nil_append, List.append_assoc]
    · have hnil : dot ≠ [] := by simp [dot]
      have he : dot ∈ lines e.toString ↔ dot ∈ lines s := by
        rw [hs, lines_concat]
        simp [hnil]
      simp only [List.mem_append, List.mem_cons, List.not_mem_nil, or_false, hne, hnil, false_or,
        hdot, or_and_right, exists_or, exists_eq_left, he]

/-- The lines behind the body. -/
theorem lines_tail (rand : ℕ → ℕ) (email : EMail) : ∃ ls, lines (email.tail rand) = ls ++ [dot, []] ∧
    (dot ∈ ls ↔ ∃ e ∈ email.m_entitys, dot ∈ lines e.toString) := by
  have htail : email.tail rand = email.m_entitys.flatMap (fun i =>
      CRLF ++ (ascii "--" ++ email.boundary rand) ++ CRLF ++ i.toString) ++
        closing (email.boundary rand) := by
    simp only [EMail.tail, closing, List.append_assoc]
  rw [htail]
  exact lines_sections (boundary_plain rand email) email.m_entitys

theorem mailText_of_plain (rand : ℕ → ℕ) {email : EMail} (h : email.Clean) :
    MailText rand email (email.text rand) ↔ email.Plain := by
  obtain ⟨a, ha⟩ : ∃ a, email.head rand = a ++ CRLF := ⟨_, rfl⟩
  obtain ⟨ls, hls, hdots⟩ := lines_tail rand email
  have hhead : ∀ l ∈ lines a, ¬Dotted l := by
    have hnil := head_undotted rand h [] (by simp [lines, Dotted])
    rw [ha, List.append_nil, ← List.append_nil (a ++ CRLF), lines_append] at hnil
    exact fun l hl => hnil l (List.mem_append_left _ hl)
  have hnot {s : List (List UInt8)} (hs : ∀ l ∈ s, ¬Dotted l) : dot ∉ s := fun hmem => hs dot hmem rfl
  have hlines : lines (email.text rand) = lines a ++ lines email.m_body ++ ls ++ [dot, []] := by
    rw [EMail.text, ha, List.append_assoc (a ++ CRLF), List.append_assoc (a ++ CRLF), lines_append,
      lines_append, hls]
    simp only [List.append_assoc]
  have hends : EndsOnly (email.text rand) ↔ dot ∉ lines a ++ lines email.m_body ++ ls := by
    cases hla : lines a with
    | nil => exact absurd hla (lines_ne_nil a)
    | cons l la =>
      rw [hla] at hlines hhead
      have hfirst : l ≠ dot := fun heq => hhead l List.mem_cons_self (heq ▸ rfl)
      have hlines' : lines (email.text rand) = l :: (la ++ lines email.m_body ++ ls) ++ [dot, []] := hlines
      rw [endsOnly_iff hlines' hfirst]
      simp [hfirst.symm]
  have hbody (hdot : dot ∉ lines a ++ lines email.m_body ++ ls) :
      (∃ rest, received (email.text rand) = email.head rand ++ email.m_body ++ CRLF ++ rest) ↔
        ∀ l ∈ lines email.m_body, ¬Dotted l := by
    rw [← lines_received_iff hlines hdot hhead fun l hl => lines_line hl, joined_lines, joined_lines, ha]
    simp only [List.append_assoc]
  constructor
  · rintro ⟨hends', hbody'⟩
    have hdot := hends.1 hends'
    refine ⟨(hbody hdot).1 hbody', fun e he hmem => ?_⟩
    exact hdot (List.mem_append_right _ (hdots.2 ⟨e, he, hmem⟩))
  · rintro ⟨hplain, hentitys⟩
    have hdot : dot ∉ lines a ++ lines email.m_body ++ ls := by
      rw [List.mem_append, List.mem_append, hdots]
      rintro ((hmem | hmem) | ⟨e, he, hmem⟩)
      · exact hnot hhead hmem
      · exact hnot hplain hmem
      · exact hentitys e he hmem
    exact ⟨hends.2 hdot, (hbody hdot).2 hplain⟩

/-! ## The commands -/

/-- The server takes every command, and its next `n` answers are not errors. -/
structure Answers (st : Stream) (n : ℕ) : Prop where
  sent : st.Sent st.sent
  enough : n ≤ st.incoming.length
  accepted : ∀ buf ∈ st.incoming.take n, buf ≠ [] ∧ buf.length ≤ 4096 ∧ toInt32 (Atoi buf) < 400

/-- The commands can be written. -/
def Short (cs : List (List UInt8)) : Prop := ∀ cmd ∈ cs, cmd ≠ [] ∧ cmd.length < 2 ^ 31

section
variable {α β : Type} {s s' : SmtpClient}

/-- The call sends `cs`, or some of them in the beginning if it ends `send`. -/
structure Sends (x : Call SmtpResult SmtpClient α) (s : SmtpClient) (cs : List (List UInt8)) :
    Prop where
  returns : ∀ a s', x s = .ret a s' → s'.cmds = s.cmds ++ cs
  throws : ∀ e s', x s = .throw e s' → ∃ p, p <+: cs ∧ s'.cmds = s.cmds ++ p
  /-- it returns when the commands are answered -/
  answered : ∀ n, Short cs → Answers s.stream (cs.length + n) →
    ∃ a s', x s = .ret a s' ∧ Answers s'.stream n

theorem Sends.bind {x : Call SmtpResult SmtpClient α} {f : α → Call SmtpResult SmtpClient β}
    {cs cs' : List (List UInt8)} (h : Sends x s cs)
    (h' : ∀ a s', x s = .ret a s' → Sends (f a) s' cs') : Sends (x >>= f) s (cs ++ cs') where
  returns b s' hs' := by
    obtain ⟨a, t, hx, hf⟩ := Call.bind_eq_ret.1 hs'
    rw [(h' a t hx).returns b s' hf, h.returns a t hx, List.append_assoc]
  throws e s' hs' := by
    cases hx : x s with
    | ret a t =>
      rw [Call.bind_ret hx] at hs'
      obtain ⟨p, hp, heq⟩ := (h' a t hx).throws e s' hs'
      refine ⟨cs ++ p, (List.prefix_append_right_inj cs).2 hp, ?_⟩
      rw [heq, h.returns a t hx, List.append_assoc]
    | throw e t =>
      rw [Call.bind_throw hx] at hs'
      cases hs'
      obtain ⟨p, hp, heq⟩ := h.throws _ _ hx
      exact ⟨p, hp.trans (List.prefix_append cs cs'), heq⟩
    | undef =>
      rw [Call.bind_undef hx] at hs'
      cases hs'
  answered n hshort hanswers := by
    rw [List.length_append, Nat.add_assoc] at hanswers
    obtain ⟨a, t, ht, hanswers⟩ :=
      h.answered _ (fun c hc => hshort c (List.mem_append_left _ hc)) hanswers
    rw [Call.bind_ret ht]
    exact (h' a t ht).answered n (fun c hc => hshort c (List.mem_append_right _ hc)) hanswers

/-- A call that returns at once. -/
theorem sends_nothing {x : Call SmtpResult SmtpClient α} {a : α} (h : x s = .ret a s')
    (hcmds : s'.cmds = s.cmds) (hstream : s'.stream = s.stream) : Sends x s [] where
  returns _ _ hs' := by
    rw [h] at hs'
    cases hs'
    rw [hcmds, List.append_nil]
  throws _ _ hs' := by
    rw [h] at hs'
    cases hs'
  answered n _ hanswers := ⟨a, s', h, by rw [hstream]; simpa using hanswers⟩

theorem doCmd_ret {cmd : List UInt8} {debug : Bool} {r : Option SmtpResult}
    (h : SmtpClient.doCmd cmd debug s = .ret r s') :
    s'.cmds = s.cmds ++ [cmd] ∧ s'.m_host = s.m_host ∧ s'.m_authed = s.m_authed := by
  unfold SmtpClient.doCmd at h
  obtain ⟨_, t, hlog, h⟩ := Call.bind_eq_ret.1 h
  obtain ⟨_, _, hget, h⟩ := Call.bind_eq_ret.1 h
  obtain ⟨⟨written, stream⟩, _, hwrite, h⟩ := Call.bind_eq_ret.1 h
  obtain ⟨_, t', hset, h⟩ := Call.bind_eq_ret.1 h
  cases hlog
  cases hget
  cases Call.on_eq_ret hwrite
  cases hset
  split_ifs at h
  · cases h
    exact ⟨rfl, rfl, rfl⟩
  · obtain ⟨_, _, hget, h⟩ := Call.bind_eq_ret.1 h
    obtain ⟨⟨⟨len, buf⟩, stream⟩, _, hread, h⟩ := Call.bind_eq_ret.1 h
    obtain ⟨_, t', hset, h⟩ := Call.bind_eq_ret.1 h
    cases hget
    cases Call.on_eq_ret hread
    cases hset
    cases h
    exact ⟨rfl, rfl, rfl⟩

theorem doCmd_answered {cmd : List UInt8} (debug : Bool) {n : ℕ} (hne : cmd ≠ [])
    (hshort : cmd.length < 2 ^ 31) (h : Answers s.stream (n + 1)) :
    ∃ s', SmtpClient.doCmd cmd debug s = .ret none s' ∧ Answers s'.stream n := by
  obtain ⟨hsent, henough, haccepted⟩ := h
  obtain ⟨st, hwrite, hst⟩ := Stream.writeFixSize_ret (ε := Empty) hsent cmd
  obtain ⟨buf, rest, hin⟩ := List.exists_cons_of_length_pos (Nat.zero_lt_of_lt henough)
  rw [hin] at henough haccepted
  rw [List.take_succ_cons] at haccepted
  obtain ⟨hbuf, hlen, hcode⟩ := haccepted buf List.mem_cons_self
  have hpos : ¬toInt32 cmd.length ≤ 0 := by
    have hlt : 0 < cmd.length := List.length_pos_of_ne_nil hne
    rw [toInt32_of_lt (by omega) (by omega)]
    omega
  have hbufpos : 0 < (buf.length : ℤ) := by exact_mod_cast List.length_pos_of_ne_nil hbuf
  have hread : (Stream.read 4096 : Call Empty Stream _) st =
      .ret ((buf.length : ℤ), buf) { st with incoming := rest } := by
    have hst' : st.incoming = buf :: rest := (Stream.writeFixSize_incoming hwrite).trans hin
    simp [Stream.read, hst.is_open, hst', hlen, List.take_of_length_le hlen]
  have hst₂ : Answers { st with incoming := rest } n :=
    ⟨⟨hst.is_open, hst.accepts, rfl⟩, Nat.le_of_succ_le_succ henough, fun buf hmem =>
      haccepted buf (List.mem_cons_of_mem _ hmem)⟩
  unfold SmtpClient.doCmd
  rw [Call.bind_ret (Call.modify_apply _ _), Call.bind_ret (Call.gets_apply _ _),
    Call.bind_ret (Call.on_ret hwrite _)]
  dsimp only
  rw [Call.bind_ret (Call.modify_apply _ _), if_neg hpos, Call.bind_ret (Call.gets_apply _ _),
    Call.bind_ret (Call.on_ret hread _)]
  dsimp only
  rw [Call.bind_ret (Call.modify_apply _ _), Call.pure_apply, if_neg (not_le.2 hbufpos),
    if_neg (not_le.2 hcode)]
  exact ⟨_, rfl, hst₂⟩

theorem sends_cmd (cmd : List UInt8) (debug : Bool) : Sends (SmtpClient.DO_CMD cmd debug) s [cmd] where
  returns _ _ hs' := by
    unfold SmtpClient.DO_CMD at hs'
    cases h : SmtpClient.doCmd cmd debug s with
    | ret r t =>
      rw [h] at hs'
      cases r with
      | none =>
        cases hs'
        exact (doCmd_ret h).1
      | some result => cases hs'
    | throw e => exact e.elim
    | undef =>
      rw [h] at hs'
      cases hs'
  throws _ _ hs' := by
    unfold SmtpClient.DO_CMD at hs'
    cases h : SmtpClient.doCmd cmd debug s with
    | ret r t =>
      rw [h] at hs'
      cases r with
      | none => cases hs'
      | some result =>
        cases hs'
        exact ⟨[cmd], List.prefix_rfl, (doCmd_ret h).1⟩
    | throw e => exact e.elim
    | undef =>
      rw [h] at hs'
      cases hs'
  answered n hshort hanswers := by
    obtain ⟨hne, hlen⟩ := hshort cmd List.mem_cons_self
    rw [List.length_singleton, Nat.add_comm] at hanswers
    obtain ⟨s', hcmd, hanswers⟩ := doCmd_answered debug hne hlen hanswers
    exact ⟨(), s', by rw [SmtpClient.DO_CMD, hcmd], hanswers⟩

theorem cmd_keeps {cmd : List UInt8} {debug : Bool} {a : Unit}
    (h : SmtpClient.DO_CMD cmd debug s = .ret a s') :
    s'.m_host = s.m_host ∧ s'.m_authed = s.m_authed := by
  unfold SmtpClient.DO_CMD at h
  cases hcmd : SmtpClient.doCmd cmd debug s with
  | ret r t =>
    rw [hcmd] at h
    cases r with
    | none =>
      cases h
      exact (doCmd_ret hcmd).2
    | some result => cases h
  | throw e => exact e.elim
  | undef =>
    rw [hcmd] at h
    cases h

theorem sends_auth (email : EMail) (debug : Bool) :
    Sends (SmtpClient.auth email debug) s (SmtpClient.logins s.m_authed email) := by
  have hauthed : Sends (.gets (·.m_authed)) s [] := sends_nothing rfl rfl rfl
  rw [← List.nil_append (SmtpClient.logins s.m_authed email)]
  refine hauthed.bind fun authed s' h => ?_
  cases h
  unfold SmtpClient.logins
  split_ifs
  · exact (sends_cmd _ debug).bind fun _ _ _ => (sends_cmd _ debug).bind fun _ _ _ =>
      (sends_cmd _ debug).bind fun _ _ _ => sends_nothing rfl rfl rfl
  · exact sends_nothing rfl rfl rfl

theorem sends_forM {f : List UInt8 → List UInt8} (debug : Bool) (v : List (List UInt8)) :
    Sends (v.forM fun i => SmtpClient.DO_CMD (f i) debug) s (v.map f) := by
  induction v generalizing s with
  | nil => exact sends_nothing rfl rfl rfl
  | cons i v ih => exact (sends_cmd (f i) debug).bind fun _ _ _ => ih

theorem sends_dialogue (rand : ℕ → ℕ) (email : EMail) (debug : Bool) :
    Sends (SmtpClient.dialogue rand email debug) s
      (SmtpClient.envelope s.m_host s.m_authed email ++ [email.text rand]) := by
  have hhost : Sends (.gets (·.m_host)) s [] := sends_nothing rfl rfl rfl
  unfold SmtpClient.dialogue SmtpClient.envelope
  simp only [List.append_assoc]
  rw [← List.nil_append ([_] ++ _)]
  refine hhost.bind fun host s₁ h => ?_
  cases h
  refine (sends_cmd _ debug).bind fun _ s₂ h => ?_
  rw [← (cmd_keeps h).2]
  refine (sends_auth email debug).bind fun _ _ _ => (sends_cmd _ debug).bind fun _ _ _ =>
    (sends_forM debug (SmtpClient.targets email)).bind fun _ _ _ =>
      (sends_cmd _ debug).bind fun _ _ _ => ?_
  rw [← List.append_nil [email.text rand]]
  exact (sends_cmd _ debug).bind fun _ _ _ => sends_nothing rfl rfl rfl

/-- What is sent after `DATA` is the text of the mail. -/
theorem send_cmds {ε : Type} {rand : ℕ → ℕ} {email : EMail} {debug : Bool} {r : SmtpResult}
    {text : List UInt8} (h : (SmtpClient.send rand email debug : Call ε _ _) s = .ret r s')
    (hcmds : s'.cmds = s.cmds ++ SmtpClient.envelope s.m_host s.m_authed email ++ [text]) :
    text = email.text rand := by
  obtain ⟨hret, hthrow, -⟩ := sends_dialogue (s := s) rand email debug
  have hprefix : ∃ p, p <+: SmtpClient.envelope s.m_host s.m_authed email ++ [email.text rand] ∧
      s'.cmds = s.cmds ++ p := by
    unfold SmtpClient.send at h
    cases hd : SmtpClient.dialogue rand email debug s with
    | ret result t =>
      rw [hd] at h
      cases h
      exact ⟨_, List.prefix_rfl, hret _ _ hd⟩
    | throw result t =>
      rw [hd] at h
      cases h
      exact hthrow _ _ hd
    | undef =>
      rw [hd] at h
      cases h
  obtain ⟨p, hp, heq⟩ := hprefix
  rw [hcmds, List.append_assoc, List.append_cancel_left_eq] at heq
  rw [← heq] at hp
  have hsame := hp.eq_of_length (by simp)
  simpa using hsame

/-- With a server that accepts every command the mail is sent. -/
theorem send_answered {ε : Type} (rand : ℕ → ℕ) {email : EMail} (debug : Bool)
    (hshort : Short (SmtpClient.envelope s.m_host s.m_authed email ++ [email.text rand]))
    (hanswers : Answers s.stream
      (SmtpClient.envelope s.m_host s.m_authed email ++ [email.text rand]).length) :
    ∃ r s', (SmtpClient.send rand email debug : Call ε _ _) s = .ret r s' ∧
      s'.cmds = s.cmds ++ SmtpClient.envelope s.m_host s.m_authed email ++ [email.text rand] := by
  obtain ⟨hret, -, hgoes⟩ := sends_dialogue (s := s) rand email debug
  obtain ⟨r, s', hd, -⟩ := hgoes 0 hshort hanswers
  refine ⟨r, s', by rw [SmtpClient.send, hd], ?_⟩
  rw [hret r s' hd, List.append_assoc]

end

/-- **The receiver finds one mail text with the body of the mail** in what `send` sends after `DATA`
    iff no line of the body begins with a dot and no line of an attachment is a dot. -/
theorem mailText_iff {ε : Type} {rand : ℕ → ℕ} {email : EMail} {debug : Bool} {s s' : SmtpClient}
    {r : SmtpResult} {text : List UInt8} (hclean : email.Clean)
    (h : (SmtpClient.send rand email debug : Call ε _ _) s = .ret r s')
    (hcmds : s'.cmds = s.cmds ++ SmtpClient.envelope s.m_host s.m_authed email ++ [text]) :
    MailText rand email text ↔ email.Plain := by
  rw [send_cmds h hcmds]
  exact mailText_of_plain rand hclean

/-- A client that has logged in, to a server that answers four commands. -/
def client : SmtpClient where
  m_host := ascii "smtp.163.com"
  m_ss := []
  m_authed := true
  stream := ⟨List.replicate 4 (ascii "250 OK"), [], [], false⟩
  cmds := []

/-- A mail to nobody. -/
def mail (body : List UInt8) : EMail where
  m_fromEMailAddress := ascii "me@163.com"
  m_fromEMailPasswd := []
  m_title := ascii "hello world"
  m_body := body
  m_toEMailAddress := []

theorem clean_mail (body : List UInt8) : (mail body).Clean := by
  intro s hs
  rcases List.mem_cons.1 hs with rfl | hs
  · exact ⟨by simp [mail, ascii], by simp [mail, ascii]⟩
  · rw [List.mem_singleton.1 hs]
    exact ⟨by simp [mail, ascii], by simp [mail, ascii]⟩

theorem send_mail (body : List UInt8) (hbody : body.length < 1000) : ∃ r s',
    (SmtpClient.send id (mail body) false : Call Empty _ _) client = .ret r s' ∧
      s'.cmds = client.cmds ++ SmtpClient.envelope client.m_host client.m_authed (mail body) ++
        [(mail body).text id] := by
  have hcmds : SmtpClient.envelope client.m_host client.m_authed (mail body) =
      [ascii "HELO smtp.163.com\r\n", ascii "MAIL FROM: <me@163.com>\r\n", ascii "DATA\r\n"] := rfl
  have hhead : ((mail body).head id).length = 108 := by
    simp [EMail.head, EMail.boundary, EMail.addresses, mail, ascii, CRLF]
  have htail : ((mail body).tail id).length = 5 := rfl
  refine send_answered id false ?_ ?_
  · rw [hcmds]
    have htext : (mail body).text id ≠ [] ∧ ((mail body).text id).length < 2 ^ 31 := by
      refine ⟨by simp [EMail.text, CRLF], ?_⟩
      simp only [EMail.text, List.length_append, hhead, htail]
      simp only [mail, CRLF, List.length_cons, List.length_nil]
      omega
    have hcmd : ∀ cmd ∈ [ascii "HELO smtp.163.com\r\n", ascii "MAIL FROM: <me@163.com>\r\n",
        ascii "DATA\r\n"], cmd ≠ [] ∧ cmd.length < 2 ^ 31 := by simp [ascii]
    intro cmd h
    rcases List.mem_append.1 h with h | h
    · exact hcmd cmd h
    · rw [List.mem_singleton.1 h]
      exact htext
  · rw [hcmds]
    have hfour : ([ascii "HELO smtp.163.com\r\n", ascii "MAIL FROM: <me@163.com>\r\n",
        ascii "DATA\r\n"] ++ [(mail body).text id]).length = 4 := by simp
    rw [hfour]
    refine ⟨⟨rfl, List.forall_mem_nil _, rfl⟩, le_rfl, fun buf hbuf => ?_⟩
    rw [List.eq_of_mem_replicate (List.mem_of_mem_take hbuf)]
    decide

theorem mailText_hi : ∃ r s' text,
    (SmtpClient.send id (mail (ascii "hi\r\n a.b\r\n")) false : Call Empty _ _) client = .ret r s' ∧
      s'.cmds = client.cmds ++ SmtpClient.envelope client.m_host client.m_authed
        (mail (ascii "hi\r\n a.b\r\n")) ++ [text] ∧
      (MailText id (mail (ascii "hi\r\n a.b\r\n")) text ↔ (mail (ascii "hi\r\n a.b\r\n")).Plain) := by
  obtain ⟨r, s', h, hcmds⟩ := send_mail (ascii "hi\r\n a.b\r\n") (by decide)
  exact ⟨r, s', _, h, hcmds, mailText_iff (clean_mail _) h hcmds⟩

/-- The receiver ends the mail after `a`. -/
theorem not_mailText : ¬∀ (rand : ℕ → ℕ) (email : EMail) (debug : Bool) (s s' : SmtpClient)
    (r : SmtpResult) (text : List UInt8), email.Clean →
      (SmtpClient.send rand email debug : Call Empty _ _) s = .ret r s' →
      s'.cmds = s.cmds ++ SmtpClient.envelope s.m_host s.m_authed email ++ [text] →
      MailText rand email text := by
  intro h
  obtain ⟨r, s', hs, hcmds⟩ := send_mail (ascii "a\r\n.\r\nb") (by decide)
  have hplain := (mailText_of_plain id (clean_mail _)).1 (h id _ false _ _ _ _ (clean_mail _) hs hcmds)
  exact hplain.1 dot (by decide) rfl

end Ancfl.Email
