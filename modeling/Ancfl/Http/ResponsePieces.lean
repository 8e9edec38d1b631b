/-
  The response parser on a part of a head or of a size line.

  * `read`: the actions on the whole of it, for names and values that have been
    read when they are used;
  * `Agree`: the parser that runs over the whole and the one that runs over the
    part from `b` to `e` have read the same;
  * `act_agrees`, `follows`: so they do after each action, and the machine goes
    through the part as it goes through the whole;
  * `httpclient_parser_execute_part`: what a call for the part returns.
-/
import Ancfl.Http.Pieces
import Ancfl.Http.ResponseElements
import Ancfl.Http.ResponseParser

namespace Ancfl.Http

open Lib HttpRequestParser

namespace HttpResponseParser

open HttpclientParser (Action Marks marking machine numberState first_final)

/-- An action on the whole of a head or a size line.  A name that reaches beyond the byte that is
    read, as it does when a header without a value is followed by a line without a colon, is not
    accepted. -/
def read (w : List UInt8) (a : Action) (p : ℕ) (s : HttpResponseParser) :
    Except Fault HttpResponseParser :=
  if a = .write_value ∧ (p : ℤ) < s.parser.field_start + s.parser.field_len then .error .assertion
  else act w a p s

/-! ## Parsers that agree -/

/-- What both parsers have read. -/
structure Same (S s : HttpResponseParser) : Prop where
  data : s.data = S.data
  error : s.error = S.error
  chunked : s.parser.chunked = S.parser.chunked
  content_len : s.parser.content_len = S.parser.content_len
  chunks_done : s.parser.chunks_done = S.parser.chunks_done

/-- After the byte at `p`, the parser `S` of the whole and the parser `s` of the part from `b` to `e`. -/
structure Agree (b e p : ℕ) (γ : Marks) (S s : HttpResponseParser) : Prop extends Same S s where
  mark_le : γ.mark ≤ p
  field_start_le : γ.field_start ≤ p
  field_end_le : γ.field_end ≤ p
  whole_mark : S.parser.mark = γ.mark
  whole_field_start : S.parser.field_start = γ.field_start
  mark : s.parser.mark = γ.mark - b
  field_start : s.parser.field_start = γ.field_start - b
  field_len : b ≤ γ.field_end → S.parser.field_len = s.parser.field_len
  field_len_nonneg : 0 ≤ s.parser.field_len
  field_len_le : s.parser.field_len ≤ (e - b : ℕ)
  body_start_le : s.parser.body_start ≤ e - b
  nread : s.parser.nread = 0

section
variable {w data : List UInt8} {b e p : ℕ} {γ : Marks} {S S' s : HttpResponseParser}

/-- The data of both are changed to the same. -/
theorem Agree.set_data (h : Agree b e p γ S s) (d : HttpResponse) :
    Agree b e p γ { S with data := d } { s with data := d } :=
  { h with data := rfl }

theorem Agree.mono {p' : ℕ} (h : Agree b e p γ S s) (hp : p ≤ p') : Agree b e p' γ S s :=
  { h with
    mark_le := h.mark_le.trans hp
    field_start_le := h.field_start_le.trans hp
    field_end_le := h.field_end_le.trans hp }

/-- A string from a mark on, given to a setter. -/
theorem Agree.set_string (h : Agree b e p γ S s) {x x' : Except Fault (List UInt8)}
    {f : HttpResponse → List UInt8 → HttpResponse} (hx : x' = x)
    (hact : (do return { S with data := f S.data (← x) } : Except Fault HttpResponseParser) = .ok S') :
    ∃ s', (do return { s with data := f s.data (← x') } : Except Fault HttpResponseParser) = .ok s' ∧
      Agree b e p γ S' s' := by
  obtain ⟨v, rfl, hret⟩ := bind_ok hact
  cases hret
  refine ⟨{ s with data := f s.data v }, by rw [hx]; rfl, ?_⟩
  rw [h.data]
  exact h.set_data _

/-- The number from a mark on is the same in the part. -/
theorem strtol_part (hdata : Holds w data b e) (hb : b ≤ γ.mark) (hp : p < e) {n : ℕ}
    (hn : n = 10 ∨ n = 16) {c : UInt8} {rest : List UInt8} (hw : w.drop p = c :: rest)
    (hc : endsNumber c) (hmark : γ.mark < p)
    (hdigits : ∀ d ∈ slice w γ.mark (p - γ.mark), isDigit n d) :
    strtol n (data.drop (γ.mark - b)) = strtol n (w.drop γ.mark) := by
  have hlt : p < w.length := by
    by_contra hge
    rw [List.drop_of_length_le (by omega)] at hw
    cases hw
  have hlen : (slice w γ.mark (p - γ.mark)).length = p - γ.mark := length_slice (by omega)
  have hne : slice w γ.mark (p - γ.mark) ≠ [] := List.ne_nil_of_length_pos (by omega)
  have hwhole : w.drop γ.mark = slice w γ.mark (p - γ.mark) ++ c :: rest := by
    rw [← hw, slice, show w.drop p = (w.drop γ.mark).drop (p - γ.mark) by
      rw [List.drop_drop]; congr 1; omega, List.take_append_drop]
  have hpart : data.drop (γ.mark - b) =
      slice w γ.mark (p - γ.mark) ++ c :: data.drop (p + 1 - b) := by
    have hslice := hdata.slice_eq hb (show γ.mark + (p - γ.mark + 1) ≤ e by omega)
    have hone : slice w p 1 = [c] := by rw [slice, hw]; rfl
    have hlast : γ.mark + (p - γ.mark) = p := by omega
    rw [slice_add w, hlast, hone] at hslice
    have hnext : γ.mark - b + (p - γ.mark + 1) = p + 1 - b := by omega
    have hsplit := List.take_append_drop (p - γ.mark + 1) (data.drop (γ.mark - b))
    rw [← slice, hslice, List.drop_drop, List.append_assoc, hnext] at hsplit
    exact hsplit.symm
  rw [hwhole, hpart, strtol_digits hn hne hdigits hc, strtol_digits hn hne hdigits hc]

/-- **An action does the same in the part**, if the bytes that it uses begin there. -/
theorem act_agrees (hdata : Holds w data b e) (hb : b ≤ p) (he : p < e) {a : Action}
    (hnumber : ∀ n, a.base = some n → b ≤ γ.mark →
      strtol n (data.drop (γ.mark - b)) = strtol n (w.drop γ.mark))
    (huses : ∀ i ∈ γ.uses a, b ≤ i) (h : Agree b e p γ S s) (hread : read w a p S = .ok S') :
    ∃ s', act data a (p - b) s = .ok s' ∧ Agree b e p (γ.track a p) S' s' := by
  have hmark := h.whole_mark
  have hmark' := h.mark
  have hmark_le := h.mark_le
  have hlen (at_ : ℕ) (hat : b ≤ at_) : LEN (at_ - b) (p - b) = LEN at_ p := by
    rw [LEN, LEN]
    omega
  rw [read] at hread
  split_ifs at hread with hlast
  cases a with
  | mark | start_value =>
    cases hread
    exact ⟨_, rfl, { h with mark_le := le_rfl, whole_mark := rfl, mark := rfl }⟩
  | start_field =>
    cases hread
    exact ⟨_, rfl, { h with field_start_le := le_rfl, whole_field_start := rfl, field_start := rfl }⟩
  | write_field =>
    cases hread
    have hfield : b ≤ γ.field_start := huses _ rfl
    have hle := h.field_start_le
    have hstart := h.field_start
    have hwhole := h.whole_field_start
    refine ⟨_, rfl, { h with
      field_end_le := le_rfl
      field_len := fun _ => ?_
      field_len_nonneg := ?_
      field_len_le := ?_ }⟩
    · simp only
      rw [hwhole, hstart, hlen _ hfield]
    · simp only [LEN]
      omega
    · simp only [LEN]
      omega
  | write_connection_close => cases hread; exact ⟨_, rfl, { h with }⟩
  | trans_chunked => cases hread; exact ⟨_, rfl, { h with chunked := rfl }⟩
  | done =>
    cases hread
    refine ⟨_, rfl, { h with body_start_le := ?_ }⟩
    simp only
    omega
  | write_content_len =>
    cases hread
    have hval := hnumber 10 rfl (huses _ rfl)
    refine ⟨_, rfl, { h with content_len := ?_ }⟩
    simp only
    rw [hmark, hmark', hval]
  | status_code =>
    cases hread
    have hval := hnumber 10 rfl (huses _ rfl)
    refine ⟨_, rfl, { h with data := ?_ }⟩
    simp only [on_response_status]
    rw [hmark, hmark', hval, h.data]
  | chunk_size =>
    cases hread
    have hval := hnumber 16 rfl (huses _ rfl)
    refine ⟨_, rfl, { h with chunked := rfl, content_len := ?_, chunks_done := ?_ }⟩
    · simp only
      rw [hmark, hmark', hval]
    · simp only
      rw [hmark, hmark', hval]
  | reason_phrase =>
    have hb' : b ≤ γ.mark := huses _ rfl
    rw [act, hmark] at hread
    rw [act, hmark', hlen _ hb']
    refine h.set_string (f := fun d v => { d with reason := v }) ?_ hread
    exact hdata.stdString_eq hb' (by rw [LEN]; omega)
  | http_version =>
    have hb' : b ≤ γ.mark := huses _ rfl
    rw [act, hmark] at hread
    rw [act, hmark', hlen _ hb']
    have hversion := hdata.versionOf_eq hb' (show 0 ≤ LEN γ.mark p by rw [LEN]; omega)
      (by rw [LEN]; omega)
    cases hread
    refine ⟨_, rfl, ?_⟩
    rw [on_response_version, on_response_version, hversion]
    cases versionOf w γ.mark (LEN γ.mark p) with
    | none => exact { h with error := rfl }
    | some v => exact h.data ▸ h.set_data _
  | write_value =>
    have huses' := huses _ rfl
    simp only [le_min_iff] at huses'
    have hflen := h.field_len huses'.2.1
    have hnonneg := h.field_len_nonneg
    have hstart := h.whole_field_start
    simp only [true_and, not_lt] at hlast
    rw [act, hmark, hstart, hflen] at hread
    rw [act, hmark', h.field_start, hlen _ huses'.2.2]
    rw [on_response_http_field] at hread ⊢
    by_cases hzero : s.parser.field_len = 0
    · rw [if_pos hzero] at hread ⊢
      cases hread
      exact ⟨_, rfl, { h with error := rfl }⟩
    rw [if_neg hzero] at hread ⊢
    obtain ⟨field, hfield, hread⟩ := bind_ok hread
    rw [hdata.stdString_eq huses'.1 (by omega), hfield]
    refine h.set_string (f := fun d v => d.setHeader field v) ?_ hread
    exact hdata.stdString_eq huses'.2.2 (by rw [LEN]; omega)

/-- What an action leaves as it was. -/
theorem act_kept {memory : List UInt8} {a : Action} (h : act memory a p S = .ok S') :
    (a ≠ .done → S'.parser.body_start = S.parser.body_start) ∧ (S'.error = 0 → S.error = 0) := by
  cases a with
  | mark | start_field | write_field | start_value | write_content_len | write_connection_close
  | status_code | chunk_size | trans_chunked =>
    cases h
    exact ⟨fun _ => rfl, id⟩
  | done => cases h; exact ⟨fun hne => absurd rfl hne, id⟩
  | reason_phrase =>
    obtain ⟨v, -, hret⟩ := bind_ok h
    cases hret
    exact ⟨fun _ => rfl, id⟩
  | http_version =>
    rw [act] at h
    cases h
    rw [on_response_version]
    split
    · exact ⟨fun _ => rfl, id⟩
    · exact ⟨fun _ => rfl, fun herr => absurd herr (by simp)⟩
  | write_value =>
    rw [act, on_response_http_field] at h
    split_ifs at h
    · cases h
      exact ⟨fun _ => rfl, fun herr => absurd herr (by simp)⟩
    · obtain ⟨field, -, h⟩ := bind_ok h
      obtain ⟨value, -, h⟩ := bind_ok h
      cases h
      exact ⟨fun _ => rfl, id⟩

theorem act_of_read {a : Action} (h : read w a p S = .ok S') : act w a p S = .ok S' := by
  rw [read] at h
  split_ifs at h
  exact h

/-! ## The scan of a part -/

/-- The parsers in the state `cs`, when the bytes before `p` have been read and the scan goes on. -/
structure Related (w : List UInt8) (b e cs p : ℕ) (γ : Marks) (S s : HttpResponseParser) : Prop where
  agree : Agree b e (p - 1) γ S s
  going : cs < first_final
  body_start : s.parser.body_start = 0
  number : ∀ n, numberState cs = some n →
    γ.mark < p ∧ ∀ d ∈ slice w γ.mark (p - γ.mark), isDigit n d

/-- The parsers when the scan has ended. -/
def Ended (b e p : ℕ) (S s : HttpResponseParser) : Prop := ∃ γ, Agree b e (p - 1) γ S s

/-- The digits of a number, with the next one. -/
theorem number_next {lo hi cs target : ℕ} {c : UInt8} {rest : List UInt8} {acts : List Action}
    (hsound : HttpclientParser.Sound cs lo hi acts target) (hlo : lo ≤ c.toNat) (hhi : c.toNat ≤ hi)
    (hw : w.drop p = c :: rest) (h : Related w b e cs p γ S s) {n : ℕ} (hn : numberState target = some n) :
    (Scanner.trackAll marking p acts γ).mark < p + 1 ∧
      ∀ d ∈ slice w (Scanner.trackAll marking p acts γ).mark
        (p + 1 - (Scanner.trackAll marking p acts γ).mark), isDigit n d := by
  obtain ⟨hrange, hacts⟩ := hsound.to_number (by rw [hn]; exact Option.some_ne_none n)
  have hone : slice w p 1 = [c] := by rw [slice, hw]; rfl
  have hdigit : isDigit n c := by
    refine isDigit_of_range (HttpclientParser.base_of_numberState hn) ?_
    rw [hn, Option.some.injEq] at hrange
    omega
  rcases hacts with hmarks | ⟨hfrom, rfl⟩
  · have hmark : (Scanner.trackAll marking p acts γ).mark = p := by
      simp only [List.mem_cons, List.not_mem_nil, or_false] at hmarks
      rcases hmarks with rfl | rfl | rfl <;> rfl
    rw [hmark, Nat.add_sub_cancel_left, hone]
    exact ⟨Nat.lt_succ_self p, by simpa using hdigit⟩
  · obtain ⟨hlt, hdigits⟩ := h.number n (hfrom.trans hn)
    have hlen : p + 1 - γ.mark = p - γ.mark + 1 := by omega
    have hlast : γ.mark + (p - γ.mark) = p := by omega
    refine ⟨hlt.trans (Nat.lt_succ_self p), fun d hd => ?_⟩
    rw [Scanner.trackAll, hlen, slice_add, hlast, hone, List.mem_append, List.mem_singleton] at hd
    rcases hd with hd | rfl
    · exact hdigits d hd
    · exact hdigit

/-- **The machine goes through the part as it goes through the whole.** -/
theorem follows (hdata : Holds w data b e) :
    Scanner.Follows machine marking w b e (read w) (act data) (fun s => s.error = 0)
      (fun cs p γ S s => Related w b e cs p γ S s) (fun p S s => Ended b e p S s) where
  good_of _ _ _ _ hread := (act_kept (act_of_read hread)).2
  step cs c rest acts target p γ S S' s hnext hb he hw hspans h hperform hgood := by
    obtain ⟨lo, hi, hlo, hhi, hsound⟩ := HttpclientParser.next_sound hnext
    have hagree : Agree b e p γ S s := h.agree.mono (Nat.sub_le p 1)
    have hback : ∀ a p S S', read w a p S = .ok S' → S'.error = 0 → S.error = 0 :=
      fun _ _ _ _ hread => (act_kept (act_of_read hread)).2
    -- what the actions of the transition keep
    obtain ⟨s', hs', hagree', hbody', -⟩ : ∃ s', Scanner.perform (act data) (p - b) acts s = .ok s' ∧
        Agree b e p (Scanner.trackAll marking p acts γ) S' s' ∧
          (.done ∉ acts → s'.parser.body_start = 0) ∧
          ((∀ a ∈ acts, a.marks = false) → (Scanner.trackAll marking p acts γ).mark = γ.mark) := by
      refine Scanner.perform_follows (R := fun γ' S s => Agree b e p γ' S s ∧
        (.done ∉ acts → s.parser.body_start = 0) ∧
        ((∀ a ∈ acts, a.marks = false) → γ'.mark = γ.mark)) hback hb ?_ hspans
        ⟨hagree, fun _ => h.body_start, fun _ => rfl⟩ hperform hgood
      rintro a ha γ' S₁ S₂ s₁ huses ⟨hagree₁, hbody₁, hmark₁⟩ hread -
      obtain ⟨s₂, hs₂, hagree₂⟩ := act_agrees hdata hb he (fun n hn hle => by
        obtain ⟨hstate, hmarks, rfl, hend⟩ := hsound.number a ha (by rw [hn]; exact Option.some_ne_none n)
        rw [hmark₁ hmarks] at hle ⊢
        obtain ⟨hlt, hdigits⟩ := h.number n (hstate.symm.trans hn)
        have hc : c = UInt8.ofNat lo := by
          rw [← le_antisymm hhi hlo, UInt8.ofNat_toNat]
        refine strtol_part hdata hle he (HttpclientParser.base_of_numberState (hstate.symm.trans hn)) hw
          ?_ hlt hdigits
        rw [hc]
        simp only [List.mem_cons, List.not_mem_nil, or_false] at hend
        rcases hend with rfl | rfl | rfl | rfl <;> rfl) huses hagree₁ hread
      refine ⟨s₂, hs₂, hagree₂, fun hdone => ?_, fun hmarks => ?_⟩
      · rw [(act_kept hs₂).1 fun heq => hdone (heq ▸ ha)]
        exact hbody₁ hdone
      · rw [← hmark₁ hmarks]
        have hnot := hmarks a ha
        cases a <;> first | rfl | cases hnot
    refine ⟨s', hs', ?_⟩
    split_ifs with hstop
    · exact ⟨_, hagree'⟩
    have hdone : Action.done ∉ acts := fun hmem => hstop (List.any_eq_true.2 ⟨_, hmem, rfl⟩)
    exact ⟨hagree', HttpclientParser.lt_first_final hnext (by simpa using hstop), hbody' hdone,
      fun n hn => number_next hsound hlo hhi hw h hn⟩

/-! ## Calls for a part -/

/-- The assertions and checks at the end of a call hold. -/
theorem leave_ret (h : Agree b e p γ S s) (hp : p < e) (hbe : b < e) {len n : ℕ} (hlen : e - b ≤ len)
    (hn : n ≤ len) (cs : ℕ) : s.leave len cs n =
      .ok (n, { s with parser := { s.parser with cs := cs, nread := n } }) := by
  have hmark := h.mark
  have hmark_le := h.mark_le
  have hfield := h.field_start
  have hfield_le := h.field_start_le
  have hflen := h.field_len_le
  have hbody := h.body_start_le
  simp only [leave, h.nread, Nat.zero_add]
  rw [if_pos]
  exact ⟨hn, by omega, by omega, h.field_len_nonneg, by omega, by omega⟩

/-- The next call starts with all marks at the start of its buffer. -/
theorem Related.enter {cs : ℕ} (h : Related w b e cs e γ S s) (he : 0 < e) (cs' n e' : ℕ) :
    Related w e e' cs e γ S
      ({ s with parser := { s.parser with cs := cs', nread := n } } : HttpResponseParser).enter where
  agree := { h.agree with
    mark := by
      have := h.agree.mark_le
      show 0 = γ.mark - e
      omega
    field_start := by
      have := h.agree.field_start_le
      show 0 = γ.field_start - e
      omega
    field_len := by
      have := h.agree.field_end_le
      intro hle
      omega
    field_len_nonneg := le_rfl
    field_len_le := Int.natCast_nonneg _
    body_start_le := by
      show s.parser.body_start ≤ e' - e
      rw [h.body_start]
      exact Nat.zero_le _
    nread := rfl }
  going := h.going
  body_start := h.body_start
  number := h.number

/-- A parser that begins, for data that it adds to. -/
def fresh (status : ℤ) (r : HttpResponse) : HttpResponseParser := ⟨httpclient_parser_init status, r, 0⟩

theorem related_fresh (w : List UInt8) (e : ℕ) (status status' : ℤ) (r : HttpResponse) :
    Related w 0 e 1 0 {} (fresh status r).enter (fresh status' r).enter where
  agree := {
    data := rfl
    error := rfl
    chunked := rfl
    content_len := rfl
    chunks_done := rfl
    mark_le := le_rfl
    field_start_le := le_rfl
    field_end_le := le_rfl
    whole_mark := rfl
    whole_field_start := rfl
    mark := rfl
    field_start := rfl
    field_len := fun _ => rfl
    field_len_nonneg := le_rfl
    field_len_le := Int.natCast_nonneg _
    body_start_le := Nat.zero_le _
    nread := rfl }
  going := by decide
  body_start := rfl
  number _ h := by cases h

/-- **A call for a part** of `w`, from `b` to `e`, either ends with the end of the whole, or takes
    all bytes of the part; bytes after the part are bytes after `w`. -/
theorem httpclient_parser_execute_part {len : ℕ} (hdata : Holds w data b e)
    (hnul : data[len]? = some 0) (hbe : b < e) (he : e ≤ w.length) (hlen : e - b ≤ len)
    (hpart : e < w.length → len = e - b) (h : Related w b e s.parser.cs b γ S s.enter)
    (hel : ∀ x ∈ machine.elements marking (w.drop b) b s.parser.cs γ, ¬ x.SplitAt b)
    {cs' H : ℕ} (hscan : machine.scan (read w) (w.drop b) b s.parser.cs S = .ok (.stops cs' H S'))
    (hgood : S'.error = 0) :
    (∃ s', s.httpclient_parser_execute data len = .ok (H - b, s') ∧ b < H ∧ H ≤ e ∧
      s'.parser.cs = cs' ∧ Same S' s') ∨
    ∃ s' γ₁ S₁, s.httpclient_parser_execute data len = .ok (e - b, s') ∧ e < w.length ∧ s'.error = 0 ∧
      s'.parser.cs ≠ HttpclientParser.error ∧ s'.parser.cs < first_final ∧
      (∀ e', Related w e e' s'.parser.cs e γ₁ S₁ s'.enter) ∧
      machine.scan (read w) (w.drop e) e s'.parser.cs S₁ = .ok (.stops cs' H S') ∧
      ∀ x ∈ machine.elements marking (w.drop e) e s'.parser.cs γ₁,
        x ∈ machine.elements marking (w.drop b) b s.parser.cs γ := by
  have hsplit : w.drop b = data.take (e - b) ++ w.drop e := by
    rw [hdata, slice, show w.drop e = (w.drop b).drop (e - b) by
      rw [List.drop_drop, Nat.add_sub_cancel' hbe.le], List.take_append_drop]
  have hlength : (data.take (e - b)).length = e - b := by
    rw [hdata, length_slice (by omega)]
  have hend : b + (data.take (e - b)).length = e := by omega
  have htake : data.take len = data.take (e - b) ++ (data.take len).drop (e - b) := by
    have hsplit := List.take_append_drop (e - b) (data.take len)
    rw [List.take_take, min_eq_left hlen] at hsplit
    exact hsplit.symm
  rw [hsplit] at hscan hel ⊢
  have hfollows := Scanner.scan_follows (follows hdata) _ _ hsplit le_rfl hend.le h hel hscan hgood
  rw [hend, Nat.sub_self] at hfollows
  unfold httpclient_parser_execute
  rw [if_neg (by rw [hnul]; exact fun hne => hne rfl)]
  rcases hfollows with ⟨s', hlt, hle, hrun, γ', hended⟩ | ⟨cs₁, γ₁, S₁, s₁, hrun, hrel, hrest, hsub⟩
  · left
    refine ⟨{ s' with parser := { s'.parser with cs := cs', nread := H - b } }, ?_, hlt, hle, rfl,
      { hended.toSame with }⟩
    rw [htake, Scanner.scan_append _ hrun]
    dsimp only
    exact leave_ret hended (by omega) hbe hlen (by omega) cs'
  · right
    have hne := HttpclientParser.cs_of_stops hrest
    have herror : s₁.error = 0 := hrel.agree.error.trans
      (Scanner.good_of_scan (fun _ _ _ _ hread => (act_kept (act_of_read hread)).2) hrest hgood)
    have helt : e < w.length := by
      by_contra hge
      rw [List.drop_of_length_le (by omega)] at hrest
      cases hrest
    refine ⟨{ s₁ with parser := { s₁.parser with cs := cs₁, nread := e - b } }, γ₁, S₁, ?_, helt, herror,
      hne, hrel.going, fun e' => hrel.enter (by omega) _ _ e', hrest, hsub⟩
    rw [hpart helt, hrun]
    dsimp only
    exact leave_ret hrel.agree (by omega) hbe le_rfl le_rfl cs₁

end
end HttpResponseParser
end Ancfl.Http
