/-
  The request parser on a part of a request.

  * `Agree`: the parser that runs over the whole request and the one that runs
    over the part from `b` to `e` have read the same, and the marks that lie in
    the part are the same positions;
  * `act_agrees`: so they do after an action whose bytes begin in the part;
  * `follows`: the machine goes through the part as it goes through the whole;
  * `execute_part`: what a call of `execute` for the part returns.
-/
import Ancfl.Http.Elements
import Ancfl.Http.RequestParser
import Ancfl.Lib.Call

namespace Ancfl.Http

open Lib

namespace HttpRequestParser

open HttpParser (Action Marks marking machine inMethod inValue first_final)

/-! ## The bytes of a part -/

section
variable {w data : List UInt8} {b e : ℕ}

/-- The buffer begins with the part of `w` from `b` to `e`. -/
def Holds (w data : List UInt8) (b e : ℕ) : Prop := data.take (e - b) = slice w b (e - b)

theorem Holds.slice_eq (h : Holds w data b e) {i n : ℕ} (hi : b ≤ i) (hn : i + n ≤ e) :
    slice data (i - b) n = slice w i n := by
  have hle : i - b + n ≤ e - b := by omega
  calc slice data (i - b) n = slice (data.take (e - b)) (i - b) n := (slice_take data hle).symm
    _ = slice ((w.drop b).take (e - b)) (i - b) n := by rw [h]; rfl
    _ = slice (w.drop b) (i - b) n := slice_take _ hle
    _ = slice w i n := by rw [slice, slice, List.drop_drop, Nat.add_sub_cancel' hi]

theorem Holds.stdString_eq (h : Holds w data b e) {i : ℕ} {length : ℤ} (hi : b ≤ i)
    (hn : i + length ≤ e) : stdString data (i - b) length = stdString w i length := by
  rw [stdString, stdString]
  split_ifs with hneg
  · rfl
  · rw [h.slice_eq hi (by omega)]

theorem Holds.versionOf_eq (h : Holds w data b e) {i : ℕ} {length : ℤ} (hi : b ≤ i)
    (h0 : 0 ≤ length) (hn : i + length ≤ e) : versionOf data (i - b) length = versionOf w i length := by
  have hle : toUInt64 length ≤ length.toNat := by
    rw [toUInt64]
    omega
  have hcmp (name : List UInt8) : strncmpEq (toUInt64 length) (data.drop (i - b)) name =
      strncmpEq (toUInt64 length) (w.drop i) name := by
    rw [← strncmpEq_take, ← strncmpEq_take _ (w.drop i)]
    exact congrArg (strncmpEq _ · name) (h.slice_eq hi (by omega))
  rw [versionOf, versionOf, hcmp, hcmp]

end

/-! ## Parsers that agree -/

/-- After the byte at `p`, the parser `S` of the whole and the parser `s` of the part from `b` to `e`. -/
structure Agree (relaxed : Bool) (b e p : ℕ) (γ : Marks) (S s : HttpRequestParser) : Prop where
  data : s.data = S.data
  error : s.error = S.error
  mark_le : γ.mark ≤ p
  field_start_le : γ.field_start ≤ p
  field_end_le : γ.field_end ≤ p
  query_start_le : γ.query_start ≤ p
  whole_mark : S.parser.mark = γ.mark
  whole_field_start : S.parser.field_start = γ.field_start
  mark : s.parser.mark = γ.mark - b
  field_start : s.parser.field_start = γ.field_start - b
  query_start : b ≤ γ.query_start → S.parser.query_start = s.parser.query_start + b
  field_len : b ≤ γ.field_end → S.parser.field_len = s.parser.field_len
  field_len_nonneg : 0 ≤ s.parser.field_len
  field_len_le : s.parser.field_len ≤ (e - b : ℕ)
  body_start_le : s.parser.body_start ≤ e - b
  kept : s.parser.cs ≠ HttpParser.error ∧ s.parser.uri_relaxed = relaxed ∧ s.parser.nread = 0

section
variable {relaxed : Bool} {w data : List UInt8} {b e p : ℕ} {γ : Marks} {S S' s : HttpRequestParser}

/-- The data of both are changed to the same. -/
theorem Agree.set_data (h : Agree relaxed b e p γ S s) (d : HttpRequest) :
    Agree relaxed b e p γ { S with data := d } { s with data := d } :=
  { h with data := rfl }

theorem Agree.mono {p' : ℕ} (h : Agree relaxed b e p γ S s) (hp : p ≤ p') :
    Agree relaxed b e p' γ S s :=
  { h with
    mark_le := h.mark_le.trans hp
    field_start_le := h.field_start_le.trans hp
    field_end_le := h.field_end_le.trans hp
    query_start_le := h.query_start_le.trans hp }

/-- A string from a mark on, given to a setter. -/
theorem Agree.set_string (h : Agree relaxed b e p γ S s) {x x' : Except Fault (List UInt8)}
    {f : HttpRequest → List UInt8 → HttpRequest} (hx : x' = x)
    (hact : (do return { S with data := f S.data (← x) } : Except Fault HttpRequestParser) = .ok S') :
    ∃ s', (do return { s with data := f s.data (← x') } : Except Fault HttpRequestParser) = .ok s' ∧
      Agree relaxed b e p γ S' s' := by
  obtain ⟨v, rfl, hret⟩ := bind_ok hact
  cases hret
  refine ⟨{ s with data := f s.data v }, by rw [hx]; rfl, ?_⟩
  rw [h.data]
  exact h.set_data _

/-- **An action does the same in the part**, if the bytes that it uses begin there. -/
theorem act_agrees (hdata : Holds w data b e) (hb : b ≤ p) (he : p < e) {a : Action}
    (hmethod : a ≠ .request_method)
    (hvalue : a = .write_value → S.parser.field_start + S.parser.field_len ≤ p)
    (huses : ∀ i ∈ γ.uses a, b ≤ i) (h : Agree relaxed b e p γ S s) (hact : act w a p S = .ok S') :
    ∃ s', act data a (p - b) s = .ok s' ∧ Agree relaxed b e p (γ.track a p) S' s' := by
  have hmark := h.whole_mark
  have hmark' := h.mark
  have hmark_le := h.mark_le
  have hlen (at_ : ℕ) (hat : b ≤ at_) : LEN (at_ - b) (p - b) = LEN at_ p := by
    rw [LEN, LEN]
    omega
  cases a with
  | request_method => exact absurd rfl hmethod
  | mark | start_value =>
    cases hact
    exact ⟨_, rfl, { h with mark_le := le_rfl, whole_mark := rfl, mark := rfl }⟩
  | start_field =>
    cases hact
    exact ⟨_, rfl, { h with field_start_le := le_rfl, whole_field_start := rfl, field_start := rfl }⟩
  | write_field =>
    cases hact
    have hfield : b ≤ γ.field_start := huses _ rfl
    have hle := h.field_start_le
    have hstart := h.field_start
    have hwhole := h.whole_field_start
    refine ⟨_, rfl, { h with
      field_end_le := le_rfl
      field_len := fun _ => ?_
      field_len_nonneg := ?_
      field_len_le := ?_ }⟩
    · simp only
      rw [hwhole, hstart, hlen _ hfield]
    · simp only [LEN]
      omega
    · simp only [LEN]
      omega
  | start_query =>
    cases hact
    refine ⟨_, rfl, { h with query_start_le := le_rfl, query_start := fun _ => ?_ }⟩
    simp only
    omega
  | request_uri => cases hact; exact ⟨s, rfl, h⟩
  | xml => cases hact; exact ⟨_, rfl, { h with }⟩
  | json => cases hact; exact ⟨_, rfl, { h with }⟩
  | done =>
    simp only [act] at hact ⊢
    have hbody : ∀ n ≤ e - b, ∀ len, Agree relaxed b e p γ S' { s with parser :=
        { s.parser with body_start := n, content_len := len } } := by
      intro n hn len
      split_ifs at hact <;> cases hact
      · exact { h with body_start_le := hn }
      · exact { h with body_start_le := hn }
    split_ifs
    · exact ⟨_, rfl, hbody _ (by omega) _⟩
    · exact ⟨_, rfl, hbody _ (by omega) _⟩
  | fragment =>
    have hb' : b ≤ γ.mark := huses _ rfl
    rw [act, hmark] at hact
    rw [act, hmark', hlen _ hb']
    refine h.set_string (f := fun d v => { d with fragment := v }) ?_ hact
    exact hdata.stdString_eq hb' (by rw [LEN]; omega)
  | request_path =>
    have hb' : b ≤ γ.mark := huses _ rfl
    rw [act, hmark] at hact
    rw [act, hmark', hlen _ hb']
    refine h.set_string (f := fun d v => { d with path := v }) ?_ hact
    exact hdata.stdString_eq hb' (by rw [LEN]; omega)
  | query_string =>
    have hb' : b ≤ γ.query_start := huses _ rfl
    have hquery := h.query_start hb'
    rw [act, hquery] at hact
    have heq : LEN s.parser.query_start (p - b) = LEN (s.parser.query_start + b) p := by
      rw [LEN, LEN]
      omega
    rw [act, heq]
    refine h.set_string (f := fun d v => { d with query := v }) ?_ hact
    have hle : (s.parser.query_start + b : ℕ) + LEN (s.parser.query_start + b) p ≤ e := by
      rw [LEN]
      omega
    have hstring := hdata.stdString_eq (Nat.le_add_left b s.parser.query_start) hle
    rwa [Nat.add_sub_cancel] at hstring
  | http_version =>
    have hb' : b ≤ γ.mark := huses _ rfl
    rw [act, hmark] at hact
    rw [act, hmark', hlen _ hb']
    have hversion := hdata.versionOf_eq hb' (show 0 ≤ LEN γ.mark p by rw [LEN]; omega)
      (by rw [LEN]; omega)
    cases hact
    refine ⟨_, rfl, ?_⟩
    rw [on_request_version, on_request_version, hversion]
    cases versionOf w γ.mark (LEN γ.mark p) with
    | none => exact { h with error := rfl }
    | some v => exact h.data ▸ h.set_data _
  | write_value =>
    have huses' := huses _ rfl
    simp only [le_min_iff] at huses'
    have hflen := h.field_len huses'.2.1
    have hnonneg := h.field_len_nonneg
    have hstart := h.whole_field_start
    have hlast := hvalue rfl
    rw [act, hmark, hstart, hflen] at hact
    rw [act, hmark', h.field_start, hlen _ huses'.2.2]
    rw [on_request_http_field] at hact ⊢
    by_cases hzero : s.parser.field_len = 0
    · rw [if_pos hzero] at hact ⊢
      cases hact
      exact ⟨s, rfl, h⟩
    rw [if_neg hzero] at hact ⊢
    obtain ⟨field, hfield, hact⟩ := bind_ok hact
    rw [hdata.stdString_eq huses'.1 (by omega), hfield]
    refine h.set_string (f := fun d v => d.setHeader field v) ?_ hact
    exact hdata.stdString_eq huses'.2.2 (by rw [LEN]; omega)

/-- What an action leaves as it was. -/
theorem act_kept {memory : List UInt8} {a : Action} (h : act memory a p S = .ok S') :
    (a ≠ .start_field → a ≠ .write_field → S'.parser.field_start = S.parser.field_start ∧
      S'.parser.field_len = S.parser.field_len) ∧
    (a ≠ .done → S'.parser.body_start = S.parser.body_start) ∧ (S'.error = 0 → S.error = 0) := by
  cases a with
  | mark | start_value | start_query | request_uri | xml | json =>
    cases h
    exact ⟨fun _ _ => ⟨rfl, rfl⟩, fun _ => rfl, id⟩
  | start_field => cases h; exact ⟨fun hne => absurd rfl hne, fun _ => rfl, id⟩
  | write_field => cases h; exact ⟨fun _ hne => absurd rfl hne, fun _ => rfl, id⟩
  | done =>
    rw [act] at h
    split_ifs at h <;> cases h
    · exact ⟨fun _ _ => ⟨rfl, rfl⟩, fun hne => absurd rfl hne, id⟩
    · exact ⟨fun _ _ => ⟨rfl, rfl⟩, fun hne => absurd rfl hne, id⟩
  | fragment | request_path | query_string =>
    obtain ⟨v, -, hret⟩ := bind_ok h
    cases hret
    exact ⟨fun _ _ => ⟨rfl, rfl⟩, fun _ => rfl, id⟩
  | request_method =>
    cases h
    rw [on_request_method]
    split_ifs
    · exact ⟨fun _ _ => ⟨rfl, rfl⟩, fun _ => rfl, fun herr => absurd herr (by simp)⟩
    · exact ⟨fun _ _ => ⟨rfl, rfl⟩, fun _ => rfl, id⟩
  | http_version =>
    rw [act] at h
    cases h
    rw [on_request_version]
    split
    · exact ⟨fun _ _ => ⟨rfl, rfl⟩, fun _ => rfl, id⟩
    · exact ⟨fun _ _ => ⟨rfl, rfl⟩, fun _ => rfl, fun herr => absurd herr (by simp)⟩
  | write_value =>
    rw [act, on_request_http_field] at h
    split_ifs at h
    · cases h
      exact ⟨fun _ _ => ⟨rfl, rfl⟩, fun _ => rfl, id⟩
    · obtain ⟨field, -, h⟩ := bind_ok h
      obtain ⟨value, -, h⟩ := bind_ok h
      cases h
      exact ⟨fun _ _ => ⟨rfl, rfl⟩, fun _ => rfl, id⟩

/-! ## The scan of a part -/

/-- The parsers in the state `cs`, when the bytes before `p` have been read and the scan goes on. -/
structure Related (relaxed : Bool) (b e cs p : ℕ) (γ : Marks) (S s : HttpRequestParser) : Prop where
  agree : Agree relaxed b e (p - 1) γ S s
  going : cs < first_final
  body_start : s.parser.body_start = 0
  first : cs = 1 → p = 0
  method : inMethod cs → γ.mark = 0
  value : inValue cs → S.parser.field_start + S.parser.field_len ≤ p

/-- The parsers when the scan has ended. -/
def Ended (relaxed : Bool) (b e p : ℕ) (S s : HttpRequestParser) : Prop :=
  ∃ γ, Agree relaxed b e (p - 1) γ S s

theorem parser_on_request_method (memory : List UInt8) (at_ : ℕ) :
    (s.on_request_method memory at_).parser = s.parser := by
  rw [on_request_method]
  split_ifs <;> rfl

/-- The action for the method. -/
theorem method_agrees (hdata : Holds w data b e) (hsearch : ∀ rest, w ≠ 77 :: 32 :: 45 :: 32 :: 83 :: rest)
    (hb : b = 0) (he : p < e) {rest : List UInt8} (hw : w.drop p = 32 :: rest)
    (h : Agree relaxed b e p γ S s) (hgood : (S.on_request_method w 0).error = 0) :
    Agree relaxed b e p γ (S.on_request_method w 0) (s.on_request_method data 0) := by
  subst hb
  have hwhole : w = w.take p ++ 32 :: rest := by rw [← hw, List.take_append_drop]
  have hpart : data = w.take p ++ 32 :: (rest.take (e - p - 1) ++ data.drop e) := by
    have htake : data.take e = w.take e := by simpa [Holds, slice] using hdata
    calc data = w.take e ++ data.drop e := by rw [← htake, List.take_append_drop]
      _ = w.take p ++ ((w.drop p).take (e - p) ++ data.drop e) := by
        rw [← List.append_assoc, ← List.take_add, Nat.add_sub_cancel' he.le]
      _ = _ := by
        obtain ⟨k, hk⟩ : ∃ k, e - p = k + 1 := ⟨e - p - 1, by omega⟩
        rw [hw, hk, List.take_succ_cons]
        rfl
  have hvalid : CharsToHttpMethod (w.drop 0) ≠ .INVALID_METHOD := by
    intro hinvalid
    simp only [on_request_method, if_pos hinvalid] at hgood
    exact absurd hgood (by decide)
  have hsame : CharsToHttpMethod (data.drop 0) = CharsToHttpMethod (w.drop 0) := by
    rw [List.drop_zero] at hvalid
    rw [List.drop_zero, List.drop_zero, hpart]
    have hcongr := CharsToHttpMethod_congr (u := w.take p) (t := rest)
      (rest.take (e - p - 1) ++ data.drop e) (by rwa [← hwhole])
      (by rw [← hwhole]; exact hsearch)
    rwa [← hwhole] at hcongr
  simp only [on_request_method, hsame, if_neg hvalid, h.data]
  exact h.set_data _

/-- **The machine goes through the part as it goes through the whole.** -/
theorem follows (hdata : Holds w data b e)
    (hsearch : ∀ rest, w ≠ 77 :: 32 :: 45 :: 32 :: 83 :: rest) :
    Scanner.Follows (machine relaxed) marking w b e (act w) (act data) (fun s => s.error = 0)
      (fun cs p γ S s => Related relaxed b e cs p γ S s) (fun p S s => Ended relaxed b e p S s) where
  good_of _ _ _ _ hact := (act_kept hact).2.2
  step cs c rest acts target p γ S S' s hnext hb he hw hspans h hperform hgood := by
    obtain ⟨lo, hi, hlo, hhi, hsound⟩ := HttpParser.next_sound hnext
    have hagree : Agree relaxed b e p γ S s := h.agree.mono (Nat.sub_le p 1)
    have hback : ∀ a p S S', act w a p S = .ok S' → S'.error = 0 → S.error = 0 :=
      fun _ _ _ _ hact => (act_kept hact).2.2
    -- what the actions of the transition keep
    have hrun : ∃ s', Scanner.perform (act data) (p - b) acts s = .ok s' ∧
        (Agree relaxed b e p (Scanner.trackAll marking p acts γ) S' s' ∧
          (inValue cs → S'.parser.field_start + S'.parser.field_len ≤ p) ∧
          (.done ∉ acts → s'.parser.body_start = 0)) := by
      by_cases hmethod : Action.request_method ∈ acts
      · obtain ⟨rfl, hin, rfl, rfl⟩ := hsound.method hmethod
        have hmark := h.method hin
        obtain rfl : c = 32 := UInt8.toNat_inj.1 (le_antisymm hhi hlo)
        obtain rfl : b = 0 := by
          have hspan := hspans ⟨0, p⟩ (by simp [Scanner.spans, marking, Marks.uses, hmark])
          exact Nat.eq_zero_of_not_pos fun hpos => hspan ⟨hpos, hb⟩
        have hmarks := h.agree.whole_mark
        have hmarks' := h.agree.mark
        rw [hmark] at hmarks hmarks'
        simp only [Scanner.perform, act, Except.ok.injEq] at hperform
        rw [hmarks] at hperform
        subst hperform
        refine ⟨_, rfl, ?_, fun hvalue => ?_, fun _ => ?_⟩
        · rw [hmarks']
          exact method_agrees hdata hsearch rfl he hw hagree hgood
        · rw [parser_on_request_method]
          exact h.value hvalue
        · rw [parser_on_request_method]
          exact h.body_start
      · refine Scanner.perform_follows (R := fun γ S s => Agree relaxed b e p γ S s ∧
          (inValue cs → S.parser.field_start + S.parser.field_len ≤ p) ∧
          (.done ∉ acts → s.parser.body_start = 0)) hback hb ?_ hspans
          ⟨hagree, h.value, fun _ => h.body_start⟩ hperform hgood
        rintro a ha γ' S₁ S₂ s₁ huses ⟨hagree₁, hvalue₁, hbody₁⟩ hact -
        have hne : a ≠ .request_method := fun heq => hmethod (heq ▸ ha)
        obtain ⟨s₂, hs₂, hagree₂⟩ := act_agrees hdata hb he hne
          (fun heq => hvalue₁ (hsound.value (heq ▸ ha))) huses hagree₁ hact
        refine ⟨s₂, hs₂, hagree₂, fun hin => ?_, fun hdone => ?_⟩
        · obtain ⟨hstart, hwrite⟩ := hsound.named hin
          obtain ⟨hstart', hlen'⟩ := (act_kept hact).1 (fun heq => hstart (heq ▸ ha))
            fun heq => hwrite (heq ▸ ha)
          rw [hstart', hlen']
          exact hvalue₁ hin
        · rw [(act_kept hs₂).2.1 fun heq => hdone (heq ▸ ha)]
          exact hbody₁ hdone
    obtain ⟨s', hs', hagree', hvalue', hbody'⟩ := hrun
    refine ⟨s', hs', ?_⟩
    split_ifs with hstop
    · exact ⟨_, hagree'⟩
    have hdone : Action.done ∉ acts := fun hmem => hstop (List.any_eq_true.2 ⟨_, hmem, rfl⟩)
    refine ⟨hagree', HttpParser.lt_first_final hnext (by simpa using hstop), hbody' hdone,
      fun hone => absurd hone hsound.target_ne.2, fun hin => ?_, fun hin => ?_⟩
    · rcases hsound.to_method hin with ⟨hone, rfl⟩ | ⟨hfrom, rfl⟩
      · exact h.first hone
      · exact h.method hfrom
    · rcases hsound.to_value hin with rfl | hfrom
      · cases hperform
        simp only [LEN]
        omega
      · have := hvalue' hfrom
        omega

/-! ## Calls for a part -/

/-- The assertions at the end of a call hold. -/
theorem leave_ret (h : Agree relaxed b e p γ S s) (hp : p < e) (hbe : b < e) {n : ℕ} (hn : n ≤ e - b)
    (cs : ℕ) : s.leave (e - b) cs n =
      .ok (n, { s with parser := { s.parser with cs := cs, nread := n } }) := by
  obtain ⟨hcs, -, hnread⟩ := h.kept
  have hmark := h.mark
  have hmark_le := h.mark_le
  have hfield := h.field_start
  have hfield_le := h.field_start_le
  have hlen := h.field_len_le
  have hnonneg := h.field_len_nonneg
  have hbody := h.body_start_le
  simp only [leave, if_neg hcs, hnread, Nat.zero_add]
  rw [if_pos]
  refine ⟨hn, hbody, ?_, hnonneg, hlen, ?_⟩
  · omega
  · omega

/-- The next call starts with all marks at the start of its buffer. -/
theorem Related.enter {cs : ℕ} (h : Related relaxed b e cs e γ S s) (he : 0 < e)
    (hcs : cs ≠ HttpParser.error) (n e' : ℕ) : Related relaxed e e' cs e γ S
      ({ s with parser := { s.parser with cs := cs, nread := n } } : HttpRequestParser).enter where
  agree := { h.agree with
    mark := by
      have := h.agree.mark_le
      show 0 = γ.mark - e
      omega
    field_start := by
      have := h.agree.field_start_le
      show 0 = γ.field_start - e
      omega
    query_start := by
      have := h.agree.query_start_le
      intro hle
      omega
    field_len := by
      have := h.agree.field_end_le
      intro hle
      omega
    field_len_nonneg := le_rfl
    field_len_le := Int.natCast_nonneg _
    body_start_le := by
      show s.parser.body_start ≤ e' - e
      rw [h.body_start]
      exact Nat.zero_le _
    kept := ⟨hcs, h.agree.kept.2.1, rfl⟩ }
  going := h.going
  body_start := h.body_start
  first := h.first
  method := h.method
  value := h.value

/-- **A call for a part** either ends the request with the data of the whole, or takes all bytes of
    the part. -/
theorem execute_part (hdata : Holds w data b e)
    (hsearch : ∀ rest, w ≠ 77 :: 32 :: 45 :: 32 :: 83 :: rest) (hbe : b < e) (he : e ≤ w.length)
    (h : Related relaxed b e s.parser.cs b γ S s.enter)
    (hel : ∀ x ∈ (machine relaxed).elements marking (w.drop b) b s.parser.cs γ, ¬ x.SplitAt b)
    {cs' H : ℕ} (hscan : (machine relaxed).scan (act w) (w.drop b) b s.parser.cs S = .ok (.stops cs' H S'))
    (hgood : S'.error = 0) :
    (∃ s', s.execute data (e - b) =
        .ok (H - b, s', overwrite data 0 (slice data (H - b) (e - b - (H - b)))) ∧
      b < H ∧ H ≤ e ∧ s'.data = S'.data ∧ s'.hasError = false ∧ s'.isFinished = 1) ∨
    ∃ s' γ₁ S₁, s.execute data (e - b) = .ok (e - b, s', data) ∧ s'.hasError = false ∧
      s'.isFinished = 0 ∧ (∀ e', Related relaxed e e' s'.parser.cs e γ₁ S₁ s'.enter) ∧
      (machine relaxed).scan (act w) (w.drop e) e s'.parser.cs S₁ = .ok (.stops cs' H S') ∧
      ∀ x ∈ (machine relaxed).elements marking (w.drop e) e s'.parser.cs γ₁,
        x ∈ (machine relaxed).elements marking (w.drop b) b s.parser.cs γ := by
  have hsplit : w.drop b = data.take (e - b) ++ w.drop e := by
    rw [hdata, slice, show w.drop e = (w.drop b).drop (e - b) by
      rw [List.drop_drop, Nat.add_sub_cancel' hbe.le], List.take_append_drop]
  have hlen : (data.take (e - b)).length = e - b := by
    rw [hdata, length_slice (by omega)]
  have hend : b + (data.take (e - b)).length = e := by omega
  have hrelaxed : s.parser.uri_relaxed = relaxed := h.agree.kept.2.1
  rw [hsplit] at hscan hel ⊢
  have hfollows := Scanner.scan_follows (follows hdata hsearch) _ _ hsplit le_rfl hend.le h hel hscan hgood
  rw [hend, Nat.sub_self] at hfollows
  unfold execute http_parser_execute
  rw [if_neg (by omega), hrelaxed]
  rcases hfollows with ⟨s', hlt, hle, hpart, γ', hended⟩ | ⟨cs₁, γ₁, S₁, s₁, hpart, hrel, hrest, hsub⟩
  · left
    have hfinal := (HttpParser.cs_of_stops hpart).2
    have hne : cs' ≠ HttpParser.error := fun heq => absurd (heq ▸ hfinal) (by decide)
    refine ⟨{ s' with parser := { s'.parser with cs := cs', nread := H - b } }, ?_, hlt, hle,
      hended.data, ?_, ?_⟩
    · rw [hpart]
      dsimp only
      rw [leave_ret hended (by omega) hbe (by omega)]
      rfl
    · simp [hasError, hended.error, hgood, hne]
    · simp only [isFinished, if_neg hne, if_pos hfinal]
  · right
    have hne := (HttpParser.cs_of_stops hrest).1
    have herror : s₁.error = 0 := hrel.agree.error.trans
      (Scanner.good_of_scan (fun _ _ _ _ hact => (act_kept hact).2.2) hrest hgood)
    refine ⟨{ s₁ with parser := { s₁.parser with cs := cs₁, nread := e - b } }, γ₁, S₁, ?_, ?_, ?_,
      fun e' => hrel.enter (by omega) hne _ e', hrest, hsub⟩
    · rw [hpart]
      dsimp only
      rw [leave_ret hrel.agree (by omega) hbe le_rfl]
      show Except.ok _ = _
      rw [Nat.sub_self, slice_zero, overwrite_nil]
    · simp [hasError, herror, hne]
    · have hgoing := hrel.going
      simp only [isFinished, if_neg hne]
      rw [if_neg (by omega)]

end
end HttpRequestParser
end Ancfl.Http
