/-
  Requests that come in several reads.

  * `recvHead_ret`: the header of a request that comes in reads none of which
    ends inside of an element, is parsed as the whole request is;
  * `recvBody_ret`, `recvRequest_ret`: the body, and the request.
-/
import Ancfl.Http.Pieces
import Ancfl.Http.Session
import Ancfl.Stream.Reads

namespace Ancfl.Http

open Lib HttpRequestParser
open HttpParser (Marks marking machine)

namespace HttpSession

/-- A turn of the loop, when a read brings `m` bytes of which the parser takes `n`. -/
theorem recvHead_turn {turns size m n : ℕ} {s s' : HttpRequestParser} {data data' bytes : List UInt8}
    {st st₁ : Stream} (hlen : data.length = size) (hsize : size < 2 ^ 31) (hm0 : 0 < m) (hm : m ≤ size)
    (hread : (Stream.read size : Call Fault Stream _) st = .ret (m, bytes) st₁)
    (hexec : s.execute (overwrite data 0 bytes) m = .ok (n, s', data')) (hn0 : 0 < n) (hn : n ≤ m)
    (herror : s'.hasError = false) : recvHead (turns + 1) s data 0 st =
      (if s'.isFinished ≠ 0 then return some (s', data', ((m - n : ℕ) : ℤ))
        else recvHead turns s' data' (m - n : ℕ)) st₁ := by
  have hsize64 : toUInt64 ((data.length : ℤ) - 0) = size := by
    rw [hlen, Int.sub_zero, toUInt64_natCast (by omega)]
  have hm32 : toInt32 ((m : ℤ) + 0) = m := by
    rw [Int.add_zero, toInt32_natCast (by omega)]
  have hoffset : toInt32 ((m : ℤ) - n) = (m - n : ℕ) := by
    rw [← Int.natCast_sub hn, toInt32_natCast (by omega)]
  have hfull : ((m - n : ℕ) : ℤ) ≠ toInt32 (data.length : ℤ) := by
    rw [hlen, toInt32_natCast hsize]
    omega
  rw [recvHead, hsize64, Call.bind_ret hread]
  simp only [Int.toNat_zero]
  rw [if_neg (by omega), hm32, Int.toNat_natCast, hexec, Call.bind_ret (runParser_ok _ _)]
  dsimp only
  rw [herror, if_neg Bool.false_ne_true, hoffset, if_neg hfull]

section
variable {relaxed : Bool} {w rest data : List UInt8} {st : Stream}

/-- **The header** of a request, when no read ends inside of an element, and the one that brings its
    end does not bring bytes after the request. -/
theorem recvHead_ret {cs' H size : ℕ} {S' : HttpRequestParser}
    (hsearch : ∀ rest, w ≠ 77 :: 32 :: 45 :: 32 :: 83 :: rest) (hgood : S'.error = 0)
    (hpos : 0 < size) (hsize : size < 2 ^ 31) : ∀ (turns : ℕ) {b : ℕ} {γ : Marks} {S s : HttpRequestParser}
    {data : List UInt8} {st : Stream}, data.length = size → Stream.Delivers st (w.drop b ++ rest) →
    (w.drop b ++ rest).length < turns → (∀ e, Related relaxed b e s.parser.cs b γ S s.enter) →
    (machine relaxed).scan (act w) (w.drop b) b s.parser.cs S = .ok (.stops cs' H S') →
    (∀ x ∈ (machine relaxed).elements marking (w.drop b) b s.parser.cs γ, ¬ x.SplitAt b ∧
      ∀ c, Stream.ReadEnd size st.incoming c → ¬ x.SplitAt (b + c)) →
    (∃ c, Stream.ReadEnd size st.incoming c ∧ H ≤ b + c ∧ b + c ≤ w.length) →
    ∃ s' data' st' e, recvHead turns s data 0 st = .ret (some (s', data', (e - H : ℕ))) st' ∧
      s'.data = S'.data ∧ H ≤ e ∧ e ≤ w.length ∧ b ≤ e ∧ data'.take (e - H) = slice w H (e - H) ∧
      Stream.Delivers st' (w.drop e ++ rest) ∧ st'.incoming = Stream.dropPieces (e - b) st.incoming
  | 0, _, _, _, _, _, _, _, _, hturns, _, _, _, _ => by omega
  | turns + 1, b, γ, S, s, data, st, hlen, hst, hturns, hrel, hscan, hel, ⟨c, hc, hHc, hcw⟩ => by
    have hdrop : w.drop b ≠ [] := by
      intro hnil
      rw [hnil] at hscan
      cases hscan
    have hne : w.drop b ++ rest ≠ [] := fun hnil => hdrop (List.append_eq_nil_iff.1 hnil).1
    obtain ⟨m, st₁, hm0, hm, -, hread, hst₁, hin₁, hhere, hends⟩ :=
      Stream.read_piece (ε := Fault) hst hne hpos
    have hmc : m ≤ c := by
      rcases (hends c).1 hc with rfl | ⟨c', rfl, -⟩
      · exact le_rfl
      · exact Nat.le_add_right _ _
    have hmw : m ≤ (w.drop b).length := by
      rw [List.length_drop]
      omega
    rw [List.take_append_of_le_length hmw] at hread
    rw [List.drop_append_of_le_length hmw, List.drop_drop] at hst₁
    -- the buffer after the read
    have hover : overwrite data 0 ((w.drop b).take m) = slice w b m ++ data.drop m := by
      rw [overwrite_zero, List.length_take, min_eq_left hmw]
      rfl
    have hslice : (slice w b m).length = m := length_slice (by rw [List.length_drop] at hmw; omega)
    have hdata : Holds w (slice w b m ++ data.drop m) b (b + m) := by
      rw [Holds, Nat.add_sub_cancel_left, List.take_append_of_le_length hslice.ge,
        List.take_of_length_le hslice.le]
    have hlen₁ : (slice w b m ++ data.drop m).length = size := by
      rw [List.length_append, hslice, List.length_drop]
      omega
    have hstep := execute_part hdata hsearch (by omega) (by omega) (hrel (b + m))
      (fun x hx => (hel x hx).1) hscan hgood
    rw [Nat.add_sub_cancel_left] at hstep
    have hturn : ∀ {n s' data'}, s.execute (slice w b m ++ data.drop m) m = .ok (n, s', data') → 0 < n →
        n ≤ m → s'.hasError = false → recvHead (turns + 1) s data 0 st =
          (if s'.isFinished ≠ 0 then return some (s', data', ((m - n : ℕ) : ℤ))
            else recvHead turns s' data' (m - n : ℕ)) st₁ := fun hexec =>
      recvHead_turn hlen hsize hm0 hm hread (hover ▸ hexec)
    rcases hstep with ⟨s', hexec, hbH, hHe, hsame, herror, hfinished⟩ |
      ⟨s', γ₁, S₁, hexec, herror, hfinished, hrel₁, hscan₁, hsub⟩
    · have htaken : m - (H - b) = b + m - H ∧ 0 < H - b ∧ H - b ≤ m := by
        clear hfinished
        omega
      rw [hturn hexec htaken.2.1 htaken.2.2 herror, hfinished, if_pos one_ne_zero, htaken.1]
      clear hfinished
      refine ⟨s', _, st₁, b + m, rfl, hsame, hHe, by omega, by omega, ?_, hst₁, ?_⟩
      · rw [hdata.slice_eq (by omega) (by omega), overwrite_zero]
        have hlen' : (slice w H (b + m - H)).length = b + m - H := length_slice (by omega)
        rw [List.take_append_of_le_length hlen'.ge, List.take_of_length_le hlen'.le]
      · rw [hin₁, Nat.add_sub_cancel_left]
    · rw [hturn hexec hm0 le_rfl herror, hfinished, if_neg (by simp), Nat.sub_self]
      clear hfinished
      obtain ⟨k, -, hk, hk0, -⟩ := Scanner.ends_of_scan hscan₁
      obtain ⟨c', rfl, hc'⟩ : ∃ c', c = m + c' ∧ Stream.ReadEnd size st₁.incoming c' := by
        rcases (hends c).1 hc with rfl | hlater
        · omega
        · exact hlater
      obtain ⟨s₂, data₂, st₂, e, hret, hsame, hHe, hew, hbe, htake, hst₂, hin₂⟩ :=
        recvHead_ret hsearch hgood hpos hsize turns hlen₁ hst₁ (by
          rw [List.length_append, List.length_drop] at hturns ⊢
          omega) hrel₁ hscan₁ (fun x hx => ⟨(hel x (hsub x hx)).2 m hhere, fun d hd => by
            rw [Nat.add_assoc]
            exact (hel x (hsub x hx)).2 (m + d) ((hends _).2 (.inr ⟨d, rfl, hd⟩))⟩)
          ⟨c', hc', by omega, by omega⟩
      refine ⟨s₂, data₂, st₂, e, hret, hsame, hHe, hew, by omega, htake, hst₂, ?_⟩
      rw [hin₂, hin₁, Stream.dropPieces_add _ _ hst.pieces]
      congr 1
      omega

/-- **The body** is the next `n` bytes, in the buffer or still in the stream. -/
theorem recvBody_ret {H n e : ℕ} (hn : 0 < n) (hHe : H ≤ e) (hew : e ≤ w.length)
    (hlen : H + n ≤ w.length) (hw : w.length < 2 ^ 31)
    (hdata : data.take (e - H) = slice w H (e - H)) (hst : Stream.Delivers st (w.drop e ++ rest)) :
    ∃ st', recvBody n data (e - H : ℕ) st = .ret (some (slice w H n)) st' ∧
      (e ≤ H + n → Stream.Delivers st' (w.drop (H + n) ++ rest) ∧
        st'.incoming = Stream.dropPieces (H + n - e) st.incoming) := by
  have hresize : (Ws.resize [] (n : ℤ).toNat).length = n := by
    simp [Ws.resize]
  have htake (k : ℕ) (hk : k ≤ e - H) : data.take k = slice w H k := by
    have := congrArg (List.take k) hdata
    rwa [List.take_take, min_eq_left hk, slice, List.take_take, min_eq_left hk] at this
  have hlens : (if ((e - H : ℕ) : ℤ) ≤ n then ((e - H : ℕ) : ℤ) else n).toNat = min (e - H) n := by
    split_ifs <;> omega
  simp only [recvBody, hlens]
  by_cases hall : n ≤ e - H
  · -- the buffer holds the body
    have hslice : (slice w H n).length = n := length_slice hlen
    rw [min_eq_right hall, htake n hall, overwrite_zero, hslice, if_neg (by omega),
      List.drop_of_length_le hresize.le, List.append_nil]
    refine ⟨st, rfl, fun hle => ?_⟩
    obtain rfl : e = H + n := by omega
    exact ⟨hst, by rw [Nat.sub_self, Stream.dropPieces_zero hst.pieces]⟩
  · have hslice : (slice w H (e - H)).length = e - H := length_slice (by omega)
    have hrest : (slice w e (H + n - e)).length = H + n - e := length_slice (by omega)
    have hsplit : w.drop e ++ rest = slice w e (H + n - e) ++ (w.drop (H + n) ++ rest) := by
      rw [← List.append_assoc, slice, show w.drop (H + n) = (w.drop e).drop (H + n - e) by
        rw [List.drop_drop]; congr 1; omega, List.take_append_drop]
    rw [hsplit] at hst
    obtain ⟨st', hread, hst', hin⟩ := Stream.readFixSize_piece (ε := Fault) hst (by omega)
    rw [hrest, toInt32_natCast (by omega)] at hread
    have hleft : ((n : ℤ) - (e - H : ℕ)).toNat = H + n - e := by omega
    rw [min_eq_left (by omega), htake _ le_rfl, if_pos (by omega), hleft, Call.bind_ret hread]
    dsimp only
    rw [if_neg (by omega)]
    refine ⟨st', ?_, fun _ => ⟨hst', by rw [hin, hrest]⟩⟩
    have hbody : overwrite (overwrite (Ws.resize [] (n : ℤ).toNat) 0 (slice w H (e - H))) (e - H)
        (slice w e (H + n - e)) = slice w H n := by
      have htwo := overwrite_overwrite (l := Ws.resize [] (n : ℤ).toNat) (i := 0)
        (slice w H (e - H)) (slice w e (H + n - e)) (Nat.zero_le _)
      rw [hslice, Nat.zero_add] at htwo
      rw [htwo, overwrite_zero, List.drop_of_length_le, List.append_nil]
      · rw [show n = (e - H) + (H + n - e) by omega, slice_add, Nat.add_sub_cancel' hHe]
        congr 2
        omega
      · rw [hresize, List.length_append, hslice, hrest]
        omega
    rw [hbody]
    rfl

end

/-! ## Requests -/

variable {lexical_cast : List UInt8 → Option UInt64} {u : HttpParser.Uninit} {w rest : List UInt8}
  {H n size : ℕ} {r : HttpRequest} {st : Stream}

/-- The request at the start of `w`, as the machine reads it: how long the header and the body are,
    and the request. -/
def parse (lexical_cast : List UInt8 → Option UInt64) (u : HttpParser.Uninit) (w : List UInt8) :
    Option (ℕ × ℕ × HttpRequest) :=
  match (machine u.uri_relaxed).scan (act w) w 0 1 (new u).enter with
  | .ok (.stops _ H s) =>
    let n := (toInt64 (s.getContentLength lexical_cast).toNat).toNat
    if s.error = 0 ∧ H + n ≤ w.length then
      some (H, n, keepAlive (if 0 < n then { s.data with body := slice w H n } else s.data))
    else none
  | _ => none

/-- The elements of a request: its method, path, query, fragment and version, and its headers, each
    with the byte at which the parser takes it. -/
def elements (u : HttpParser.Uninit) (w : List UInt8) : List Scanner.Span :=
  (machine u.uri_relaxed).elements marking w 0 1 {}

/-- **No read ends inside of an element.** -/
def Uncut (u : HttpParser.Uninit) (size : ℕ) (w : List UInt8) (pieces : List (List UInt8)) : Prop :=
  ∀ x ∈ elements u w, ∀ c, Stream.ReadEnd size pieces c → ¬ x.SplitAt c

theorem search_of_scan {ε σ : Type} {act : HttpParser.Action → ℕ → σ → Except ε σ} {relaxed : Bool}
    {cs' p' : ℕ} {s s' : σ} (h : (machine relaxed).scan act w 0 1 s = .ok (.stops cs' p' s')) :
    ∀ rest, w ≠ 77 :: 32 :: 45 :: 32 :: 83 :: rest := by
  rintro rest rfl
  obtain ⟨k, hk, -⟩ := Scanner.ends_of_scan h
  cases relaxed <;> cases hk

theorem related_new (u : HttpParser.Uninit) (e : ℕ) :
    Related u.uri_relaxed 0 e 1 0 {} (new u).enter (new u).enter where
  agree := {
    data := rfl
    error := rfl
    mark_le := le_rfl
    field_start_le := le_rfl
    field_end_le := le_rfl
    query_start_le := le_rfl
    whole_mark := rfl
    whole_field_start := rfl
    mark := rfl
    field_start := rfl
    query_start := fun _ => rfl
    field_len := fun _ => rfl
    field_len_nonneg := le_rfl
    field_len_le := Int.natCast_nonneg _
    body_start_le := Nat.zero_le _
    kept := ⟨one_ne_zero, rfl, rfl⟩ }
  going := by decide
  body_start := rfl
  first _ := rfl
  method h := by cases h
  value h := by cases h

theorem of_parse (h : parse lexical_cast u w = some (H, n, r)) : ∃ cs' S,
    (machine u.uri_relaxed).scan (act w) w 0 1 (new u).enter = .ok (.stops cs' H S) ∧ S.error = 0 ∧
      H + n ≤ w.length ∧ n = (toInt64 (S.getContentLength lexical_cast).toNat).toNat ∧
      r = keepAlive (if 0 < n then { S.data with body := slice w H n } else S.data) := by
  unfold parse at h
  split at h
  · rename_i cs' H' S hscan
    dsimp only at h
    by_cases hcond : S.error = 0 ∧ H' + (toInt64 (S.getContentLength lexical_cast).toNat).toNat ≤ w.length
    · rw [if_pos hcond] at h
      simp only [Option.some.injEq, Prod.mk.injEq] at h
      obtain ⟨rfl, hn, hr⟩ := h
      rw [hn] at hcond hr
      exact ⟨cs', S, hscan, hcond.1, hcond.2, hn.symm, hr.symm⟩
    · rw [if_neg hcond] at h
      cases h
  · cases h

/-- **A request that is not cut** is received as the machine reads it, and the bytes after it stay
    in the stream. -/
theorem recvRequest_ret {buffer : List UInt8} (hparse : parse lexical_cast u w = some (H, n, r))
    (hbuffer : buffer.length = size) (hpos : 0 < size) (hsize : size < 2 ^ 31) (hw : w.length < 2 ^ 31)
    (hst : Stream.Delivers st (w ++ rest)) (huncut : Uncut u size w st.incoming)
    (hend : ∃ c, Stream.ReadEnd size st.incoming c ∧ H ≤ c ∧ c ≤ w.length) :
    ∃ st', recvRequest lexical_cast u buffer st = .ret (some r) st' ∧
      (w.length = H + n → Stream.Delivers st' rest ∧
        st'.incoming = Stream.dropPieces w.length st.incoming) := by
  obtain ⟨cs', S, hscan, hgood, hlen, hn, hr⟩ := of_parse hparse
  obtain ⟨c, hc, hHc, hcw⟩ := hend
  have hel : ∀ x ∈ (machine u.uri_relaxed).elements marking (w.drop 0) 0 (new u).parser.cs {},
      ¬ x.SplitAt 0 ∧ ∀ c, Stream.ReadEnd size st.incoming c → ¬ x.SplitAt (0 + c) := by
    refine fun x hx => ⟨fun hsplit => absurd hsplit.1 (Nat.not_lt_zero _), fun d hd => ?_⟩
    rw [Nat.zero_add]
    exact huncut x hx d hd
  have hturns : (w.drop 0 ++ rest).length < st.pending + 1 := by
    rw [Stream.pending, hst.flatten_eq]
    exact Nat.lt_succ_self _
  obtain ⟨s', data', st₁, e, hret, hsame, hHe, hew, -, htake, hst₁, hin₁⟩ :=
    recvHead_ret (search_of_scan hscan) hgood hpos hsize (st.pending + 1) hbuffer hst hturns
      (related_new u) hscan hel ⟨c, hc, by omega, by omega⟩
  rw [Nat.sub_zero] at hin₁
  have hlength : s'.getContentLength lexical_cast = S.getContentLength lexical_cast := by
    rw [getContentLength, getContentLength, hsame]
  unfold recvRequest
  rw [Call.bind_ret (Call.gets_apply _ _), Call.bind_ret hret]
  dsimp only
  rw [hlength, hsame]
  generalize toInt64 (S.getContentLength lexical_cast).toNat = length at hn ⊢
  by_cases hbody : 0 < n
  · obtain rfl : length = n := by omega
    obtain ⟨st₂, hret₂, hst₂⟩ := recvBody_ret hbody hHe hew hlen hw htake hst₁
    rw [if_pos (by omega), Call.bind_ret hret₂]
    refine ⟨st₂, by rw [hr, if_pos hbody]; rfl, fun hwhole => ?_⟩
    obtain ⟨hst₂, hin₂⟩ := hst₂ (by omega)
    rw [← hwhole, List.drop_length, List.nil_append] at hst₂
    refine ⟨hst₂, ?_⟩
    rw [hin₂, hin₁, Stream.dropPieces_add _ _ hst.pieces]
    congr 1
    omega
  · rw [if_neg (by omega)]
    refine ⟨st₁, by rw [hr, if_neg hbody]; rfl, fun hwhole => ?_⟩
    obtain rfl : e = w.length := by omega
    rw [List.drop_length, List.nil_append] at hst₁
    exact ⟨hst₁, hin₁⟩

/-- **The request comes out of the pieces of the stream as out of one read**, whatever was in the
    buffer before. -/
def SameRequest (lexical_cast : List UInt8 → Option UInt64) (u : HttpParser.Uninit) (size : ℕ)
    (w : List UInt8) (st : Stream) : Prop :=
  ∃ r, ∀ buffer, buffer.length = size →
    (∃ st', recvRequest lexical_cast u buffer { st with incoming := [w] } = .ret (some r) st') ∧
      ∃ st', recvRequest lexical_cast u buffer st = .ret (some r) st'

/-- A read that brings the whole request does not cut it. -/
theorem uncut_whole (hfit : w.length ≤ size) (pieces : List (List UInt8)) :
    Uncut u size w (w :: pieces) := by
  rintro x hx c hc ⟨-, hstop⟩
  have hlt := Scanner.stop_lt hx
  cases hc with
  | here => omega
  | later hc => omega

theorem sameRequest_of_uncut (hsize : size < 2 ^ 31) (hfit : w.length ≤ size)
    (hparse : (parse lexical_cast u w).isSome) (hst : Stream.Delivers st w)
    (huncut : Uncut u size w st.incoming) : SameRequest lexical_cast u size w st := by
  obtain ⟨⟨H, n, r⟩, hparse⟩ := Option.isSome_iff_exists.1 hparse
  obtain ⟨cs', S, hscan, -, hlen, -⟩ := of_parse hparse
  have hpos : 0 < w.length := by
    by_contra hzero
    rw [List.length_eq_zero_iff.1 (Nat.eq_zero_of_not_pos hzero)] at hscan
    cases hscan
  have hw : w ≠ [] := List.length_pos_iff.1 hpos
  have hwhole : Stream.Delivers { st with incoming := [w] } w :=
    ⟨hst.is_open, by simpa using hw, hst.accepts, by simp⟩
  have hreceive : ∀ buffer, buffer.length = size → ∀ st₁, Stream.Delivers st₁ w →
      Uncut u size w st₁.incoming → ∃ st', recvRequest lexical_cast u buffer st₁ = .ret (some r) st' := by
    intro buffer hbuffer st₁ hst₁ huncut₁
    have hne : st₁.incoming ≠ [] := by
      intro hnil
      exact hw (hst₁.flatten_eq.symm.trans (by rw [hnil]; rfl))
    have hend := Stream.readEnd_length (show 0 < size by omega) hst₁.pieces hne
    rw [hst₁.flatten_eq] at hend
    have hst₁' : Stream.Delivers st₁ (w ++ []) := by rwa [List.append_nil]
    obtain ⟨st', hret, -⟩ := recvRequest_ret hparse hbuffer (by omega) hsize (by omega) hst₁'
      huncut₁ ⟨w.length, hend, by omega, le_rfl⟩
    exact ⟨st', hret⟩
  exact ⟨r, fun buffer hbuffer => ⟨hreceive buffer hbuffer _ hwhole (uncut_whole hfit []),
    hreceive buffer hbuffer st hst huncut⟩⟩

/-- `boost::lexical_cast<uint64_t>` of decimal digits. -/
def decimal (s : List UInt8) : Option UInt64 :=
  if s ≠ [] ∧ s.all (fun c => decide (48 ≤ c) && decide (c ≤ 57)) ∧ digits 10 s 0 < 2 ^ 64 then
    some (UInt64.ofNat (digits 10 s 0))
  else none

/-- A request that is cut after its method and after its path. -/
theorem sameRequest_spaces : SameRequest decimal ⟨0, false⟩ 32 (ascii "GET /ab HTTP/1.1\r\n\r\n")
    ⟨[ascii "GET ", ascii "/ab ", ascii "HTTP/1.1\r\n\r\n"], [], [], false⟩ := by
  refine sameRequest_of_uncut (by decide) (by decide) (by decide +kernel)
    ⟨rfl, by decide, by decide, rfl⟩ ?_
  have hel : elements ⟨0, false⟩ (ascii "GET /ab HTTP/1.1\r\n\r\n") =
      [⟨0, 3⟩, ⟨4, 7⟩, ⟨8, 16⟩] := by
    decide +kernel
  intro x hx c hc
  rw [hel] at hx
  have hends : c = 4 ∨ c = 8 ∨ c = 20 := by
    cases hc with
    | here => exact .inl rfl
    | later hc =>
      cases hc with
      | here => exact .inr (.inl rfl)
      | later hc =>
        cases hc with
        | here => exact .inr (.inr rfl)
        | later hc => cases hc
  simp only [List.mem_cons, List.not_mem_nil, or_false] at hx
  rcases hx with rfl | rfl | rfl <;> rcases hends with rfl | rfl | rfl <;> decide

/-- The path of a request that was received. -/
def pathOf : Out Fault Stream (Option HttpRequest) → List UInt8
  | .ret (some r) _ => r.path
  | _ => []

/-- The path is cut: only what comes after the cut is left of it. -/
theorem not_sameRequest : ¬ ∀ (u : HttpParser.Uninit) (size : ℕ) (w : List UInt8) (st : Stream),
    size < 2 ^ 31 → w.length ≤ size → (parse decimal u w).isSome → Stream.Delivers st w →
    SameRequest decimal u size w st := by
  intro h
  obtain ⟨r, hr⟩ := h ⟨0, false⟩ 32 (ascii "GET /ab HTTP/1.1\r\n\r\n")
    ⟨[ascii "GET /a", ascii "b HTTP/1.1\r\n\r\n"], [], [], false⟩ (by decide) (by decide)
    (by decide +kernel) ⟨rfl, by decide, by decide, rfl⟩
  obtain ⟨⟨st₁, hwhole⟩, st₂, hcut⟩ := hr (List.replicate 32 0) rfl
  have hpath : pathOf (.ret (some r) st₁) = ascii "/ab" := by
    rw [← hwhole]
    decide +kernel
  have hpath' : pathOf (.ret (some r) st₂) = ascii "b" := by
    rw [← hcut]
    decide +kernel
  exact absurd (hpath.symm.trans hpath') (by decide)

end HttpSession
end Ancfl.Http
