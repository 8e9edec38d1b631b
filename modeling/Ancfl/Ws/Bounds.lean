/-
  The bounds `WSRecvMessage` keeps.

  * `Reaches`: the states of the loop on a stream, any stream;
  * `turn_bounded`: a turn keeps the string as long as `cur_len` says and
    shorter than the maximum, and writes inside of it, if the maximum is at
    most `2^31`;
  * `overflows`: with a larger maximum three frames make `cur_len` negative and
    the third is written outside of the string;
  * `bounded_iff`: the bounds are kept iff the maximum is at most `2^31`.
-/
import Ancfl.ByteArray.Chunks
import Ancfl.Ws.Frames

namespace Ancfl.Ws

open Lib

/-- The states of the loop of `WSRecvMessage` on the stream `st₀`, with what is left of the
    stream. -/
inductive Reaches (client : Bool) (max : ℕ) (st₀ : Stream) : Recv → Stream → Prop
  | start : Reaches client max st₀ {} st₀
  | turn {s s' : Recv} {st st' : Stream} : Reaches client max st₀ s st →
      (Ws.turn client max s : Call Exn Stream _) st = .ret (.goesOn s') st' →
        Reaches client max st₀ s' st'

/-- The invariant: the string has the length `cur_len` says, and is shorter than the maximum if
    it is not empty. -/
structure Recv.Within (max : ℕ) (s : Recv) : Prop where
  exact : s.Exact
  lt_max : s.data = [] ∨ s.data.length < max

variable {ε : Type} {client : Bool} {max : ℕ} {s : Recv}

theorem Recv.Within.lt (h : s.Within max) (hmax : max ≤ 2 ^ 31) : s.data.length < 2 ^ 31 := by
  rcases h.lt_max with h | h
  · rw [h]; decide
  · omega

theorem recvLength_total (h : WSFrameHead) (st : Stream) : ∃ r st',
    (recvLength h : Call ε Stream _) st = .ret r st' ∧ ∀ n, r = some n → n < 2 ^ 64 := by
  unfold recvLength
  split
  · obtain ⟨v, bytes, st', hread, -⟩ := Stream.readFixSize_total (ε := ε) 2 st
    rw [Call.bind_ret hread]
    dsimp only
    split
    · exact ⟨none, st', rfl, nofun⟩
    · refine ⟨_, st', rfl, ?_⟩
      rintro n ⟨⟩
      exact (BitVec.isLt _).trans (by decide)
  split
  · obtain ⟨v, bytes, st', hread, -⟩ := Stream.readFixSize_total (ε := ε) 8 st
    rw [Call.bind_ret hread]
    dsimp only
    split
    · exact ⟨none, st', rfl, nofun⟩
    · refine ⟨_, st', rfl, ?_⟩
      rintro n ⟨⟩
      exact BitVec.isLt _
  · refine ⟨_, st, rfl, ?_⟩
    rintro n ⟨⟩
    exact (BitVec.isLt _).trans (by decide)

theorem recvMask_total (h : WSFrameHead) (st : Stream) : ∃ r st',
    (recvMask h : Call ε Stream _) st = .ret r st' := by
  unfold recvMask
  split
  · obtain ⟨v, bytes, st', hread, -⟩ := Stream.readFixSize_total (ε := ε) 4 st
    rw [Call.bind_ret hread]
    dsimp only
    split
    · exact ⟨none, st', rfl⟩
    · exact ⟨_, st', rfl⟩
  · exact ⟨_, st, rfl⟩

/-- **Whatever `readFixSize` returns, the writes stay inside of the string**, for a length that
    passes the test. -/
theorem accept_within (hmax : max ≤ 2 ^ 31) (hs : s.Within max) {h : WSFrameHead} {length : ℕ}
    {mask bytes : List UInt8} {n : ℤ} (hlength : length < 2 ^ 64)
    (hsum : toUInt64 (s.cur_len + length) < max) (hle : bytes.length ≤ (toInt64 length).toNat)
    (hall : 0 < n → bytes.length = (toInt64 length).toNat ∧ n = toInt32 length) :
    ∃ r, accept s h length mask n bytes = some r ∧ ∀ s', r = some s' → s'.Within max := by
  have hc := hs.lt hmax
  have hcast : s.cur_len + length = (s.data.length + length : ℕ) := by rw [hs.exact, Nat.cast_add]
  by_cases hwrap : s.data.length + length < 2 ^ 64
  · rw [hcast, toUInt64_natCast hwrap] at hsum
    rw [toInt64_natCast (by omega), Int.toNat_natCast] at hle hall
    by_cases hn : n ≤ 0
    · refine ⟨none, ?_, nofun⟩
      rw [accept, hcast, toUInt64_natCast hwrap, hs.exact, storeAt_end hle, Option.bind_eq_bind,
        Option.bind_some, if_pos hn]
      rfl
    · obtain ⟨hfull, hv⟩ := hall (by omega)
      rw [hv, toInt32_natCast (by omega)] at hn
      rw [hv]
      subst hfull
      refine ⟨_, accept_append hs.exact (by omega) (by omega) hwrap, ?_⟩
      rintro s' ⟨⟩
      have hlen : (s.data ++ if h.mask then xorMask mask bytes else bytes).length =
          s.data.length + bytes.length := by
        split <;> simp
      refine ⟨?_, .inr (hlen.trans_lt hsum)⟩
      rw [Recv.Exact]
      dsimp only
      rw [toInt32_natCast (by omega), hlen]
  · -- the length is negative as an `int64_t`: nothing is read
    have hlength' : (length : ℤ) = toUInt64 (length - 2 ^ 64) := by
      rw [toUInt64_cast]; omega
    have hneg : toInt64 length < 0 := by
      rw [hlength', toInt64_toUInt64 (by omega) (by omega)]; omega
    have hn : n ≤ 0 := by
      by_contra hpos
      have hn := (hall (by omega)).2
      rw [hlength', toInt32_toUInt64 (by omega) (by omega)] at hn
      omega
    obtain rfl : bytes = [] := List.length_eq_zero_iff.1 (by omega)
    refine ⟨none, ?_, nofun⟩
    rw [accept, storeAt, if_pos rfl, Option.bind_eq_bind, Option.bind_some, if_pos hn]
    rfl

theorem recvData_within (hmax : max ≤ 2 ^ 31) (hs : s.Within max) (h : WSFrameHead) (st : Stream) :
    ∃ r st', (recvData client max s h : Call ε Stream _) st = .ret r st' ∧
      ∀ s', r = some s' → s'.Within max := by
  unfold recvData
  split
  · exact ⟨none, st, rfl, nofun⟩
  obtain ⟨length, st₁, hlength, hlt⟩ := recvLength_total (ε := ε) h st
  rw [Call.bind_ret hlength]
  cases length with
  | none => exact ⟨none, st₁, rfl, nofun⟩
  | some length =>
    dsimp only
    split
    · exact ⟨none, st₁, rfl, nofun⟩
    · next hsum =>
      obtain ⟨mask, st₂, hmask⟩ := recvMask_total (ε := ε) h st₁
      rw [Call.bind_ret hmask]
      cases mask with
      | none => exact ⟨none, st₂, rfl, nofun⟩
      | some mask =>
        obtain ⟨v, bytes, st₃, hread, -, hle, hall⟩ := Stream.readFixSize_total (ε := ε) length st₂
        obtain ⟨r, haccept, hr⟩ : ∃ r, accept s h length mask v bytes = some r ∧
            ∀ s', r = some s' → s'.Within max :=
          accept_within hmax hs (hlt length rfl) (not_le.1 hsum) hle hall
        refine ⟨r, st₃, ?_, hr⟩
        dsimp only
        rw [Call.bind_ret hread]
        dsimp only
        rw [haccept]
        rfl

theorem WSPong_total (st : Stream) : ∃ v st', (WSPong : Call ε Stream _) st = .ret v st' := by
  unfold WSPong sendControl
  obtain ⟨v, st', hwrite⟩ := Stream.writeFixSize_total (ε := ε)
    ({ fin := true, opcode := PONG } : WSFrameHead).image st
  rw [Call.bind_ret hwrite]
  split <;> exact ⟨_, _, rfl⟩

/-- **A turn of the loop keeps the invariant** and is defined. -/
theorem turn_within (hmax : max ≤ 2 ^ 31) (hs : s.Within max) (st : Stream) :
    ∃ t st', (turn client max s : Call ε Stream _) st = .ret t st' ∧
      (∀ s', t = .goesOn s' → s'.Within max) ∧
      ∀ msg, t = .returns msg → msg.data = [] ∨ msg.data.length < max := by
  obtain ⟨v, bytes, st₁, hread, -⟩ := Stream.readFixSize_total (ε := ε) 2 st
  have hbreaks : (∀ s', Turn.breaks = .goesOn s' → s'.Within max) ∧
      ∀ msg, Turn.breaks = .returns msg → msg.data = [] ∨ msg.data.length < max :=
    ⟨by rintro _ ⟨⟩, by rintro _ ⟨⟩⟩
  have hgoesOn {s : Recv} (hs : s.Within max) : (∀ s', Turn.goesOn s = .goesOn s' → s'.Within max) ∧
      ∀ msg, Turn.goesOn s = .returns msg → msg.data = [] ∨ msg.data.length < max :=
    ⟨by rintro _ ⟨⟩; exact hs, by rintro _ ⟨⟩⟩
  rw [turn, Call.bind_ret hread]
  dsimp only
  split
  · exact ⟨.breaks, st₁, rfl, hbreaks⟩
  split
  · obtain ⟨w, st₂, hpong⟩ := WSPong_total (ε := ε) st₁
    rw [Call.bind_ret hpong]
    split
    · exact ⟨.breaks, st₂, rfl, hbreaks⟩
    · exact ⟨.goesOn s, st₂, rfl, hgoesOn hs⟩
  split
  · exact ⟨.goesOn s, st₁, rfl, hgoesOn hs⟩
  split
  · obtain ⟨r, st₂, hdata, hr⟩ : ∃ r st₂,
        (recvData client max s (WSFrameHead.ofImage bytes) : Call ε Stream _) st₁ = .ret r st₂ ∧
          ∀ s', r = some s' → s'.Within max := recvData_within hmax hs _ st₁
    rw [Call.bind_ret hdata]
    cases r with
    | none => exact ⟨.breaks, st₂, rfl, hbreaks⟩
    | some s' =>
      have hs' := hr s' rfl
      dsimp only
      split
      · refine ⟨.returns ⟨s'.opcode, s'.data⟩, st₂, rfl, by rintro _ ⟨⟩, ?_⟩
        rintro msg ⟨⟩
        exact hs'.lt_max
      · exact ⟨.goesOn s', st₂, rfl, hgoesOn hs'⟩
  · exact ⟨.goesOn s, st₁, rfl, hgoesOn hs⟩

/-- The loop keeps the invariant until it ends. -/
theorem recv_within (hmax : max ≤ 2 ^ 31) : ∀ (n : ℕ) (s : Recv) (st : Stream), s.Within max →
    st.pending = n → ∃ r st', (recv client max s : Call ε Stream _) st = .ret r st' ∧
      ∀ msg, r = some msg → msg.data = [] ∨ msg.data.length < max := by
  intro n
  induction n using Nat.strong_induction_on with
  | _ n ih =>
    intro s st hs hn
    obtain ⟨t, st', hturn, hgoes, hreturns⟩ : ∃ t st',
        (turn client max s : Call ε Stream _) st = .ret t st' ∧
          (∀ s', t = .goesOn s' → s'.Within max) ∧
            ∀ msg, t = .returns msg → msg.data = [] ∨ msg.data.length < max :=
      turn_within hmax hs st
    rw [recv_eq, Call.bind_ret hturn]
    cases t with
    | breaks => exact ⟨none, st', rfl, nofun⟩
    | goesOn s' => exact ih _ (hn ▸ turn_pending hturn) s' st' (hgoes s' rfl) rfl
    | returns msg =>
      refine ⟨some msg, st', rfl, ?_⟩
      rintro msg' ⟨⟩
      exact hreturns msg rfl

theorem start_within : ({} : Recv).Within max := ⟨rfl, .inl rfl⟩

theorem Reaches.within (hmax : max ≤ 2 ^ 31) {st₀ st : Stream} (h : Reaches client max st₀ s st) :
    s.Within max := by
  induction h with
  | start => exact start_within
  | @turn s s' st st' _ ht ih =>
    obtain ⟨t, st₁, hturn, hgoes, -⟩ := turn_within hmax ih st
    obtain ⟨rfl, -⟩ := Out.ret.inj (hturn.symm.trans ht)
    exact hgoes s' rfl

/-- On every stream, the string never gets longer than the maximum, every write into it is inside of
    it, and the message returned is no longer than the maximum. -/
def Bounded (client : Bool) (max : ℕ) : Prop :=
  ∀ st₀ : Stream, (∀ s st, Reaches client max st₀ s st → s.data.length ≤ max) ∧
    ∃ r st, (WSRecvMessage client max : Call Exn Stream _) st₀ = .ret r st ∧
      ∀ msg, r = some msg → msg.data.length ≤ max

/-! ## Larger maxima -/

/-- A frame of `n` bytes, masked with 0, that does not end a message. -/
def fragment (opcode : BitVec 4) (payload : List UInt8) (h : payload.length < 2 ^ 63) : Frame where
  opcode := opcode
  fin := false
  form := .long
  key := some 0
  payload := payload
  fits := h

/-- **With a larger maximum a frame is written outside of the string**: two frames of `2^30` bytes
    make `cur_len` negative, and a third of `2^31 + 1` bytes passes the test of the length. -/
theorem overflows (client : Bool) (hmax : 2 ^ 31 < max) (hmax32 : max < 2 ^ 32) :
    ∃ st₀, (WSRecvMessage client max : Call ε Stream _) st₀ = .undef := by
  obtain ⟨p, hp⟩ : ∃ p : List UInt8, p.length = 2 ^ 30 := ⟨.replicate _ 0, List.length_replicate⟩
  obtain ⟨q, hq⟩ : ∃ q : List UInt8, q.length = 2 ^ 31 + 1 :=
    ⟨.replicate _ 0, List.length_replicate⟩
  set f := fragment TEXT_FRAME p (by omega) with hf
  set g := fragment CONTINUE q (by omega) with hg
  have hfp : f.payload.length = 2 ^ 30 := hp
  have hgq : g.payload.length = 2 ^ 31 + 1 := hq
  obtain ⟨st₀, hst₀⟩ := Stream.exists_delivers (f.bytes ++ (f.bytes ++ (g.bytes ++ [])))
  -- the string holds `2^30` bytes after the first frame
  set s₁ : Recv := ({} : Recv).append f with hs₁
  have hnil : ({} : Recv).data.length = 0 := rfl
  have hdata₁ : s₁.data.length = 2 ^ 30 := by rw [hs₁, Recv.length_append, hnil, hfp, Nat.zero_add]
  have habs₁ : absorb client max {} f = some (some s₁) :=
    absorb_append rfl (.inr (by rintro ⟨⟩)) (by omega) (by omega) (by omega) hmax32
  -- and `2^31` after the second, which is `-2^31` as an `int`
  set s₂ : Recv := s₁.append f with hs₂
  have habs₂ : absorb client max s₁ f = some (some s₂) :=
    absorb_append (Recv.append_exact (by omega)) (.inr (by rintro ⟨⟩)) (by omega) (by omega) (by omega) hmax32
  have hcur₂ : s₂.cur_len = -2 ^ 31 := by
    rw [hs₂, Recv.append, hdata₁, hfp]; rfl
  have hsum : s₂.cur_len + g.payload.length = (1 : ℕ) := by rw [hcur₂, hgq]; rfl
  have habs₃ : absorb client max s₂ g = none := by
    rw [absorb, if_neg (fun h => by cases h.2), hsum, toUInt64_natCast (by decide), if_neg (by omega),
      accept, hsum, storeAt, if_neg, if_neg]
    · rfl
    · rw [hcur₂]; omega
    · intro h
      rw [h] at hgq
      cases hgq
  obtain ⟨st₁, hrun₁, hst₁⟩ := recv_fragment (ε := ε) (.inr (.inl rfl)) rfl habs₁ hst₀
  obtain ⟨st₂, hrun₂, hst₂⟩ := recv_fragment (ε := ε) (.inr (.inl rfl)) rfl habs₂ hst₁
  refine ⟨st₀, ?_⟩
  rw [WSRecvMessage_eq, Call.bind_undef]
  rw [hrun₁, hrun₂, recv_undef (.inl rfl) habs₃ hst₂]

/-- **The bounds are kept on every stream iff the maximum is at most `2^31`**, the largest one
    `cur_len` can do with. -/
theorem bounded_iff (client : Bool) (max : ℕ) (h32 : max < 2 ^ 32) :
    Bounded client max ↔ max ≤ 2 ^ 31 := by
  constructor
  · intro h
    by_contra hmax
    obtain ⟨st₀, hundef⟩ := overflows (ε := Exn) client (not_le.1 hmax) h32
    obtain ⟨-, r, st, hret, -⟩ := h st₀
    rw [hundef] at hret
    cases hret
  · intro hmax st₀
    have hle : ∀ data : List UInt8, data = [] ∨ data.length < max → data.length ≤ max := by
      rintro data (rfl | h)
      · exact Nat.zero_le _
      · exact h.le
    refine ⟨fun s st hs => hle _ (hs.within hmax).lt_max, ?_⟩
    obtain ⟨r, st, hrecv, hr⟩ : ∃ r st, (recv client max {} : Call Exn Stream _) st₀ = .ret r st ∧
        ∀ msg, r = some msg → msg.data = [] ∨ msg.data.length < max :=
      recv_within hmax _ _ _ start_within rfl
    rw [WSRecvMessage_eq, Call.bind_ret hrecv]
    cases r with
    | none => exact ⟨none, _, rfl, nofun⟩
    | some msg => exact ⟨some msg, st, rfl, fun m hm => hle _ (hr m hm)⟩

/-- The default maximum of 32 MiB is small enough. -/
theorem bounded_default : Bounded false (1024 * 1024 * 32) :=
  (bounded_iff false _ (by decide)).2 (by decide)

/-- The largest value of the option is not. -/
theorem not_bounded : ¬ ∀ (client : Bool) (max : ℕ), max < 2 ^ 32 → Bounded client max := by
  intro h
  obtain ⟨st₀, hundef⟩ : ∃ st₀,
      (WSRecvMessage false (2 ^ 32 - 1) : Call Exn Stream _) st₀ = .undef :=
    overflows false (by decide) (by decide)
  obtain ⟨-, r, st, hret, -⟩ := h false (2 ^ 32 - 1) (by decide) st₀
  rw [hundef] at hret
  cases hret

end Ancfl.Ws
