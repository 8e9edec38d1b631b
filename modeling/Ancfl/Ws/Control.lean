/-
  Messages with control frames between their fragments.

  * `Absorbs`: data frames are appended to the string, and the last one ends the
    message; `absorbs_of_recv`: so it is if the loop returns the message;
  * `recv_prefix`: control frames of which nothing follows the header change
    nothing; `recv_body`: whatever follows a header is taken for the next frame;
  * `undisturbed_iff`: the message is received whatever follows the headers of
    the control frames, iff nothing does.
-/
import Ancfl.Ws.Frames
import Mathlib.Data.List.Forall2

namespace Ancfl.Ws

open Lib

variable {ε : Type} {client : Bool} {max : ℕ} {s s' : Recv} {f g : Frame} {fs : List Frame}
  {msg : WSFrameMessage} {st : Stream} {rest : List UInt8}

/-! ## Data frames -/

/-- The data frames are accepted one after the other, and are the message. -/
def Absorbs (client : Bool) (max : ℕ) : Recv → List Frame → WSFrameMessage → Prop
  | _, [], _ => False
  | s, f :: fs, msg => ∃ s', absorb client max s f = some (some s') ∧
    if f.fin then fs = [] ∧ msg = ⟨s'.opcode, s'.data⟩ else Absorbs client max s' fs msg

/-- The frames of one message: the last one ends it, and control frames may come before. -/
structure Interleaved (fs : List Frame) : Prop where
  kinds : ∀ f ∈ fs, f.IsControl ∨ f.IsData
  last : ∃ init f, fs = init ++ [f] ∧ f.IsData ∧ f.fin = true ∧
    ∀ g ∈ init, g.IsData → g.fin = false

theorem not_isControl (hf : f.IsData) : ¬ f.IsControl := by
  unfold Frame.IsData at hf
  unfold Frame.IsControl
  rcases hf with h | h | h <;> rw [h] <;> decide

/-- **A message that is received has been absorbed.** -/
theorem absorbs_of_recv : ∀ {fs : List Frame} {s : Recv} {st st' : Stream}, (∀ f ∈ fs, f.IsData) →
    (∃ init f, fs = init ++ [f] ∧ f.fin = true ∧ ∀ g ∈ init, g.fin = false) →
    Stream.Delivers st (fs.flatMap Frame.bytes ++ rest) →
      (recv client max s : Call ε Stream _) st = .ret (some msg) st' → Absorbs client max s fs msg
  | [], s, st, st', _, hlast, _, _ => by
    obtain ⟨init, f, h, -⟩ := hlast
    exact absurd h.symm (List.append_ne_nil_of_right_ne_nil init (List.cons_ne_nil f []))
  | f :: fs, s, st, st', hdata, hlast, hst, hrecv => by
    have hf := hdata f List.mem_cons_self
    rw [List.flatMap_cons, List.append_assoc] at hst
    cases habs : absorb client max s f with
    | none => rw [recv_undef hf habs hst] at hrecv; cases hrecv
    | some r =>
      cases r with
      | none =>
        obtain ⟨st₁, hbreaks⟩ := recv_breaks (ε := ε) hf habs hst
        rw [hbreaks] at hrecv
        cases hrecv
      | some s' =>
        obtain ⟨init, g, hsplit, hg, hinit⟩ := hlast
        refine ⟨s', habs, ?_⟩
        cases init with
        | nil =>
          obtain ⟨rfl, rfl⟩ := List.cons.inj hsplit
          obtain ⟨st₁, hret, -⟩ := recv_last (ε := ε) hf hg habs hst
          rw [hret] at hrecv
          rw [if_pos hg]
          exact ⟨rfl, (Option.some.inj (Out.ret.inj hrecv).1).symm⟩
        | cons f' init =>
          obtain ⟨rfl, rfl⟩ := List.cons.inj hsplit
          have hfin := hinit f List.mem_cons_self
          obtain ⟨st₁, hgo, hst₁⟩ := recv_fragment (ε := ε) hf hfin habs hst
          rw [hgo] at hrecv
          rw [if_neg (by rw [hfin]; decide)]
          exact absorbs_of_recv (fun g' hg' => hdata g' (List.mem_cons_of_mem f hg'))
            ⟨init, g, rfl, hg, fun g' hg' => hinit g' (List.mem_cons_of_mem f hg')⟩ hst₁ hrecv

/-! ## Control frames of which nothing follows the header -/

/-- **Frames before the last one are passed**, the control frames without a trace. -/
theorem recv_prefix : ∀ {init fs : List Frame} {s : Recv},
    (∀ f ∈ init, f.IsControl ∧ f.body = [] ∨ f.IsData ∧ f.fin = false) →
    Absorbs client max s ((init ++ fs).filter (·.IsData)) msg →
      ∃ s', Absorbs client max s' (fs.filter (·.IsData)) msg ∧ ∀ st w,
        Stream.Delivers st (init.flatMap Frame.bytes ++ w) → ∃ st',
          (recv client max s : Call ε Stream _) st = recv client max s' st' ∧ Stream.Delivers st' w
  | [], fs, s, _, habs => ⟨s, habs, fun st w hst => ⟨st, rfl, hst⟩⟩
  | f :: init, fs, s, hinit, habs => by
    have htail := fun g (hg : g ∈ init) => hinit g (List.mem_cons_of_mem f hg)
    rcases hinit f List.mem_cons_self with ⟨hf, hbody⟩ | ⟨hf, hfin⟩
    · have hno : ¬ f.IsData := fun hd => not_isControl hd hf
      rw [List.cons_append, List.filter_cons_of_neg (by simpa using hno)] at habs
      obtain ⟨s', habs', hrun⟩ := recv_prefix htail habs
      refine ⟨s', habs', fun st w hst => ?_⟩
      rw [List.flatMap_cons, List.append_assoc] at hst
      obtain ⟨st₁, hturn, hst₁⟩ := turn_control (ε := ε) hf hst
      rw [hbody, List.nil_append] at hst₁
      obtain ⟨st', hrest, hst'⟩ := hrun st₁ w hst₁
      exact ⟨st', (recv_goesOn hturn).trans hrest, hst'⟩
    · rw [List.cons_append, List.filter_cons_of_pos (by simpa using hf)] at habs
      obtain ⟨s₁, habs₁, habs⟩ := habs
      rw [if_neg (by rw [hfin]; decide)] at habs
      obtain ⟨s', habs', hrun⟩ := recv_prefix htail habs
      refine ⟨s', habs', fun st w hst => ?_⟩
      rw [List.flatMap_cons, List.append_assoc] at hst
      obtain ⟨st₁, hgo, hst₁⟩ := recv_fragment (ε := ε) hf hfin habs₁ hst
      obtain ⟨st', hrest, hst'⟩ := hrun st₁ w hst₁
      exact ⟨st', hgo.trans hrest, hst'⟩

/-- On the frames `WSRecvMessage` returns the message, and stops at the bytes that follow. -/
def Receives (ε : Type) (client : Bool) (max : ℕ) (fs : List Frame) (msg : WSFrameMessage) : Prop :=
  ∀ st rest, Stream.Delivers st (fs.flatMap Frame.bytes ++ rest) → ∃ st',
    (WSRecvMessage client max : Call ε Stream _) st = .ret (some msg) st' ∧ Stream.Delivers st' rest

theorem recv_of_receives (h : Receives ε client max fs msg)
    (hst : Stream.Delivers st (fs.flatMap Frame.bytes ++ rest)) : ∃ st',
      (recv client max {} : Call ε Stream _) st = .ret (some msg) st' ∧ Stream.Delivers st' rest := by
  obtain ⟨st', hret, hst'⟩ := h st rest hst
  rw [WSRecvMessage_eq] at hret
  obtain ⟨r, st₁, hrecv, hret⟩ := Call.bind_eq_ret.1 hret
  cases r with
  | none => cases hret
  | some m =>
    obtain ⟨hm, hst₁⟩ := Out.ret.inj hret
    obtain rfl := Option.some.inj hm
    obtain rfl := hst₁
    exact ⟨st₁, hrecv, hst'⟩

theorem absorbs_of_receives (hfs : Interleaved fs)
    (h : Receives ε client max (fs.filter (·.IsData)) msg) :
    Absorbs client max {} (fs.filter (·.IsData)) msg := by
  obtain ⟨st, hst⟩ := Stream.exists_delivers ((fs.filter (·.IsData)).flatMap Frame.bytes ++ [])
  obtain ⟨st', hrecv, -⟩ := recv_of_receives h hst
  obtain ⟨init, f, rfl, hf, hfin, hinit⟩ := hfs.last
  refine absorbs_of_recv (fun g hg => of_decide_eq_true (List.mem_filter.1 hg).2)
    ⟨init.filter (·.IsData), f, ?_, hfin, fun g hg => ?_⟩ hst hrecv
  · rw [List.filter_append, List.filter_cons_of_pos (by simpa using hf), List.filter_nil]
  · obtain ⟨hg, hd⟩ := List.mem_filter.1 hg
    exact hinit g hg (of_decide_eq_true hd)

/-- **Control frames without a body do not disturb a message.** -/
theorem receives_of_bare (hfs : Interleaved fs)
    (habs : Absorbs client max {} (fs.filter (·.IsData)) msg)
    (hbare : ∀ f ∈ fs, f.IsControl → f.body = []) : Receives ε client max fs msg := by
  obtain ⟨init, f, rfl, hf, hfin, hinit⟩ := hfs.last
  intro st rest hst
  have hpre : ∀ g ∈ init, g.IsControl ∧ g.body = [] ∨ g.IsData ∧ g.fin = false := fun g hg => by
    have hmem := List.mem_append_left [f] hg
    rcases hfs.kinds g hmem with hc | hd
    · exact .inl ⟨hc, hbare g hmem hc⟩
    · exact .inr ⟨hd, hinit g hg hd⟩
  obtain ⟨s', hend, hrun⟩ := recv_prefix (ε := ε) hpre habs
  rw [List.filter_cons_of_pos (by simpa using hf), List.filter_nil] at hend
  obtain ⟨s₁, habs₁, hend⟩ := hend
  rw [if_pos hfin] at hend
  rw [List.flatMap_append, List.flatMap_singleton, List.append_assoc] at hst
  obtain ⟨st₁, hgo, hst₁⟩ := hrun st _ hst
  obtain ⟨st', hlast, hst'⟩ := recv_last (ε := ε) hf hfin habs₁ hst₁
  rw [← hend.2] at hlast
  refine ⟨st', ?_, hst'⟩
  rw [WSRecvMessage_eq, Call.bind_ret (hgo.trans hlast)]
  rfl

/-! ## Control frames with a body -/

/-- A header of zeros ends the loop. -/
theorem recv_zeros (client : Bool) (max : ℕ) (s : Recv) {w : List UInt8} (hst : Stream.Delivers st (0 :: 0 :: w)) :
    ∃ st', (recv client max s : Call ε Stream _) st = .ret none st' := by
  set f : Frame := { opcode := CONTINUE, fin := false, form := .short, key := none, payload := [], fits := (by decide : 0 < 126) } with hf
  have habs : absorb client max s f = some none := by
    rw [absorb]
    split_ifs with h1 h2
    · rfl
    · rfl
    · rw [accept, storeAt, if_pos rfl, Option.bind_eq_bind, Option.bind_some, if_pos (by decide)]
      rfl
  have hbytes : f.bytes = [0, 0] := by rw [hf]; decide +kernel
  refine recv_breaks (.inl rfl) habs (?_ : Stream.Delivers st (f.bytes ++ w))
  rw [hbytes]
  exact hst

theorem recvLength_respects (h : WSFrameHead) :
    Stream.Respects (recvLength h : Call ε Stream _) := by
  unfold recvLength
  split_ifs
  · exact (Stream.readFixSize_respects _).bind fun (n, _) => by
      dsimp only; split <;> exact .pure _
  · exact (Stream.readFixSize_respects _).bind fun (n, _) => by
      dsimp only; split <;> exact .pure _
  · exact .pure _

theorem recvMask_respects (h : WSFrameHead) : Stream.Respects (recvMask h : Call ε Stream _) := by
  unfold recvMask
  split_ifs
  · exact (Stream.readFixSize_respects _).bind fun (n, _) => by
      dsimp only; split <;> exact .pure _
  · exact .pure _

theorem recvData_respects (client : Bool) (max : ℕ) (s : Recv) (h : WSFrameHead) :
    Stream.Respects (recvData client max s h : Call ε Stream _) := by
  unfold recvData
  split_ifs
  · exact .pure _
  refine (recvLength_respects h).bind fun length => ?_
  rcases length with _ | length
  · exact .pure _
  dsimp only
  split
  · exact .pure _
  refine (recvMask_respects h).bind fun mask => ?_
  rcases mask with _ | mask
  · exact .pure _
  refine (Stream.readFixSize_respects _).bind fun r => ?_
  rcases r with ⟨v, bytes⟩
  dsimp only
  split
  · exact .undefined
  · exact .pure _

/-- At the end of the stream the loop ends. -/
theorem recv_end (client : Bool) (max : ℕ) (s : Recv) (hst : Stream.Delivers st []) :
    ∃ st', (recv client max s : Call ε Stream _) st = .ret none st' := by
  obtain ⟨st', hloop, -⟩ := Stream.readLoop_short (ε := ε) 2 hst (by decide)
  have hread : (Stream.readFixSize 2 : Call ε Stream _) st = .ret (0, []) st' := by
    have h2 : (toInt64 (2 : ℕ)).toNat = 2 := by decide
    rw [Stream.readFixSize, h2, Call.bind_ret hloop]
    rfl
  have hturn : (turn client max s : Call ε Stream _) st = .ret .breaks st' := by
    rw [turn, Call.bind_ret hread]
    rfl
  exact ⟨st', by rw [recv_eq, Call.bind_ret hturn]; rfl⟩

/-- A header of kind `CONTINUE`. -/
theorem turn_head (client : Bool) (max : ℕ) (s : Recv) {h : WSFrameHead} (hop : h.opcode = CONTINUE)
    (hst : Stream.Delivers st (h.image ++ rest)) : ∃ st', Stream.Delivers st' rest ∧
      (turn client max s : Call ε Stream _) st = (do
        match ← recvData client max s h with
        | none => return .breaks
        | some s => if h.fin then return .returns ⟨s.opcode, s.data⟩ else return .goesOn s :
          Call ε Stream Turn) st' := by
  obtain ⟨st', hhead, hst', -⟩ := recvHead_ret (ε := ε) hst
  refine ⟨st', hst', ?_⟩
  rw [turn, Call.bind_ret hhead]
  dsimp only
  rw [if_neg (by decide), WSFrameHead.ofImage_image, hop, if_neg (by decide), if_neg (by decide)]
  exact congrFun (if_pos (.inl rfl)) st'

/-- **One of two bytes before the rest of the stream is taken for another message**: as the first
    byte of a header the one ends the message with the frame, the other does not. -/
theorem not_both {y : UInt8} {w : List UInt8} {st₁ st₁' st₂ st₂' : Stream}
    (hst₁ : Stream.Delivers st₁ (0x80 :: y :: w)) (hst₂ : Stream.Delivers st₂ (0x00 :: y :: w))
    (hret₁ : (recv client max s : Call ε Stream _) st₁ = .ret (some msg) st₁')
    (hend : Stream.Delivers st₁' [])
    (hret₂ : (recv client max s : Call ε Stream _) st₂ = .ret (some msg) st₂') : False := by
  obtain ⟨h, hop, hfin, himage₂, himage₁⟩ : ∃ h : WSFrameHead, h.opcode = CONTINUE ∧ h.fin = false ∧
      h.image = [0x00, y] ∧ ({ h with fin := true } : WSFrameHead).image = [0x80, y] := by
    have himage : ∀ b : BitVec 8,
        let h : WSFrameHead :=
          { opcode := CONTINUE, fin := false, payload := b.setWidth 7, mask := b.getLsbD 7 }
        h.image = [0x00, ⟨b⟩] ∧ ({ h with fin := true } : WSFrameHead).image = [0x80, ⟨b⟩] := by
      decide +kernel
    exact ⟨_, rfl, rfl, himage y.toBitVec⟩
  have hst₁' : Stream.Delivers st₁ (({ h with fin := true } : WSFrameHead).image ++ w) := by
    rw [himage₁]; exact hst₁
  have hst₂' : Stream.Delivers st₂ (h.image ++ w) := by rw [himage₂]; exact hst₂
  obtain ⟨u₁, hu₁, hturn₁⟩ := turn_head (ε := ε) client max s
    (h := { h with fin := true }) hop hst₁'
  obtain ⟨u₂, hu₂, hturn₂⟩ := turn_head (ε := ε) client max s hop hst₂'
  rw [recv_eq] at hret₁ hret₂
  have hsame : (recvData client max s { h with fin := true } : Call ε Stream _) =
      recvData client max s h := rfl
  rw [hsame] at hturn₁
  rcases recvData_respects (ε := ε) client max s h u₁ u₂ w hu₁ hu₂ with
    ⟨hundef, -⟩ | ⟨r, w', v₁, v₂, hr₁, hr₂, hv₁, hv₂⟩
  · rw [Call.bind_undef (hturn₁.trans (Call.bind_undef hundef))] at hret₁
    cases hret₁
  rw [Call.bind_ret hr₁] at hturn₁
  rw [Call.bind_ret hr₂] at hturn₂
  cases r with
  | none => rw [Call.bind_ret hturn₁] at hret₁; cases hret₁
  | some s' =>
    rw [Call.bind_ret hturn₁] at hret₁
    obtain ⟨-, rfl⟩ := Out.ret.inj hret₁
    dsimp only at hturn₂
    rw [hfin, if_neg (by decide)] at hturn₂
    rw [Call.bind_ret hturn₂] at hret₂
    dsimp only at hret₂
    have hnil : w' = [] := hv₁.flatten_eq.symm.trans hend.flatten_eq
    obtain ⟨st', hnone⟩ := recv_end (ε := ε) client max s' (hnil ▸ hv₂)
    rw [hnone] at hret₂
    cases hret₂

/-! ## Frames with the same headers -/

/-- The frames have the same header, and are equal if they are data frames. -/
def SameHead (f g : Frame) : Prop := f.head = g.head ∧ (f.IsData → g = f)

theorem sameHead_refl (f : Frame) : SameHead f f := ⟨rfl, fun _ => rfl⟩

/-- **A body can start with a header of zeros**, unless it is a single byte. -/
theorem exists_body (f : Frame) (hbody : f.body ≠ []) :
    (∃ (g : Frame) (w : List UInt8), g.head = f.head ∧ g.body = 0 :: 0 :: w) ∨
      ∃ g₁ g₂ : Frame, g₁.head = f.head ∧ g₂.head = f.head ∧ g₁.body = [0x80] ∧ g₂.body = [0x00] := by
  obtain ⟨opcode, rsv3, rsv2, rsv1, fin, form, key, payload, fits⟩ := f
  cases form with
  | medium =>
    have hlength : image 2 (byteswapOnLittleEndian (n := 2) (BitVec.ofNat 16 0)) = [0, 0] := by
      decide +kernel
    refine .inl ⟨⟨opcode, rsv3, rsv2, rsv1, fin, .medium, key.map fun _ => 0, [], Nat.two_pow_pos _⟩,
      _, ?_, congrArg (· ++ _) hlength⟩
    cases key <;> rfl
  | long =>
    have hlength : image 8 (byteswapOnLittleEndian (n := 8) (BitVec.ofNat 64 0)) =
        [0, 0, 0, 0, 0, 0, 0, 0] := by
      decide +kernel
    refine .inl ⟨⟨opcode, rsv3, rsv2, rsv1, fin, .long, key.map fun _ => 0, [], Nat.two_pow_pos _⟩,
      _, ?_, congrArg (· ++ _) hlength⟩
    cases key <;> rfl
  | short =>
    cases key with
    | some k =>
      have hkey : image 4 (0 : BitVec 32) = [0, 0, 0, 0] := by decide +kernel
      exact .inl ⟨⟨opcode, rsv3, rsv2, rsv1, fin, .short, some 0, payload, fits⟩, _, rfl,
        congrArg (· ++ payload) hkey⟩
    | none =>
      match payload, fits, hbody with
      | [], _, hbody => exact (hbody rfl).elim
      | [_], fits, _ =>
        exact .inr ⟨⟨opcode, rsv3, rsv2, rsv1, fin, .short, none, [0x80], fits⟩,
          ⟨opcode, rsv3, rsv2, rsv1, fin, .short, none, [0x00], fits⟩, rfl, rfl, rfl, rfl⟩
      | _ :: _ :: p, fits, _ =>
        exact .inl ⟨⟨opcode, rsv3, rsv2, rsv1, fin, .short, none, 0 :: 0 :: p, fits⟩, _, rfl, rfl⟩

/-- The first control frame with a body. -/
theorem Interleaved.first (hfs : Interleaved fs) (hf : f ∈ fs) (hc : f.IsControl)
    (hbody : f.body ≠ []) : ∃ init f post, fs = init ++ f :: post ∧ f.IsControl ∧ f.body ≠ [] ∧
      post ≠ [] ∧ ∀ g ∈ init, g.IsControl ∧ g.body = [] ∨ g.IsData ∧ g.fin = false := by
  have hfind : (fs.find? fun g => g.IsControl ∧ g.body ≠ []).isSome :=
    List.find?_isSome.2 ⟨f, hf, by simpa using ⟨hc, hbody⟩⟩
  obtain ⟨g, hg⟩ := Option.isSome_iff_exists.1 hfind
  obtain ⟨hgbad, init, post, rfl, hinit⟩ := List.find?_eq_some_iff_append.1 hg
  obtain ⟨hgc, hgbody⟩ := of_decide_eq_true hgbad
  obtain ⟨init', last, hsplit, hlast, -, hfin⟩ := hfs.last
  rcases List.eq_nil_or_concat post with rfl | ⟨post', last', rfl⟩
  · obtain ⟨-, hg'⟩ := List.append_inj' hsplit rfl
    obtain rfl := (List.cons.inj hg').1
    exact (not_isControl hlast hgc).elim
  rw [List.concat_eq_append, ← List.cons_append, ← List.append_assoc] at hsplit
  obtain ⟨hinit', -⟩ := List.append_inj' hsplit rfl
  refine ⟨init, g, _, rfl, hgc, hgbody, by simp, fun h hh => ?_⟩
  rcases hfs.kinds h (List.mem_append_left _ hh) with hhc | hhd
  · refine .inl ⟨hhc, ?_⟩
    by_contra hne
    exact absurd (hinit h hh) (by simpa using ⟨hhc, hne⟩)
  · exact .inr ⟨hhd, hfin h (hinit' ▸ List.mem_append_left _ hh) hhd⟩

/-- After the header of a control frame the loop goes on with its body. -/
theorem recv_body {init post : List Frame} {s' : Recv} (hf : f.IsControl)
    (hrun : ∀ st w, Stream.Delivers st (init.flatMap Frame.bytes ++ w) → ∃ st',
      (recv client max {} : Call ε Stream _) st = recv client max s' st' ∧ Stream.Delivers st' w)
    (hrecv : Receives ε client max (init ++ f :: post) msg) :
    ∃ st st', Stream.Delivers st (f.body ++ post.flatMap Frame.bytes) ∧
      (recv client max s' : Call ε Stream _) st = .ret (some msg) st' ∧ Stream.Delivers st' [] := by
  obtain ⟨st, hst⟩ := Stream.exists_delivers ((init ++ f :: post).flatMap Frame.bytes ++ [])
  obtain ⟨st', hret, hst'⟩ := recv_of_receives hrecv hst
  rw [List.append_nil, List.flatMap_append, List.flatMap_cons] at hst
  obtain ⟨st₁, hgo, hst₁⟩ := hrun st _ hst
  obtain ⟨st₂, hturn, hst₂⟩ : ∃ st₂, (turn client max s' : Call ε Stream _) st₁ = .ret (.goesOn s') st₂ ∧
      Stream.Delivers st₂ (f.body ++ post.flatMap Frame.bytes) := turn_control hf hst₁
  exact ⟨st₂, st', hst₂, by rw [← recv_goesOn hturn, ← hgo, hret], hst'⟩

/-- A frame without a body is determined by its header. -/
theorem eq_of_bare (hbody : f.body = []) (hhead : f.head = g.head) : g = f := by
  obtain ⟨opcode, rsv3, rsv2, rsv1, fin, form, key, payload, fits⟩ := f
  obtain ⟨opcode', rsv3', rsv2', rsv1', fin', form', key', payload', fits'⟩ := g
  obtain ⟨rfl, rfl, rfl, rfl, rfl, hpayload, hmask⟩ := WSFrameHead.mk.inj hhead
  obtain ⟨hlength, hbody⟩ := List.append_eq_nil_iff.1 hbody
  obtain ⟨hkey, hpay⟩ := List.append_eq_nil_iff.1 hbody
  dsimp only at hpay hmask hpayload
  subst hpay
  cases form with
  | medium => cases hlength
  | long => cases hlength
  | short =>
    cases key with
    | some k => cases hkey
    | none =>
      have hkey' : key' = none := Option.isNone_iff_eq_none.1 (by
        rw [← Option.not_isSome, ← hmask]; rfl)
      subst hkey'
      cases form' with
      | medium => exact absurd (show (0 : BitVec 7) = 126 from hpayload) (by decide)
      | long => exact absurd (show (0 : BitVec 7) = 127 from hpayload) (by decide)
      | short =>
        have hlen : payload'.length < 126 := fits'
        have hzero : (BitVec.ofNat 7 payload'.length).toNat = 0 := congrArg BitVec.toNat hpayload.symm
        rw [BitVec.toNat_ofNat, Nat.mod_eq_of_lt (by omega)] at hzero
        obtain rfl := List.length_eq_zero_iff.1 hzero
        rfl

theorem not_receives_of_body {init post : List Frame} (hc : f.IsControl) (hbody : f.body ≠ [])
    (hpost : post ≠ [])
    (hinit : ∀ g ∈ init, g.IsControl ∧ g.body = [] ∨ g.IsData ∧ g.fin = false)
    (habs : Absorbs client max {} ((init ++ f :: post).filter (·.IsData)) msg) :
    ∃ g, g.head = f.head ∧ ¬ Receives ε client max (init ++ g :: post) msg := by
  obtain ⟨s', -, hrun⟩ := recv_prefix (ε := ε) hinit habs
  have hcontrol {g : Frame} (hg : g.head = f.head) : g.IsControl := by
    have hop : g.opcode = f.opcode := congrArg WSFrameHead.opcode hg
    rw [Frame.IsControl, hop]
    exact hc
  obtain ⟨y, w, hbytes⟩ : ∃ y w, post.flatMap Frame.bytes = y :: w := by
    obtain ⟨g, post', rfl⟩ := List.exists_cons_of_ne_nil hpost
    exact ⟨_, _, rfl⟩
  rcases exists_body f hbody with ⟨g, w', hg, hzeros⟩ | ⟨g₁, g₂, hg₁, hg₂, hbody₁, hbody₂⟩
  · refine ⟨g, hg, fun hrecv => ?_⟩
    obtain ⟨st, st', hst, hret, -⟩ := recv_body (hcontrol hg) hrun hrecv
    rw [hzeros] at hst
    obtain ⟨st'', hnone⟩ := recv_zeros (ε := ε) client max s' hst
    rw [hnone] at hret
    cases hret
  · by_contra hall
    push Not at hall
    obtain ⟨st₁, st₁', hst₁, hret₁, hend⟩ := recv_body (hcontrol hg₁) hrun (hall g₁ hg₁)
    obtain ⟨st₂, st₂', hst₂, hret₂, -⟩ := recv_body (hcontrol hg₂) hrun (hall g₂ hg₂)
    rw [hbody₁, hbytes] at hst₁
    rw [hbody₂, hbytes] at hst₂
    exact not_both hst₁ hst₂ hret₁ hend hret₂

/-- **A message is received whatever follows the headers of its control frames, iff nothing
    does.** -/
theorem undisturbed_iff (ε : Type) (client : Bool) (max : ℕ) {fs : List Frame} (hfs : Interleaved fs)
    (hmsg : Receives ε client max (fs.filter (·.IsData)) msg) :
    (∀ gs, List.Forall₂ SameHead fs gs → Receives ε client max gs msg) ↔
      ∀ f ∈ fs, f.IsControl → f.body = [] := by
  have habs := absorbs_of_receives hfs hmsg
  constructor
  · intro hall f hf hc
    by_contra hbody
    obtain ⟨init, f, post, rfl, hc, hbody, hpost, hinit⟩ := hfs.first hf hc hbody
    obtain ⟨g, hg, hno⟩ := not_receives_of_body (ε := ε) hc hbody hpost hinit habs
    refine hno (hall _ ?_)
    refine List.rel_append (List.forall₂_same.2 fun h _ => sameHead_refl h) (.cons ?_ ?_)
    · exact ⟨hg.symm, fun hd => (not_isControl hd hc).elim⟩
    · exact List.forall₂_same.2 fun h _ => sameHead_refl h
  · intro hbare gs hgs
    have hall := (List.forall₂_and_left (p := fun f : Frame => f.IsControl ∧ f.body = [] ∨ f.IsData)
      fs gs).2 ⟨fun f hf => (hfs.kinds f hf).imp_left fun hc => ⟨hc, hbare f hf hc⟩, hgs⟩
    have heq : List.Forall₂ (· = ·) fs gs := by
      refine hall.imp ?_
      rintro f g ⟨⟨-, hbody⟩ | hd, hhead, hsame⟩
      · exact (eq_of_bare hbody hhead).symm
      · exact (hsame hd).symm
    obtain rfl : fs = gs := List.forall₂_eq_eq_eq ▸ heq
    exact receives_of_bare hfs habs hbare

/-- A `PING` frame from the server. -/
def ping (payload : List UInt8) (h : payload.length < 126) : Frame where
  opcode := PING
  fin := true
  form := .short
  key := none
  payload := payload
  fits := h

/-- A text frame from the server. -/
def text (payload : List UInt8) (h : payload.length < 126) : Frame where
  opcode := TEXT_FRAME
  fin := true
  form := .short
  key := none
  payload := payload
  fits := h

theorem interleaved_ping_text {p q : List UInt8} (hp : p.length < 126) (hq : q.length < 126) :
    Interleaved [ping p hp, text q hq] := by
  refine ⟨fun f hf => ?_, [ping p hp], text q hq, rfl, .inr (.inl rfl), rfl, fun g hg hd => ?_⟩
  · rcases List.mem_cons.1 hf with rfl | hf
    · exact .inl (.inl rfl)
    · rw [List.mem_singleton.1 hf]
      exact .inr (.inr (.inl rfl))
  · rw [List.mem_singleton.1 hg] at hd
    exact (not_isControl hd (.inl rfl)).elim

theorem receives_text {q : List UInt8} (hq : q.length < 126) (hpos : 0 < q.length) :
    Receives ε true 128 [text q hq] ⟨1, q⟩ := by
  have habs : absorb true 128 {} (text q hq) = some (some (({} : Recv).append (text q hq))) := by
    have hlen : (text q hq).payload.length = q.length := rfl
    have hnil : ({} : Recv).data.length = 0 := rfl
    exact absorb_append rfl (.inl rfl) (by omega) (by omega) (by omega) (by decide)
  intro st rest hst
  rw [List.flatMap_singleton] at hst
  obtain ⟨st', hrecv, hst'⟩ := recv_last (ε := ε) (.inr (.inl rfl)) rfl habs hst
  refine ⟨st', ?_, hst'⟩
  rw [WSRecvMessage_eq, Call.bind_ret hrecv]
  rfl

/-- A text after a `PING` without payload is received. -/
theorem undisturbed_ping : Receives Empty true 128 [ping [] (by decide), text [104] (by decide)]
    ⟨1, [104]⟩ := by
  refine (undisturbed_iff Empty true 128 (interleaved_ping_text (by decide) (by decide))
    (receives_text (by decide) (by decide))).2 (fun f hf hc => ?_) _
    (List.forall₂_same.2 fun f _ => sameHead_refl f)
  rcases List.mem_cons.1 hf with rfl | hf
  · rfl
  · rw [List.mem_singleton.1 hf] at hc
    exact (not_isControl (.inr (.inl rfl)) hc).elim

/-- A text after a `PING` with two zeros is not. -/
theorem not_undisturbed : ¬ ∀ (client : Bool) (max : ℕ) (fs : List Frame) (msg : WSFrameMessage),
    Interleaved fs → Receives Empty client max (fs.filter (·.IsData)) msg →
      Receives Empty client max fs msg := by
  intro hall
  have hrecv := hall true 128 [ping [0, 0] (by decide), text [104] (by decide)] ⟨1, [104]⟩
    (interleaved_ping_text (by decide) (by decide)) (receives_text (by decide) (by decide))
  have hrun : ∀ st w, Stream.Delivers st (([] : List Frame).flatMap Frame.bytes ++ w) → ∃ st',
      (recv true 128 {} : Call Empty Stream _) st = recv true 128 {} st' ∧ Stream.Delivers st' w :=
    fun st w hst => ⟨st, rfl, hst⟩
  obtain ⟨st, st', hst, hret, -⟩ := recv_body (.inl rfl) hrun hrecv
  have hbody : (ping [0, 0] (by decide)).body = [0, 0] := rfl
  rw [hbody] at hst
  obtain ⟨st'', hnone⟩ := recv_zeros (ε := Empty) true 128 {} hst
  rw [hnone] at hret
  cases hret

end Ancfl.Ws
