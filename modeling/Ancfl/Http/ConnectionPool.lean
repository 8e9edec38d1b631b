/-
  `HttpConnectionPool`: the connections that are kept, handed out and released.

  * `getConnection` and `ReleasePtr`; `next` is a call of one of them at a time,
    or the loss of a connection;
  * `Respects`: a connection that is handed out again is fit for use, one that is
    fit when it is released goes back, and `m_total` counts the connections and
    stays within `m_maxSize`;
  * `respects_iff`: all steps of a run do so if and only if each meets `Within`.
-/
import Ancfl.Lib.Run
import Mathlib.Algebra.Order.Ring.Int
import Mathlib.Data.List.TakeWhile
import Mathlib.Tactic.Common

namespace Ancfl.Http

open Lib

/-! ## The pool -/

/-- A connection with what `isConnected` says; `created`, the time it was made at, and `served`, how
    often it was released, are not in the source. -/
structure HttpConnection where
  m_createTime : BitVec 64
  m_request : BitVec 64
  connected : Bool
  created : BitVec 64
  served : ℕ
deriving DecidableEq

namespace HttpConnection

/-- `m_createTime` is never assigned. -/
def new (now : BitVec 64) : HttpConnection := ⟨0#64, 0#64, true, now, 0⟩

def serve (c : HttpConnection) : HttpConnection :=
  { c with m_request := c.m_request + 1#64, served := c.served + 1 }

def disconnect (c : HttpConnection) : HttpConnection := { c with connected := false }

end HttpConnection

structure Limits where
  m_maxSize : BitVec 32
  m_maxAliveTime : BitVec 32
  m_maxRequest : BitVec 32

/-- The pool, with the connections that callers hold and the time of the last call. -/
structure HttpConnectionPool where
  m_conns : List HttpConnection
  m_total : BitVec 32
  handed : List HttpConnection
  clock : BitVec 64
deriving DecidableEq

inductive PoolLabel
  /-- `connect` is whether a new connection can be made -/
  | getConnection (now : BitVec 64) (connect : Bool)
  /-- the last copy of a handed-out connection goes -/
  | ReleasePtr (now : BitVec 64) (i : ℕ)
  | disconnectIdle (i : ℕ)
  | disconnectHanded (i : ℕ)
deriving DecidableEq

namespace HttpConnectionPool

variable (p : Limits)

def empty : HttpConnectionPool := ⟨[], 0#32, [], 0#64⟩

/-- `getConnection` deletes the connection. -/
def invalid (now : BitVec 64) (conn : HttpConnection) : Bool :=
  !conn.connected || conn.m_createTime + p.m_maxAliveTime.setWidth 64 > now

def getConnection (now : BitVec 64) (connect : Bool) (s : HttpConnectionPool) :
    Option HttpConnection × HttpConnectionPool :=
  let invalid_conns := s.m_conns.takeWhile (invalid p now)
  let m_total := s.m_total - BitVec.ofNat 32 invalid_conns.length
  match s.m_conns.dropWhile (invalid p now) with
  | ptr :: m_conns => (some ptr, ⟨m_conns, m_total, s.handed ++ [ptr], now⟩)
  | [] =>
    if connect then
      (some (.new now), ⟨[], m_total + 1#32, s.handed ++ [.new now], now⟩)
    else (none, ⟨[], m_total, s.handed, now⟩)

/-- `ReleasePtr` deletes the connection. -/
def expired (now : BitVec 64) (ptr : HttpConnection) : Bool :=
  !ptr.connected || ptr.m_createTime + p.m_maxAliveTime.setWidth 64 ≥ now ||
    ptr.m_request ≥ p.m_maxRequest.setWidth 64

def ReleasePtr (now : BitVec 64) (i : ℕ) (ptr : HttpConnection) (s : HttpConnectionPool) :
    HttpConnectionPool :=
  let ptr := ptr.serve
  if expired p now ptr then ⟨s.m_conns, s.m_total - 1#32, s.handed.eraseIdx i, now⟩
  else ⟨s.m_conns ++ [ptr], s.m_total, s.handed.eraseIdx i, now⟩

/-- Calls come at times that do not decrease. -/
def next (s : HttpConnectionPool) : PoolLabel → Option HttpConnectionPool
  | .getConnection now connect => if s.clock ≤ now then some (getConnection p now connect s).2 else none
  | .ReleasePtr now i => do
    let ptr ← s.handed[i]?
    if s.clock ≤ now then some (ReleasePtr p now i ptr s) else none
  | .disconnectIdle i => some { s with m_conns := s.m_conns.modify i .disconnect }
  | .disconnectHanded i => some { s with handed := s.handed.modify i .disconnect }

abbrev Step (s : HttpConnectionPool) (l : PoolLabel) (t : HttpConnectionPool) : Prop := next p s l = some t

/-! ## The limits -/

/-- Connected, made at most `m_maxAliveTime` ago, and with requests left. -/
structure Fit (now : BitVec 64) (c : HttpConnection) : Prop where
  connected : c.connected = true
  young : now.toNat ≤ c.created.toNat + p.m_maxAliveTime.toNat
  left : c.served < p.m_maxRequest.toNat

/-- `m_total` counts the idle and the handed-out connections, and stays within `m_maxSize`. -/
structure Counted (s : HttpConnectionPool) : Prop where
  total_eq : s.m_total.toInt = s.m_conns.length + s.handed.length
  total_le : s.m_total.toInt ≤ p.m_maxSize.toNat

/-- The limits are respected by a step. -/
structure Respects (s : HttpConnectionPool) (l : PoolLabel) (t : HttpConnectionPool) : Prop where
  /-- a connection that is handed out again is fit -/
  fit : ∀ now connect c, l = .getConnection now connect → c ∈ s.m_conns → t.handed = s.handed ++ [c] →
    Fit p now c
  /-- a connection that is fit when it is released goes back -/
  back : ∀ now i c, l = .ReleasePtr now i → s.handed[i]? = some c → Fit p now c.serve →
    t.m_conns = s.m_conns ++ [c.serve]
  counted : Counted p t

/-- There is room for one connection more, if no other is idle. -/
def Room (s : HttpConnectionPool) : Prop :=
  s.handed.length < p.m_maxSize.toNat ∧ s.handed.length + 1 < 2 ^ 31

/-- The first idle connection that is connected is young; else, or if the clock is before `m_maxAliveTime`,
    there is room for a new one. A connection that is fit is released after that time. -/
def Within (s : HttpConnectionPool) : PoolLabel → Prop
  | .getConnection now connect =>
    match s.m_conns.find? fun c => c.connected && p.m_maxAliveTime.toNat ≤ now.toNat with
    | some c => now.toNat ≤ c.created.toNat + p.m_maxAliveTime.toNat
    | none => connect = true → Room p s
  | .ReleasePtr now i => ∀ c, s.handed[i]? = some c → Fit p now c.serve → p.m_maxAliveTime.toNat < now.toNat
  | _ => True

/-! ## The invariant -/

/-- How many connections there are. -/
def size (s : HttpConnectionPool) : ℕ := s.m_conns.length + s.handed.length

/-- The fields of a connection. -/
structure Sound (c : HttpConnection) : Prop where
  createTime_eq : c.m_createTime = 0#64
  request_eq : c.m_request.toNat = c.served
  served_le : c.served ≤ p.m_maxRequest.toNat

/-- An idle connection has served a request, and has requests left. -/
structure Idle (c : HttpConnection) : Prop where
  sound : Sound p c
  pos : 0 < c.served
  lt : c.served < p.m_maxRequest.toNat

structure Inv (s : HttpConnectionPool) : Prop where
  idle : ∀ c ∈ s.m_conns, Idle p c
  handed : ∀ c ∈ s.handed, Sound p c
  total_eq : s.m_total = BitVec.ofNat 32 s.size

section
variable {p} {s t : HttpConnectionPool} {c : HttpConnection} {now : BitVec 64} {i : ℕ}

theorem counted_iff (h : s.m_total = BitVec.ofNat 32 s.size) :
    Counted p s ↔ s.size ≤ p.m_maxSize.toNat ∧ s.size < 2 ^ 31 := by
  have hmax := p.m_maxSize.isLt
  have hint : s.m_total.toInt = Int.bmod s.size (2 ^ 32) := by rw [h, BitVec.toInt_ofNat']
  have hsize : (s.size : ℤ) = s.m_conns.length + s.handed.length := Nat.cast_add _ _
  constructor
  · intro ⟨heq, hle⟩
    rw [← hsize] at heq
    rw [heq] at hle hint
    rw [Int.bmod_def] at hint
    split_ifs at hint <;> omega
  · intro ⟨hle, hlt⟩
    have hbmod : Int.bmod s.size (2 ^ 32) = s.size := Int.bmod_eq_of_le (by omega) (by omega)
    rw [hbmod] at hint
    exact ⟨hint.trans hsize, hint.trans_le (by omega)⟩

theorem toNat_widen (x : BitVec 32) : (x.setWidth 64).toNat = x.toNat := by
  have := x.isLt
  rw [BitVec.toNat_setWidth]
  omega

theorem Sound.request_serve (h : Sound p c) : (c.m_request + 1#64).toNat = c.served + 1 := by
  have hmax := p.m_maxRequest.isLt
  have hreq := h.request_eq
  have hle := h.served_le
  rw [BitVec.toNat_add, BitVec.toNat_ofNat]
  omega

theorem Sound.invalid_iff (h : Sound p c) :
    invalid p now c = false ↔ c.connected = true ∧ p.m_maxAliveTime.toNat ≤ now.toNat := by
  rw [invalid, h.createTime_eq, BitVec.zero_add, Bool.or_eq_false_iff, Bool.not_eq_false',
    decide_eq_false_iff_not,
    gt_iff_lt, BitVec.not_lt, BitVec.le_def, toNat_widen]

theorem Sound.serve (h : Sound p c) (hlt : c.served < p.m_maxRequest.toNat) : Sound p c.serve :=
  ⟨h.createTime_eq, h.request_serve, hlt⟩

/-- A connection that is released is kept if it is connected and has requests left, after
    `m_maxAliveTime`. -/
theorem Sound.expired_iff (h : Sound p c) : expired p now c.serve = false ↔
    c.connected = true ∧ p.m_maxAliveTime.toNat < now.toNat ∧ c.served + 1 < p.m_maxRequest.toNat := by
  have hserve := h.request_serve
  rw [expired, Bool.or_eq_false_iff, Bool.or_eq_false_iff, Bool.not_eq_false', decide_eq_false_iff_not,
    decide_eq_false_iff_not, ge_iff_le, ge_iff_le, BitVec.not_le, BitVec.not_le, BitVec.lt_def, BitVec.lt_def,
    toNat_widen, and_assoc]
  show c.connected = true ∧ (c.m_createTime + _).toNat < now.toNat ∧ (c.m_request + 1#64).toNat < _ ↔ _
  rw [h.createTime_eq, BitVec.zero_add, toNat_widen, hserve]

/-- What `getConnection` does: it takes the first connection that is not invalid, or makes one. -/
theorem getConnection_cases (h : Inv p s) (now : BitVec 64) (connect : Bool) :
    (∃ dead c rest, s.m_conns = dead ++ c :: rest ∧
      (s.m_conns.find? fun c => c.connected && p.m_maxAliveTime.toNat ≤ now.toNat) = some c ∧
      (getConnection p now connect s).2 =
        ⟨rest, s.m_total - BitVec.ofNat 32 dead.length, s.handed ++ [c], now⟩) ∨
    (s.m_conns.find? fun c => c.connected && p.m_maxAliveTime.toNat ≤ now.toNat) = none ∧
      (getConnection p now connect s).2 =
        if connect then ⟨[], s.m_total - BitVec.ofNat 32 s.m_conns.length + 1#32, s.handed ++ [.new now], now⟩
        else ⟨[], s.m_total - BitVec.ofNat 32 s.m_conns.length, s.handed, now⟩ := by
  have hsplit := List.takeWhile_append_dropWhile (p := invalid p now) (l := s.m_conns)
  have hinvalid : ∀ c ∈ s.m_conns,
      (c.connected && decide (p.m_maxAliveTime.toNat ≤ now.toNat)) = !invalid p now c := by
    intro c hc
    rw [Bool.eq_iff_iff, Bool.and_eq_true, decide_eq_true_iff, Bool.not_eq_true',
      (h.idle c hc).sound.invalid_iff]
  cases hdrop : s.m_conns.dropWhile (invalid p now) with
  | nil =>
    refine .inr ⟨?_, ?_⟩
    · rw [List.find?_eq_none]
      intro c hc
      have := List.dropWhile_eq_nil_iff.1 hdrop c hc
      rw [hinvalid c hc, this]
      decide
    · rw [hdrop, List.append_nil] at hsplit
      rw [getConnection, hdrop, hsplit]
      cases connect
      · rfl
      · rfl
  | cons c rest =>
    rw [hdrop] at hsplit
    refine .inl ⟨_, c, rest, hsplit.symm, ?_, ?_⟩
    · have hhead := List.head?_dropWhile_not (invalid p now) s.m_conns
      rw [hdrop, List.head?_cons] at hhead
      have hmem : ∀ d ∈ s.m_conns.takeWhile (invalid p now) ++ c :: rest, d ∈ s.m_conns :=
        fun d hd => hsplit ▸ hd
      refine List.find?_eq_some_iff_append.2 ⟨?_, _, rest, hsplit.symm, fun d hd => ?_⟩
      · rw [hinvalid c (hmem c (by simp)), hhead]
        rfl
      · rw [hinvalid d (hmem d (by simp [hd])), List.mem_takeWhile_imp hd]
        rfl
    · rw [getConnection, hdrop]

theorem ofNat_sub {a b : ℕ} (h : b ≤ a) :
    BitVec.ofNat 32 a - BitVec.ofNat 32 b = BitVec.ofNat 32 (a - b) := by
  obtain ⟨k, rfl⟩ := Nat.exists_eq_add_of_le h
  rw [Nat.add_sub_cancel_left, Nat.add_comm, BitVec.ofNat_add, BitVec.add_sub_cancel]

theorem mem_modify {f : HttpConnection → HttpConnection} {l : List HttpConnection} (h : c ∈ l.modify i f) :
    ∃ d ∈ l, c = d ∨ c = f d := by
  obtain ⟨j, hj⟩ := List.mem_iff_getElem?.1 h
  rw [List.getElem?_modify] at hj
  obtain ⟨d, hd, heq⟩ := Option.map_eq_some_iff.1 hj
  refine ⟨d, List.mem_of_getElem? hd, ?_⟩
  split_ifs at heq
  · exact .inr heq.symm
  · exact .inl heq.symm

theorem Sound.disconnect (h : Sound p c) : Sound p c.disconnect :=
  ⟨h.createTime_eq, h.request_eq, h.served_le⟩

theorem sound_new (now : BitVec 64) : Sound p (.new now) := ⟨rfl, rfl, Nat.zero_le _⟩

theorem Inv.getConnection (h : Inv p s) (now : BitVec 64) (connect : Bool) :
    Inv p (getConnection p now connect s).2 := by
  rcases getConnection_cases h now connect with ⟨dead, c, rest, hconns, -, heq⟩ | ⟨-, heq⟩
  · have hmem : ∀ d ∈ c :: rest, Idle p d :=
      fun d hd => h.idle d (by rw [hconns]; exact List.mem_append_right _ hd)
    rw [heq]
    refine ⟨fun d hd => hmem d (List.mem_cons_of_mem _ hd), fun d hd => ?_, ?_⟩
    · rcases List.mem_append.1 hd with hd | hd
      · exact h.handed d hd
      · rw [List.mem_singleton.1 hd]
        exact (hmem c List.mem_cons_self).sound
    · have hsize : s.size = dead.length + (rest.length + 1) + s.handed.length := by
        rw [size, hconns, List.length_append, List.length_cons]
      show s.m_total - BitVec.ofNat 32 dead.length = BitVec.ofNat 32 (rest.length + (s.handed ++ [c]).length)
      rw [h.total_eq, ofNat_sub (by omega), List.length_append, List.length_singleton]
      congr 1
      omega
  · have hrest : s.m_total - BitVec.ofNat 32 s.m_conns.length = BitVec.ofNat 32 s.handed.length := by
      rw [h.total_eq, size, ofNat_sub (Nat.le_add_right _ _), Nat.add_sub_cancel_left]
    rw [heq]
    split_ifs with hconnect
    · refine ⟨fun d hd => absurd hd List.not_mem_nil, fun d hd => ?_, ?_⟩
      · rcases List.mem_append.1 hd with hd | hd
        · exact h.handed d hd
        · rw [List.mem_singleton.1 hd]
          exact sound_new now
      · show s.m_total - BitVec.ofNat 32 s.m_conns.length + 1#32 =
          BitVec.ofNat 32 (0 + (s.handed ++ [_]).length)
        rw [hrest, List.length_append, List.length_singleton, Nat.zero_add, BitVec.ofNat_add]
    · refine ⟨fun d hd => absurd hd List.not_mem_nil, h.handed, ?_⟩
      show s.m_total - BitVec.ofNat 32 s.m_conns.length = BitVec.ofNat 32 (0 + s.handed.length)
      rw [hrest, Nat.zero_add]

theorem Inv.releasePtr (h : Inv p s) (now : BitVec 64) (hi : s.handed[i]? = some c) :
    Inv p (ReleasePtr p now i c s) := by
  have hc := h.handed c (List.mem_of_getElem? hi)
  have hlt := (List.getElem?_eq_some_iff.1 hi).1
  have hlen := List.length_eraseIdx_of_lt hlt
  have hhanded : ∀ d ∈ s.handed.eraseIdx i, Sound p d := fun d hd => h.handed d (List.mem_of_mem_eraseIdx hd)
  rw [ReleasePtr]
  cases hexpired : expired p now c.serve with
  | true =>
    refine ⟨h.idle, hhanded, ?_⟩
    show s.m_total - BitVec.ofNat 32 1 = BitVec.ofNat 32 (s.m_conns.length + (s.handed.eraseIdx i).length)
    rw [h.total_eq, size, ofNat_sub (by omega), hlen]
    congr 1
    omega
  | false =>
    obtain ⟨-, -, hleft⟩ := hc.expired_iff.1 hexpired
    refine ⟨fun d hd => ?_, hhanded, ?_⟩
    · rcases List.mem_append.1 hd with hd | hd
      · exact h.idle d hd
      · rw [List.mem_singleton.1 hd]
        exact ⟨hc.serve (by omega), Nat.succ_pos _, hleft⟩
    · show s.m_total = BitVec.ofNat 32 ((s.m_conns ++ [c.serve]).length + (s.handed.eraseIdx i).length)
      rw [h.total_eq, size, hlen, List.length_append, List.length_singleton]
      congr 1
      omega

/-- Every step keeps the invariant. -/
theorem Inv.step {l : PoolLabel} (h : Inv p s) (hstep : Step p s l t) : Inv p t := by
  cases l with
  | getConnection now connect =>
    obtain ⟨-, hst⟩ := Option.ite_none_right_eq_some.1 hstep
    exact Option.some.inj hst ▸ h.getConnection now connect
  | ReleasePtr now i =>
    obtain ⟨c, hc, hst⟩ := Option.bind_eq_some_iff.1 hstep
    obtain ⟨-, hst⟩ := Option.ite_none_right_eq_some.1 hst
    exact Option.some.inj hst ▸ h.releasePtr now hc
  | disconnectIdle i =>
    obtain rfl := Option.some.inj hstep
    refine ⟨fun c hc => ?_, h.handed, ?_⟩
    · obtain ⟨d, hd, rfl | rfl⟩ := mem_modify hc
      · exact h.idle c hd
      · exact ⟨(h.idle d hd).sound.disconnect, (h.idle d hd).pos, (h.idle d hd).lt⟩
    · show s.m_total = BitVec.ofNat 32 ((s.m_conns.modify i _).length + _)
      rw [List.length_modify]
      exact h.total_eq
  | disconnectHanded i =>
    obtain rfl := Option.some.inj hstep
    refine ⟨h.idle, fun c hc => ?_, ?_⟩
    · obtain ⟨d, hd, rfl | rfl⟩ := mem_modify hc
      · exact h.handed c hd
      · exact (h.handed d hd).disconnect
    · show s.m_total = BitVec.ofNat 32 (_ + (s.handed.modify i _).length)
      rw [List.length_modify]
      exact h.total_eq

/-! ## Steps within the limits -/

theorem respects_getConnection (h : Inv p s) (hcount : Counted p s) (connect : Bool) :
    Respects p s (.getConnection now connect) (getConnection p now connect s).2 ↔
      Within p s (.getConnection now connect) := by
  have hle := ((counted_iff h.total_eq).1 hcount)
  have hinv := h.getConnection now connect
  rcases getConnection_cases h now connect with ⟨dead, c, rest, hconns, hfind, heq⟩ | ⟨hfind, heq⟩
  · have hc : c ∈ s.m_conns := hconns ▸ List.mem_append_right _ List.mem_cons_self
    rw [heq] at hinv
    simp only [heq, Within, hfind]
    constructor
    · intro hr
      exact (hr.fit now connect c rfl hc rfl).young
    · intro hyoung
      refine ⟨fun now' connect' d hl hd hhanded => ?_, fun _ _ _ hl => (nomatch hl), ?_⟩
      · obtain ⟨rfl, rfl⟩ := PoolLabel.getConnection.inj hl
        obtain rfl : c = d := List.singleton_inj.1 (List.append_cancel_left hhanded)
        have hconnected := List.find?_some hfind
        rw [Bool.and_eq_true] at hconnected
        exact ⟨hconnected.1, hyoung, (h.idle c hc).lt⟩
      · refine (counted_iff hinv.total_eq).2 ?_
        have hsize : s.size = dead.length + (rest.length + 1) + s.handed.length := by
          rw [size, hconns, List.length_append, List.length_cons]
        have hsize' : size ⟨rest, s.m_total - BitVec.ofNat 32 dead.length, s.handed ++ [c], now⟩ =
            rest.length + (s.handed.length + 1) := by
          rw [size, List.length_append, List.length_singleton]
        omega
  · cases connect with
    | false =>
      have heq' : (getConnection p now false s).2 =
          ⟨[], s.m_total - BitVec.ofNat 32 s.m_conns.length, s.handed, now⟩ := heq
      rw [heq'] at hinv
      simp only [heq', Within, hfind]
      refine iff_of_true ⟨fun _ _ d _ _ hhanded => ?_, fun _ _ _ hl => (nomatch hl), ?_⟩ (fun h => nomatch h)
      · have hlen := congrArg List.length hhanded
        rw [List.length_append, List.length_singleton] at hlen
        exact absurd hlen (Nat.ne_of_lt (Nat.lt_succ_self _))
      · refine (counted_iff hinv.total_eq).2 ?_
        have hsize : s.size = s.m_conns.length + s.handed.length := rfl
        have hsize' :
            size ⟨[], s.m_total - BitVec.ofNat 32 s.m_conns.length, s.handed, now⟩ = s.handed.length :=
          Nat.zero_add _
        exact ⟨by omega, by omega⟩
    | true =>
      have heq' : (getConnection p now true s).2 =
          ⟨[], s.m_total - BitVec.ofNat 32 s.m_conns.length + 1#32, s.handed ++ [.new now], now⟩ := heq
      rw [heq'] at hinv
      simp only [heq', Within, hfind]
      have hsize :
          size ⟨[], s.m_total - BitVec.ofNat 32 s.m_conns.length + 1#32, s.handed ++ [.new now], now⟩ =
          s.handed.length + 1 := by
        rw [size, List.length_append, List.length_singleton]
        exact Nat.zero_add _
      have hroom : Counted p ⟨[], s.m_total - BitVec.ofNat 32 s.m_conns.length + 1#32,
          s.handed ++ [.new now], now⟩ ↔ Room p s := by
        rw [counted_iff hinv.total_eq, hsize]
        rfl
      constructor
      · intro hr _
        exact hroom.1 hr.counted
      · intro hr
        refine ⟨fun _ _ d _ hd hhanded => ?_, fun _ _ _ hl => (nomatch hl), hroom.2 (hr trivial)⟩
        -- an idle connection has served, a new one has not
        obtain rfl : HttpConnection.new now = d := List.singleton_inj.1 (List.append_cancel_left hhanded)
        exact absurd (h.idle _ hd).pos (Nat.lt_irrefl 0)

theorem respects_releasePtr (h : Inv p s) (hcount : Counted p s) (hi : s.handed[i]? = some c) :
    Respects p s (.ReleasePtr now i) (ReleasePtr p now i c s) ↔ Within p s (.ReleasePtr now i) := by
  have hle := (counted_iff h.total_eq).1 hcount
  have hinv := h.releasePtr now hi
  have hc := h.handed c (List.mem_of_getElem? hi)
  have hlen := List.length_eraseIdx_of_lt (List.getElem?_eq_some_iff.1 hi).1
  have hlt := (List.getElem?_eq_some_iff.1 hi).1
  have hsize : s.size = s.m_conns.length + s.handed.length := rfl
  have hcounted : Counted p (ReleasePtr p now i c s) := by
    refine (counted_iff hinv.total_eq).2 ?_
    have hsize' : size (ReleasePtr p now i c s) ≤ s.size := by
      rw [ReleasePtr]
      cases expired p now c.serve
      · show (s.m_conns ++ [c.serve]).length + (s.handed.eraseIdx i).length ≤ _
        rw [List.length_append, List.length_singleton]
        omega
      · show s.m_conns.length + (s.handed.eraseIdx i).length ≤ _
        omega
    exact ⟨by omega, by omega⟩
  have hkept : (ReleasePtr p now i c s).m_conns = s.m_conns ++ [c.serve] ↔ expired p now c.serve = false := by
    rw [ReleasePtr]
    cases expired p now c.serve with
    | false => exact iff_of_true rfl rfl
    | true =>
      refine iff_of_false (fun heq => ?_) (fun h => nomatch h)
      have hcons : s.m_conns.length = (s.m_conns ++ [c.serve]).length := congrArg List.length heq
      rw [List.length_append, List.length_singleton] at hcons
      omega
  constructor
  · intro hr d hd hfit
    obtain rfl := Option.some.inj (hi.symm.trans hd)
    exact (hc.expired_iff.1 (hkept.1 (hr.back now i c rfl hi hfit))).2.1
  · intro hw
    refine ⟨fun _ _ _ hl => (nomatch hl), fun now' i' d hl hd hfit => ?_, hcounted⟩
    obtain ⟨rfl, rfl⟩ := PoolLabel.ReleasePtr.inj hl
    obtain rfl := Option.some.inj (hi.symm.trans hd)
    exact hkept.2 (hc.expired_iff.2 ⟨hfit.connected, hw c hi hfit, hfit.left⟩)

/-- **One step.** -/
theorem respects_step {l : PoolLabel} (h : Inv p s) (hcount : Counted p s) (hstep : Step p s l t) :
    Respects p s l t ↔ Within p s l := by
  cases l with
  | getConnection now connect =>
    obtain ⟨-, hst⟩ := Option.ite_none_right_eq_some.1 hstep
    exact Option.some.inj hst ▸ respects_getConnection h hcount connect
  | ReleasePtr now i =>
    obtain ⟨c, hc, hst⟩ := Option.bind_eq_some_iff.1 hstep
    obtain ⟨-, hst⟩ := Option.ite_none_right_eq_some.1 hst
    exact Option.some.inj hst ▸ respects_releasePtr h hcount hc
  | disconnectIdle i =>
    obtain rfl := Option.some.inj hstep
    refine iff_of_true
      ⟨fun _ _ _ hl => (nomatch hl), fun _ _ _ hl => (nomatch hl), ?_, hcount.total_le⟩ trivial
    show s.m_total.toInt = (s.m_conns.modify i _).length + _
    rw [List.length_modify]
    exact hcount.total_eq
  | disconnectHanded i =>
    obtain rfl := Option.some.inj hstep
    refine iff_of_true
      ⟨fun _ _ _ hl => (nomatch hl), fun _ _ _ hl => (nomatch hl), ?_, hcount.total_le⟩ trivial
    show s.m_total.toInt = _ + (s.handed.modify i _).length
    rw [List.length_modify]
    exact hcount.total_eq

end

/-- **The limits are respected in a run** if and only if each step is within them. -/
theorem respects_iff {p : Limits} {t : HttpConnectionPool} {ls : List PoolLabel} :
    Run (fun s l t => Step p s l t ∧ Respects p s l t) empty ls t ↔
      Run (fun s l t => Step p s l t ∧ Within p s l) empty ls t := by
  refine Run.and_iff_and (I := fun s => Inv p s ∧ Counted p s)
    (fun s l t hs hstep hr => ⟨hs.1.step hstep, hr.counted⟩)
    (fun s l t hs hstep => respects_step hs.1 hs.2 hstep) ⟨⟨?_, ?_, rfl⟩, rfl, Int.natCast_nonneg _⟩
  · exact fun c hc => absurd hc List.not_mem_nil
  · exact fun c hc => absurd hc List.not_mem_nil

/-- A connection that is older than `m_maxAliveTime` is handed out again. -/
theorem not_respects : ¬∀ (p : Limits) (ls : List PoolLabel) (t : HttpConnectionPool),
    Run (Step p) empty ls t → Run (fun s l t => Step p s l t ∧ Respects p s l t) empty ls t := by
  intro h
  have hrun : Run (Step ⟨5, 10, 3⟩) empty
      ([.getConnection 100 true, .ReleasePtr 110 0] ++ [.getConnection 200 true])
      ⟨[], 1, [⟨0, 1, true, 100, 1⟩], 200⟩ := Run.of_foldlM (by decide)
  obtain ⟨s, hfirst, -, hlast⟩ := Run.snoc_iff.1 (h _ _ _ hrun)
  have hs := Run.foldlM_eq (hfirst.mono fun _ _ _ hstep => hstep.1)
  obtain rfl : s = ⟨[⟨0, 1, true, 100, 1⟩], 1, [], 110⟩ := Option.some.inj (hs.symm.trans (by decide))
  have hfit := hlast.fit 200 true ⟨0, 1, true, 100, 1⟩ rfl List.mem_cons_self rfl
  exact absurd hfit.young (by decide)

end HttpConnectionPool

end Ancfl.Http
