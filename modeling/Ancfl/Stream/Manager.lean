/-
  `AsyncSocketStreamManager`: the streams of a service and their callbacks.

  * `Sys`: the manager beside the streams, which it has pointers to; `next` is
    a call of `add`, `clear`, `setConnection`, `setConnectCb` or
    `setDisconnectCb`;
  * `carries_of_given`: every managed stream has the callbacks that are set, in
    a run in which `setConnection` is not called with a disconnect callback
    alone, or only with streams that have it.
-/
import Ancfl.Lib.Run
import Mathlib.Algebra.Group.Nat.Defs
import Mathlib.Logic.Function.Basic

namespace Ancfl.AsyncSocketStreamManager

open Lib

/-! ## The manager -/

/-- `C` and `D` are the connect and disconnect callbacks; `none` is an empty `std::function`. -/
structure AsyncSocketStream (C D : Type) where
  m_connectCb : Option C := none
  m_disconnectCb : Option D := none
  m_autoConnect : Bool := false
  isConnected : Bool := true

namespace AsyncSocketStream

variable {C D : Type}

def setConnectCb (v : Option C) (i : AsyncSocketStream C D) : AsyncSocketStream C D :=
  { i with m_connectCb := v }

def setDisconnectCb (v : Option D) (i : AsyncSocketStream C D) : AsyncSocketStream C D :=
  { i with m_disconnectCb := v }

def close (i : AsyncSocketStream C D) : AsyncSocketStream C D :=
  { i with m_autoConnect := false, isConnected := false }

end AsyncSocketStream

/-- `streams` are the objects that the pointers `S` point to. -/
structure Sys (S C D : Type) where
  m_size : BitVec 32
  m_datas : List S
  m_connectCb : Option C
  m_disconnectCb : Option D
  streams : S → AsyncSocketStream C D

inductive Label (S C D : Type)
  | add (stream : S)
  | clear
  | setConnection (streams : List S)
  | setConnectCb (v : Option C)
  | setDisconnectCb (v : Option D)

variable {S C D : Type}

def init (streams : S → AsyncSocketStream C D) : Sys S C D := ⟨0, [], none, none, streams⟩

section
variable [DecidableEq S]

/-- The stream at a pointer is changed. -/
def update (f : AsyncSocketStream C D → AsyncSocketStream C D) (s : Sys S C D) (i : S) : Sys S C D :=
  { s with streams := Function.update s.streams i (f (s.streams i)) }

/-- What `add` does with the stream. -/
def adopt (m_connectCb : Option C) (m_disconnectCb : Option D) (stream : AsyncSocketStream C D) :
    AsyncSocketStream C D :=
  let stream := if m_connectCb.isSome then stream.setConnectCb m_connectCb else stream
  if m_disconnectCb.isSome then stream.setDisconnectCb m_disconnectCb else stream

def add (stream : S) (s : Sys S C D) : Sys S C D :=
  let s := { s with m_datas := s.m_datas ++ [stream], m_size := s.m_size + 1 }
  update (adopt s.m_connectCb s.m_disconnectCb) s stream

def clear (s : Sys S C D) : Sys S C D :=
  { s.m_datas.foldl (update (·.close)) s with m_datas := [], m_size := 0 }

/-- What `setConnection` does with a stream: both callbacks are behind a test of `m_connectCb`. -/
def connect (m_connectCb : Option C) (m_disconnectCb : Option D) (i : AsyncSocketStream C D) :
    AsyncSocketStream C D :=
  let i := if m_connectCb.isSome then i.setConnectCb m_connectCb else i
  if m_connectCb.isSome then i.setDisconnectCb m_disconnectCb else i

def setConnection (streams : List S) (s : Sys S C D) : Sys S C D :=
  let cs := s.m_datas
  let s := { s with m_datas := streams, m_size := BitVec.ofNat 32 streams.length }
  let s :=
    if s.m_connectCb.isSome || s.m_disconnectCb.isSome then
      s.m_datas.foldl (update (connect s.m_connectCb s.m_disconnectCb)) s
    else s
  cs.foldl (update (·.close)) s

def next (s : Sys S C D) : Label S C D → Sys S C D
  | .add stream => add stream s
  | .clear => clear s
  | .setConnection streams => setConnection streams s
  | .setConnectCb v => s.m_datas.foldl (update (·.setConnectCb v)) { s with m_connectCb := v }
  | .setDisconnectCb v =>
    s.m_datas.foldl (update (·.setDisconnectCb v)) { s with m_disconnectCb := v }

def step (s : Sys S C D) (l : Label S C D) (s' : Sys S C D) : Prop := next s l = s'

end

/-! ## What is to hold, and when -/

/-- A stream has the callbacks of the manager that are set. -/
def Has (s : Sys S C D) (i : S) : Prop :=
  (∀ cb, s.m_connectCb = some cb → (s.streams i).m_connectCb = some cb) ∧
    ∀ cb, s.m_disconnectCb = some cb → (s.streams i).m_disconnectCb = some cb

/-- The size is that of the list, and every managed stream has the callbacks. -/
def Carries (s : Sys S C D) : Prop := s.m_size.toNat = s.m_datas.length ∧ ∀ i ∈ s.m_datas, Has s i

/-- There are fewer than 2^32 streams, and `setConnection` finds a connect callback, no disconnect
    callback, or only streams that have it. -/
def Given (s : Sys S C D) : Label S C D → Prop
  | .add _ => s.m_datas.length + 1 < 2 ^ 32
  | .setConnection streams => streams.length < 2 ^ 32 ∧
    (s.m_connectCb = none → ∀ cb, s.m_disconnectCb = some cb →
      ∀ i ∈ streams, (s.streams i).m_disconnectCb = some cb)
  | _ => True

/-! ## Loops over streams -/

section
variable [DecidableEq S] {f : AsyncSocketStream C D → AsyncSocketStream C D} {s : Sys S C D}

/-- A loop changes the streams that it visits, and nothing else. -/
theorem foldl_update (hidem : ∀ x, f (f x) = f x) (l : List S) (s : Sys S C D) :
    l.foldl (update f) s =
      { s with streams := fun j => if j ∈ l then f (s.streams j) else s.streams j } := by
  induction l generalizing s with
  | nil => simp
  | cons i l ih =>
    rw [List.foldl_cons, ih]
    congr 1
    funext j
    by_cases hj : j = i
    · subst hj
      by_cases hl : j ∈ l <;> simp [update, hl, hidem]
    · simp [update, hj]

theorem foldl_close (l : List S) (s : Sys S C D) : l.foldl (update (·.close)) s =
    { s with streams := fun j => if j ∈ l then (s.streams j).close else s.streams j } :=
  foldl_update (f := (·.close)) (fun _ => rfl) l s

/-- To close streams does not change what they carry. -/
theorem has_close (l : List S) (i : S) : Has (l.foldl (update (·.close)) s) i ↔ Has s i := by
  rw [foldl_close]
  by_cases hi : i ∈ l <;> simp [Has, hi, AsyncSocketStream.close]

omit [DecidableEq S] in
/-- What is given to a stream that is added. -/
theorem has_adopt (s : Sys S C D) (i : S) :
    (∀ cb, s.m_connectCb = some cb →
      (adopt s.m_connectCb s.m_disconnectCb (s.streams i)).m_connectCb = some cb) ∧
    ∀ cb, s.m_disconnectCb = some cb →
      (adopt s.m_connectCb s.m_disconnectCb (s.streams i)).m_disconnectCb = some cb := by
  cases hc : s.m_connectCb <;> cases hd : s.m_disconnectCb <;>
    simp [adopt, AsyncSocketStream.setConnectCb, AsyncSocketStream.setDisconnectCb]

theorem carries_add {stream : S} (hsize : s.m_datas.length + 1 < 2 ^ 32) (h : Carries s) :
    Carries (add stream s) := by
  refine ⟨?_, fun i hi => ?_⟩
  · simp only [add, update, BitVec.toNat_add, h.1, List.length_append, List.length_singleton]
    exact Nat.mod_eq_of_lt hsize
  · by_cases heq : i = stream
    · subst heq
      simpa [Has, add, update] using has_adopt s i
    · have hmem : i ∈ s.m_datas := by simpa [add, update, heq] using hi
      simpa [Has, add, update, heq] using h.2 i hmem

/-- The streams of `setConnection` have both callbacks, or what they had before. -/
theorem has_setConnection {streams : List S} (hgiven : Given s (.setConnection streams)) {i : S}
    (hi : i ∈ streams) : Has (setConnection streams s) i := by
  rw [setConnection, has_close]
  cases hconnect : s.m_connectCb with
  | some cb =>
    rw [Option.isSome_some, Bool.true_or, if_pos rfl,
      foldl_update (f := connect (some cb) s.m_disconnectCb) fun _ => rfl]
    simp [Has, hi, connect, AsyncSocketStream.setConnectCb, AsyncSocketStream.setDisconnectCb]
  | none =>
    have hloop := foldl_update (f := connect (none : Option C) s.m_disconnectCb) (fun _ => rfl) streams
    cases hdisconnect : s.m_disconnectCb with
    | none => simp [Has]
    | some cb =>
      rw [hdisconnect] at hloop
      rw [Option.isSome_none, Option.isSome_some, Bool.or_true, if_pos rfl, hloop]
      simpa [Has, hi, hconnect, hdisconnect, connect] using hgiven.2 hconnect cb hdisconnect i hi

theorem carries_setConnection {streams : List S} (hgiven : Given s (.setConnection streams)) :
    Carries (setConnection streams s) := by
  have hfields : (setConnection streams s).m_size = BitVec.ofNat 32 streams.length ∧
      (setConnection streams s).m_datas = streams := by
    have hidem (c : Option C) (d : Option D) (x : AsyncSocketStream C D) :
        connect c d (connect c d x) = connect c d x := by
      cases c <;> rfl
    rw [setConnection, foldl_close]
    dsimp only
    split_ifs
    · rw [foldl_update (hidem _ _)]
      exact ⟨rfl, rfl⟩
    · exact ⟨rfl, rfl⟩
  refine ⟨?_, fun i hi => has_setConnection hgiven (hfields.2 ▸ hi)⟩
  rw [hfields.1, hfields.2, BitVec.toNat_ofNat]
  exact Nat.mod_eq_of_lt hgiven.1

theorem carries_next {l : Label S C D} (hgiven : Given s l) (h : Carries s) : Carries (next s l) := by
  cases l with
  | add stream => exact carries_add hgiven h
  | clear => exact ⟨by simp [next, clear, foldl_close], fun i hi => by simp [next, clear] at hi⟩
  | setConnection streams => exact carries_setConnection hgiven
  | setConnectCb v =>
    rw [next, foldl_update (f := (·.setConnectCb v)) fun _ => rfl]
    refine ⟨h.1, fun i hi => ?_⟩
    have hi : i ∈ s.m_datas := hi
    simpa [Has, hi, AsyncSocketStream.setConnectCb] using (h.2 i hi).2
  | setDisconnectCb v =>
    rw [next, foldl_update (f := (·.setDisconnectCb v)) fun _ => rfl]
    refine ⟨h.1, fun i hi => ?_⟩
    have hi : i ∈ s.m_datas := hi
    simpa [Has, hi, AsyncSocketStream.setDisconnectCb] using (h.2 i hi).1

omit [DecidableEq S] in
theorem carries_init (streams : S → AsyncSocketStream C D) : Carries (init streams) :=
  ⟨rfl, fun i hi => by simp [init] at hi⟩

/-- **The managed streams carry the callbacks** in a run in which there are fewer than 2^32 streams, and
    `setConnection` does not meet a disconnect callback alone. -/
theorem carries_of_given {streams : S → AsyncSocketStream C D} {ls : List (Label S C D)}
    (hrun : Run (fun s l s' => Given s l ∧ step s l s') (init streams) ls s) : Carries s :=
  hrun.invariant (P := Carries) (fun _ _ _ h hs => hs.2 ▸ carries_next hs.1 h) (carries_init streams)

end

/-- Both callbacks are set before the streams come. -/
theorem carries_both : ∃ s : Sys ℕ ℕ ℕ, Run step (init fun _ => {})
    [.setConnectCb (some 1), .setDisconnectCb (some 2), .setConnection [7, 8]] s ∧
      s.m_datas = [7, 8] ∧ Carries s := by
  obtain ⟨s, hrun, hdatas⟩ : ∃ s : Sys ℕ ℕ ℕ,
      Run (fun s l s' => Given s l ∧ step s l s') (init fun _ => {})
        [.setConnectCb (some 1), .setDisconnectCb (some 2), .setConnection [7, 8]] s ∧
        s.m_datas = [7, 8] :=
    ⟨_, .cons ⟨trivial, rfl⟩ (.cons ⟨trivial, rfl⟩ (.cons ⟨⟨by decide, nofun⟩, rfl⟩ (.nil _))), rfl⟩
  exact ⟨s, hrun.mono fun _ _ _ h => h.2, hdatas, carries_of_given hrun⟩

/-- **A disconnect callback alone** does not reach the streams of `setConnection`. -/
theorem not_carries : ¬∀ (ls : List (Label ℕ ℕ ℕ)) (s : Sys ℕ ℕ ℕ),
    Run step (init fun _ => {}) ls s → Carries s := by
  intro h
  have hrun : Run step (init fun _ => ({} : AsyncSocketStream ℕ ℕ))
      [.setDisconnectCb (some 2), .setConnection [7]] _ := .cons rfl (.cons rfl (.nil _))
  have hhas := ((h _ _ hrun).2 7 (by decide)).2 2 rfl
  exact absurd hhas (by decide)

end Ancfl.AsyncSocketStreamManager
