/-
  `FdManager` under concurrent calls.

  * `get` goes through a section under the read lock, and, if it is to create
    the context, through one under the write lock; each is a step of its thread,
    and so is `del`;
  * `returned` are the contexts that calls for a descriptor have returned since
    its last `del`;
  * `same_of_fresh`: these are all the same, in a run in which no context is
    created for a descriptor that has one.
-/
import Ancfl.Io.FdContext
import Ancfl.Lib.Run

namespace Ancfl.Hook

open Lib

/-! ## The manager -/

/-- `ctxs` are the contexts by their addresses, those from `fresh` on are not in use; `creating` are the
    descriptors for which threads are between the two locks of `get`. -/
structure FdManager (T : Type) where
  m_datas : List (Option ℕ)
  ctxs : ℕ → Option FdCtx
  fresh : ℕ
  creating : T → Option ℕ
  returned : ℕ → List ℕ

inductive Label (T : Type)
  /-- `get(fd, auto_create)`, up to `lock.unlock()` or a return -/
  | get (t : T) (fd : ℕ) (auto_create : Bool)
  /-- the rest of `get`; `fd_stat` and `flags` are what the constructor of `FdCtx` finds -/
  | create (t : T) (fd_stat : Option Bool) (flags : Flags)
  | del (fd : ℕ)

section
variable {T : Type}

def init (T : Type) : FdManager T :=
  ⟨List.replicate 64 none, fun _ => none, 0, fun _ => none, fun _ => []⟩

/-- What the manager has for a descriptor. -/
def FdManager.ctx (s : FdManager T) (fd : ℕ) : Option ℕ := (s.m_datas[fd]?).join

variable [DecidableEq T]

namespace FdManager

/-- A call returns what the manager has. -/
def ret (fd : ℕ) (s : FdManager T) : FdManager T :=
  { s with returned := Function.update s.returned fd (s.returned fd ++ (s.ctx fd).toList) }

def get (t : T) (fd : ℕ) (auto_create : Bool) (s : FdManager T) : FdManager T :=
  if s.m_datas.length ≤ fd then
    -- `nullptr`, which is no context
    if auto_create = false then s else { s with creating := Function.update s.creating t (some fd) }
  else if (s.ctx fd).isSome || !auto_create then s.ret fd
  else { s with creating := Function.update s.creating t (some fd) }

/-- `m_datas.resize(fd * 1.5)` -/
def grow (fd : ℕ) (m_datas : List (Option ℕ)) : List (Option ℕ) :=
  m_datas.take (fd * 3 / 2) ++ List.replicate (fd * 3 / 2 - m_datas.length) none

def create (t : T) (fd : ℕ) (fd_stat : Option Bool) (flags : Flags) (s : FdManager T) : FdManager T :=
  let ctx := s.fresh
  let m_datas := if s.m_datas.length ≤ fd then grow fd s.m_datas else s.m_datas
  ret fd { s with
    m_datas := m_datas.set fd (some ctx)
    ctxs := Function.update s.ctxs ctx (some (FdCtx.new fd fd_stat flags).1)
    fresh := s.fresh + 1
    creating := Function.update s.creating t none }

def del (fd : ℕ) (s : FdManager T) : FdManager T :=
  { s with m_datas := s.m_datas.set fd none, returned := Function.update s.returned fd [] }

end FdManager

def next (s : FdManager T) : Label T → Option (FdManager T)
  | .get t fd auto_create => if s.creating t = none then some (s.get t fd auto_create) else none
  | .create t fd_stat flags => (s.creating t).map fun fd => s.create t fd fd_stat flags
  | .del fd => some (s.del fd)

def step (s : FdManager T) (l : Label T) (s' : FdManager T) : Prop := next s l = some s'

end

/-! ## What is to hold, and when -/

section
variable {T : Type}

/-- All calls for a descriptor that returned a context since its last `del` returned the same one. -/
def Same (s : FdManager T) : Prop := ∀ fd, ∀ a ∈ s.returned fd, ∀ b ∈ s.returned fd, a = b

/-- A context is created for a descriptor that has none. -/
def Fresh (s : FdManager T) : Label T → Prop
  | .create t _ _ => ∀ fd, s.creating t = some fd → s.ctx fd = none
  | _ => True

/-- The contexts that were returned are those that the manager has. -/
structure Inv (s : FdManager T) : Prop where
  size : 64 ≤ s.m_datas.length
  current : ∀ fd, ∀ a ∈ s.returned fd, s.ctx fd = some a

variable {s s' : FdManager T} {l : Label T} {fd : ℕ}

theorem Inv.same (h : Inv s) : Same s := by
  intro fd a ha b hb
  exact Option.some.inj ((h.current fd a ha).symm.trans (h.current fd b hb))

theorem inv_init : Inv (init T) := ⟨by simp [init], fun _ => nofun⟩

/-! ## Steps keep the invariant -/

theorem ctx_set {m_datas : List (Option ℕ)} {v : Option ℕ} (hlt : fd < m_datas.length) (fd' : ℕ) :
    ((m_datas.set fd v)[fd']?).join = if fd' = fd then v else (m_datas[fd']?).join := by
  rw [List.getElem?_set]
  by_cases hfd : fd' = fd
  · subst hfd; simp [hlt]
  · rw [if_neg (Ne.symm hfd), if_neg hfd]

theorem length_grow (m_datas : List (Option ℕ)) : (FdManager.grow fd m_datas).length = fd * 3 / 2 := by
  rw [FdManager.grow, List.length_append, List.length_take, List.length_replicate]
  omega

/-- The descriptors that are new have no context. -/
theorem ctx_grow {m_datas : List (Option ℕ)} (h64 : 64 ≤ m_datas.length) (hle : m_datas.length ≤ fd)
    (fd' : ℕ) : ((FdManager.grow fd m_datas)[fd']?).join = (m_datas[fd']?).join := by
  have htake : m_datas.take (fd * 3 / 2) = m_datas := List.take_of_length_le (by omega)
  rw [FdManager.grow, htake, List.getElem?_append]
  split_ifs with hlt
  · rfl
  · rw [List.getElem?_eq_none (Nat.not_lt.1 hlt), List.getElem?_replicate]
    split_ifs <;> rfl

theorem inv_ret (h : Inv s) : Inv (s.ret fd) := by
  refine ⟨h.size, fun fd' a ha => ?_⟩
  show s.ctx fd' = some a
  by_cases hfd : fd' = fd
  · subst hfd
    simp only [FdManager.ret, Function.update_self, List.mem_append, Option.mem_toList] at ha
    rcases ha with ha | ha
    · exact h.current fd' a ha
    · exact ha
  · simp only [FdManager.ret, Function.update_of_ne hfd] at ha
    exact h.current fd' a ha

theorem inv_del (h : Inv s) : Inv (s.del fd) := by
  refine ⟨by simpa [FdManager.del] using h.size, fun fd' a ha => ?_⟩
  by_cases hfd : fd' = fd
  · subst hfd
    simp [FdManager.del] at ha
  · simp only [FdManager.del, Function.update_of_ne hfd] at ha
    have hget : (s.m_datas.set fd none)[fd']? = s.m_datas[fd']? := List.getElem?_set_ne (Ne.symm hfd)
    rw [FdManager.ctx, FdManager.del, hget]
    exact h.current fd' a ha

variable [DecidableEq T]

theorem inv_get (h : Inv s) (t : T) (auto_create : Bool) : Inv (s.get t fd auto_create) := by
  unfold FdManager.get
  split_ifs
  · exact h
  · exact ⟨h.size, h.current⟩
  · exact inv_ret h
  · exact ⟨h.size, h.current⟩

/-- A context that is created where there was none is the only one. -/
theorem inv_create (h : Inv s) (hfresh : s.ctx fd = none) (t : T) (fd_stat : Option Bool)
    (flags : Flags) : Inv (s.create t fd fd_stat flags) := by
  unfold FdManager.create
  dsimp only
  set m_datas := if s.m_datas.length ≤ fd then FdManager.grow fd s.m_datas else s.m_datas with hm
  have hlen : 64 ≤ m_datas.length ∧ fd < m_datas.length := by
    have h64 := h.size
    rw [hm]
    split_ifs
    · rw [length_grow]
      omega
    · omega
  have hctx (fd' : ℕ) : (m_datas[fd']?).join = s.ctx fd' := by
    rw [hm]
    split_ifs with hle
    · exact ctx_grow h.size hle fd'
    · rfl
  refine inv_ret ⟨by simpa using hlen.1, fun fd' a ha => ?_⟩
  show ((m_datas.set fd _)[fd']?).join = some a
  rw [ctx_set hlen.2, hctx]
  have hcur := h.current fd' a ha
  split_ifs with hfd
  · subst hfd
    rw [hfresh] at hcur
    cases hcur
  · exact hcur

theorem inv_step (h : Inv s) (hfresh : Fresh s l) (hstep : step s l s') : Inv s' := by
  unfold step next at hstep
  cases l with
  | get t fd auto_create =>
    dsimp only at hstep
    split_ifs at hstep
    cases hstep
    exact inv_get h t auto_create
  | create t fd_stat flags =>
    obtain ⟨fd, hfd, rfl⟩ := Option.map_eq_some_iff.1 hstep
    exact inv_create h (hfresh fd hfd) t fd_stat flags
  | del fd =>
    cases hstep
    exact inv_del h

/-- **One context per descriptor**, in a run in which none is created for a descriptor that has one. -/
theorem same_of_fresh {ls : List (Label T)}
    (hrun : Run (fun s l s' => Fresh s l ∧ step s l s') (init T) ls s) : Same s :=
  (hrun.invariant (P := Inv) (fun _ _ _ h hs => inv_step h hs.1 hs.2) inv_init).same

end

/-- One thread creates the context, and two find it. -/
theorem same_three : ∃ s : FdManager Bool, Run step (init Bool)
    [.get true 3 true, .create true (some true) 2, .get false 3 true, .get true 3 false] s ∧
      s.returned 3 = [0, 0, 0] ∧ Same s := by
  obtain ⟨s, hrun, hret⟩ : ∃ s : FdManager Bool,
      Run (fun s l s' => Fresh s l ∧ step s l s') (init Bool)
        [.get true 3 true, .create true (some true) 2, .get false 3 true, .get true 3 false] s ∧
        s.returned 3 = [0, 0, 0] := by
    refine ⟨_, .cons ⟨trivial, rfl⟩ (.cons ⟨?_, rfl⟩ (.cons ⟨trivial, rfl⟩ (.cons ⟨trivial, rfl⟩
      (.nil _)))), rfl⟩
    intro fd hfd
    cases hfd
    rfl
  exact ⟨s, hrun.mono fun _ _ _ h => h.2, hret, same_of_fresh hrun⟩

/-- **Two threads create a context** for one descriptor, and each returns its own. -/
theorem not_same_closed :
    ¬∀ (ls : List (Label Bool)) (s : FdManager Bool), Run step (init Bool) ls s → Same s := by
  intro h
  obtain ⟨s, hs, hret⟩ : ∃ s : FdManager Bool,
      [Label.get true 3 true, .get false 3 true, .create true (some true) 2,
        .create false (some true) 2].foldlM next (init Bool) = some s ∧ s.returned 3 = [0, 1] :=
    ⟨_, rfl, rfl⟩
  have hsame := h _ s (Run.of_foldlM hs) 3 0 (by simp [hret]) 1 (by simp [hret])
  exact absurd hsame (by decide)

end Ancfl.Hook
