/-
  `FdCtx`, and the hooks of `fcntl` and `ioctl` that read and write it.

  * `File`: a descriptor in the kernel, beside its context; `kernelSetfl` and
    `kernelFionbio` are what the kernel does with its flags;
  * `stays_iff`: the kernel's `O_NONBLOCK` stays set over a sequence of calls,
    and `F_GETFL` reports what the last of them asked for, iff no `FIONBIO`
    with 0 is among them.
-/
import Mathlib.Data.Int.Notation
import Mathlib.Data.List.Induction
import Mathlib.Tactic.Common

namespace Ancfl.Hook

/-! ## Contexts -/

structure FdCtx where
  m_isInit : Bool
  m_isSocket : Bool
  m_sysNonblock : Bool
  m_userNonblock : Bool
  m_isClosed : Bool
  m_fd : ℕ
  m_recvTimeout : BitVec 64
  m_sendTimeout : BitVec 64
deriving DecidableEq

/-- File status flags of the kernel. -/
abbrev Flags := BitVec 32

def O_APPEND : Flags := 0x400
def O_NONBLOCK : Flags := 0x800
def O_ASYNC : Flags := 0x2000
def O_DIRECT : Flags := 0x4000
def O_NOATIME : Flags := 0x40000

/-- The flags that `F_SETFL` changes. -/
def SETFL_MASK : Flags := O_APPEND ||| O_NONBLOCK ||| O_ASYNC ||| O_DIRECT ||| O_NOATIME

def kernelSetfl (arg flags : Flags) : Flags := arg &&& SETFL_MASK ||| flags &&& ~~~SETFL_MASK

def kernelFionbio (on : ℤ) (flags : Flags) : Flags :=
  if on ≠ 0 then flags ||| O_NONBLOCK else flags &&& ~~~O_NONBLOCK

namespace FdCtx

/-- `init`; `fd_stat` is what `fstat` tells: whether the descriptor is a socket, and `none` for a
    failure. -/
def new (fd : ℕ) (fd_stat : Option Bool) (flags : Flags) : FdCtx × Flags :=
  let m_isSocket := fd_stat.getD false
  (⟨fd_stat.isSome, m_isSocket, m_isSocket, false, false, fd, 0, 0⟩,
    if m_isSocket then
      if flags &&& O_NONBLOCK = 0 then kernelSetfl (flags ||| O_NONBLOCK) flags else flags
    else flags)

end FdCtx

/-- A descriptor: its flags in the kernel, and what `FdManager` has for it. -/
structure File where
  flags : Flags
  ctx : Option FdCtx

/-! ## Hooks -/

/-- A call that changes `O_NONBLOCK`; `ok` is whether the kernel accepts it. -/
inductive Call
  | fcntl (arg : Flags) (ok : Bool)
  | ioctl (arg : ℤ) (ok : Bool)
deriving DecidableEq

namespace File

/-- The context, if the hooks look at it. -/
def hooked (f : File) : Option FdCtx :=
  f.ctx.filter fun ctx => !ctx.m_isClosed && ctx.m_isSocket

def setFlags (f : File) (ok : Bool) (flags : Flags) : File :=
  if ok then { f with flags := flags } else f

/-- `fcntl` with `F_SETFL` -/
def setfl (arg : Flags) (ok : Bool) (f : File) : File :=
  match f.hooked with
  | none => f.setFlags ok (kernelSetfl arg f.flags)
  | some ctx =>
    let f := { f with ctx := some { ctx with m_userNonblock := arg &&& O_NONBLOCK ≠ 0 } }
    let arg := if ctx.m_sysNonblock then arg ||| O_NONBLOCK else arg &&& ~~~O_NONBLOCK
    f.setFlags ok (kernelSetfl arg f.flags)

/-- `fcntl` with `F_GETFL` -/
def getfl (f : File) : Flags :=
  match f.hooked with
  | none => f.flags
  | some ctx => if ctx.m_userNonblock then f.flags ||| O_NONBLOCK else f.flags &&& ~~~O_NONBLOCK

/-- `ioctl` with `FIONBIO` -/
def fionbio (arg : ℤ) (ok : Bool) (f : File) : File :=
  match f.hooked with
  | none => f.setFlags ok (kernelFionbio arg f.flags)
  | some ctx =>
    let f := { f with ctx := some { ctx with m_userNonblock := arg ≠ 0 } }
    -- unlike in `fcntl`, the argument goes to the kernel as it is
    f.setFlags ok (kernelFionbio arg f.flags)

/-- A socket that `FdManager` has just got to know. -/
def socket (fd : ℕ) (flags : Flags) : File :=
  let (ctx, flags) := FdCtx.new fd (some true) flags
  ⟨flags, some ctx⟩

end File

def Call.run (f : File) : Call → File
  | .fcntl arg ok => f.setfl arg ok
  | .ioctl arg ok => f.fionbio arg ok

/-! ## What is to hold, and when -/

def NonBlock (flags : Flags) : Prop := flags &&& O_NONBLOCK ≠ 0

/-- A call asks for a socket that does not block. -/
def Call.Asks : Call → Prop
  | .fcntl arg _ => NonBlock arg
  | .ioctl arg _ => arg ≠ 0

/-- The last call asks for it. -/
def Asked (cs : List Call) : Prop := ∃ c ∈ cs.getLast?, c.Asks

/-- A call that the kernel takes for a wish to block. -/
def Call.Clears : Call → Prop
  | .fcntl _ _ => False
  | .ioctl arg ok => arg = 0 ∧ ok = true

/-! ## Flags -/

theorem nonBlock_iff (flags : Flags) : NonBlock flags ↔ flags.getLsbD 11 = true := by
  have hbit : O_NONBLOCK = BitVec.twoPow 32 11 := by decide
  rw [NonBlock, hbit, BitVec.and_twoPow]
  split_ifs with h
  · exact iff_of_true (by decide) h
  · exact iff_of_false (fun hne => hne rfl) h

@[simp] theorem nonBlock_or (flags : Flags) : NonBlock (flags ||| O_NONBLOCK) := by
  rw [nonBlock_iff, BitVec.getLsbD_or]
  simp [O_NONBLOCK]

@[simp] theorem not_nonBlock_and (flags : Flags) : ¬NonBlock (flags &&& ~~~O_NONBLOCK) := by
  rw [nonBlock_iff, BitVec.getLsbD_and]
  simp [O_NONBLOCK]

@[simp] theorem nonBlock_kernelSetfl (arg flags : Flags) :
    NonBlock (kernelSetfl arg flags) ↔ NonBlock arg := by
  rw [nonBlock_iff, nonBlock_iff, kernelSetfl, BitVec.getLsbD_or, BitVec.getLsbD_and,
    BitVec.getLsbD_and]
  have hmask : SETFL_MASK.getLsbD 11 = true := by decide
  have hmask' : (~~~SETFL_MASK).getLsbD 11 = false := by decide
  rw [hmask, hmask', Bool.and_true, Bool.and_false, Bool.or_false]

@[simp] theorem nonBlock_kernelFionbio (on : ℤ) (flags : Flags) :
    NonBlock (kernelFionbio on flags) ↔ on ≠ 0 := by
  unfold kernelFionbio
  split_ifs with h
  · exact iff_of_true (nonBlock_or flags) h
  · exact iff_of_false (not_nonBlock_and flags) h

/-! ## Calls -/

/-- The hooks know a socket, and the user's view of it is `user`. -/
def File.Knows (f : File) (user : Prop) : Prop :=
  ∃ ctx, f.hooked = some ctx ∧ ctx.m_sysNonblock = true ∧ (ctx.m_userNonblock = true ↔ user)

namespace File

variable {f : File} {user : Prop}

theorem hooked_of_some {ctx : FdCtx} (h : f.hooked = some ctx) :
    ctx.m_isClosed = false ∧ ctx.m_isSocket = true := by
  obtain ⟨-, h⟩ := Option.filter_eq_some_iff.1 h
  simpa using h

theorem knows_socket (fd : ℕ) (flags : Flags) :
    (socket fd flags).Knows False ∧ NonBlock (socket fd flags).flags := by
  constructor
  · simp [socket, FdCtx.new, Knows, hooked]
  · show NonBlock (if flags &&& O_NONBLOCK = 0 then _ else flags)
    split_ifs with hflags
    · simp
    · exact hflags

theorem getfl_iff (h : f.Knows user) : NonBlock f.getfl ↔ user := by
  obtain ⟨ctx, hctx, -, huser⟩ := h
  rw [getfl, hctx, ← huser]
  dsimp only
  split_ifs with hu
  · exact iff_of_true (nonBlock_or _) hu
  · exact iff_of_false (not_nonBlock_and _) hu

/-- What a call leaves. -/
theorem knows_run (h : f.Knows user) (c : Call) : (c.run f).Knows c.Asks := by
  obtain ⟨ctx, hctx, hsys, -⟩ := h
  obtain ⟨hclosed, hsocket⟩ := hooked_of_some hctx
  cases c with
  | fcntl arg ok =>
    simp only [Call.run, setfl, hctx, setFlags]
    cases ok <;> simp [Knows, hooked, hclosed, hsocket, hsys, Call.Asks, NonBlock]
  | ioctl arg ok =>
    simp only [Call.run, fionbio, hctx, setFlags]
    cases ok <;> simp [Knows, hooked, hclosed, hsocket, hsys, Call.Asks]

theorem nonBlock_run (h : f.Knows user) (hf : NonBlock f.flags) (c : Call) :
    NonBlock (c.run f).flags ↔ ¬c.Clears := by
  obtain ⟨ctx, hctx, hsys, -⟩ := h
  cases c with
  | fcntl arg ok =>
    simp only [Call.run, setfl, hctx, setFlags, hsys]
    cases ok <;> simp [Call.Clears, hf]
  | ioctl arg ok =>
    simp only [Call.run, fionbio, hctx, setFlags]
    cases ok <;> simp [Call.Clears, hf]

/-- The user's view over a sequence of calls. -/
theorem knows_foldl (h : f.Knows False) (cs : List Call) : (cs.foldl Call.run f).Knows (Asked cs) := by
  induction cs using List.reverseRecOn with
  | nil => simpa [Asked] using h
  | append_singleton cs c ih =>
    rw [List.foldl_append, List.foldl_cons, List.foldl_nil]
    simpa [Asked] using knows_run ih c

theorem nonBlock_foldl (h : f.Knows False) (hf : NonBlock f.flags) {cs : List Call}
    (hcs : ∀ c ∈ cs, ¬c.Clears) : NonBlock (cs.foldl Call.run f).flags := by
  induction cs using List.reverseRecOn with
  | nil => exact hf
  | append_singleton cs c ih =>
    rw [List.foldl_append, List.foldl_cons, List.foldl_nil]
    have hcs' : ∀ c ∈ cs, ¬c.Clears := fun c hc => hcs c (List.mem_append_left _ hc)
    exact (nonBlock_run (knows_foldl h cs) (ih hcs') c).2 (hcs c (by simp))

end File

/-! ## Sequences of calls -/

/-- **A hooked socket stays non-blocking underneath**, and `F_GETFL` reports what was asked for last, after
    each call of a sequence, iff the kernel accepts no `FIONBIO` with 0 among them. -/
theorem stays_iff (fd : ℕ) (flags : Flags) (cs : List Call) :
    (∀ cs', cs' <+: cs → NonBlock (cs'.foldl Call.run (.socket fd flags)).flags ∧
      (NonBlock (cs'.foldl Call.run (.socket fd flags)).getfl ↔ Asked cs')) ↔
      ∀ c ∈ cs, ¬c.Clears := by
  obtain ⟨hknows, hflags⟩ := File.knows_socket fd flags
  constructor
  · intro h c hc
    obtain ⟨a, b, rfl⟩ := List.append_of_mem hc
    have hbefore := (h a (List.prefix_append a _)).1
    have hafter := (h (a ++ [c]) ⟨b, by simp⟩).1
    rw [List.foldl_append] at hafter
    exact (File.nonBlock_run (File.knows_foldl hknows a) hbefore c).1 hafter
  · intro h cs' hcs'
    refine ⟨File.nonBlock_foldl hknows hflags fun c hc => h c (hcs'.subset hc), ?_⟩
    exact File.getfl_iff (File.knows_foldl hknows cs')

/-- **`FIONBIO` with 0** makes the kernel block. -/
theorem not_stays : ¬∀ (fd : ℕ) (flags : Flags) (cs cs' : List Call), cs' <+: cs →
    NonBlock (cs'.foldl Call.run (.socket fd flags)).flags ∧
      (NonBlock (cs'.foldl Call.run (.socket fd flags)).getfl ↔ Asked cs') := by
  intro h
  refine (h 3 2 [.ioctl 0 true] _ (List.prefix_refl _)).1 ?_
  decide

end Ancfl.Hook
