/-
  The queue of an `AsyncSocketStream` and its writer.

  * `Sys`: the queue, the two semaphores and the threads: calls of `enqueue` and
    `start`, and the fibers of `doRead` and `doWrite`. Each locked section, each
    operation of a semaphore and each test of the connection is one step;
  * `Inv`: at most one `doWrite`, by what each thread has of `m_waitSem`; a queue
    that is not empty has a permit, an `enqueue` before its notification, or a
    writer that is about to swap it;
  * `writes_of_run`: the writer does not sleep on a queue that nobody is to
    notify it of, and as long as the stream is connected and no `doSend` fails
    the messages are sent once each, in their order.
-/
import Ancfl.Fiber.Semaphore
import Ancfl.Lib.Pool
import Ancfl.Lib.Run

namespace Ancfl.Writer

open Lib

/-! ## Threads -/

/-- Where an `innerClose` is; `m_disconnectCb` and what it does with `m_ctxs` are left out. -/
inductive Closing
  | close
  | notify
  /-- `m_queue.clear()` -/
  | clear
deriving DecidableEq

/-- Who has called `innerClose`. -/
inductive Caller
  | doRecv
  | doRead
  | doWrite
  | start
deriving DecidableEq

/-- Where a thread is; `M` are the messages. -/
inductive Thread (M : Type)
  /-- `enqueue` at `m_sem.notify()` -/
  | enqueue
  /-- `doRead` at its test of `isConnected()` -/
  | doRead
  | doRecv
  /-- at `m_waitSem.notify()` -/
  | doReadNotify
  /-- `doWrite` at its test of `isConnected()` -/
  | doWrite
  /-- at `m_sem.wait()` -/
  | wait
  /-- in `m_waiters` of `m_sem` -/
  | waiting
  /-- at `m_queue.swap(ctxs)` -/
  | swap
  /-- in its loop, with what is left of `ctxs` -/
  | doSend (ctxs : List M)
  /-- past its loop, at `m_queue.clear()` -/
  | clear
  | doWriteNotify
  | innerClose (closing : Closing) (caller : Caller)
  /-- `start` at the first or second `m_waitSem.wait()` -/
  | waitFiber (second : Bool)
  /-- in `m_waiters` of `m_waitSem` -/
  | waitingFiber (second : Bool)
  | isConnected
  | reconnect
  | connectCb
  | startRead
  | startWrite
  /-- at the first or second `m_waitSem.notify()` after a failure -/
  | startNotify (second : Bool)
  | done
deriving DecidableEq

/-- What is outside of the stream: how a `doRecv`, a `doSend`, a `reconnect` or an `m_connectCb`
    ends. -/
inductive Outcome
  | success
  | failure
  | thrown
deriving DecidableEq

/-- `sent` are the messages of the `doSend` that have succeeded. -/
structure Sys (M : Type) where
  connected : Bool
  m_queue : List M
  m_sem : FiberSemaphore
  m_waitSem : FiberSemaphore
  threads : List (Thread M)
  sent : List M

inductive Label (M : Type)
  /-- the locked section of `enqueue` -/
  | enqueue (ctx : M)
  | start
  /-- `SocketStream::close` -/
  | close
  /-- the next step of the `n`-th thread -/
  | run (n : ℕ) (outcome : Outcome)

variable {M : Type}

def init (M : Type) (connected : Bool) : Sys M where
  connected := connected
  m_queue := []
  m_sem := ⟨0, []⟩
  m_waitSem := ⟨2, []⟩
  threads := []
  sent := []

/-- Where `innerClose` returns to. -/
def Caller.back : Caller → Thread M
  | doRecv => .doRead
  | doRead => .doReadNotify
  | doWrite => .doWrite
  | start => .startNotify false

/-- Where a `wait` returns to. -/
def Thread.woken : Thread M → Thread M
  | waiting => .swap
  | waitingFiber false => .waitFiber true
  | waitingFiber true => .isConnected
  | t => t

def wake (threads : List (Thread M)) : Option ℕ → List (Thread M)
  | none => threads
  | some f => threads.modify f Thread.woken

namespace Sys

def goto (s : Sys M) (n : ℕ) (t : Thread M) : Sys M := { s with threads := s.threads.set n t }

/-- `m_sem.notify()` -/
def notify (s : Sys M) : Sys M :=
  { s with m_sem := s.m_sem.notify.1, threads := wake s.threads s.m_sem.notify.2 }

/-- `m_waitSem.notify()` -/
def notifyWait (s : Sys M) : Sys M :=
  { s with m_waitSem := s.m_waitSem.notify.1, threads := wake s.threads s.m_waitSem.notify.2 }

end Sys

/-- The next step of a thread. -/
def runThread (s : Sys M) (n : ℕ) (outcome : Outcome) : Thread M → Option (Sys M)
  | .enqueue => some (s.notify.goto n .done)
  | .doRead =>
    some (s.goto n (if s.connected then .doRecv else .innerClose .close .doRead))
  | .doRecv =>
    match outcome with
    | .success => some (s.goto n .doRead)
    | .failure => some (s.goto n (.innerClose .close .doRecv))
    | .thrown => some (s.goto n (.innerClose .close .doRead))
  | .doReadNotify => some (s.goto n .done).notifyWait
  | .doWrite => some (s.goto n (if s.connected then .wait else .clear))
  | .wait =>
    some { s.goto n (if (s.m_sem.wait n).2 then .swap else .waiting) with
      m_sem := (s.m_sem.wait n).1 }
  | .swap => some { s.goto n (.doSend s.m_queue) with m_queue := [] }
  | .doSend [] => some (s.goto n .doWrite)
  | .doSend (ctx :: ctxs) =>
    match outcome with
    | .success => some { s.goto n (.doSend ctxs) with sent := s.sent ++ [ctx] }
    | .failure => some (s.goto n (.innerClose .close .doWrite))
    | .thrown => some (s.goto n .clear)
  | .clear => some { s.goto n .doWriteNotify with m_queue := [] }
  | .doWriteNotify => some (s.goto n .done).notifyWait
  | .innerClose .close caller =>
    some { s.goto n (.innerClose .notify caller) with connected := false }
  | .innerClose .notify caller => some (s.notify.goto n (.innerClose .clear caller))
  | .innerClose .clear caller => some { s.goto n caller.back with m_queue := [] }
  | .waitFiber second =>
    some { s.goto n (if (s.m_waitSem.wait n).2 then (Thread.waitingFiber second).woken
        else .waitingFiber second) with
      m_waitSem := (s.m_waitSem.wait n).1 }
  | .isConnected => some (s.goto n (if s.connected then .connectCb else .reconnect))
  | .reconnect =>
    match outcome with
    | .success => some { s.goto n .connectCb with connected := true }
    | _ => some (s.goto n (.innerClose .close .start))
  | .connectCb =>
    match outcome with
    | .success => some (s.goto n .startRead)
    | _ => some (s.goto n (.innerClose .close .start))
  | .startRead => some { s with threads := s.threads.set n .startWrite ++ [.doRead] }
  | .startWrite => some { s with threads := s.threads.set n .done ++ [.doWrite] }
  | .startNotify second =>
    some (s.goto n (if second then .done else .startNotify true)).notifyWait
  | .waiting | .waitingFiber _ | .done => none

def next (s : Sys M) : Label M → Option (Sys M)
  | .enqueue ctx => some { s with
      m_queue := s.m_queue ++ [ctx]
      threads := s.threads ++ if s.m_queue.isEmpty then [.enqueue] else [] }
  | .start => some { s with threads := s.threads ++ [.waitFiber false] }
  | .close => some { s with connected := false }
  | .run n outcome => s.threads[n]?.bind (runThread s n outcome)

def step (s : Sys M) (l : Label M) (s' : Sys M) : Prop := next s l = some s'

/-! ## What is to hold -/

/-- When a writer sleeps and the queue is not empty, an `enqueue` is still to notify it. -/
def Awake (s : Sys M) : Prop :=
  ∀ n : ℕ, s.threads[n]? = some .waiting → s.m_queue ≠ [] → .enqueue ∈ s.threads

/-- The messages that a writer has swapped out and not sent. -/
def Thread.hand : Thread M → List M
  | doSend ctxs => ctxs
  | _ => []

/-- The messages that are to be sent. -/
def Sys.pending (s : Sys M) : List M := s.threads.flatMap Thread.hand ++ s.m_queue

/-- The messages that are enqueued. -/
def enqueued (ls : List (Label M)) : List M :=
  ls.filterMap fun
    | .enqueue ctx => some ctx
    | _ => none

/-- The stream stays connected, and a `doSend` succeeds. -/
def Steady (s : Sys M) (l : Label M) (s' : Sys M) : Prop :=
  s.connected ∧ s'.connected ∧
    ∀ (n : ℕ) ctx ctxs, s.threads[n]? = some (.doSend (ctx :: ctxs)) →
      ∀ outcome, l = .run n outcome → outcome = .success

/-- As long as the stream stays connected and every `doSend` succeeds, what is sent, and then what
    is pending, is what was pending and then what is enqueued, in this order and once each. No writer
    has left its loop before, as one does after a `doSend` that throws. -/
def InOrder (s : Sys M) : Prop :=
  .clear ∉ s.threads → ∀ ls s', Run (fun s l s' => Steady s l s' ∧ step s l s') s ls s' →
    s'.sent ++ s'.pending = s.sent ++ s.pending ++ enqueued ls

/-! ## Threads and permits -/

/-- What a thread has of the permits of `m_waitSem`. -/
def Thread.hold : Thread M → ℕ
  | doRead | doRecv | doReadNotify => 1
  | doWrite | wait | waiting | swap | doSend _ | clear | doWriteNotify => 1
  | innerClose _ .start => 2
  | innerClose _ _ => 1
  | waitFiber second | waitingFiber second => second.toNat
  | isConnected | reconnect | connectCb | startRead => 2
  | startWrite => 1
  | startNotify second => 2 - second.toNat
  | enqueue | done => 0

/-- One for a `doWrite`, and for a `start` that may schedule one. -/
def Thread.leads : Thread M → ℕ
  | doWrite | wait | waiting | swap | doSend _ | clear | doWriteNotify => 1
  | innerClose _ .doWrite => 1
  | isConnected | reconnect | connectCb | startRead | startWrite => 1
  | _ => 0

/-- In an `innerClose` that has closed the socket. -/
def Thread.closed : Thread M → Bool
  | innerClose .notify _ | innerClose .clear _ => true
  | _ => false

/-- Blocked in `m_sem.wait()`. -/
def Thread.inSem : Thread M → Bool
  | waiting => true
  | _ => false

/-- Blocked in `m_waitSem.wait()`. -/
def Thread.inWaitSem : Thread M → Bool
  | waitingFiber _ => true
  | _ => false

theorem Thread.leads_le_hold (t : Thread M) : t.leads ≤ t.hold := by
  cases t
  case innerClose _ caller => cases caller <;> simp [leads, hold]
  all_goals simp [leads, hold]

theorem Thread.inSem_iff {t : Thread M} : t.inSem ↔ t = .waiting := by
  cases t <;> simp [inSem]

theorem Thread.inWaitSem_iff {t : Thread M} : t.inWaitSem ↔ ∃ second, t = .waitingFiber second := by
  cases t <;> simp [inWaitSem]

section
variable (second : Bool)

theorem woken_hold : (Thread.waitingFiber second : Thread M).woken.hold = second.toNat + 1 := by
  cases second <;> rfl

/-- Past its second `wait` a `start` has both permits. -/
theorem woken_leads : (Thread.waitingFiber second : Thread M).woken.leads ≤ 0 ∨
    ((Thread.waitingFiber second : Thread M).woken.hold = 2 ∧
      (Thread.waitingFiber second : Thread M).woken.leads ≤ 1) := by
  cases second
  · exact .inl le_rfl
  · exact .inr ⟨rfl, le_rfl⟩

theorem woken_runs : (Thread.waitingFiber second : Thread M).woken.inSem = false ∧
    (Thread.waitingFiber second : Thread M).woken.inWaitSem = false ∧
    (Thread.waitingFiber second : Thread M).woken.closed = false := by
  cases second <;> exact ⟨rfl, rfl, rfl⟩

end

/-- The thread `n` is one of `p`. -/
def At (threads : List (Thread M)) (p : Thread M → Bool) (n : ℕ) : Prop :=
  ∃ t, threads[n]? = some t ∧ p t

section
variable {threads : List (Thread M)} {p : Thread M → Bool} {n m : ℕ} {t t' : Thread M}

theorem at_iff (hn : threads[n]? = some t) : At threads p n ↔ p t := isAt_iff hn

theorem at_set (hn : threads[n]? = some t) (t' : Thread M) :
    At (threads.set n t') p m ↔ if m = n then p t' = true else At threads p m :=
  isAt_set hn t'

/-- The thread goes on among those of `p`, or among the others. -/
theorem at_set_of_eq (hn : threads[n]? = some t) (h : p t' = p t) :
    At (threads.set n t') p m ↔ At threads p m :=
  isAt_set_of_eq hn h

theorem at_append {ts : List (Thread M)} (h : ∀ t ∈ ts, p t = false) :
    At (threads ++ ts) p m ↔ At threads p m :=
  isAt_append h

theorem mem_set (hn : threads[n]? = some t) {u : Thread M} (hu : u ∈ threads) (hne : u ≠ t) :
    u ∈ threads.set n t' :=
  mem_set_of_ne hn hu hne

theorem wake_eq (hn : threads[n]? = some t) : wake threads (some n) = threads.set n t.woken :=
  modify_eq_set hn Thread.woken

/-- A thread that has both permits is the only one that leads. -/
theorem leads_set (hn : threads[n]? = some t) (hleads : tally Thread.leads threads ≤ 1)
    (htotal : tally Thread.hold (threads.set n t') ≤ 2)
    (h : t'.leads ≤ t.leads ∨ (t'.hold = 2 ∧ t'.leads ≤ 1)) :
    tally Thread.leads (threads.set n t') ≤ 1 := by
  obtain ⟨hlt, -⟩ := List.getElem?_eq_some_iff.1 hn
  rcases h with h | ⟨h, h'⟩
  · have hset := tally_set Thread.leads hn t'
    omega
  · have hn' : (threads.set n t')[n]? = some t' := List.getElem?_set_self hlt
    rw [← tally_eraseIdx _ hn'] at htotal ⊢
    have hle := tally_le fun c (_ : c ∈ (threads.set n t').eraseIdx n) => c.leads_le_hold
    omega

end

/-- The permits of `m_waitSem`, with those that threads have, are `total`. -/
structure Inv (total : ℕ) (s : Sys M) : Prop where
  permits : s.m_waitSem.m_concurrency + tally Thread.hold s.threads = total
  writer : tally Thread.leads s.threads ≤ 1
  sem : s.m_sem.Waits (At s.threads Thread.inSem)
  waitSem : s.m_waitSem.Waits (At s.threads Thread.inWaitSem)
  wakes : s.m_queue ≠ [] →
    0 < s.m_sem.m_concurrency ∨ .enqueue ∈ s.threads ∨ .swap ∈ s.threads
  closed : ∀ t ∈ s.threads, t.closed → s.connected = false

theorem init_inv (M : Type) (connected : Bool) : Inv 2 (init M connected) where
  permits := rfl
  writer := Nat.zero_le _
  sem := ⟨List.nodup_nil, fun h => absurd rfl h, fun n => by simp [init, At]⟩
  waitSem := ⟨List.nodup_nil, fun h => absurd rfl h, fun n => by simp [init, At]⟩
  wakes h := absurd rfl h
  closed _ ht := nomatch ht

section
variable {s s' : Sys M} {n total total' : ℕ} {t t' : Thread M}

/-- A thread goes on from `t` to `t'`. -/
theorem Inv.set (hinv : Inv total s) (hn : s.threads[n]? = some t) (t' : Thread M)
    {connected : Bool} {m_queue sent : List M} {m_sem m_waitSem : FiberSemaphore}
    (hhold : m_waitSem.m_concurrency + t'.hold + total = s.m_waitSem.m_concurrency + t.hold + total')
    (hle : total' ≤ 2) (hleads : t'.leads ≤ t.leads ∨ (t'.hold = 2 ∧ t'.leads ≤ 1))
    (hsem : m_sem.Waits (At (s.threads.set n t') Thread.inSem))
    (hwaitSem : m_waitSem.Waits (At (s.threads.set n t') Thread.inWaitSem))
    (hwakes : m_queue ≠ [] → 0 < m_sem.m_concurrency ∨ .enqueue ∈ s.threads.set n t' ∨
      .swap ∈ s.threads.set n t')
    (hconnected : connected → s.connected) (hclosed : t'.closed → connected = false) :
    Inv total' ⟨connected, m_queue, m_sem, m_waitSem, s.threads.set n t', sent⟩ where
  permits := by
    have h := hinv.permits
    have hset := tally_set Thread.hold hn t'
    dsimp only
    omega
  writer := by
    have h := hinv.permits
    have hset := tally_set Thread.hold hn t'
    exact leads_set hn hinv.writer (by omega) hleads
  sem := hsem
  waitSem := hwaitSem
  wakes := hwakes
  closed u hu hc := by
    rcases List.mem_or_eq_of_mem_set hu with hu | rfl
    · have h := hinv.closed u hu hc
      by_contra hne
      rw [hconnected (Bool.not_eq_false _ ▸ hne)] at h
      cases h
    · exact hclosed hc

/-- A thread goes on that neither blocks nor notifies. -/
theorem Inv.goto (hinv : Inv total s) (hn : s.threads[n]? = some t) (t' : Thread M)
    {connected : Bool} {m_queue sent : List M} (hhold : t'.hold + total = t.hold + total')
    (hle : total' ≤ 2) (hleads : t'.leads ≤ t.leads ∨ (t'.hold = 2 ∧ t'.leads ≤ 1))
    (hblock : t'.inSem = t.inSem ∧ t'.inWaitSem = t.inWaitSem)
    (hqueue : m_queue = [] ∨ (m_queue = s.m_queue ∧ t ≠ .swap ∧
      (t ≠ .enqueue ∨ 0 < s.m_sem.m_concurrency ∨ .swap ∈ s.threads)))
    (hconnected : connected → s.connected) (hclosed : t'.closed → connected = false) :
    Inv total' { s with
      threads := s.threads.set n t'
      connected := connected
      m_queue := m_queue
      sent := sent } := by
  refine hinv.set hn t' (by omega) hle hleads (hinv.sem.congr fun m => at_set_of_eq hn hblock.1)
    (hinv.waitSem.congr fun m => at_set_of_eq hn hblock.2) (fun hne => ?_) hconnected hclosed
  rcases hqueue with h | ⟨rfl, hswap, h⟩
  · exact absurd h hne
  · rcases hinv.wakes hne with hpos | henqueue | hmem
    · exact .inl hpos
    · rcases h with h | h | h
      · exact .inr (.inl (mem_set hn henqueue h.symm))
      · exact .inl h
      · exact .inr (.inr (mem_set hn h hswap.symm))
    · exact .inr (.inr (mem_set hn hmem hswap.symm))

/-- A notification leaves a permit or lets the writer go on. -/
theorem notify_inv (hinv : Inv 2 s) : Inv 2 s.notify ∧
    (0 < s.notify.m_sem.m_concurrency ∨ .swap ∈ s.notify.threads) := by
  unfold Sys.notify
  rcases hinv.sem.notify with ⟨hnone, hcount, hwaits⟩ | ⟨f, hsome, ⟨t, hf, ht⟩, -, hwaits⟩
  · rw [hnone]
    have hpos : 0 < s.m_sem.notify.1.m_concurrency := hcount ▸ Nat.succ_pos _
    exact ⟨⟨hinv.permits, hinv.writer, hwaits, hinv.waitSem, fun _ => .inl hpos, hinv.closed⟩,
      .inl hpos⟩
  · rw [Thread.inSem_iff.1 ht] at hf
    rw [hsome, wake_eq hf]
    have hmem : Thread.swap ∈ s.threads.set f .swap := mem_set_self hf _
    refine ⟨hinv.set hf .swap rfl le_rfl (.inl le_rfl) (hwaits.congr fun m => ?_)
      (hinv.waitSem.congr fun m => at_set_of_eq hf rfl) (fun _ => .inr (.inr hmem)) id nofun,
      .inr hmem⟩
    rw [at_set hf]
    split_ifs with h
    · exact iff_of_false nofun fun hm => hm.2 h
    · exact (and_iff_left h).symm

/-- A notification of `start`, after which there are both permits. -/
theorem notifyWait_inv (hinv : Inv 1 s) : Inv 2 s.notifyWait := by
  unfold Sys.notifyWait
  rcases hinv.waitSem.notify with ⟨hnone, hcount, hwaits⟩ | ⟨f, hsome, ⟨t, hf, ht⟩, hcount, hwaits⟩
  · rw [hnone]
    refine ⟨?_, hinv.writer, hinv.sem, hwaits, hinv.wakes, hinv.closed⟩
    have h := hinv.permits
    dsimp only [wake]
    omega
  · obtain ⟨second, rfl⟩ := Thread.inWaitSem_iff.1 ht
    rw [hsome, wake_eq hf]
    refine hinv.set hf _ (by rw [hcount, woken_hold]; rfl) le_rfl (woken_leads second)
      (hinv.sem.congr fun m => at_set_of_eq hf (woken_runs second).1) (hwaits.congr fun m => ?_)
      (fun hne => ?_) id fun hc => ?_
    · rw [at_set hf, (woken_runs second).2.1]
      split_ifs with h
      · exact iff_of_false nofun fun hm => hm.2 h
      · exact (and_iff_left h).symm
    · exact (hinv.wakes hne).imp_right (Or.imp (mem_set hf · nofun) (mem_set hf · nofun))
    · rw [(woken_runs second).2.2] at hc
      cases hc

theorem wait_inv (hinv : Inv 2 s) (hn : s.threads[n]? = some .wait) :
    Inv 2 { s.goto n (if (s.m_sem.wait n).2 then .swap else .waiting) with
      m_sem := (s.m_sem.wait n).1 } := by
  have hnot : ¬At s.threads Thread.inSem n := fun h => nomatch (at_iff hn).1 h
  rcases hinv.sem.wait hnot with ⟨hnext, hcount, hwaits⟩ | ⟨hnext, hzero, hzero', hwaits⟩ <;> rw [hnext]
  · refine hinv.set hn .swap rfl le_rfl (.inl le_rfl) (hwaits.congr fun m => at_set_of_eq hn rfl)
      (hinv.waitSem.congr fun m => at_set_of_eq hn rfl) (fun _ => .inr (.inr (mem_set_self hn _))) id
      nofun
  · refine hinv.set hn .waiting rfl le_rfl (.inl le_rfl) (hwaits.congr fun m => ?_)
      (hinv.waitSem.congr fun m => at_set_of_eq hn rfl) (fun hne => ?_) id nofun
    · rw [at_set hn]
      split_ifs with h
      · exact iff_of_true rfl (.inr h)
      · exact (or_iff_left h).symm
    · rcases hinv.wakes hne with h | h | h
      · omega
      · exact .inr (.inl (mem_set hn h nofun))
      · exact .inr (.inr (mem_set hn h nofun))

theorem waitFiber_inv (hinv : Inv 2 s) {second : Bool}
    (hn : s.threads[n]? = some (.waitFiber second)) :
    Inv 2 { s.goto n (if (s.m_waitSem.wait n).2 then (Thread.waitingFiber second).woken
        else .waitingFiber second) with
      m_waitSem := (s.m_waitSem.wait n).1 } := by
  have hnot : ¬At s.threads Thread.inWaitSem n := fun h => nomatch (at_iff hn).1 h
  have hwakes (t' : Thread M) (hne : s.m_queue ≠ []) : 0 < s.m_sem.m_concurrency ∨
      .enqueue ∈ s.threads.set n t' ∨ .swap ∈ s.threads.set n t' :=
    (hinv.wakes hne).imp_right (Or.imp (mem_set hn · nofun) (mem_set hn · nofun))
  rcases hinv.waitSem.wait hnot with ⟨hnext, hcount, hwaits⟩ | ⟨hnext, hzero, hzero', hwaits⟩ <;>
    rw [hnext]
  · refine hinv.set hn (Thread.waitingFiber second).woken ?_ le_rfl (woken_leads second)
      (hinv.sem.congr fun m => at_set_of_eq hn (woken_runs second).1)
      (hwaits.congr fun m => at_set_of_eq hn (woken_runs second).2.1) (hwakes _) id fun hc => ?_
    · rw [woken_hold, Thread.hold]
      omega
    · rw [(woken_runs second).2.2] at hc
      cases hc
  · refine hinv.set hn (.waitingFiber second) (by rw [hzero, hzero']; rfl) le_rfl (.inl le_rfl)
      (hinv.sem.congr fun m => at_set_of_eq hn rfl) (hwaits.congr fun m => ?_) (hwakes _) id nofun
    rw [at_set hn]
    split_ifs with h
    · exact iff_of_true rfl (.inr h)
    · exact (or_iff_left h).symm

/-- New threads, and what they have. -/
theorem Inv.append (hinv : Inv total s) (ts : List (Thread M)) {m_queue : List M}
    (hleads : tally Thread.leads s.threads + tally Thread.leads ts ≤ 1)
    (hnew : ∀ t ∈ ts, t.inSem = false ∧ t.inWaitSem = false ∧ t.closed = false)
    (hwakes : m_queue ≠ [] → m_queue = s.m_queue ∨ s.m_queue ≠ [] ∨ .enqueue ∈ ts) :
    Inv (total + tally Thread.hold ts) { s with
      threads := s.threads ++ ts
      m_queue := m_queue } where
  permits := by
    have h := hinv.permits
    dsimp only
    rw [tally_append]
    omega
  writer := by rwa [tally_append]
  sem := hinv.sem.congr fun m => at_append fun t ht => (hnew t ht).1
  waitSem := hinv.waitSem.congr fun m => at_append fun t ht => (hnew t ht).2.1
  wakes hne := by
    have hold (h : s.m_queue ≠ []) := (hinv.wakes h).imp_right
      (Or.imp (List.mem_append_left ts) (List.mem_append_left ts))
    rcases hwakes hne with rfl | h | h
    · exact hold hne
    · exact hold h
    · exact .inr (.inl (List.mem_append_right _ h))
  closed t ht hc := by
    rcases List.mem_append.1 ht with ht | ht
    · exact hinv.closed t ht hc
    · rw [(hnew t ht).2.2] at hc
      cases hc

theorem Thread.hold_of_closed (h : t.closed) : 0 < t.hold := by
  cases t
  case innerClose _ caller => cases caller <;> simp [hold]
  all_goals cases h

/-- `start` has both permits, so that no `innerClose` is in progress. -/
theorem reconnect_inv (hinv : Inv 2 s) (hn : s.threads[n]? = some .reconnect) :
    Inv 2 { s.goto n .connectCb with connected := true } := by
  have h : Inv 2 (s.goto n .connectCb) :=
    hinv.goto hn .connectCb rfl le_rfl (.inl le_rfl) ⟨rfl, rfl⟩ (.inr ⟨rfl, nofun, .inl nofun⟩) id
      nofun
  refine ⟨h.permits, h.writer, h.sem, h.waitSem, h.wakes, fun u hu hc => ?_⟩
  obtain ⟨hlt, -⟩ := List.getElem?_eq_some_iff.1 hn
  have hself : (s.goto n .connectCb).threads[n]? = some .connectCb := List.getElem?_set_self hlt
  have hpermits := h.permits
  rw [← tally_eraseIdx _ hself] at hpermits
  have hpos := Thread.hold_of_closed hc
  rcases (mem_iff_of_getElem? hself).1 hu with rfl | hu
  · cases hc
  · have hle := le_tally (f := Thread.hold) hu
    simp only [Thread.hold] at hpermits hle hpos
    omega

/-- A notification of the writer is none of the other threads. -/
theorem notify_getElem? (hinv : Inv total s) (hn : s.threads[n]? = some t) (ht : t.inSem = false) :
    s.notify.threads[n]? = some t := by
  unfold Sys.notify
  rcases hinv.sem.notify with ⟨hnone, -⟩ | ⟨f, hsome, hf, -⟩
  · rwa [hnone]
  · obtain ⟨u, hu, -⟩ := id hf
    rw [hsome, wake_eq hu, List.getElem?_set_ne, hn]
    rintro rfl
    rw [at_iff hn, ht] at hf
    cases hf

theorem runThread_inv (hinv : Inv 2 s) (hn : s.threads[n]? = some t) {outcome : Outcome}
    (h : runThread s n outcome t = some s') : Inv 2 s' := by
  have hgo (t' : Thread M) (hhold : t'.hold = t.hold) (hleads : t'.leads ≤ t.leads)
      (hblock : t'.inSem = t.inSem ∧ t'.inWaitSem = t.inWaitSem ∧ t'.closed = false)
      (hneq : t ≠ .swap ∧ t ≠ .enqueue) : Inv 2 (s.goto n t') :=
    hinv.goto hn t' (by rw [hhold]) le_rfl (.inl hleads) ⟨hblock.1, hblock.2.1⟩
      (.inr ⟨rfl, hneq.1, .inl hneq.2⟩) id fun hc => by rw [hblock.2.2] at hc; cases hc
  cases t
  case enqueue =>
    cases h
    obtain ⟨hinv', hstrong⟩ := notify_inv hinv
    exact hinv'.goto (notify_getElem? hinv hn rfl) .done rfl le_rfl (.inl le_rfl) ⟨rfl, rfl⟩
      (.inr ⟨rfl, nofun, .inr hstrong⟩) id nofun
  case doRead =>
    cases h
    split_ifs <;> exact hgo _ rfl le_rfl ⟨rfl, rfl, rfl⟩ ⟨nofun, nofun⟩
  case doRecv =>
    cases outcome <;> cases h <;> exact hgo _ rfl le_rfl ⟨rfl, rfl, rfl⟩ ⟨nofun, nofun⟩
  case doReadNotify =>
    cases h
    exact notifyWait_inv (hinv.goto hn .done rfl (Nat.le_succ 1) (.inl le_rfl) ⟨rfl, rfl⟩
      (.inr ⟨rfl, nofun, .inl nofun⟩) id nofun)
  case doWrite => 
    cases h
    split_ifs <;> exact hgo _ rfl le_rfl ⟨rfl, rfl, rfl⟩ ⟨nofun, nofun⟩
  case wait =>
    cases h
    exact wait_inv hinv hn
  case waiting => cases h
  case swap =>
    cases h
    exact hinv.goto hn (.doSend s.m_queue) rfl le_rfl (.inl le_rfl) ⟨rfl, rfl⟩ (.inl rfl) id nofun
  case doSend ctxs =>
    cases ctxs with
    | nil =>
      cases h
      exact hgo .doWrite rfl le_rfl ⟨rfl, rfl, rfl⟩ ⟨nofun, nofun⟩
    | cons ctx ctxs =>
      cases outcome <;> cases h
      · exact hinv.goto hn (.doSend ctxs) rfl le_rfl (.inl le_rfl) ⟨rfl, rfl⟩
          (.inr ⟨rfl, nofun, .inl nofun⟩) id nofun
      · exact hgo _ rfl le_rfl ⟨rfl, rfl, rfl⟩ ⟨nofun, nofun⟩
      · exact hgo _ rfl le_rfl ⟨rfl, rfl, rfl⟩ ⟨nofun, nofun⟩
  case clear =>
    cases h
    exact hinv.goto hn .doWriteNotify rfl le_rfl (.inl le_rfl) ⟨rfl, rfl⟩ (.inl rfl) id nofun
  case doWriteNotify =>
    cases h
    exact notifyWait_inv (hinv.goto hn .done rfl (Nat.le_succ 1) (.inl zero_le_one) ⟨rfl, rfl⟩
      (.inr ⟨rfl, nofun, .inl nofun⟩) id nofun)
  case innerClose closing caller =>
    cases closing with
    | close =>
      cases h
      refine hinv.goto hn (.innerClose .notify caller) ?_ le_rfl (.inl ?_) ⟨rfl, rfl⟩
        (.inr ⟨rfl, nofun, .inl nofun⟩) nofun fun _ => rfl <;> cases caller <;> rfl
    | notify =>
      cases h
      refine (notify_inv hinv).1.goto (notify_getElem? hinv hn rfl) (.innerClose .clear caller) ?_
        le_rfl (.inl ?_) ⟨rfl, rfl⟩ (.inr ⟨rfl, nofun, .inl nofun⟩) id
        fun _ => hinv.closed _ (List.mem_of_getElem? hn) rfl <;> cases caller <;> rfl
    | clear =>
      cases h
      refine hinv.goto hn caller.back ?_ le_rfl (.inl ?_) ?_ (.inl rfl) id ?_ <;>
        cases caller <;>
        first
          | rfl
          | exact le_rfl
          | exact ⟨rfl, rfl⟩
          | nofun
  case waitFiber second =>
    cases h
    exact waitFiber_inv hinv hn
  case waitingFiber second => cases h
  case isConnected =>
    cases h
    split_ifs <;> exact hgo _ rfl le_rfl ⟨rfl, rfl, rfl⟩ ⟨nofun, nofun⟩
  case reconnect =>
    cases outcome <;> cases h
    · exact reconnect_inv hinv hn
    · exact hgo _ rfl zero_le_one ⟨rfl, rfl, rfl⟩ ⟨nofun, nofun⟩
    · exact hgo _ rfl zero_le_one ⟨rfl, rfl, rfl⟩ ⟨nofun, nofun⟩
  case connectCb =>
    cases outcome <;> cases h
    · exact hgo _ rfl le_rfl ⟨rfl, rfl, rfl⟩ ⟨nofun, nofun⟩
    · exact hgo _ rfl zero_le_one ⟨rfl, rfl, rfl⟩ ⟨nofun, nofun⟩
    · exact hgo _ rfl zero_le_one ⟨rfl, rfl, rfl⟩ ⟨nofun, nofun⟩
  case startRead =>
    cases h
    have h : Inv 1 (s.goto n .startWrite) := hinv.goto hn .startWrite rfl (Nat.le_succ 1) (.inl le_rfl)
      ⟨rfl, rfl⟩ (.inr ⟨rfl, nofun, .inl nofun⟩) id nofun
    refine h.append [.doRead] h.writer (fun t ht => ?_) fun _ => .inl rfl
    rw [List.mem_singleton.1 ht]
    exact ⟨rfl, rfl, rfl⟩
  case startWrite =>
    cases h
    have h : Inv 1 (s.goto n .done) := hinv.goto hn .done rfl (Nat.le_succ 1) (.inl zero_le_one)
      ⟨rfl, rfl⟩ (.inr ⟨rfl, nofun, .inl nofun⟩) id nofun
    refine h.append [.doWrite] ?_ (fun t ht => ?_) fun _ => .inl rfl
    · have hwriter := hinv.writer
      have hset := tally_set Thread.leads hn .done
      simp only [Sys.goto, Thread.leads, tally_cons, tally_nil] at hset ⊢
      omega
    · rw [List.mem_singleton.1 ht]
      exact ⟨rfl, rfl, rfl⟩
  case startNotify second =>
    cases h
    refine notifyWait_inv (hinv.goto hn _ ?_ (Nat.le_succ 1) (.inl ?_) ?_
      (.inr ⟨rfl, nofun, .inl nofun⟩) id ?_) <;> cases second <;>
      first
        | rfl
        | exact le_rfl
        | exact ⟨rfl, rfl⟩
        | nofun
  case done => cases h

theorem step_inv {l : Label M} (hinv : Inv 2 s) (h : step s l s') : Inv 2 s' := by
  cases l with
  | enqueue ctx =>
    cases h
    cases hq : s.m_queue with
    | nil =>
      refine hinv.append [.enqueue] hinv.writer (fun t ht => ?_)
        fun _ => .inr (.inr (List.mem_singleton_self _))
      rw [List.mem_singleton.1 ht]
      exact ⟨rfl, rfl, rfl⟩
    | cons ctx' ctxs =>
      exact hinv.append [] hinv.writer nofun fun _ => .inr (.inl (hq ▸ List.cons_ne_nil _ _))
  | start =>
    cases h
    refine hinv.append [.waitFiber false] hinv.writer (fun t ht => ?_) fun _ => .inl rfl
    rw [List.mem_singleton.1 ht]
    exact ⟨rfl, rfl, rfl⟩
  | close =>
    cases h
    exact ⟨hinv.permits, hinv.writer, hinv.sem, hinv.waitSem, hinv.wakes, fun _ _ _ => rfl⟩
  | run n outcome =>
    obtain ⟨t, hn, h⟩ := Option.bind_eq_some_iff.1 h
    exact runThread_inv hinv hn h

/-- There is one writer at most. -/
theorem Inv.others (hinv : Inv total s) (hn : s.threads[n]? = some t) (ht : t.leads = 1) :
    ∀ u ∈ s.threads.eraseIdx n, u.leads = 0 := by
  have hwriter := hinv.writer
  rw [← tally_eraseIdx _ hn] at hwriter
  exact tally_eq_zero.1 (by omega)

theorem awake_of_inv (hinv : Inv 2 s) : Awake s := by
  intro n hn hne
  rcases hinv.wakes hne with h | h | h
  · have hzero := hinv.sem.eq_zero ((at_iff hn).2 rfl)
    omega
  · exact h
  · rcases (mem_iff_of_getElem? hn).1 h with h | h
    · cases h
    · cases hinv.others hn rfl _ h

/-! ## The order of the messages -/

theorem Thread.hand_eq_nil {t : Thread M} (h : t.leads = 0) : t.hand = [] := by
  cases t <;> first | rfl | cases h

/-- With one writer, what is swapped out and not sent is what it has. -/
theorem flatMap_hand {threads : List (Thread M)} (hn : threads[n]? = some t)
    (hothers : ∀ u ∈ threads.eraseIdx n, u.leads = 0) : threads.flatMap Thread.hand = t.hand := by
  obtain ⟨hlt, rfl⟩ := List.getElem?_eq_some_iff.1 hn
  rw [List.eraseIdx_eq_take_drop_succ] at hothers
  have htake : (threads.take n).flatMap Thread.hand = [] :=
    List.flatMap_eq_nil_iff.2 fun u hu => Thread.hand_eq_nil (hothers u (List.mem_append_left _ hu))
  have hdrop : (threads.drop (n + 1)).flatMap Thread.hand = [] :=
    List.flatMap_eq_nil_iff.2 fun u hu => Thread.hand_eq_nil (hothers u (List.mem_append_right _ hu))
  conv_lhs => rw [← List.take_append_drop n threads, List.drop_eq_getElem_cons hlt]
  rw [List.flatMap_append, List.flatMap_cons, htake, hdrop, List.append_nil, List.nil_append]

/-- The writer goes on. -/
theorem Inv.hand_set (hinv : Inv total s) (hn : s.threads[n]? = some t) (ht : t.leads = 1)
    (t' : Thread M) : s.threads.flatMap Thread.hand = t.hand ∧
      (s.threads.set n t').flatMap Thread.hand = t'.hand := by
  obtain ⟨hlt, -⟩ := List.getElem?_eq_some_iff.1 hn
  refine ⟨flatMap_hand hn (hinv.others hn ht), flatMap_hand (List.getElem?_set_self hlt) ?_⟩
  rw [List.eraseIdx_set_eq]
  exact hinv.others hn ht

theorem Thread.woken_hand (t : Thread M) : t.woken.hand = t.hand := by
  cases t
  case waitingFiber second => cases second <;> rfl
  all_goals rfl

theorem flatMap_wake (threads : List (Thread M)) (next : Option ℕ) :
    (wake threads next).flatMap Thread.hand = threads.flatMap Thread.hand := by
  cases next with
  | none => rfl
  | some f =>
    rw [wake, List.flatMap_def, List.flatMap_def]
    refine congrArg List.flatten (List.ext_getElem? fun m => ?_)
    rw [List.getElem?_map, List.getElem?_map, List.getElem?_modify]
    cases threads[m]? with
    | none => rfl
    | some t =>
      by_cases h : f = m
      · simp [h, Thread.woken_hand]
      · simp [h]

/-- A thread goes on that has no messages, or keeps them. -/
theorem pending_goto (hn : s.threads[n]? = some t) (h : t'.hand = t.hand) :
    (s.goto n t').pending = s.pending := by
  obtain ⟨hlt, rfl⟩ := List.getElem?_eq_some_iff.1 hn
  have hset : (s.threads.set n t').map Thread.hand = s.threads.map Thread.hand := by
    rw [List.map_set, h, ← List.getElem_map Thread.hand, List.set_getElem_self]
    exact (List.length_map _).symm ▸ hlt
  rw [Sys.pending, Sys.pending, Sys.goto, List.flatMap_def, List.flatMap_def, hset]

theorem pending_notify (s : Sys M) : s.notify.pending = s.pending := by
  rw [Sys.pending, Sys.notify, flatMap_wake, Sys.pending]

theorem pending_notifyWait (s : Sys M) : s.notifyWait.pending = s.pending := by
  rw [Sys.pending, Sys.notifyWait, flatMap_wake, Sys.pending]

theorem clear_notMem_wake {threads : List (Thread M)} (h : .clear ∉ threads) (next : Option ℕ) :
    .clear ∉ wake threads next := by
  cases next with
  | none => exact h
  | some f =>
    intro hmem
    obtain ⟨m, hm⟩ := List.mem_iff_getElem?.1 hmem
    rw [wake, List.getElem?_modify] at hm
    obtain ⟨t, ht, heq⟩ := Option.map_eq_some_iff.1 hm
    refine h (List.mem_of_getElem? (ht.trans (congrArg some ?_)))
    split_ifs at heq
    · cases t
      case waitingFiber second => cases second <;> cases heq
      all_goals first | rfl | cases heq
    · exact heq

theorem clear_notMem_set {threads : List (Thread M)} (h : .clear ∉ threads) (ht : t ≠ .clear) :
    .clear ∉ threads.set n t :=
  fun hmem => (List.mem_or_eq_of_mem_set hmem).elim h ht.symm

theorem runThread_steady (hinv : Inv 2 s) (hn : s.threads[n]? = some t) {outcome : Outcome}
    (hclear : .clear ∉ s.threads) (hsteady : Steady s (.run n outcome) s')
    (h : runThread s n outcome t = some s') :
    .clear ∉ s'.threads ∧ s'.sent ++ s'.pending = s.sent ++ s.pending := by
  obtain ⟨hconnected, hconnected', hsend⟩ := hsteady
  have hgo {t' : Thread M} (h : t'.hand = t.hand) (ht : t' ≠ .clear) :
      .clear ∉ (s.goto n t').threads ∧
        (s.goto n t').sent ++ (s.goto n t').pending = s.sent ++ s.pending :=
    ⟨clear_notMem_set hclear ht, by rw [pending_goto hn h]; rfl⟩
  have hwait {t' : Thread M} (h : t'.hand = t.hand) (ht : t' ≠ .clear) :
      .clear ∉ (s.goto n t').notifyWait.threads ∧ (s.goto n t').notifyWait.sent ++
        (s.goto n t').notifyWait.pending = s.sent ++ s.pending :=
    ⟨clear_notMem_wake (hgo h ht).1 _, by rw [pending_notifyWait]; exact (hgo h ht).2⟩
  have hmem : t ∈ s.threads := List.mem_of_getElem? hn
  cases t
  case enqueue =>
    cases h
    have hpending : (s.notify.goto n .done).pending = s.notify.pending :=
      pending_goto (notify_getElem? hinv hn rfl) rfl
    refine ⟨clear_notMem_set (clear_notMem_wake hclear _) nofun, ?_⟩
    rw [hpending, pending_notify]
    rfl
  case doReadNotify =>
    cases h
    exact hwait rfl nofun
  case doWriteNotify =>
    cases h
    exact hwait rfl nofun
  case startNotify second =>
    cases h
    cases second
    · exact hwait rfl nofun
    · exact hwait rfl nofun
  case swap =>
    cases h
    obtain ⟨hold, hnew⟩ := hinv.hand_set hn rfl (.doSend s.m_queue)
    refine ⟨clear_notMem_set hclear nofun, ?_⟩
    simp only [Sys.pending, Sys.goto, hold, hnew, Thread.hand, List.append_nil, List.nil_append]
  case doSend ctxs =>
    cases ctxs with
    | nil =>
      cases h
      exact hgo rfl nofun
    | cons ctx ctxs =>
      rw [hsend n ctx ctxs hn outcome rfl] at h
      cases h
      obtain ⟨hold, hnew⟩ := hinv.hand_set hn rfl (.doSend ctxs)
      refine ⟨clear_notMem_set hclear nofun, ?_⟩
      simp only [Sys.pending, Sys.goto, hold, hnew, Thread.hand, List.append_assoc, List.cons_append,
        List.nil_append]
  case clear => exact absurd hmem hclear
  case innerClose closing caller =>
    cases closing with
    | close =>
      cases h
      cases hconnected'
    | notify =>
      rw [hinv.closed _ hmem rfl] at hconnected
      cases hconnected
    | clear =>
      rw [hinv.closed _ hmem rfl] at hconnected
      cases hconnected
  case doRead =>
    cases h
    rw [if_pos hconnected]
    exact hgo rfl nofun
  case doRecv => cases outcome <;> cases h <;> exact hgo rfl nofun
  case doWrite =>
    cases h
    rw [if_pos hconnected]
    exact hgo rfl nofun
  case wait =>
    cases h
    split_ifs <;> exact hgo rfl nofun
  case waitFiber second =>
    cases h
    split_ifs
    · cases second <;> exact hgo rfl nofun
    · exact hgo rfl nofun
  case isConnected =>
    cases h
    rw [if_pos hconnected]
    exact hgo rfl nofun
  case reconnect => cases outcome <;> cases h <;> exact hgo rfl nofun
  case connectCb => cases outcome <;> cases h <;> exact hgo rfl nofun
  case startRead =>
    cases h
    obtain ⟨hclear', hpending⟩ := @hgo .startWrite rfl nofun
    refine ⟨fun hmem => (List.mem_append.1 hmem).elim hclear' (by simp), ?_⟩
    rw [← hpending]
    simp [Sys.pending, Sys.goto, Thread.hand]
  case startWrite =>
    cases h
    obtain ⟨hclear', hpending⟩ := @hgo .done rfl nofun
    refine ⟨fun hmem => (List.mem_append.1 hmem).elim hclear' (by simp), ?_⟩
    rw [← hpending]
    simp [Sys.pending, Sys.goto, Thread.hand]
  all_goals cases h

theorem step_steady {l : Label M} (hinv : Inv 2 s) (hclear : .clear ∉ s.threads)
    (hsteady : Steady s l s') (h : step s l s') :
    .clear ∉ s'.threads ∧ s'.sent ++ s'.pending = s.sent ++ s.pending ++ enqueued [l] := by
  cases l with
  | enqueue ctx =>
    cases h
    cases hq : s.m_queue <;> simp [Sys.pending, enqueued, Thread.hand, hq, hclear]
  | start =>
    cases h
    simp [Sys.pending, enqueued, Thread.hand, hclear]
  | close =>
    cases h
    cases hsteady.2.1
  | run n outcome =>
    obtain ⟨t, hn, h⟩ := Option.bind_eq_some_iff.1 h
    obtain ⟨hclear', heq⟩ := runThread_steady hinv hn hclear hsteady h
    exact ⟨hclear', heq.trans (List.append_nil _).symm⟩

theorem enqueued_cons (l : Label M) (ls : List (Label M)) :
    enqueued (l :: ls) = enqueued [l] ++ enqueued ls := by
  unfold enqueued
  cases l <;> rfl

theorem inOrder_of_inv (hinv : Inv 2 s) : InOrder s := by
  intro hclear ls s' hrun
  induction hrun with
  | nil => exact (List.append_nil _).symm
  | cons h _ ih =>
    obtain ⟨hclear', heq⟩ := step_steady hinv hclear h.1 h.2
    rw [ih (step_inv hinv h.2) hclear', heq, List.append_assoc, ← enqueued_cons]

/-- **No message waits with the writer asleep**, and as long as the stream is connected and every
    `doSend` succeeds the messages are sent once each, in their order. -/
theorem writes_of_run {connected : Bool} {ls : List (Label M)}
    (hrun : Run step (init M connected) ls s) : Awake s ∧ InOrder s := by
  have hinv : Inv 2 s :=
    hrun.invariant (P := Inv 2) (fun _ _ _ hinv h => step_inv hinv h) (init_inv M connected)
  exact ⟨awake_of_inv hinv, inOrder_of_inv hinv⟩

/-- The writer sleeps when two messages are enqueued, before it is notified of the first. -/
theorem writes_woken : ∃ s : Sys ℕ, Run step (init ℕ true)
    [.start, .run 0 .success, .run 0 .success, .run 0 .success, .run 0 .success, .run 0 .success,
      .run 0 .success, .run 2 .success, .run 2 .success, .enqueue 7, .enqueue 8, .run 3 .success,
      .run 2 .success, .run 2 .success] s ∧ s.sent = [7] ∧ s.pending = [8] ∧ Awake s ∧ InOrder s := by
  obtain ⟨s, hrun, hsent, hpending⟩ : ∃ s : Sys ℕ, Run step (init ℕ true)
      [.start, .run 0 .success, .run 0 .success, .run 0 .success, .run 0 .success, .run 0 .success,
        .run 0 .success, .run 2 .success, .run 2 .success, .enqueue 7, .enqueue 8, .run 3 .success,
        .run 2 .success, .run 2 .success] s ∧ s.sent = [7] ∧ s.pending = [8] := by
    refine ⟨_, .cons rfl <| .cons rfl <| .cons rfl <| .cons rfl <| .cons rfl <| .cons rfl <|
      .cons rfl <| .cons rfl <| .cons rfl <| .cons rfl <| .cons rfl <| .cons rfl <| .cons rfl <|
      .cons rfl <| .nil _, rfl, rfl⟩
  exact ⟨s, hrun, hsent, hpending, writes_of_run hrun⟩

end

end Ancfl.Writer
