/-
  The connection tables of `ProxyService`, `DBService` and `CenterServer`.

  * `handleClient` counts the connections in one critical section and adds its
    own in another; `HandleRecv` removes it when it ends;
  * `Sys`: the table, and the handlers that are between the two sections or
    serve a connection; a step is one critical section;
  * `limited_of_room`: the limit holds in a run in which a handler passes the
    check only if the handlers after it leave room for it.
-/
import Ancfl.Lib.Run
import Mathlib.Data.Finmap

namespace Ancfl.Game.Connections

open Lib

/-- Any of the three servers, whose sections are the same: `T` are the handlers, one for each client,
    `S` the sockets.  A handler goes from `handleClient` to `HandleRecv`, in `CenterServer` by a call,
    in the other two by the scheduler. -/
structure Sys (T S : Type) where
  connections : Finmap fun _ : BitVec 32 => S
  last_heart_time : Finmap fun _ : BitVec 32 => ℤ
  next_conn_id : BitVec 32
  max_connections : ℕ
  /-- the handlers that have passed the check, with their clients -/
  admitted : Finmap fun _ : T => S
  /-- the handlers in `HandleRecv`, with their connections -/
  serving : Finmap fun _ : T => BitVec 32

inductive Label (T S : Type)
  | check (t : T) (client : S)
  | add (t : T) (now : ℤ)
  | remove (t : T)

variable {T S : Type} [DecidableEq T]

def init (T S : Type) (max_connections : ℕ) : Sys T S := ⟨∅, ∅, 1, max_connections, ∅, ∅⟩

/-- One critical section: the first or the second of `handleClient`, or the one of `HandleRecv`. -/
def next (s : Sys T S) : Label T S → Option (Sys T S)
  | .check t client =>
    if t ∈ s.admitted ∨ t ∈ s.serving then none
    else if s.max_connections ≤ s.connections.keys.card then some s
    else some { s with admitted := s.admitted.insert t client }
  | .add t now => do
    let client ← s.admitted.lookup t
    let conn_id := s.next_conn_id
    return { s with
      next_conn_id := conn_id + 1
      connections := s.connections.insert conn_id client
      last_heart_time := s.last_heart_time.insert conn_id now
      admitted := s.admitted.erase t
      serving := s.serving.insert t conn_id }
  | .remove t => do
    let conn_id ← s.serving.lookup t
    return { s with
      connections := s.connections.erase conn_id
      last_heart_time := s.last_heart_time.erase conn_id
      serving := s.serving.erase t }

def step (s : Sys T S) (l : Label T S) (s' : Sys T S) : Prop := next s l = some s'

/-- The number of entries does not exceed the maximum. -/
def Limited {T S : Type} (s : Sys T S) : Prop := s.connections.keys.card ≤ s.max_connections

instance {T S : Type} (s : Sys T S) : Decidable (Limited s) := inferInstanceAs (Decidable (_ ≤ _))

/-- A handler that passes the check finds room for those that have passed it, and for itself. -/
def Room (s : Sys T S) : Label T S → Prop
  | .check _ _ => s.connections.keys.card < s.max_connections →
    s.connections.keys.card + s.admitted.keys.card < s.max_connections
  | _ => True

section
variable {α β : Type} [DecidableEq α] {m : Finmap fun _ : α => β} {a : α} {b : β}

theorem card_insert_le : (m.insert a b).keys.card ≤ m.keys.card + 1 := by
  have hkeys : (m.insert a b).keys = insert a m.keys := by
    ext x
    rw [Finmap.mem_keys, Finmap.mem_insert, Finset.mem_insert, Finmap.mem_keys]
  rw [hkeys]
  exact Finset.card_insert_le _ _

theorem card_erase_le : (m.erase a).keys.card ≤ m.keys.card := by
  rw [Finmap.keys_erase]
  exact Finset.card_erase_le

theorem card_erase_of_lookup (h : m.lookup a = some b) : (m.erase a).keys.card + 1 = m.keys.card := by
  rw [Finmap.keys_erase]
  exact Finset.card_erase_add_one (Finmap.mem_keys.2 (Finmap.mem_of_lookup_eq_some h))

end

/-- The handlers that have passed the check fit as well. -/
theorem step_fits {s s' : Sys T S} {l : Label T S} (hroom : Room s l) (hstep : step s l s')
    (h : s.connections.keys.card + s.admitted.keys.card ≤ s.max_connections) :
    s'.connections.keys.card + s'.admitted.keys.card ≤ s'.max_connections := by
  cases l with
  | check t client =>
    rw [step, next] at hstep
    split_ifs at hstep with hbusy hfull
    · cases hstep; exact h
    · cases hstep
      have := hroom (not_le.1 hfull)
      have := card_insert_le (m := s.admitted) (a := t) (b := client)
      show s.connections.keys.card + (s.admitted.insert t client).keys.card ≤ s.max_connections
      omega
  | add t now =>
    obtain ⟨client, hclient, hstep⟩ := Option.bind_eq_some_iff.1 hstep
    cases hstep
    have := card_erase_of_lookup hclient
    have := card_insert_le (m := s.connections) (a := s.next_conn_id) (b := client)
    show (s.connections.insert s.next_conn_id client).keys.card + (s.admitted.erase t).keys.card ≤
      s.max_connections
    omega
  | remove t =>
    obtain ⟨conn_id, -, hstep⟩ := Option.bind_eq_some_iff.1 hstep
    cases hstep
    have := card_erase_le (m := s.connections) (a := conn_id)
    show (s.connections.erase conn_id).keys.card + s.admitted.keys.card ≤ s.max_connections
    omega

/-- **The connection limit holds** as long as a handler passes the check only if there is room. -/
theorem limited_of_room {max_connections : ℕ} {ls : List (Label T S)} {s : Sys T S}
    (hrun : Run (fun s l s' => Room s l ∧ step s l s') (init T S max_connections) ls s) : Limited s := by
  have hfits := hrun.invariant (P := fun s => s.connections.keys.card + s.admitted.keys.card ≤
    s.max_connections) (fun s l s' h hs => step_fits hs.1 hs.2 h) (Nat.zero_le _)
  exact (Nat.le_add_right _ _).trans hfits

/-- Two clients come one after the other to a server that takes one. -/
theorem limited_two : ∃ s : Sys ℕ ℕ, Run step (init ℕ ℕ 1) [.check 0 7, .add 0 100, .check 1 8] s ∧
    Limited s :=
  have hrun : Run (fun s l s' => Room s l ∧ step s l s') (init ℕ ℕ 1)
      [.check 0 7, .add 0 100, .check 1 8] _ :=
    .cons ⟨fun _ => by decide, rfl⟩ (.cons ⟨trivial, rfl⟩
      (.cons ⟨fun h => absurd h (by decide), rfl⟩ (.nil _)))
  ⟨_, hrun.mono fun _ _ _ h => h.2, limited_of_room hrun⟩

/-- **Two handlers pass the check before either adds its connection.** -/
theorem not_limited : ¬∀ (max_connections : ℕ) (ls : List (Label ℕ ℕ)) (s : Sys ℕ ℕ),
    Run step (init ℕ ℕ max_connections) ls s → Limited s := by
  intro h
  have hrun : Run step (init ℕ ℕ 1) [.check 0 7, .check 1 8, .add 0 100, .add 1 100] _ :=
    .cons rfl (.cons rfl (.cons rfl (.cons rfl (.nil _))))
  exact absurd (h 1 _ _ hrun) (by decide)

end Ancfl.Game.Connections
