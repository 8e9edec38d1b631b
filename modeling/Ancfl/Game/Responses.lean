/-
  The requests that `LoginService` forwards to the account server, and the
  responses that it forwards to the clients.

  * `HandleLoginRequest` and `HandleRegisterRequest` note the client in
    `client_map_`, under the account connection, and then send the request;
  * the coroutine of `ConnectToAccountServer` sends each response to the client
    noted, and removes the note;
  * `Sys`: the note, the handlers that have not sent their request yet, and the
    requests that are not answered; the account server answers them in order;
  * `routed_of_alone`: the responses reach their clients in a run in which no
    two requests are on their way.
-/
import Ancfl.Lib.Run
import Mathlib.Data.Finmap

namespace Ancfl.Game.Responses

open Lib

/-- `T` are the handlers of requests, `S` the sockets of the clients. -/
structure Sys (T S : Type) where
  /-- the entry of `client_map_` for the account connection -/
  client_map : Option S
  /-- the handlers before their `send`, with their clients -/
  noted : Finmap fun _ : T => S
  /-- the clients whose requests the account server has to answer -/
  waiting : List S
  /-- for each response taken from the account connection the client whose request it answers, and
      the client it was sent to -/
  taken : List (S × Option S)

inductive Label (T S : Type)
  /-- `client_map_[account_server_conn_.get()] = client` -/
  | note (t : T) (client : S)
  /-- the `send` to the account server; `sent` if it returns a positive number -/
  | send (t : T) (sent : Bool)
  /-- a response; `connected` is what `isConnected` returns for the client that is noted -/
  | answer (connected : Bool)

variable {T S : Type} [DecidableEq T]

def init (T S : Type) : Sys T S := ⟨none, ∅, [], []⟩

def next (s : Sys T S) : Label T S → Option (Sys T S)
  | .note t client =>
    if t ∈ s.noted then none
    else some { s with client_map := some client, noted := s.noted.insert t client }
  | .send t sent => do
    let client ← s.noted.lookup t
    if sent then return { s with noted := s.noted.erase t, waiting := s.waiting ++ [client] }
    else return { s with noted := s.noted.erase t, client_map := none }
  | .answer connected =>
    match s.waiting with
    | [] => none
    | client :: rest => some { s with
        client_map := none
        waiting := rest
        taken := s.taken ++ [(client, if connected then s.client_map else none)] }

def step (s : Sys T S) (l : Label T S) (s' : Sys T S) : Prop := next s l = some s'

/-- Every response was sent to the client whose request it answers, and to no other. -/
def Routed {T S : Type} (s : Sys T S) : Prop := ∀ x ∈ s.taken, x.2 = some x.1

/-- A client is noted when no request is on its way; when the response comes it is connected. -/
def Alone (s : Sys T S) : Label T S → Prop
  | .note _ _ => s.noted = ∅ ∧ s.waiting = []
  | .send _ _ => True
  | .answer connected => connected = true

/-- At most one request is on its way, and its client is noted. -/
inductive Single (s : Sys T S) : Prop
  | idle (hnoted : s.noted = ∅) (hwaiting : s.waiting = [])
  | noted (t : T) (client : S) (hnoted : s.noted = (∅ : Finmap fun _ : T => S).insert t client)
      (hwaiting : s.waiting = []) (hmap : s.client_map = some client)
  | sent (client : S) (hnoted : s.noted = ∅) (hwaiting : s.waiting = [client])
      (hmap : s.client_map = some client)

theorem step_single {s s' : Sys T S} {l : Label T S} (halone : Alone s l) (hstep : step s l s')
    (h : Single s) (hrouted : Routed s) : Single s' ∧ Routed s' := by
  cases l with
  | note t client =>
    obtain ⟨hnoted, hwaiting⟩ := halone
    rw [step, next] at hstep
    split_ifs at hstep
    cases hstep
    exact ⟨.noted t client (by rw [hnoted]) hwaiting rfl, hrouted⟩
  | send t sent =>
    obtain ⟨client, hclient, hstep⟩ := Option.bind_eq_some_iff.1 hstep
    cases h with
    | idle hnoted _ => rw [hnoted, Finmap.lookup_empty] at hclient; cases hclient
    | sent _ hnoted _ _ => rw [hnoted, Finmap.lookup_empty] at hclient; cases hclient
    | noted t' client' hnoted hwaiting hmap =>
      obtain rfl : t = t' := by
        by_contra hne
        rw [hnoted, Finmap.lookup_insert_of_ne _ hne, Finmap.lookup_empty] at hclient
        cases hclient
      obtain rfl : client' = client := by
        rw [hnoted, Finmap.lookup_insert] at hclient
        exact Option.some.inj hclient
      have hnone : s.noted.erase t = ∅ := by
        refine Finmap.ext_lookup fun x => ?_
        by_cases hx : x = t
        · rw [hx, Finmap.lookup_erase, Finmap.lookup_empty]
        · rw [Finmap.lookup_erase_ne hx, hnoted, Finmap.lookup_insert_of_ne _ hx]
      split_ifs at hstep
      · cases hstep
        exact ⟨.sent client' hnone (by rw [hwaiting]; rfl) hmap, hrouted⟩
      · cases hstep
        exact ⟨.idle hnone hwaiting, hrouted⟩
  | answer connected =>
    obtain rfl : connected = true := halone
    rw [step, next] at hstep
    cases h with
    | idle _ hwaiting => rw [hwaiting] at hstep; cases hstep
    | noted _ _ _ hwaiting _ => rw [hwaiting] at hstep; cases hstep
    | sent client hnoted hwaiting hmap =>
      rw [hwaiting] at hstep
      cases hstep
      refine ⟨.idle hnoted rfl, fun x hx => ?_⟩
      rcases List.mem_append.1 hx with hx | hx
      · exact hrouted x hx
      · rw [List.mem_singleton.1 hx]
        exact hmap

/-- **The responses reach their clients** if no two requests are on their way at once. -/
theorem routed_of_alone {ls : List (Label T S)} {s : Sys T S}
    (hrun : Run (fun s l s' => Alone s l ∧ step s l s') (init T S) ls s) : Routed s := by
  have h := hrun.invariant (P := fun s => Single s ∧ Routed s)
    (fun s l s' h hs => step_single hs.1 hs.2 h.1 h.2) ⟨.idle rfl rfl, by simp [init, Routed]⟩
  exact h.2

/-- Two clients, one after the other. -/
theorem routed_two : ∃ s : Sys ℕ ℕ, Run step (init ℕ ℕ)
    [.note 0 7, .send 0 true, .answer true, .note 1 8, .send 1 true, .answer true] s ∧ Routed s :=
  have hrun : Run (fun s l s' => Alone s l ∧ step s l s') (init ℕ ℕ)
      [.note 0 7, .send 0 true, .answer true, .note 1 8, .send 1 true, .answer true] _ :=
    .cons ⟨⟨rfl, rfl⟩, rfl⟩ (.cons ⟨trivial, rfl⟩ (.cons ⟨rfl, rfl⟩
      (.cons ⟨⟨by decide, rfl⟩, rfl⟩ (.cons ⟨trivial, rfl⟩ (.cons ⟨rfl, rfl⟩ (.nil _))))))
  ⟨_, hrun.mono fun _ _ _ h => h.2, routed_of_alone hrun⟩

/-- **A second client is noted before the first response comes.** -/
theorem not_routed : ¬∀ (ls : List (Label ℕ ℕ)) (s : Sys ℕ ℕ), Run step (init ℕ ℕ) ls s → Routed s := by
  intro h
  have hrun : Run step (init ℕ ℕ) [.note 0 7, .send 0 true, .note 1 8, .send 1 true, .answer true] _ :=
    .cons rfl (.cons rfl (.cons rfl (.cons rfl (.cons rfl (.nil _)))))
  have hfirst := h _ _ hrun (7, some 8) (by simp [init])
  cases hfirst

end Ancfl.Game.Responses
