/-
  `NSDomain` under concurrent calls.

  * The node sets are shared by their addresses; `add(cmd, info)` and
    `del(cmd, id)` go through locked sections of the domain and of a set, and
    each of them is a step of its thread;
  * `added` are the nodes of which an `add` began when every `del` had returned;
  * `listed_of_kept`: when all calls have returned these are listed, in a run in
    which no set with nodes is replaced or erased, and no node is added to a set
    that the domain does not have.
-/
import Ancfl.Lib.Run
import Ancfl.Ns.Protocol
import Mathlib.Logic.Function.Basic

namespace Ancfl.Ns.Concurrent

open Lib

/-! ## Calls -/

/-- An `NSNodeSet` at its address. -/
structure NodeSet where
  m_cmd : BitVec 32
  m_datas : NSNodeSet

/-- Where a call is: the locked section that it enters next. -/
inductive Call
  /-- `add(cmd, info)` at `get(cmd)` -/
  | addGet (cmd : BitVec 32) (info : NSNode)
  /-- at `add(ns)`, for a new set -/
  | addSet (cmd : BitVec 32) (info : NSNode) (ns : ℕ)
  /-- at `ns->add(info)` -/
  | addNode (cmd : BitVec 32) (info : NSNode) (ns : ℕ)
  /-- `del(cmd, id)` at `get(cmd)` -/
  | delGet (cmd : BitVec 32) (id : BitVec 64)
  /-- at `ns->del(id)` -/
  | delNode (cmd : BitVec 32) (id : BitVec 64) (ns : ℕ)
  /-- at `ns->size()` -/
  | delSize (cmd : BitVec 32) (id : BitVec 64) (ns : ℕ)
  /-- at `del(cmd)`, for a set that was empty -/
  | delSet (cmd : BitVec 32) (id : BitVec 64)

namespace Call

/-- The call adds the node with this id. -/
def Adds (cmd : BitVec 32) (id : BitVec 64) : Call → Prop
  | addGet cmd' info | addSet cmd' info _ | addNode cmd' info _ => cmd' = cmd ∧ info.m_id = id
  | _ => False

def Dels (cmd : BitVec 32) (id : BitVec 64) : Call → Prop
  | delGet cmd' id' | delNode cmd' id' _ | delSize cmd' id' _ | delSet cmd' id' =>
    cmd' = cmd ∧ id' = id
  | _ => False

end Call

/-- `T` are the threads; the addresses from `fresh` on are not in use. -/
structure Sys (T : Type) where
  sets : ℕ → NodeSet
  fresh : ℕ
  m_datas : Finmap fun _ : BitVec 32 => ℕ
  calls : T → Option Call
  added : BitVec 32 → BitVec 64 → Prop

inductive Label (T : Type)
  | add (t : T) (cmd : BitVec 32) (info : NSNode)
  | del (t : T) (cmd : BitVec 32) (id : BitVec 64)
  /-- the next locked section of a call -/
  | run (t : T)

section
variable {T : Type}

def init (T : Type) : Sys T :=
  ⟨fun _ => ⟨0, ∅⟩, 0, ∅, fun _ => none, fun _ _ => False⟩

variable [DecidableEq T]

/-- The thread is at another place of its call. -/
def Sys.goto (s : Sys T) (t : T) (c : Option Call) : Sys T :=
  { s with calls := Function.update s.calls t c }

/-- One locked section; a call that has none left returns. -/
def run (s : Sys T) (t : T) : Call → Sys T
  | .addGet cmd info =>
    match s.m_datas.lookup cmd with
    | some ns => s.goto t (some (.addNode cmd info ns))
    | none =>
      { s with
        sets := Function.update s.sets s.fresh ⟨cmd, ∅⟩
        fresh := s.fresh + 1
        calls := Function.update s.calls t (some (.addSet cmd info s.fresh)) }
  | .addSet cmd info ns =>
    { s with
      m_datas := s.m_datas.insert (s.sets ns).m_cmd ns
      calls := Function.update s.calls t (some (.addNode cmd info ns)) }
  | .addNode _ info ns =>
    { s with
      sets := Function.update s.sets ns { s.sets ns with m_datas := (s.sets ns).m_datas.add info }
      calls := Function.update s.calls t none }
  | .delGet cmd id =>
    match s.m_datas.lookup cmd with
    | none => s.goto t none
    | some ns => s.goto t (some (.delNode cmd id ns))
  | .delNode cmd id ns =>
    { s with
      sets := Function.update s.sets ns { s.sets ns with m_datas := (s.sets ns).m_datas.del id }
      calls := Function.update s.calls t (some (.delSize cmd id ns)) }
  | .delSize cmd id ns =>
    if (s.sets ns).m_datas.keys.card = 0 then s.goto t (some (.delSet cmd id)) else s.goto t none
  | .delSet cmd _ =>
    { s with m_datas := s.m_datas.erase cmd, calls := Function.update s.calls t none }

def next (s : Sys T) : Label T → Option (Sys T)
  | .add t cmd info =>
    match s.calls t with
    | some _ => none
    | none =>
      some { s with
        calls := Function.update s.calls t (some (.addGet cmd info))
        added := fun cmd' id => s.added cmd' id ∨
          (cmd' = cmd ∧ id = info.m_id ∧ ∀ t c, s.calls t = some c → ¬c.Dels cmd id) }
  | .del t cmd id =>
    match s.calls t with
    | some _ => none
    | none =>
      some { s with
        calls := Function.update s.calls t (some (.delGet cmd id))
        added := fun cmd' id' => s.added cmd' id' ∧ ¬(cmd' = cmd ∧ id' = id) }
  | .run t => (s.calls t).map (run s t)

def step (s : Sys T) (l : Label T) (s' : Sys T) : Prop := next s l = some s'

end

/-! ## What is to hold, and when -/

section
variable {T : Type}

/-- The node is in the set that the domain has for the command. -/
def Sys.Has (s : Sys T) (cmd : BitVec 32) (id : BitVec 64) : Prop :=
  ∃ ns, s.m_datas.lookup cmd = some ns ∧ id ∈ (s.sets ns).m_datas

/-- When all calls have returned, the nodes that were added last are listed. -/
def Listed (s : Sys T) : Prop :=
  (∀ t, s.calls t = none) → ∀ cmd id, s.added cmd id → s.Has cmd id

/-- The step replaces or erases no set that has nodes, and adds no node to a set that the domain does
    not have. -/
def Kept (s : Sys T) : Label T → Prop
  | .run t =>
    match s.calls t with
    | some (.addSet cmd _ _) | some (.delSet cmd _) => ∀ id, ¬s.Has cmd id
    | some (.addNode cmd _ ns) => s.m_datas.lookup cmd = some ns
    | _ => True
  | _ => True

end

/-! ## Runs -/

/-- The set that a call has a pointer to is one of its command. -/
def Call.Points (cmd : BitVec 32) (ns : ℕ) : Call → Prop
  | addSet cmd' _ ns' | addNode cmd' _ ns' | delNode cmd' _ ns' | delSize cmd' _ ns' =>
    cmd' = cmd ∧ ns' = ns
  | _ => False

section
variable {T : Type}

def Sys.IsSet (s : Sys T) (cmd : BitVec 32) (ns : ℕ) : Prop :=
  (s.sets ns).m_cmd = cmd ∧ ns < s.fresh

structure Inv (s : Sys T) : Prop where
  lookup : ∀ cmd ns, s.m_datas.lookup cmd = some ns → s.IsSet cmd ns
  points : ∀ t c cmd ns, s.calls t = some c → c.Points cmd ns → s.IsSet cmd ns
  listed : ∀ cmd id, s.added cmd id →
    s.Has cmd id ∨ ∃ t c, s.calls t = some c ∧ c.Adds cmd id
  dels : ∀ cmd id, s.added cmd id → ∀ t c, s.calls t = some c → ¬c.Dels cmd id

theorem init_inv (T : Type) : Inv (init T) where
  lookup _ _ h := by cases h
  points _ _ _ _ h := by cases h
  listed _ _ h := h.elim
  dels _ _ h := h.elim

variable [DecidableEq T] {s s' : Sys T} {t : T} {c : Call}

/-- What the rest of a call is to be after a step of it. -/
structure Goes (s s' : Sys T) (t : T) (c : Call) (c' : Option Call) : Prop where
  calls : s'.calls = Function.update s.calls t c'
  added : s'.added = s.added
  fresh : s.fresh ≤ s'.fresh
  m_cmd : ∀ ns, ns < s.fresh → (s'.sets ns).m_cmd = (s.sets ns).m_cmd
  lookup : ∀ cmd ns, s'.m_datas.lookup cmd = some ns → s'.IsSet cmd ns
  points : ∀ c₁ cmd ns, c' = some c₁ → c₁.Points cmd ns → s'.IsSet cmd ns
  dels : ∀ c₁ cmd id, c' = some c₁ → c₁.Dels cmd id → c.Dels cmd id
  kept : ∀ cmd id, s.added cmd id → s.Has cmd id → s'.Has cmd id
  adds : ∀ cmd id, c.Adds cmd id → s'.Has cmd id ∨ ∃ c₁, c' = some c₁ ∧ c₁.Adds cmd id

theorem Goes.inv {c' : Option Call} (h : Goes s s' t c c') (hinv : Inv s)
    (hc : s.calls t = some c) : Inv s' where
  lookup := h.lookup
  points t' c₁ cmd ns hc₁ hpoints := by
    rw [h.calls] at hc₁
    by_cases ht : t' = t
    · subst ht
      rw [Function.update_self] at hc₁
      exact h.points c₁ cmd ns hc₁ hpoints
    · rw [Function.update_of_ne ht] at hc₁
      obtain ⟨hcmd, hfresh⟩ := hinv.points t' c₁ cmd ns hc₁ hpoints
      exact ⟨(h.m_cmd ns hfresh).trans hcmd, hfresh.trans_le h.fresh⟩
  listed cmd id hadded := by
    rw [h.added] at hadded
    rcases hinv.listed cmd id hadded with hhas | ⟨t', c₁, hc₁, hadds⟩
    · exact .inl (h.kept cmd id hadded hhas)
    · by_cases ht : t' = t
      · subst ht
        cases hc.symm.trans hc₁
        refine (h.adds cmd id hadds).imp_right fun ⟨c₂, hc₂, hadds⟩ => ⟨t', c₂, ?_, hadds⟩
        rw [h.calls, Function.update_self, hc₂]
      · refine .inr ⟨t', c₁, ?_, hadds⟩
        rw [h.calls, Function.update_of_ne ht, hc₁]
  dels cmd id hadded t' c₁ hc₁ hdels := by
    rw [h.added] at hadded
    rw [h.calls] at hc₁
    by_cases ht : t' = t
    · subst ht
      rw [Function.update_self] at hc₁
      exact hinv.dels cmd id hadded t' c hc (h.dels c₁ cmd id hc₁ hdels)
    · rw [Function.update_of_ne ht] at hc₁
      exact hinv.dels cmd id hadded t' c₁ hc₁ hdels

theorem goes_goto (hinv : Inv s) {c' : Option Call}
    (hpoints : ∀ c₁ cmd ns, c' = some c₁ → c₁.Points cmd ns → s.IsSet cmd ns)
    (hdels : ∀ c₁ cmd id, c' = some c₁ → c₁.Dels cmd id → c.Dels cmd id)
    (hadds : ∀ cmd id, c.Adds cmd id → ∃ c₁, c' = some c₁ ∧ c₁.Adds cmd id) :
    Goes s (s.goto t c') t c c' where
  calls := rfl
  added := rfl
  fresh := le_rfl
  m_cmd _ _ := rfl
  lookup := hinv.lookup
  points := hpoints
  dels := hdels
  kept _ _ _ h := h
  adds cmd id h := .inr (hadds cmd id h)

/-- A new set is in use from now on. -/
theorem goes_new (hinv : Inv s) {cmd : BitVec 32} {info : NSNode} :
    Goes s { s with
      sets := Function.update s.sets s.fresh ⟨cmd, ∅⟩
      fresh := s.fresh + 1
      calls := Function.update s.calls t (some (.addSet cmd info s.fresh)) } t (.addGet cmd info) (some (.addSet cmd info s.fresh)) where
  calls := rfl
  added := rfl
  fresh := Nat.le_succ _
  m_cmd ns hns := by
    dsimp only
    rw [Function.update_of_ne hns.ne]
  lookup cmd' ns h := by
    obtain ⟨hcmd, hfresh⟩ := hinv.lookup cmd' ns h
    exact ⟨by simp only [Function.update_of_ne hfresh.ne, hcmd], hfresh.trans (Nat.lt_succ_self _)⟩
  points c₁ cmd' ns hc₁ hpoints := by
    cases hc₁
    obtain ⟨rfl, rfl⟩ := hpoints
    exact ⟨by simp only [Function.update_self], Nat.lt_succ_self _⟩
  dels c₁ cmd' id hc₁ hdels := by
    cases hc₁
    exact hdels
  kept cmd' id _ := by
    rintro ⟨ns, hns, hid⟩
    have hfresh := (hinv.lookup cmd' ns hns).2
    exact ⟨ns, hns, by simpa only [Function.update_of_ne hfresh.ne] using hid⟩
  adds cmd' id h := .inr ⟨_, rfl, h⟩

/-- The domain gets a set for the command, when it has no nodes for it. -/
theorem goes_addSet (hinv : Inv s) {cmd : BitVec 32} {info : NSNode} {ns : ℕ}
    (hns : s.IsSet cmd ns) (hempty : ∀ id, ¬s.Has cmd id) :
    Goes s { s with
      m_datas := s.m_datas.insert (s.sets ns).m_cmd ns
      calls := Function.update s.calls t (some (.addNode cmd info ns)) } t (.addSet cmd info ns)
      (some (.addNode cmd info ns)) where
  calls := rfl
  added := rfl
  fresh := le_rfl
  m_cmd _ _ := rfl
  lookup cmd' ns' h := by
    rw [hns.1] at h
    by_cases hcmd : cmd' = cmd
    · subst hcmd
      rw [Finmap.lookup_insert] at h
      cases h
      exact hns
    · rw [Finmap.lookup_insert_of_ne _ hcmd] at h
      exact hinv.lookup cmd' ns' h
  points c₁ cmd' ns' hc₁ hpoints := by
    cases hc₁
    obtain ⟨rfl, rfl⟩ := hpoints
    exact hns
  dels c₁ cmd' id hc₁ hdels := by
    cases hc₁
    exact hdels
  kept cmd' id _ := by
    rintro ⟨ns', hns', hid⟩
    have hcmd : cmd' ≠ cmd := by
      rintro rfl
      exact hempty id ⟨ns', hns', hid⟩
    exact ⟨ns', by rw [hns.1, Finmap.lookup_insert_of_ne _ hcmd, hns'], hid⟩
  adds cmd' id h := .inr ⟨_, rfl, h⟩

/-- A set changes: it gains a node, or loses one that was not added last. -/
theorem goes_set (hinv : Inv s) {c' : Option Call} {cmd : BitVec 32} {ns : ℕ} {m_datas : NSNodeSet}
    (hns : s.IsSet cmd ns)
    (hpoints : ∀ c₁ cmd' ns', c' = some c₁ → c₁.Points cmd' ns' → cmd' = cmd ∧ ns' = ns)
    (hdels : ∀ c₁ cmd id, c' = some c₁ → c₁.Dels cmd id → c.Dels cmd id)
    (hkept : ∀ id, s.added cmd id → id ∈ (s.sets ns).m_datas → id ∈ m_datas)
    (hadds : ∀ cmd' id, c.Adds cmd' id →
      cmd' = cmd ∧ s.m_datas.lookup cmd = some ns ∧ id ∈ m_datas) :
    Goes s { s with
      sets := Function.update s.sets ns { s.sets ns with m_datas := m_datas }
      calls := Function.update s.calls t c' } t c c' := by
  have hm_cmd (ns' : ℕ) : (Function.update s.sets ns { s.sets ns with m_datas := m_datas } ns').m_cmd =
      (s.sets ns').m_cmd := by
    by_cases h : ns' = ns
    · rw [h, Function.update_self]
    · rw [Function.update_of_ne h]
  refine ⟨rfl, rfl, le_rfl, fun ns' _ => hm_cmd ns', fun cmd' ns' h => ?_, fun c₁ cmd' ns' hc₁ h => ?_,
    hdels, fun cmd' id hadded => ?_, fun cmd' id h => ?_⟩
  · obtain ⟨hcmd, hfresh⟩ := hinv.lookup cmd' ns' h
    exact ⟨(hm_cmd ns').trans hcmd, hfresh⟩
  · obtain ⟨rfl, rfl⟩ := hpoints c₁ cmd' ns' hc₁ h
    exact ⟨(hm_cmd ns').trans hns.1, hns.2⟩
  · rintro ⟨ns', hns', hid⟩
    refine ⟨ns', hns', ?_⟩
    dsimp only
    by_cases h : ns' = ns
    · subst h
      rw [Function.update_self]
      exact hkept id (((hinv.lookup cmd' ns' hns').1.symm.trans hns.1) ▸ hadded) hid
    · rwa [Function.update_of_ne h]
  · obtain ⟨rfl, hlookup, hid⟩ := hadds cmd' id h
    exact .inl ⟨ns, hlookup, by dsimp only; rwa [Function.update_self]⟩

theorem goes_delSet (hinv : Inv s) {cmd : BitVec 32} {id : BitVec 64}
    (hempty : ∀ id, ¬s.Has cmd id) :
    Goes s { s with m_datas := s.m_datas.erase cmd, calls := Function.update s.calls t none } t
      (.delSet cmd id) none where
  calls := rfl
  added := rfl
  fresh := le_rfl
  m_cmd _ _ := rfl
  lookup cmd' ns h := by
    by_cases hcmd : cmd' = cmd
    · subst hcmd
      rw [Finmap.lookup_erase] at h
      cases h
    · rw [Finmap.lookup_erase_ne hcmd] at h
      exact hinv.lookup cmd' ns h
  points _ _ _ h := by cases h
  dels _ _ _ h := by cases h
  kept cmd' id _ := by
    rintro ⟨ns, hns, hid⟩
    have hcmd : cmd' ≠ cmd := by
      rintro rfl
      exact hempty id ⟨ns, hns, hid⟩
    exact ⟨ns, by rw [Finmap.lookup_erase_ne hcmd, hns], hid⟩
  adds _ _ h := h.elim

theorem run_inv (hinv : Inv s) (hc : s.calls t = some c) (hkept : Kept s (.run t)) :
    Inv (run s t c) := by
  simp only [Kept, hc] at hkept
  cases c with
  | addGet cmd info =>
    rw [run]
    cases hlookup : s.m_datas.lookup cmd with
    | some ns =>
      refine (goes_goto hinv ?_ ?_ ?_).inv hinv hc
      · rintro _ _ _ ⟨⟩ ⟨rfl, rfl⟩
        exact hinv.lookup _ _ hlookup
      · rintro _ _ _ ⟨⟩ ⟨⟩
      · rintro _ _ ⟨rfl, rfl⟩
        exact ⟨_, rfl, rfl, rfl⟩
    | none => exact (goes_new hinv).inv hinv hc
  | addSet cmd info ns =>
    exact (goes_addSet hinv (hinv.points t _ cmd ns hc ⟨rfl, rfl⟩) hkept).inv hinv hc
  | addNode cmd info ns =>
    refine (goes_set hinv (hinv.points t _ cmd ns hc ⟨rfl, rfl⟩) ?_ ?_ ?_ ?_).inv hinv hc
    · rintro _ _ _ ⟨⟩
    · rintro _ _ _ ⟨⟩
    · intro id _ hid
      exact Finmap.mem_insert.2 (.inr hid)
    · rintro _ _ ⟨rfl, rfl⟩
      exact ⟨rfl, hkept, Finmap.mem_insert.2 (.inl rfl)⟩
  | delGet cmd id =>
    rw [run]
    cases hlookup : s.m_datas.lookup cmd with
    | none =>
      refine (goes_goto hinv ?_ ?_ (by rintro _ _ ⟨⟩)).inv hinv hc
      · rintro _ _ _ ⟨⟩
      · rintro _ _ _ ⟨⟩
    | some ns =>
      refine (goes_goto hinv ?_ ?_ (by rintro _ _ ⟨⟩)).inv hinv hc
      · rintro _ _ _ ⟨⟩ ⟨rfl, rfl⟩
        exact hinv.lookup _ _ hlookup
      · rintro _ _ _ ⟨⟩ h
        exact h
  | delNode cmd id ns =>
    refine (goes_set hinv (hinv.points t _ cmd ns hc ⟨rfl, rfl⟩) ?_ ?_ ?_ ?_).inv hinv hc
    · rintro _ _ _ ⟨⟩ ⟨rfl, rfl⟩
      exact ⟨rfl, rfl⟩
    · rintro _ _ _ ⟨⟩ h
      exact h
    · intro id' hadded hid'
      have hne : id' ≠ id := by
        rintro rfl
        exact hinv.dels cmd id' hadded t _ hc ⟨rfl, rfl⟩
      exact Finmap.mem_erase.2 ⟨hne, hid'⟩
    · rintro _ _ ⟨⟩
  | delSize cmd id ns =>
    rw [run]
    split_ifs
    · refine (goes_goto hinv ?_ ?_ (by rintro _ _ ⟨⟩)).inv hinv hc
      · rintro _ _ _ ⟨⟩ ⟨⟩
      · rintro _ _ _ ⟨⟩ h
        exact h
    · refine (goes_goto hinv ?_ ?_ (by rintro _ _ ⟨⟩)).inv hinv hc
      · rintro _ _ _ ⟨⟩
      · rintro _ _ _ ⟨⟩
  | delSet cmd id => exact (goes_delSet hinv hkept).inv hinv hc

/-- A call begins; a `del` takes its node out of those added last. -/
theorem begin_inv (hinv : Inv s) (hnone : s.calls t = none) {added : BitVec 32 → BitVec 64 → Prop}
    (hpoints : ∀ cmd ns, ¬c.Points cmd ns)
    (hadded : ∀ cmd id, added cmd id → s.added cmd id ∨ c.Adds cmd id)
    (hdels : ∀ cmd id, added cmd id →
      ¬c.Dels cmd id ∧ ∀ t' c', s.calls t' = some c' → ¬c'.Dels cmd id) :
    Inv { s with calls := Function.update s.calls t (some c), added := added } where
  lookup := hinv.lookup
  points t' c' cmd ns hc' h := by
    by_cases ht : t' = t
    · subst ht
      cases (Function.update_self ..).symm.trans hc'
      exact absurd h (hpoints cmd ns)
    · exact hinv.points t' c' cmd ns ((Function.update_of_ne ht ..).symm.trans hc') h
  listed cmd id h := by
    rcases hadded cmd id h with hs | hc
    · refine (hinv.listed cmd id hs).imp_right ?_
      rintro ⟨t', c', hc', hadds⟩
      have ht : t' ≠ t := by
        rintro rfl
        cases hnone.symm.trans hc'
      exact ⟨t', c', (Function.update_of_ne ht ..).trans hc', hadds⟩
    · exact .inr ⟨t, c, Function.update_self .., hc⟩
  dels cmd id h t' c' hc' := by
    by_cases ht : t' = t
    · subst ht
      cases (Function.update_self ..).symm.trans hc'
      exact (hdels cmd id h).1
    · exact (hdels cmd id h).2 t' c' ((Function.update_of_ne ht ..).symm.trans hc')

theorem step_inv {l : Label T} (hinv : Inv s) (hkept : Kept s l) (h : step s l s') : Inv s' := by
  cases l with
  | add t cmd info =>
    cases hc : s.calls t with
    | some c => simp [step, next, hc] at h
    | none =>
      simp only [step, next, hc, Option.some.injEq] at h
      subst h
      refine begin_inv hinv hc (fun _ _ h => nomatch h) ?_ ?_
      · rintro cmd' id (h | ⟨rfl, rfl, -⟩)
        · exact .inl h
        · exact .inr ⟨rfl, rfl⟩
      · rintro cmd' id h
        refine ⟨(fun h => nomatch h), ?_⟩
        rcases h with h | ⟨rfl, rfl, h⟩
        · exact hinv.dels cmd' id h
        · exact h
  | del t cmd id =>
    cases hc : s.calls t with
    | some c => simp [step, next, hc] at h
    | none =>
      simp only [step, next, hc, Option.some.injEq] at h
      subst h
      refine begin_inv hinv hc (fun _ _ h => nomatch h) (fun _ _ h => .inl h.1) ?_
      rintro cmd' id' ⟨h, hne⟩
      exact ⟨fun heq => hne ⟨heq.1.symm, heq.2.symm⟩, hinv.dels cmd' id' h⟩
  | run t =>
    obtain ⟨c, hc, rfl⟩ := Option.map_eq_some_iff.1 h
    exact run_inv hinv hc hkept

/-- **Registrations are not lost** in a run in which no set with nodes leaves the domain, and no node is
    added to a set outside of it. -/
theorem listed_of_kept {ls : List (Label T)}
    (hrun : Run (fun s l s' => Kept s l ∧ step s l s') (init T) ls s) : Listed s := by
  have hinv : Inv s :=
    hrun.invariant (P := Inv) (fun _ _ _ hinv h => step_inv hinv h.1 h.2) (init_inv T)
  intro hreturned cmd id hadded
  refine (hinv.listed cmd id hadded).resolve_right ?_
  rintro ⟨t, c, hc, -⟩
  rw [hreturned] at hc
  cases hc

end

/-- A node with this id. -/
def node (id : BitVec 64) : NSNode := ⟨id, "127.0.0.1", 80, 10⟩

/-- One thread adds a node, and then another one adds a second one. -/
theorem listed_two : ∃ s : Sys ℕ, Run step (init ℕ)
    [.add 0 7 (node 1), .run 0, .run 0, .run 0, .add 1 7 (node 2), .run 1, .run 1] s ∧
    s.Has 7 1 ∧ s.Has 7 2 ∧ Listed s := by
  obtain ⟨s, hrun, hone, htwo⟩ : ∃ s : Sys ℕ,
      Run (fun s l s' => Kept s l ∧ step s l s') (init ℕ)
        [.add 0 7 (node 1), .run 0, .run 0, .run 0, .add 1 7 (node 2), .run 1, .run 1] s ∧
      s.Has 7 1 ∧ s.Has 7 2 := by
    refine ⟨_, .cons ⟨trivial, rfl⟩ (.cons ⟨trivial, rfl⟩ (.cons ⟨?_, rfl⟩ (.cons ⟨rfl, rfl⟩
      (.cons ⟨trivial, rfl⟩ (.cons ⟨trivial, rfl⟩ (.cons ⟨rfl, rfl⟩ (.nil _))))))),
      ⟨0, rfl, by decide⟩, ⟨0, rfl, by decide⟩⟩
    rintro _ ⟨_, h, -⟩
    cases h
  exact ⟨s, hrun.mono fun _ _ _ h => h.2, hone, htwo, listed_of_kept hrun⟩

/-- Two threads add a node each, and both make a set for the command. -/
theorem not_listed : ¬∀ (ls : List (Label Bool)) (s : Sys Bool), Run step (init Bool) ls s →
    Listed s := by
  intro h
  have hlisted := h [.add false 7 (node 1), .add true 7 (node 2), .run false, .run true, .run false,
    .run false, .run true, .run true] _ (.cons rfl (.cons rfl (.cons rfl (.cons rfl (.cons rfl
      (.cons rfl (.cons rfl (.cons rfl (.nil _)))))))))
  obtain ⟨ns, hns, hid⟩ := hlisted (fun t => by cases t <;> rfl) 7 1
    (.inl (.inr ⟨rfl, rfl, fun _ _ hc => nomatch hc⟩))
  cases (show some 1 = some ns from hns)
  revert hid
  decide

end Ancfl.Ns.Concurrent
