/-
  `NameServerModule`: the registry of the name server.

  * `handleRegister` checks a request and makes the new value of the session,
    `set` changes the table by the `diff` of the old and the new value;
  * `Sys` is the module beside the streams; a step is one request, a disconnect,
    or a new stream; a request that is rejected closes its stream, which is not
    reported to the module;
  * `mirrors_of_undisturbed`: the nodes that are listed are those that the
    connected streams have registered last, in a run in which no step takes away
    or changes what another stream has registered too.
-/
import Ancfl.Lib.Run
import Ancfl.Ns.Protocol

namespace Ancfl.Ns

open Lib

/-! ## Requests -/

structure Node where
  ip : Option String
  port : Option (BitVec 32)
  weight : Option (BitVec 32)
deriving DecidableEq

structure RegisterInfo where
  domain : Option String
  cmds : List (BitVec 32)
  node : Option Node
deriving DecidableEq

/-- `infos` of a `RegisterRequest`. -/
abbrev RegisterRequest := List RegisterInfo

/-! ## Sessions -/

structure NSClientInfo where
  m_node : NSNode
  m_domain2cmds : Cmds

/-- `m[domain].insert(cmd)` -/
def Cmds.insertCmd (m : Cmds) (domain : String) (cmd : BitVec 32) : Cmds :=
  m.insert domain (((m.lookup domain).getD []).insert cmd)

/-- `m.insert(i)`, which keeps an entry that is there. -/
def Cmds.emplace (m : Cmds) (domain : String) (cmds : List (BitVec 32)) : Cmds :=
  if domain ∈ m then m else m.insert domain cmds

/-- The entries of `value` that `other` does not have, and those that it has. -/
def compare (value other : Cmds) : Cmds × Cmds :=
  value.entries.foldl (fun (rest, comms) i =>
    match other.lookup i.1 with
    | none => (rest.emplace i.1 i.2, comms)
    | some cmds =>
      i.2.foldl (fun (rest, comms) n =>
        if n ∈ cmds then (rest, comms.insertCmd i.1 n) else (rest.insertCmd i.1 n, comms))
        (rest, comms)) (∅, ∅)

/-- `dels`, `news` and `comms`. -/
def diff (old_value new_value : Cmds) : Cmds × Cmds × Cmds :=
  let (dels, comms) := compare old_value new_value
  let (news, _) := compare new_value old_value
  (dels, news, comms)

/-- `S` are the streams. -/
structure NameServerModule (S : Type) where
  m_domains : NSDomainSet
  m_sessions : Finmap fun _ : S => NSClientInfo

variable {S : Type} [DecidableEq S]

namespace NameServerModule

def set (rs : S) (isConnected : Bool) (new_value : Option NSClientInfo) (s : NameServerModule S) :
    NameServerModule S :=
  let new_value := if isConnected then new_value else none
  let old_value := s.m_sessions.lookup rs
  let old_v := (old_value.map NSClientInfo.m_domain2cmds).getD ∅
  let new_v := (new_value.map NSClientInfo.m_domain2cmds).getD ∅
  let (dels, news, comms) := diff old_v new_v
  let m_domains :=
    match old_value with
    | none => s.m_domains
    | some old => dels.forEach (fun domain c d => d.del domain c old.m_node.m_id) s.m_domains
  let m_domains :=
    match new_value with
    | none => m_domains
    | some new => news.forEach (fun domain c d => d.add domain c new.m_node) m_domains
  let m_domains :=
    match old_value, new_value with
    | some old, some new =>
      if comms.entries ≠ [] ∧ old.m_node.m_weight ≠ new.m_node.m_weight then
        comms.forEach (fun domain c d => d.add domain c new.m_node) m_domains
      else m_domains
    | _, _ => m_domains
  { m_domains := m_domains
    m_sessions :=
      match new_value with
      | some new => s.m_sessions.insert rs new
      | none => s.m_sessions.erase rs }

section
variable (inet_addr : String → BitVec 32)

/-- The loop of `handleRegister` for one `info`: `none` for `return false`. -/
def registerInfo (old_value new_value : Option NSClientInfo) (info : RegisterInfo) :
    Option NSClientInfo := do
  let node ← info.node
  let domain ← info.domain
  if info.cmds.length = 0 then none
  else
    let ip ← node.ip
    let port ← node.port
    let weight ← node.weight
    let ns_node := NSNode.new inet_addr ip (port.truncate 16) weight
    if ns_node.m_id >>> 32 = 0 then none
    else if old_value.any fun old => old.m_node.m_id ≠ ns_node.m_id then none
    else if new_value.any fun new => new.m_node.m_id ≠ ns_node.m_id then none
    else
      let new := new_value.getD ⟨ns_node, ∅⟩
      some { new with
        m_domain2cmds := info.cmds.foldl (fun m cmd => m.insertCmd domain cmd) new.m_domain2cmds }

/-- The value that the request gives to the session: `none` for `return false`. -/
def registered (old_value : Option NSClientInfo) :
    Option NSClientInfo → RegisterRequest → Option (Option NSClientInfo)
  | new_value, [] => some new_value
  | new_value, info :: infos => do
    let new ← registerInfo inet_addr old_value new_value info
    registered old_value (some new) infos

/-- `request` is `none` if it is not parsed; the result is `none` for `return false`. -/
def handleRegister (stream : S) (isConnected : Bool) (request : Option RegisterRequest)
    (s : NameServerModule S) : Option (NameServerModule S) := do
  let rr ← request
  let new_value ← registered inet_addr (s.m_sessions.lookup stream) none rr
  return set stream isConnected new_value s

def onDisconnect (stream : S) (isConnected : Bool) (s : NameServerModule S) : NameServerModule S :=
  set stream isConnected none s

end

end NameServerModule

open NameServerModule

/-! ## Streams -/

inductive Status
  | fresh
  | connected
  | closed
deriving DecidableEq

/-- `latest` is the last request of each stream that was accepted. -/
structure Sys (S : Type) where
  module : NameServerModule S
  status : S → Status
  latest : S → Option RegisterRequest

inductive Label (S : Type)
  | connect (stream : S)
  /-- a REGISTER; `others` is what the modules after this one answer, if it rejects the request -/
  | register (stream : S) (request : Option RegisterRequest) (others : Bool)
  /-- the connection ends: `innerClose`, which calls `onDisconnect` and closes the socket -/
  | disconnect (stream : S)

def init (S : Type) : Sys S := ⟨⟨∅, ∅⟩, fun _ => .fresh, fun _ => none⟩

section
variable (inet_addr : String → BitVec 32)

def next (s : Sys S) : Label S → Option (Sys S)
  | .connect stream =>
    if s.status stream = .fresh then
      some { s with status := Function.update s.status stream .connected }
    else none
  | .register stream request others =>
    if s.status stream = .fresh then none
    else
      match handleRegister inet_addr stream (s.status stream = .connected) request s.module with
      | some module =>
        some { s with module := module, latest := Function.update s.latest stream request }
      | none =>
        -- `RockStream::handleRequest` closes the stream, and `innerClose` finds it closed
        some (if others then s else { s with status := Function.update s.status stream .closed })
  | .disconnect stream =>
    if s.status stream = .connected then
      some { s with
        module := onDisconnect stream true s.module
        status := Function.update s.status stream .closed }
    else none

def step (s : Sys S) (l : Label S) (s' : Sys S) : Prop := next inet_addr s l = some s'

/-! ## What is to hold, and when -/

/-- A request registers an entry for the node with this id, with a weight. -/
def Gives (rr : RegisterRequest) (domain : String) (cmd : BitVec 32) (id : BitVec 64)
    (weight : BitVec 32) : Prop :=
  ∃ info ∈ rr, info.domain = some domain ∧ cmd ∈ info.cmds ∧
    ∃ ip port, info.node = some ⟨some ip, some port, some weight⟩ ∧
      GetID inet_addr ip (port.truncate 16) = id

/-- A connected stream has registered the entry in its latest accepted request. -/
def Registered (s : Sys S) (stream : S) (domain : String) (cmd : BitVec 32) (id : BitVec 64)
    (weight : BitVec 32) : Prop :=
  s.status stream = .connected ∧
    ∃ rr, s.latest stream = some rr ∧ Gives inet_addr rr domain cmd id weight

/-- The nodes listed are those that some connected stream has registered. -/
def Mirrors (s : Sys S) : Prop :=
  ∀ domain cmd id weight, (s.module.m_domains.listed domain cmd id).map NSNode.m_weight = some weight ↔
    ∃ stream, Registered inet_addr s stream domain cmd id weight

/-- The value of a session has the entry. -/
def Holds (value : Option NSClientInfo) (domain : String) (cmd : BitVec 32) (id : BitVec 64)
    (weight : BitVec 32) : Prop :=
  ∃ info, value = some info ∧ info.m_domain2cmds.Has domain cmd ∧ info.m_node.m_id = id ∧
    info.m_node.m_weight = weight

/-- The entries of a stream change to `new`: what its session loses no other stream has registered,
    and what it has the others have registered with the same weight. -/
def Apart (s : Sys S) (stream : S)
    (new : String → BitVec 32 → BitVec 64 → BitVec 32 → Prop) : Prop :=
  ∀ domain cmd id weight other weight', other ≠ stream →
    Registered inet_addr s other domain cmd id weight' →
    (Holds (s.module.m_sessions.lookup stream) domain cmd id weight →
      ∃ weight, new domain cmd id weight) ∧
    (new domain cmd id weight → weight = weight')

/-- The infos of a request give one weight. -/
def OneWeight (rr : RegisterRequest) : Prop :=
  ∀ info ∈ rr, ∀ info' ∈ rr, info.node.bind Node.weight = info'.node.bind Node.weight

/-- A step does not disturb what other streams have registered; a stream that is closed for a request
    has registered nothing that others have not. -/
def Undisturbed (s : Sys S) : Label S → Prop
  | .connect _ => True
  | .register stream request others =>
    if (handleRegister inet_addr stream (s.status stream = .connected) request s.module).isSome then
      ∀ rr, request = some rr → OneWeight rr ∧
        Apart inet_addr s stream fun domain cmd id weight =>
          s.status stream = .connected ∧ Gives inet_addr rr domain cmd id weight
    else
      others = true ∨ ∀ domain cmd id weight, Registered inet_addr s stream domain cmd id weight →
        ∃ other, other ≠ stream ∧ Registered inet_addr s other domain cmd id weight
  | .disconnect stream => Apart inet_addr s stream fun _ _ _ _ => False

end

/-! ## Maps of commands -/

section
variable {m other rest comms : Cmds} {domain domain' : String} {cmd cmd' : BitVec 32}

theorem Cmds.has_empty : ¬(∅ : Cmds).Has domain cmd := by
  rw [Has, AList.lookup_empty]
  exact List.not_mem_nil

theorem Cmds.has_insertCmd :
    (m.insertCmd domain cmd).Has domain' cmd' ↔ m.Has domain' cmd' ∨ domain' = domain ∧ cmd' = cmd := by
  rw [Has, Has, insertCmd]
  by_cases hdomain : domain' = domain
  · subst hdomain
    rw [AList.lookup_insert]
    simp [or_comm]
  · rw [AList.lookup_insert_ne hdomain]
    simp [hdomain]

theorem Cmds.mem_insertCmd : domain' ∈ m.insertCmd domain cmd ↔ domain' = domain ∨ domain' ∈ m :=
  AList.mem_insert _

theorem Cmds.has_emplace {cmds : List (BitVec 32)} (h : domain ∉ m) :
    (m.emplace domain cmds).Has domain' cmd' ↔ m.Has domain' cmd' ∨ domain' = domain ∧ cmd' ∈ cmds := by
  rw [emplace, if_neg h, Has, Has]
  by_cases hdomain : domain' = domain
  · subst hdomain
    rw [AList.lookup_insert, AList.lookup_eq_none.2 h]
    simp
  · rw [AList.lookup_insert_ne hdomain]
    simp [hdomain]

theorem Cmds.mem_emplace {cmds : List (BitVec 32)} :
    domain' ∈ m.emplace domain cmds → domain' = domain ∨ domain' ∈ m := by
  rw [emplace]
  split_ifs
  · exact .inr
  · exact (AList.mem_insert _).1

theorem has_foldl_insertCmd (cmds : List (BitVec 32)) (m : Cmds) :
    (cmds.foldl (fun m cmd => m.insertCmd domain cmd) m).Has domain' cmd' ↔
      m.Has domain' cmd' ∨ domain' = domain ∧ cmd' ∈ cmds := by
  induction cmds generalizing m with
  | nil => simp
  | cons c cmds ih =>
    rw [List.foldl_cons, ih, Cmds.has_insertCmd, List.mem_cons, or_assoc, ← and_or_left]

/-- The first element is one that is added. -/
theorem or_mem_cons {P D : Prop} {Q : BitVec 32 → Prop} {l : List (BitVec 32)} {n : BitVec 32}
    (hn : Q n) : (P ∨ D ∧ cmd = n) ∨ D ∧ cmd ∈ l ∧ Q cmd ↔ P ∨ D ∧ cmd ∈ n :: l ∧ Q cmd := by
  rw [List.mem_cons, or_assoc, ← and_or_left, or_and_right]
  refine or_congr_right (and_congr_right fun _ => or_congr_left ⟨fun h => ⟨h, h ▸ hn⟩, And.left⟩)

/-- The first element is none that is added. -/
theorem or_mem_cons_of_not {P D : Prop} {Q : BitVec 32 → Prop} {l : List (BitVec 32)}
    {n : BitVec 32} (hn : ¬Q n) : P ∨ D ∧ cmd ∈ l ∧ Q cmd ↔ P ∨ D ∧ cmd ∈ n :: l ∧ Q cmd := by
  rw [List.mem_cons, or_and_right]
  refine or_congr_right (and_congr_right fun _ => (or_iff_right fun h => hn ?_).symm)
  exact h.1 ▸ h.2

/-- The inner loop of `diff`, for a domain that both maps have. -/
theorem compare_inner (domain domain' : String) (cmd' : BitVec 32) (cmds : List (BitVec 32)) :
    ∀ (l : List (BitVec 32)) (rest comms : Cmds),
    let r := l.foldl (fun (x : Cmds × Cmds) n =>
      if n ∈ cmds then (x.1, x.2.insertCmd domain n) else (x.1.insertCmd domain n, x.2)) (rest, comms)
    (r.1.Has domain' cmd' ↔ rest.Has domain' cmd' ∨ domain' = domain ∧ cmd' ∈ l ∧ cmd' ∉ cmds) ∧
    (r.2.Has domain' cmd' ↔ comms.Has domain' cmd' ∨ domain' = domain ∧ cmd' ∈ l ∧ cmd' ∈ cmds) ∧
    (domain' ∈ r.1 → domain' = domain ∨ domain' ∈ rest)
  | [], rest, comms => ⟨by simp, by simp, .inr⟩
  | n :: l, rest, comms => by
    dsimp only
    rw [List.foldl_cons]
    by_cases hn : n ∈ cmds
    · rw [if_pos hn]
      obtain ⟨hrest, hcomms, hkeys⟩ :=
        compare_inner domain domain' cmd' cmds l rest (comms.insertCmd domain n)
      refine ⟨hrest.trans ?_, hcomms.trans ?_, hkeys⟩
      · exact or_mem_cons_of_not (Q := fun c => c ∉ cmds) (not_not.2 hn)
      · rw [Cmds.has_insertCmd]
        exact or_mem_cons hn
    · rw [if_neg hn]
      obtain ⟨hrest, hcomms, hkeys⟩ :=
        compare_inner domain domain' cmd' cmds l (rest.insertCmd domain n) comms
      refine ⟨hrest.trans ?_, hcomms.trans (or_mem_cons_of_not hn), fun h => ?_⟩
      · rw [Cmds.has_insertCmd]
        exact or_mem_cons (Q := fun c => c ∉ cmds) hn
      · rcases hkeys h with h | h
        · exact .inl h
        · exact (Cmds.mem_insertCmd.1 h).imp_right id

/-- The outer loop, over entries whose keys are not in `rest`. -/
theorem compare_outer (domain' : String) (cmd' : BitVec 32) (other : Cmds) :
    ∀ (l : List (Sigma fun _ : String => List (BitVec 32))) (rest comms : Cmds), l.NodupKeys → (∀ i ∈ l, i.1 ∉ rest) →
    let r := l.foldl (fun (x : Cmds × Cmds) i =>
      match other.lookup i.1 with
      | none => (x.1.emplace i.1 i.2, x.2)
      | some cmds =>
        i.2.foldl (fun (x : Cmds × Cmds) n =>
          if n ∈ cmds then (x.1, x.2.insertCmd i.1 n) else (x.1.insertCmd i.1 n, x.2)) x) (rest, comms)
    (r.1.Has domain' cmd' ↔
      rest.Has domain' cmd' ∨ ∃ i ∈ l, i.1 = domain' ∧ cmd' ∈ i.2 ∧ ¬other.Has domain' cmd') ∧
    (r.2.Has domain' cmd' ↔
      comms.Has domain' cmd' ∨ ∃ i ∈ l, i.1 = domain' ∧ cmd' ∈ i.2 ∧ other.Has domain' cmd')
  | [], rest, comms, _, _ => by simp
  | ⟨domain, cs⟩ :: l, rest, comms, hnodup, hnew => by
    dsimp only
    obtain ⟨hhead, htail⟩ := List.nodupKeys_cons.1 hnodup
    have hdomain : domain ∉ rest := hnew ⟨domain, cs⟩ (by simp)
    have hl : ∀ i ∈ l, i.1 ≠ domain ∧ i.1 ∉ rest := fun i hi =>
      ⟨fun heq => hhead (heq ▸ List.mem_keys.2 ⟨i.2, hi⟩), hnew i (List.mem_cons_of_mem _ hi)⟩
    rw [List.foldl_cons]
    cases hlookup : other.lookup domain with
    | none =>
      have hother : ¬other.Has domain cmd' := by rw [Cmds.Has, hlookup]; exact List.not_mem_nil
      obtain ⟨hrest, hcomms⟩ :=
        compare_outer domain' cmd' other l (rest.emplace domain cs) comms htail fun i hi h =>
          (Cmds.mem_emplace h).elim (hl i hi).1 (hl i hi).2
      dsimp only
      refine ⟨hrest.trans ?_, hcomms.trans ?_⟩
      · rw [Cmds.has_emplace hdomain]
        simp only [List.exists_mem_cons_iff]
        constructor
        · rintro ((h | ⟨rfl, hc⟩) | h)
          exacts [.inl h, .inr (.inl ⟨rfl, hc, hother⟩), .inr (.inr h)]
        · rintro (h | ⟨rfl, hc, -⟩ | h)
          exacts [.inl (.inl h), .inl (.inr ⟨rfl, hc⟩), .inr h]
      · simp only [List.exists_mem_cons_iff]
        refine or_congr_right ⟨.inr, ?_⟩
        rintro (⟨rfl, -, h⟩ | h)
        exacts [absurd h hother, h]
    | some cmds =>
      have hother : other.Has domain cmd' ↔ cmd' ∈ cmds := by rw [Cmds.Has, hlookup]; rfl
      dsimp only
      generalize hinner : cs.foldl (fun (x : Cmds × Cmds) n =>
        if n ∈ cmds then (x.1, x.2.insertCmd domain n) else (x.1.insertCmd domain n, x.2))
        (rest, comms) = inner
      have hcompare (domain' : String) := compare_inner domain domain' cmd' cmds cs rest comms
      rw [hinner] at hcompare
      obtain ⟨hrest₁, hcomms₁, -⟩ := hcompare domain'
      obtain ⟨hrest, hcomms⟩ :=
        compare_outer domain' cmd' other l inner.1 inner.2 htail fun i hi h =>
          ((hcompare i.1).2.2 h).elim (hl i hi).1 (hl i hi).2
      refine ⟨hrest.trans ?_, hcomms.trans ?_⟩
      · rw [hrest₁]
        simp only [List.exists_mem_cons_iff]
        constructor
        · rintro ((h | ⟨rfl, hc, hn⟩) | h)
          exacts [.inl h, .inr (.inl ⟨rfl, hc, mt hother.1 hn⟩), .inr (.inr h)]
        · rintro (h | ⟨rfl, hc, hn⟩ | h)
          exacts [.inl (.inl h), .inl (.inr ⟨rfl, hc, mt hother.2 hn⟩), .inr h]
      · rw [hcomms₁]
        simp only [List.exists_mem_cons_iff]
        constructor
        · rintro ((h | ⟨rfl, hc, hn⟩) | h)
          exacts [.inl h, .inr (.inl ⟨rfl, hc, hother.2 hn⟩), .inr (.inr h)]
        · rintro (h | ⟨rfl, hc, hn⟩ | h)
          exacts [.inl (.inl h), .inl (.inr ⟨rfl, hc, hother.1 hn⟩), .inr h]

/-- **The comparison of two maps.** -/
theorem has_compare (value other : Cmds) (domain : String) (cmd : BitVec 32) :
    ((compare value other).1.Has domain cmd ↔ value.Has domain cmd ∧ ¬other.Has domain cmd) ∧
    ((compare value other).2.Has domain cmd ↔ value.Has domain cmd ∧ other.Has domain cmd) := by
  have hempty (p : Prop) : ((∅ : Cmds).Has domain cmd ∨
      ∃ i ∈ value.entries, i.1 = domain ∧ cmd ∈ i.2 ∧ p) ↔ value.Has domain cmd ∧ p := by
    rw [or_iff_right Cmds.has_empty, Cmds.has_iff]
    constructor
    · rintro ⟨⟨_, cmds⟩, hi, rfl, hc, hp⟩
      exact ⟨⟨cmds, hi, hc⟩, hp⟩
    · rintro ⟨⟨cmds, hi, hc⟩, hp⟩
      exact ⟨⟨domain, cmds⟩, hi, rfl, hc, hp⟩
  obtain ⟨hrest, hcomms⟩ := compare_outer domain cmd other value.entries ∅ ∅ value.nodupKeys
    fun i _ => AList.notMem_empty i.1
  exact ⟨hrest.trans (hempty _), hcomms.trans (hempty _)⟩

section
variable (old_value new_value : Cmds) (domain : String) (cmd : BitVec 32)

theorem has_dels : (diff old_value new_value).1.Has domain cmd ↔
    old_value.Has domain cmd ∧ ¬new_value.Has domain cmd :=
  (has_compare old_value new_value domain cmd).1

theorem has_news : (diff old_value new_value).2.1.Has domain cmd ↔
    new_value.Has domain cmd ∧ ¬old_value.Has domain cmd :=
  (has_compare new_value old_value domain cmd).1

theorem has_comms : (diff old_value new_value).2.2.Has domain cmd ↔
    old_value.Has domain cmd ∧ new_value.Has domain cmd :=
  (has_compare old_value new_value domain cmd).2

end

end

/-! ## `set` -/

/-- A loop over the entries of a map sets all of them. -/
theorem listed_dels (m : Cmds) (id : BitVec 64) (t : NSDomainSet) (domain : String)
    (cmd : BitVec 32) (id' : BitVec 64) :
    (m.forEach (fun domain c d => NSDomainSet.del domain c id d) t).listed domain cmd id' =
      if m.Has domain cmd ∧ id' = id then none else t.listed domain cmd id' :=
  listed_forEach (fun domain cmd t domain' cmd' id' => t.listed_del domain domain' cmd cmd' id id')
    t domain cmd id'

theorem listed_adds (m : Cmds) (info : NSNode) (t : NSDomainSet) (domain : String)
    (cmd : BitVec 32) (id' : BitVec 64) :
    (m.forEach (fun domain c d => NSDomainSet.add domain c info d) t).listed domain cmd id' =
      if m.Has domain cmd ∧ id' = info.m_id then some info else t.listed domain cmd id' :=
  listed_forEach (fun domain cmd t domain' cmd' id' => t.listed_add domain domain' cmd cmd' id' info)
    t domain cmd id'

section
variable {value : Option NSClientInfo} {info : NSClientInfo} {domain : String} {cmd : BitVec 32}
  {id : BitVec 64} {weight : BitVec 32}

theorem not_holds_none : ¬Holds none domain cmd id weight :=
  fun ⟨_, h, _⟩ => nomatch h

theorem holds_some : Holds (some info) domain cmd id weight ↔
    info.m_domain2cmds.Has domain cmd ∧ info.m_node.m_id = id ∧ info.m_node.m_weight = weight := by
  constructor
  · rintro ⟨_, h, hholds⟩
    cases h
    exact hholds
  · exact fun h => ⟨info, rfl, h⟩

end

theorem Cmds.has_of_entries {m : Cmds} (h : m.entries = []) (domain : String) (cmd : BitVec 32) :
    ¬m.Has domain cmd := by
  rw [has_iff, h]
  rintro ⟨_, hi, _⟩
  cases hi

section
variable {S : Type} [DecidableEq S] (rs : S) (isConnected : Bool) (new_value : Option NSClientInfo)
  (s : NameServerModule S)

theorem lookup_set (stream : S) : (set rs isConnected new_value s).m_sessions.lookup stream =
    if stream = rs then if isConnected then new_value else none
    else s.m_sessions.lookup stream := by
  rw [NameServerModule.set]
  dsimp only
  generalize (if isConnected then new_value else none) = new
  cases new with
  | none =>
    split_ifs with h
    · rw [h, Finmap.lookup_erase]
    · rw [Finmap.lookup_erase_ne h]
  | some new =>
    split_ifs with h
    · rw [h, Finmap.lookup_insert]
    · rw [Finmap.lookup_insert_of_ne _ h]

/-- A new weight is given to the commands that both values have. -/
theorem listed_comms (o n : NSClientInfo) (t : NSDomainSet) (domain : String) (cmd : BitVec 32)
    (id : BitVec 64) :
    NSDomainSet.listed
      (if (diff o.m_domain2cmds n.m_domain2cmds).2.2.entries ≠ [] ∧
          o.m_node.m_weight ≠ n.m_node.m_weight then
        (diff o.m_domain2cmds n.m_domain2cmds).2.2.forEach
          (fun domain c d => d.add domain c n.m_node) t
      else t) domain cmd id =
    if (o.m_domain2cmds.Has domain cmd ∧ n.m_domain2cmds.Has domain cmd) ∧
        id = n.m_node.m_id ∧ o.m_node.m_weight ≠ n.m_node.m_weight then some n.m_node
      else t.listed domain cmd id := by
  by_cases hweight : o.m_node.m_weight = n.m_node.m_weight
  · simp [hweight]
  · by_cases hempty : (diff o.m_domain2cmds n.m_domain2cmds).2.2.entries = []
    · rw [if_neg fun h => h.1 hempty, if_neg]
      exact fun h => Cmds.has_of_entries hempty domain cmd (has_comms _ _ _ _ |>.2 h.1)
    · rw [if_pos ⟨hempty, hweight⟩, listed_adds]
      simp [has_comms, hweight]

/-- **The table after a session has changed**: what the new value has, and what neither has. -/
theorem listed_set (old new : Option NSClientInfo) (hold : s.m_sessions.lookup rs = old)
    (hnew : (if isConnected then new_value else none) = new)
    (hids : ∀ o n, old = some o → new = some n → o.m_node.m_id = n.m_node.m_id)
    (hkept : ∀ domain cmd id weight, Holds old domain cmd id weight →
      Holds new domain cmd id weight →
      (s.m_domains.listed domain cmd id).map NSNode.m_weight = some weight)
    (domain : String) (cmd : BitVec 32) (id : BitVec 64) (weight : BitVec 32) :
    ((set rs isConnected new_value s).m_domains.listed domain cmd id).map NSNode.m_weight =
        some weight ↔
      Holds new domain cmd id weight ∨
      (s.m_domains.listed domain cmd id).map NSNode.m_weight = some weight ∧
        ∀ weight, ¬Holds old domain cmd id weight ∧ ¬Holds new domain cmd id weight := by
  rw [NameServerModule.set]
  dsimp only
  rw [hold, hnew]
  cases old with
  | none =>
    cases new with
    | none => simp [not_holds_none]
    | some n =>
      simp only [Option.map_none, Option.map_some, Option.getD_none, Option.getD_some, listed_adds,
        has_news, not_holds_none, holds_some, Cmds.has_empty]
      by_cases h : n.m_domain2cmds.Has domain cmd ∧ id = n.m_node.m_id
      · simp [h.1, h.2]
      · rw [if_neg fun h' => h ⟨h'.1.1, h'.2⟩]
        have hid (h' : n.m_node.m_id = id) : id = n.m_node.m_id := h'.symm
        constructor
        · exact fun hs => .inr ⟨hs, fun _ => ⟨not_false, fun h' => h ⟨h'.1, hid h'.2.1⟩⟩⟩
        · exact fun h' => h'.elim (fun h' => absurd ⟨h'.1, hid h'.2.1⟩ h) And.left
  | some o =>
    cases new with
    | none =>
      simp only [Option.map_none, Option.map_some, Option.getD_none, Option.getD_some, listed_dels,
        has_dels, not_holds_none, holds_some, Cmds.has_empty]
      by_cases h : o.m_domain2cmds.Has domain cmd ∧ id = o.m_node.m_id
      · simp [h.1, h.2]
      · rw [if_neg fun h' => h ⟨h'.1.1, h'.2⟩, false_or]
        refine (and_iff_left fun _ => ⟨fun h' => h ⟨h'.1, h'.2.1.symm⟩, not_false⟩).symm
    | some n =>
      have hid := hids o n rfl rfl
      have hkept := hkept domain cmd id
      simp only [holds_some, hid] at hkept ⊢
      simp only [Option.map_some, Option.getD_some, listed_comms, listed_dels, listed_adds, has_dels,
        has_news]
      by_cases hi : id = n.m_node.m_id
      · subst hi
        by_cases ho : o.m_domain2cmds.Has domain cmd <;> by_cases hn : n.m_domain2cmds.Has domain cmd
        · by_cases hweight : o.m_node.m_weight = n.m_node.m_weight
          · have hlisted := hkept n.m_node.m_weight ⟨ho, rfl, hweight⟩ ⟨hn, rfl, rfl⟩
            simp [ho, hn, hweight, hlisted]
          · simp only [ho, hn, hweight, not_true_eq_false, and_true, and_self, if_true, if_false,
              true_and, ne_eq, not_false_eq_true, Option.map_some, Option.some.injEq]
            exact ⟨.inl, fun h => h.elim id fun h => absurd rfl (h.2 _).2⟩
        · simp [ho, hn]
        · simp [ho, hn]
        · simp [ho, hn]
      · simp [hi, Ne.symm hi]
end

/-! ## Requests and values -/

section
variable {inet_addr : String → BitVec 32} {old_value new_value : Option NSClientInfo}
  {info : RegisterInfo} {new : NSClientInfo}

/-- What one `info` of an accepted request does to the new value. -/
structure Accepted (inet_addr : String → BitVec 32) (old_value new_value : Option NSClientInfo)
    (info : RegisterInfo) (new : NSClientInfo) (domain ip : String) (port weight : BitVec 32) :
    Prop where
  domain_eq : info.domain = some domain
  node_eq : info.node = some ⟨some ip, some port, some weight⟩
  old_id : ∀ old, old_value = some old → old.m_node.m_id = GetID inet_addr ip (port.truncate 16)
  new_id : ∀ new, new_value = some new → new.m_node.m_id = GetID inet_addr ip (port.truncate 16)
  m_node : new.m_node =
    (new_value.map NSClientInfo.m_node).getD (.new inet_addr ip (port.truncate 16) weight)
  has : ∀ domain' cmd, new.m_domain2cmds.Has domain' cmd ↔
    (∃ new, new_value = some new ∧ new.m_domain2cmds.Has domain' cmd) ∨
      domain' = domain ∧ cmd ∈ info.cmds

theorem registerInfo_accepted
    (h : registerInfo inet_addr old_value new_value info = some new) :
    ∃ domain ip port weight,
      Accepted inet_addr old_value new_value info new domain ip port weight := by
  rw [registerInfo] at h
  obtain ⟨⟨ip?, port?, weight?⟩, hnode, h⟩ := Option.bind_eq_some_iff.1 h
  obtain ⟨domain, hdomain, h⟩ := Option.bind_eq_some_iff.1 h
  replace h := (Option.ite_none_left_eq_some.1 h).2
  obtain ⟨ip, rfl, h⟩ := Option.bind_eq_some_iff.1 h
  obtain ⟨port, rfl, h⟩ := Option.bind_eq_some_iff.1 h
  obtain ⟨weight, rfl, h⟩ := Option.bind_eq_some_iff.1 h
  replace h := (Option.ite_none_left_eq_some.1 h).2
  obtain ⟨hold, h⟩ := Option.ite_none_left_eq_some.1 h
  obtain ⟨hnew, h⟩ := Option.ite_none_left_eq_some.1 h
  refine ⟨domain, ip, port, weight, hdomain, hnode, ?_, ?_, ?_, ?_⟩
  · rintro old rfl
    exact by_contra fun hne => hold (decide_eq_true hne)
  · rintro new rfl
    exact by_contra fun hne => hnew (decide_eq_true hne)
  · cases h
    cases new_value <;> rfl
  · intro domain' cmd
    cases h
    rw [has_foldl_insertCmd]
    cases new_value <;> simp [Cmds.has_empty]

theorem gives_cons {infos : RegisterRequest} {domain : String} {cmd : BitVec 32} {id : BitVec 64}
    {weight : BitVec 32} : Gives inet_addr (info :: infos) domain cmd id weight ↔
      Gives inet_addr [info] domain cmd id weight ∨ Gives inet_addr infos domain cmd id weight := by
  simp [Gives]

/-- An accepted `info` adds what it gives, if its weight is that of the node. -/
theorem holds_registerInfo (h : registerInfo inet_addr old_value new_value info = some new)
    (hweight : ∀ n, new_value = some n → info.node.bind Node.weight = some n.m_node.m_weight) :
    info.node.bind Node.weight = some new.m_node.m_weight ∧
    (∀ old, old_value = some old → old.m_node.m_id = new.m_node.m_id) ∧
    ∀ domain cmd id weight, Holds (some new) domain cmd id weight ↔
      Holds new_value domain cmd id weight ∨ Gives inet_addr [info] domain cmd id weight := by
  obtain ⟨domain, ip, port, weight, h⟩ := registerInfo_accepted h
  have hnode : new.m_node.m_id = GetID inet_addr ip (port.truncate 16) ∧
      new.m_node.m_weight = weight := by
    rw [h.m_node]
    cases hnew : new_value with
    | none => exact ⟨rfl, rfl⟩
    | some n =>
      refine ⟨h.new_id n hnew, ?_⟩
      have := hweight n hnew
      rw [h.node_eq] at this
      exact (Option.some.inj this).symm
  refine ⟨by rw [h.node_eq, hnode.2]; rfl, fun old hold => (h.old_id old hold).trans hnode.1.symm, ?_⟩
  intro domain' cmd id weight'
  have hgives : Gives inet_addr [info] domain' cmd id weight' ↔
      domain' = domain ∧ cmd ∈ info.cmds ∧
        GetID inet_addr ip (port.truncate 16) = id ∧ weight = weight' := by
    simp only [Gives, List.mem_singleton, exists_eq_left, h.domain_eq, h.node_eq]
    constructor
    · rintro ⟨hdomain, hcmd, ip', port', hnode, hid⟩
      cases hdomain
      cases hnode
      exact ⟨rfl, hcmd, hid, rfl⟩
    · rintro ⟨rfl, hcmd, hid, rfl⟩
      exact ⟨rfl, hcmd, ip, port, rfl, hid⟩
  rw [holds_some, h.has, hnode.1, hnode.2, hgives]
  cases hnew : new_value with
  | none => simp [not_holds_none]; tauto
  | some n =>
    have hn : n.m_node.m_id = GetID inet_addr ip (port.truncate 16) ∧ n.m_node.m_weight = weight := by
      have hm : new.m_node = n.m_node := by rw [h.m_node, hnew]; rfl
      rw [← hm]
      exact hnode
    rw [holds_some, hn.1, hn.2]
    simp only [Option.some.injEq, exists_eq_left']
    tauto

/-- **An accepted request**, whose infos give one weight, is what the new value holds. -/
theorem holds_registered {infos : RegisterRequest} {value : Option NSClientInfo}
    (h : registered inet_addr old_value new_value infos = some value) (hone : OneWeight infos)
    (hweight : ∀ n, new_value = some n → ∀ info ∈ infos,
      info.node.bind Node.weight = some n.m_node.m_weight)
    (hold : ∀ old new, old_value = some old → new_value = some new →
      old.m_node.m_id = new.m_node.m_id) :
    (∀ old new, old_value = some old → value = some new → old.m_node.m_id = new.m_node.m_id) ∧
    ∀ domain cmd id weight, Holds value domain cmd id weight ↔
      Holds new_value domain cmd id weight ∨ Gives inet_addr infos domain cmd id weight := by
  induction infos generalizing new_value with
  | nil =>
    cases h
    exact ⟨hold, fun domain cmd id weight => by simp [Gives]⟩
  | cons info infos ih =>
    obtain ⟨new, hnew, h⟩ := Option.bind_eq_some_iff.1 h
    obtain ⟨hinfo, hids, hholds⟩ := holds_registerInfo hnew fun n hn =>
      hweight n hn info List.mem_cons_self
    obtain ⟨hids', hholds'⟩ := ih h
      (fun i hi j hj => hone i (List.mem_cons_of_mem _ hi) j (List.mem_cons_of_mem _ hj))
      (fun n hn i hi => by
        cases hn
        rw [hone i (List.mem_cons_of_mem _ hi) info List.mem_cons_self, hinfo])
      (fun old new' hold hnew' => by
        cases hnew'
        exact hids old hold)
    refine ⟨hids', fun domain cmd id weight => ?_⟩
    rw [hholds', hholds, or_assoc, ← gives_cons]

end

/-! ## Runs -/

section
variable (inet_addr : String → BitVec 32) {S : Type} [DecidableEq S]

/-- The sessions of the connected streams hold what their latest requests give. -/
structure Inv (s : Sys S) : Prop where
  mirrors : Mirrors inet_addr s
  session : ∀ stream, s.status stream = .connected → ∀ domain cmd id weight,
    Registered inet_addr s stream domain cmd id weight ↔
      Holds (s.module.m_sessions.lookup stream) domain cmd id weight
  fresh : ∀ stream, s.status stream = .fresh →
    s.latest stream = none ∧ s.module.m_sessions.lookup stream = none

theorem init_inv : Inv inet_addr (init S) where
  mirrors domain cmd id weight := by
    refine ⟨fun h => by simp [init, NSDomainSet.listed] at h, ?_⟩
    rintro ⟨_, hconnected, _⟩
    cases hconnected
  session _ h := nomatch h
  fresh _ _ := ⟨rfl, rfl⟩

variable {inet_addr} {s s' : Sys S} {stream : S}

omit [DecidableEq S] in
theorem registered_congr (hstatus : s'.status stream = s.status stream)
    (hlatest : s'.latest stream = s.latest stream) (domain : String) (cmd : BitVec 32)
    (id : BitVec 64) (weight : BitVec 32) : Registered inet_addr s' stream domain cmd id weight ↔
      Registered inet_addr s stream domain cmd id weight := by
  rw [Registered, Registered, hstatus, hlatest]

omit [DecidableEq S] in
theorem not_registered (h : s.status stream ≠ .connected) (domain : String) (cmd : BitVec 32)
    (id : BitVec 64) (weight : BitVec 32) : ¬Registered inet_addr s stream domain cmd id weight :=
  fun hr => h hr.1

/-- A step that changes one stream only. -/
structure Changes (s s' : Sys S) (stream : S) : Prop where
  status : ∀ other, other ≠ stream → s'.status other = s.status other
  latest : ∀ other, other ≠ stream → s'.latest other = s.latest other
  session : ∀ other, other ≠ stream →
    s'.module.m_sessions.lookup other = s.module.m_sessions.lookup other
  not_fresh : s'.status stream ≠ .fresh

namespace Changes

theorem registered_iff (hc : Changes s s' stream) {other : S} (hne : other ≠ stream) (domain : String)
    (cmd : BitVec 32) (id : BitVec 64) (weight : BitVec 32) :
    Registered inet_addr s' other domain cmd id weight ↔
      Registered inet_addr s other domain cmd id weight :=
  registered_congr (hc.status other hne) (hc.latest other hne) domain cmd id weight

theorem inv (hc : Changes s s' stream) (hinv : Inv inet_addr s) (hmirrors : Mirrors inet_addr s')
    (hstream : s'.status stream = .connected → ∀ domain cmd id weight,
      Registered inet_addr s' stream domain cmd id weight ↔
        Holds (s'.module.m_sessions.lookup stream) domain cmd id weight) : Inv inet_addr s' where
  mirrors := hmirrors
  session other hother domain cmd id weight := by
    by_cases hne : other = stream
    · subst hne
      exact hstream hother _ _ _ _
    · rw [hc.registered_iff hne, hc.session other hne]
      exact hinv.session other (hc.status other hne ▸ hother) _ _ _ _
  fresh other hother := by
    have hne : other ≠ stream := fun heq => hc.not_fresh (heq ▸ hother)
    rw [hc.latest other hne, hc.session other hne]
    exact hinv.fresh other (hc.status other hne ▸ hother)

theorem mirrors_set (hc : Changes s s' stream) (hinv : Inv inet_addr s) {isConnected : Bool}
    {new_value new : Option NSClientInfo}
    (hmodule : s'.module = NameServerModule.set stream isConnected new_value s.module)
    (hnew : (if isConnected then new_value else none) = new)
    (hids : ∀ o n, s.module.m_sessions.lookup stream = some o → new = some n →
      o.m_node.m_id = n.m_node.m_id)
    (hconnected : s.status stream = .connected ∨ new = none)
    (hstream : ∀ domain cmd id weight,
      Registered inet_addr s' stream domain cmd id weight ↔ Holds new domain cmd id weight)
    (hapart : Apart inet_addr s stream (Holds new)) : Mirrors inet_addr s' := by
  intro domain cmd id weight
  rw [hmodule, listed_set stream isConnected new_value s.module _ new rfl hnew hids
    fun domain cmd id weight hold hholds => ?_]
  · constructor
    · rintro (hholds | ⟨hlisted, hneither⟩)
      · exact ⟨stream, (hstream _ _ _ _).2 hholds⟩
      · obtain ⟨other, hother⟩ := (hinv.mirrors _ _ _ _).1 hlisted
        have hne : other ≠ stream := by
          rintro rfl
          exact (hneither weight).1 ((hinv.session _ hother.1 _ _ _ _).1 hother)
        exact ⟨other, (hc.registered_iff hne _ _ _ _).2 hother⟩
    · rintro ⟨other, hother⟩
      by_cases hne : other = stream
      · subst hne
        exact .inl ((hstream _ _ _ _).1 hother)
      · rw [hc.registered_iff hne] at hother
        -- what the stream loses the other one has not registered
        by_cases hold : ∃ weight, Holds (s.module.m_sessions.lookup stream) domain cmd id weight
        · obtain ⟨w, hw⟩ := hold
          obtain ⟨w', hw'⟩ := (hapart domain cmd id w other weight hne hother).1 hw
          have heq := (hapart domain cmd id w' other weight hne hother).2 hw'
          exact .inl (heq ▸ hw')
        · by_cases hholds : ∃ weight, Holds new domain cmd id weight
          · obtain ⟨w, hw⟩ := hholds
            exact .inl ((hapart domain cmd id w other weight hne hother).2 hw ▸ hw)
          · exact .inr ⟨(hinv.mirrors _ _ _ _).2 ⟨other, hother⟩, fun w =>
              ⟨fun h => hold ⟨w, h⟩, fun h => hholds ⟨w, h⟩⟩⟩
  · rcases hconnected with hconnected | rfl
    · exact (hinv.mirrors _ _ _ _).2 ⟨stream, (hinv.session _ hconnected _ _ _ _).2 hold⟩
    · exact absurd hholds not_holds_none

end Changes

theorem connect_inv (hinv : Inv inet_addr s) (h : step inet_addr s (.connect stream) s') :
    Inv inet_addr s' := by
  rw [step, next, Option.ite_none_right_eq_some] at h
  obtain ⟨hfresh, h⟩ := h
  obtain ⟨hlatest, hsession⟩ := hinv.fresh stream hfresh
  cases h
  have hc : Changes s { s with status := Function.update s.status stream .connected } stream :=
    ⟨fun _ hne => Function.update_of_ne hne _ _, fun _ _ => rfl, fun _ _ => rfl, by simp⟩
  have hnone (domain cmd id weight) : ¬Registered inet_addr
      { s with status := Function.update s.status stream .connected } stream domain cmd id weight := by
    simp [Registered, hlatest]
  refine hc.inv hinv (fun domain cmd id weight => (hinv.mirrors _ _ _ _).trans ?_)
    fun _ domain cmd id weight => iff_of_false (hnone _ _ _ _) (hsession ▸ not_holds_none)
  refine exists_congr fun other => ?_
  by_cases hne : other = stream
  · subst hne
    exact iff_of_false (not_registered (by simp [hfresh]) _ _ _ _) (hnone _ _ _ _)
  · exact (hc.registered_iff hne _ _ _ _).symm

theorem disconnect_inv (hinv : Inv inet_addr s) (hok : Apart inet_addr s stream fun _ _ _ _ => False)
    (h : step inet_addr s (.disconnect stream) s') : Inv inet_addr s' := by
  rw [step, next, Option.ite_none_right_eq_some] at h
  obtain ⟨-, h⟩ := h
  cases h
  have hc : Changes s ⟨onDisconnect stream true s.module,
      Function.update s.status stream .closed, s.latest⟩ stream :=
    ⟨fun _ hne => Function.update_of_ne hne _ _, fun _ _ => rfl,
      fun _ hne => (lookup_set ..).trans (if_neg hne), by simp⟩
  refine hc.inv hinv (hc.mirrors_set hinv rfl rfl (fun _ _ _ h => nomatch h) (.inr rfl)
    (fun _ _ _ _ => iff_of_false (not_registered (by simp) _ _ _ _) not_holds_none) ?_) (by simp)
  exact fun domain cmd id weight other weight' hne hother =>
    ⟨fun hold => ((hok domain cmd id weight other weight' hne hother).1 hold).elim fun _ => False.elim,
      fun h => absurd h not_holds_none⟩

theorem handleRegister_eq (stream : S) (isConnected : Bool) (request : Option RegisterRequest)
    (s : NameServerModule S) : handleRegister inet_addr stream isConnected request s =
      (request.bind (registered inet_addr (s.m_sessions.lookup stream) none)).map fun new_value =>
        NameServerModule.set stream isConnected new_value s := by
  cases request with
  | none => rfl
  | some rr =>
    simp only [handleRegister, Option.bind_eq_bind, Option.bind_some]
    cases registered inet_addr (s.m_sessions.lookup stream) none rr <;> rfl

theorem accepted_inv (hinv : Inv inet_addr s) {rr : RegisterRequest} {value : Option NSClientInfo}
    (hfresh : s.status stream ≠ .fresh)
    (hvalue : registered inet_addr (s.module.m_sessions.lookup stream) none rr = some value)
    (hone : OneWeight rr)
    (hapart : Apart inet_addr s stream fun domain cmd id weight =>
      s.status stream = .connected ∧ Gives inet_addr rr domain cmd id weight) :
    Inv inet_addr ⟨NameServerModule.set stream (s.status stream = .connected) value s.module,
      s.status, Function.update s.latest stream (some rr)⟩ := by
  obtain ⟨hids, hholds⟩ := holds_registered hvalue hone (fun _ h => nomatch h) fun _ _ _ h => nomatch h
  have hc : Changes s ⟨NameServerModule.set stream (s.status stream = .connected) value s.module,
      s.status, Function.update s.latest stream (some rr)⟩ stream :=
    ⟨fun _ _ => rfl, fun _ hne => Function.update_of_ne hne _ _,
      fun _ hne => (lookup_set ..).trans (if_neg hne), hfresh⟩
  have hif : (if decide (s.status stream = .connected) = true then value else none) =
      if s.status stream = .connected then value else none := by
    simp only [decide_eq_true_eq]
  have hgives : ∀ domain cmd id weight,
      Holds (if s.status stream = .connected then value else none) domain cmd id weight ↔
        s.status stream = .connected ∧ Gives inet_addr rr domain cmd id weight := by
    intro domain cmd id weight
    split_ifs with hconnected
    · rw [hholds, or_iff_right not_holds_none, and_iff_right hconnected]
    · exact iff_of_false not_holds_none fun h => hconnected h.1
  have hstream : ∀ domain cmd id weight, Registered inet_addr
      ⟨NameServerModule.set stream (s.status stream = .connected) value s.module, s.status,
        Function.update s.latest stream (some rr)⟩ stream domain cmd id weight ↔
      Holds (if s.status stream = .connected then value else none) domain cmd id weight := by
    intro domain cmd id weight
    rw [hgives]
    simp [Registered]
  simp only [Apart, ← hgives] at hapart
  refine hc.inv hinv (hc.mirrors_set hinv rfl hif (fun o n ho hn => ?_) ?_ hstream hapart)
    fun hconnected domain cmd id weight => ?_
  · split_ifs at hn
    exact hids o n ho hn
  · by_cases hconnected : s.status stream = .connected
    · exact .inl hconnected
    · exact .inr (if_neg hconnected)
  · rw [hstream, lookup_set, if_pos rfl, hif]

/-- A stream that is closed for a request keeps its session. -/
theorem closed_inv (hinv : Inv inet_addr s)
    (hok : ∀ domain cmd id weight, Registered inet_addr s stream domain cmd id weight →
      ∃ other, other ≠ stream ∧ Registered inet_addr s other domain cmd id weight) :
    Inv inet_addr { s with status := Function.update s.status stream .closed } := by
  have hc : Changes s { s with status := Function.update s.status stream .closed } stream :=
    ⟨fun _ hne => Function.update_of_ne hne _ _, fun _ _ => rfl, fun _ _ => rfl, by simp⟩
  refine hc.inv hinv (fun domain cmd id weight => (hinv.mirrors _ _ _ _).trans ?_) (by simp)
  constructor
  · rintro ⟨other, hother⟩
    by_cases hne : other = stream
    · obtain ⟨other', hne', hother'⟩ := hok _ _ _ _ (hne ▸ hother)
      exact ⟨other', (hc.registered_iff hne' _ _ _ _).2 hother'⟩
    · exact ⟨other, (hc.registered_iff hne _ _ _ _).2 hother⟩
  · rintro ⟨other, hother⟩
    have hne : other ≠ stream := by
      rintro rfl
      exact not_registered (by simp) _ _ _ _ hother
    exact ⟨other, (hc.registered_iff hne _ _ _ _).1 hother⟩

theorem register_inv (hinv : Inv inet_addr s) {request : Option RegisterRequest} {others : Bool}
    (hok : Undisturbed inet_addr s (.register stream request others))
    (h : step inet_addr s (.register stream request others) s') : Inv inet_addr s' := by
  rw [step, next, Option.ite_none_left_eq_some, handleRegister_eq] at h
  obtain ⟨hfresh, h⟩ := h
  rw [Undisturbed, handleRegister_eq] at hok
  cases hvalue : request.bind (registered inet_addr (s.module.m_sessions.lookup stream) none) with
  | none =>
    rw [hvalue] at h hok
    cases h
    cases others with
    | true => exact hinv
    | false => exact closed_inv hinv (hok.resolve_left Bool.false_ne_true)
  | some value =>
    rw [hvalue] at h hok
    cases h
    obtain ⟨rr, rfl, hvalue⟩ := Option.bind_eq_some_iff.1 hvalue
    exact accepted_inv hinv hfresh hvalue (hok rr rfl).1 (hok rr rfl).2

theorem step_inv {l : Label S} (hinv : Inv inet_addr s) (hok : Undisturbed inet_addr s l)
    (h : step inet_addr s l s') : Inv inet_addr s' := by
  cases l with
  | connect stream => exact connect_inv hinv h
  | register stream request others => exact register_inv hinv hok h
  | disconnect stream => exact disconnect_inv hinv hok h

/-- **The registry mirrors its sessions** in a run of undisturbed steps. -/
theorem mirrors_of_undisturbed {ls : List (Label S)}
    (hrun : Run (fun s l s' => Undisturbed inet_addr s l ∧ step inet_addr s l s') (init S) ls s) :
    Mirrors inet_addr s := by
  have hinv : Inv inet_addr s :=
    hrun.invariant (P := Inv inet_addr) (fun _ _ _ hinv h => step_inv hinv h.1 h.2)
      (init_inv inet_addr)
  exact hinv.mirrors

end

/-- What `inet_addr` answers for the addresses of the examples. -/
def loopback (ip : String) : BitVec 32 := if ip = "127.0.0.1" then 0x0100007F else 0xFFFFFFFF

/-- A node at port 80 with weight 10, for command 1 of the domain. -/
def register80 : RegisterRequest :=
  [⟨some "blog", [1], some ⟨some "127.0.0.1", some 80, some 10⟩⟩]

def client80 : NSClientInfo :=
  ⟨.new loopback "127.0.0.1" 80 10, (∅ : Cmds).insertCmd "blog" 1⟩

/-- Two streams are connected, and one of them registers a node. -/
def sys80 : Sys ℕ where
  module := NameServerModule.set 0 true (some client80) ⟨∅, ∅⟩
  status := Function.update (Function.update (fun _ => .fresh) 0 .connected) 1 .connected
  latest := Function.update (fun _ => none) 0 (some register80)

theorem mirrors_one :
    Run (step loopback) (init ℕ) [.connect 0, .connect 1, .register 0 (some register80) false]
      sys80 ∧
    sys80.module.m_domains.listed "blog" 1 0x0100007F00000050 = some client80.m_node ∧
    Mirrors loopback sys80 := by
  have hrun : Run (fun s l s' => Undisturbed loopback s l ∧ step loopback s l s') (init ℕ)
      [.connect 0, .connect 1, .register 0 (some register80) false] sys80 := by
    refine .cons ⟨trivial, rfl⟩ (.cons ⟨trivial, rfl⟩ (.cons ⟨?_, rfl⟩ (.nil _)))
    rintro _ ⟨⟩
    constructor
    · simp [OneWeight, register80]
    · rintro _ _ _ _ other _ - ⟨-, rr, h, -⟩
      cases h
  exact ⟨hrun.mono fun _ _ _ h => h.2, by decide, mirrors_of_undisturbed hrun⟩

/-- Two streams register the same node, and one of them disconnects. -/
theorem not_mirrors : ¬∀ (ls : List (Label ℕ)) (s : Sys ℕ), Run (step loopback) (init ℕ) ls s →
    Mirrors loopback s := by
  intro h
  have hmirrors := h [.connect 0, .connect 1, .register 0 (some register80) false,
    .register 1 (some register80) false, .disconnect 0] _
    (.cons rfl (.cons rfl (.cons rfl (.cons rfl (.cons rfl (.nil _))))))
  have hlisted := (hmirrors "blog" 1 0x0100007F00000050 10).2
    ⟨1, rfl, register80, rfl, _, List.mem_singleton_self _, rfl, List.mem_singleton_self _,
      "127.0.0.1", 80, rfl, by decide⟩
  exact absurd hlisted (by decide)

end Ancfl.Ns
