/-
  The table of the name server: domains, commands and nodes.

  * `NSNodeSet`, `NSDomain` and `NSDomainSet` are maps of maps; `add` and `del`
    change one entry, and `del` drops a set that becomes empty;
  * `listed` looks an entry up; `listed_add` and `listed_del` say what is listed
    after a loop over entries.
-/
import Mathlib.Data.Finmap

namespace Ancfl.Ns

/-! ## Nodes -/

/-- `inet_addr` is the function of the C library: the address in network order, `-1` if there is none. -/
def GetID (inet_addr : String → BitVec 32) (ip : String) (port : BitVec 16) : BitVec 64 :=
  (inet_addr ip).zeroExtend 64 <<< 32 ||| port.zeroExtend 64

structure NSNode where
  m_id : BitVec 64
  m_ip : String
  m_port : BitVec 16
  m_weight : BitVec 32
deriving DecidableEq

def NSNode.new (inet_addr : String → BitVec 32) (ip : String) (port : BitVec 16)
    (weight : BitVec 32) : NSNode :=
  ⟨GetID inet_addr ip port, ip, port, weight⟩

/-- The nodes by their ids. -/
abbrev NSNodeSet := Finmap fun _ : BitVec 64 => NSNode

def NSNodeSet.add (info : NSNode) (ns : NSNodeSet) : NSNodeSet := ns.insert info.m_id info

def NSNodeSet.del (id : BitVec 64) (ns : NSNodeSet) : NSNodeSet := ns.erase id

/-- The sets by their commands. -/
abbrev NSDomain := Finmap fun _ : BitVec 32 => NSNodeSet

/-- `NSDomain::add(cmd, info)` -/
def NSDomain.add (cmd : BitVec 32) (info : NSNode) (d : NSDomain) : NSDomain :=
  let ns := (d.lookup cmd).getD ∅
  d.insert cmd (ns.add info)

/-- `NSDomain::del(cmd, id)` -/
def NSDomain.del (cmd : BitVec 32) (id : BitVec 64) (d : NSDomain) : NSDomain :=
  match d.lookup cmd with
  | none => d
  | some ns =>
    let ns := ns.del id
    if ns.keys.card = 0 then d.erase cmd else d.insert cmd ns

/-- The domains by their names. -/
abbrev NSDomainSet := Finmap fun _ : String => NSDomain

/-- `m_domains->get(domain)`, a new domain if there is none, and `d->add(cmd, info)`. -/
def NSDomainSet.add (domain : String) (cmd : BitVec 32) (info : NSNode) (m_domains : NSDomainSet) :
    NSDomainSet :=
  let d := (m_domains.lookup domain).getD ∅
  m_domains.insert domain (d.add cmd info)

/-- `m_domains->get(domain)`, and `d->del(cmd, id)` if there is one. -/
def NSDomainSet.del (domain : String) (cmd : BitVec 32) (id : BitVec 64) (m_domains : NSDomainSet) :
    NSDomainSet :=
  match m_domains.lookup domain with
  | none => m_domains
  | some d => m_domains.insert domain (d.del cmd id)

/-! ## What is listed -/

def NSDomain.listed (d : NSDomain) (cmd : BitVec 32) (id : BitVec 64) : Option NSNode :=
  (d.lookup cmd).bind fun ns => ns.lookup id

/-- The node that is listed for a domain and a command under an id. -/
def NSDomainSet.listed (m_domains : NSDomainSet) (domain : String) (cmd : BitVec 32)
    (id : BitVec 64) : Option NSNode :=
  (m_domains.lookup domain).bind fun d => d.listed cmd id

section
variable {d : NSDomain} {cmd cmd' : BitVec 32} {id id' : BitVec 64} {info : NSNode}

theorem NSDomain.listed_add (d : NSDomain) (cmd cmd' : BitVec 32) (info : NSNode) (id' : BitVec 64) :
    (d.add cmd info).listed cmd' id' =
      if cmd' = cmd ∧ id' = info.m_id then some info else d.listed cmd' id' := by
  rw [listed, listed, add]
  by_cases hcmd : cmd' = cmd
  · subst hcmd
    rw [Finmap.lookup_insert, Option.bind_some, NSNodeSet.add]
    by_cases hid : id' = info.m_id
    · rw [if_pos ⟨rfl, hid⟩, hid, Finmap.lookup_insert]
    · rw [if_neg fun h => hid h.2, Finmap.lookup_insert_of_ne _ hid]
      cases d.lookup cmd' <;> rfl
  · rw [if_neg fun h => hcmd h.1, Finmap.lookup_insert_of_ne _ hcmd]

theorem lookup_of_card {ns : NSNodeSet} (h : ns.keys.card = 0) (id : BitVec 64) :
    ns.lookup id = none := by
  rw [Finmap.lookup_eq_none, ← Finmap.mem_keys, Finset.card_eq_zero.1 h]
  exact Finset.notMem_empty id

theorem NSNodeSet.lookup_del (ns : NSNodeSet) (id id' : BitVec 64) :
    Finmap.lookup id' (ns.del id) = if id' = id then none else Finmap.lookup id' ns := by
  split_ifs with hid
  · rw [hid, del, Finmap.lookup_erase]
  · rw [del, Finmap.lookup_erase_ne hid]

theorem NSDomain.listed_del (d : NSDomain) (cmd cmd' : BitVec 32) (id id' : BitVec 64) :
    (d.del cmd id).listed cmd' id' =
      if cmd' = cmd ∧ id' = id then none else d.listed cmd' id' := by
  rw [del]
  cases hns : d.lookup cmd with
  | none =>
    split_ifs with h
    · rw [listed, h.1, hns, Option.bind_none]
    · rfl
  | some ns =>
    have hdel := ns.lookup_del id id'
    dsimp only
    by_cases hcmd : cmd' = cmd
    · subst hcmd
      rw [listed, listed, hns, Option.bind_some]
      simp only [true_and]
      rw [← hdel]
      by_cases hempty : (ns.del id).keys.card = 0
      · rw [if_pos hempty, Finmap.lookup_erase, Option.bind_none, lookup_of_card hempty]
      · rw [if_neg hempty, Finmap.lookup_insert, Option.bind_some]
    · rw [if_neg fun h : cmd' = cmd ∧ id' = id => hcmd h.1, listed, listed]
      by_cases hempty : (ns.del id).keys.card = 0
      · rw [if_pos hempty, Finmap.lookup_erase_ne hcmd]
      · rw [if_neg hempty, Finmap.lookup_insert_of_ne _ hcmd]

end

section
variable (t : NSDomainSet) (domain domain' : String) (cmd cmd' : BitVec 32) (id id' : BitVec 64)
  (info : NSNode)

theorem NSDomainSet.listed_add : (t.add domain cmd info).listed domain' cmd' id' =
    if domain' = domain ∧ cmd' = cmd ∧ id' = info.m_id then some info
    else t.listed domain' cmd' id' := by
  rw [listed, listed, add]
  by_cases hdomain : domain' = domain
  · subst hdomain
    rw [Finmap.lookup_insert, Option.bind_some, NSDomain.listed_add]
    simp only [true_and]
    cases t.lookup domain' <;> rfl
  · rw [if_neg fun h => hdomain h.1, Finmap.lookup_insert_of_ne _ hdomain]

theorem NSDomainSet.listed_del : (t.del domain cmd id).listed domain' cmd' id' =
    if domain' = domain ∧ cmd' = cmd ∧ id' = id then none else t.listed domain' cmd' id' := by
  rw [listed, listed, del]
  by_cases hdomain : domain' = domain
  · subst hdomain
    cases hd : t.lookup domain' with
    | none => simp [hd]
    | some d =>
      rw [Finmap.lookup_insert, Option.bind_some, NSDomain.listed_del]
      simp
  · rw [if_neg fun h => hdomain h.1]
    cases t.lookup domain with
    | none => rfl
    | some d => rw [Finmap.lookup_insert_of_ne _ hdomain]

end

/-! ## Loops over entries -/

/-- The entries of a map from domains to sets of commands, in the order of a loop over them. -/
abbrev Cmds := AList fun _ : String => List (BitVec 32)

/-- A domain and a command are in the map. -/
def Cmds.Has (m : Cmds) (domain : String) (cmd : BitVec 32) : Prop :=
  cmd ∈ (m.lookup domain).getD []

instance (m : Cmds) (domain : String) (cmd : BitVec 32) : Decidable (m.Has domain cmd) :=
  inferInstanceAs (Decidable (cmd ∈ (m.lookup domain).getD []))

/-- `for (auto& i : m) for (auto& c : i.second)` -/
def Cmds.forEach {σ : Type} (m : Cmds) (body : String → BitVec 32 → σ → σ) (s : σ) : σ :=
  m.entries.foldl (fun s i => i.2.foldl (fun s c => body i.1 c s) s) s

/-- The entries of the map one by one. -/
def Cmds.pairs (m : Cmds) : List (String × BitVec 32) :=
  m.entries.flatMap fun i => i.2.map fun c => (i.1, c)

theorem Cmds.has_iff {m : Cmds} {domain : String} {cmd : BitVec 32} :
    m.Has domain cmd ↔ ∃ cmds, Sigma.mk domain cmds ∈ m.entries ∧ cmd ∈ cmds := by
  rw [Has]
  cases hlookup : m.lookup domain with
  | none =>
    refine ⟨fun h => (nomatch h), fun ⟨cmds, hi, _⟩ => ?_⟩
    rw [← AList.mem_lookup_iff, hlookup] at hi
    cases hi
  | some cmds =>
    constructor
    · exact fun hc => ⟨cmds, AList.mem_lookup_iff.1 hlookup, hc⟩
    · rintro ⟨cmds', hi, hc⟩
      rw [← AList.mem_lookup_iff, hlookup] at hi
      cases hi
      exact hc

theorem Cmds.mem_pairs {m : Cmds} {domain : String} {cmd : BitVec 32} :
    (domain, cmd) ∈ m.pairs ↔ m.Has domain cmd := by
  rw [has_iff]
  simp only [pairs, List.mem_flatMap, List.mem_map, Prod.mk.injEq]
  constructor
  · rintro ⟨⟨i, cmds⟩, hi, c, hc, rfl, rfl⟩
    exact ⟨cmds, hi, hc⟩
  · rintro ⟨cmds, hi, hc⟩
    exact ⟨_, hi, cmd, hc, rfl, rfl⟩

theorem Cmds.forEach_eq {σ : Type} (m : Cmds) (body : String → BitVec 32 → σ → σ) (s : σ) :
    m.forEach body s = m.pairs.foldl (fun s x => body x.1 x.2 s) s := by
  rw [forEach, pairs, List.foldl_flatMap]
  simp only [List.foldl_map]

/-- A loop whose body sets one entry to `v`. -/
theorem listed_forEach {m : Cmds} {body : String → BitVec 32 → NSDomainSet → NSDomainSet}
    {id : BitVec 64} {v : Option NSNode}
    (hbody : ∀ domain cmd t domain' cmd' id', (body domain cmd t).listed domain' cmd' id' =
      if domain' = domain ∧ cmd' = cmd ∧ id' = id then v
      else NSDomainSet.listed t domain' cmd' id')
    (t : NSDomainSet) (domain : String) (cmd : BitVec 32) (id' : BitVec 64) :
    (m.forEach body t).listed domain cmd id' =
      if m.Has domain cmd ∧ id' = id then v else t.listed domain cmd id' := by
  have hpairs : ∀ (l : List (String × BitVec 32)) (t : NSDomainSet),
      (l.foldl (fun s x => body x.1 x.2 s) t).listed domain cmd id' =
        if (domain, cmd) ∈ l ∧ id' = id then v else t.listed domain cmd id' := by
    intro l
    induction l with
    | nil => simp
    | cons x l ih =>
      intro t
      rw [List.foldl_cons, ih, hbody]
      by_cases hl : (domain, cmd) ∈ l
      · by_cases hid : id' = id <;> simp [hl, hid]
      · by_cases hx : (domain, cmd) = x
        · subst hx
          by_cases hid : id' = id <;> simp [hl, hid]
        · have hne : ¬(domain = x.1 ∧ cmd = x.2 ∧ id' = id) := fun h => hx (Prod.ext h.1 h.2.1)
          rw [if_neg fun h : _ ∧ _ => hl h.1, if_neg hne, if_neg]
          rintro ⟨hmem, -⟩
          rcases List.mem_cons.1 hmem with h | h
          exacts [hx h, hl h]
  rw [Cmds.forEach_eq, hpairs]
  simp only [Cmds.mem_pairs]

end Ancfl.Ns
