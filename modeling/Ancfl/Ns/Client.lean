/-
  `NSClient`: the domains that a client asks for, and those that it has.

  * `Sys` is a connected client: its two sets, the domains at their addresses,
    and the threads: a query for each change of `m_queryDomains`, and
    the notifications. Each locked section and each request is one step;
  * `Only`: a domain that the client has is one that it asks for; `Settled`: no
    thread is under way, and each query was answered;
  * `only_of_run`: a settled client has only what it asks for, in a run in which
    no query returns without a request while it has more than that, and no domain is
    put into its table that it no longer asks for, unless another query is to
    replace the table;
  * `not_only_of_step`: after any other step the notifications end in a settled
    client that has a domain too many.
-/
import Ancfl.Lib.Pool
import Ancfl.Ns.NameServer

namespace Ancfl.Ns.Client

open Lib

/-! ## Threads -/

structure NodeInfo where
  domain : Option String
  cmd : Option (BitVec 32)
  nodes : List Node
deriving DecidableEq

/-- `i.domain()`, empty if it is not set. -/
def NodeInfo.name (i : NodeInfo) : String := i.domain.getD ""

/-- An `NSDomainSet`: the domains by their names, each at its address. -/
abbrev Table := Finmap fun _ : String => ℕ

/-- Where a call is: the locked section that it enters next. -/
inductive Thread
  /-- `query` at its lock of `m_queryDomains` -/
  | query
  /-- in `request` -/
  | request (domains : Finset String)
  /-- in the loop of `query`, at `hasQueryDomain`; past it at `m_domains->swap` -/
  | answer (infos : List NodeInfo) (domains : Table)
  /-- in a loop of `onNotify`, at `hasQueryDomain` -/
  | notify (dels updates : List NodeInfo)
  /-- at `m_domains->get` of the first loop -/
  | delGet (i : NodeInfo) (dels updates : List NodeInfo)
  | delNodes (domain : ℕ) (i : NodeInfo) (nodes : List Node) (dels updates : List NodeInfo)
  /-- at `m_domains->get` of the second loop -/
  | updateGet (i : NodeInfo) (updates : List NodeInfo)
  | updateNodes (domain : ℕ) (i : NodeInfo) (nodes : List Node) (updates : List NodeInfo)
  | done

/-- The domains from the address `fresh` on are not in use; `answered`: no query was left without an
    answer. -/
structure Sys where
  m_queryDomains : Finset String
  m_domains : Table
  domains : ℕ → NSDomain
  fresh : ℕ
  threads : List Thread
  answered : Bool

inductive Label
  | setQueryDomains (v : Finset String)
  | addQueryDomain (domain : String)
  | delQueryDomain (domain : String)
  /-- `onNotify` for a `NODE_CHANGE` -/
  | notify (dels updates : List NodeInfo)
  /-- the next step of the `n`-th thread; a request gets the `response`, if there is one -/
  | run (n : ℕ) (response : Option (List NodeInfo))

/-- A client that is connected, with the domains to ask for that it was given before. -/
def init (v : Finset String) : Sys where
  m_queryDomains := v
  m_domains := ∅
  domains := fun _ => ∅
  fresh := 0
  threads := []
  answered := true

/-! ## Steps -/

section
variable (inet_addr : String → BitVec 32)

/-- `new NSNode(n.ip(), n.port(), n.weight())` -/
def newNode (n : Node) : NSNode :=
  .new inet_addr (n.ip.getD "") ((n.port.getD 0).truncate 16) (n.weight.getD 0)

/-- `domain->add(cmd, node)`, unless the node is invalid. -/
def addNode (i : NodeInfo) (n : Node) (domain : NSDomain) : NSDomain :=
  let node := newNode inet_addr n
  if node.m_id >>> 32 ≠ 0 then domain.add (i.cmd.getD 0) node else domain

namespace Sys

def goto (s : Sys) (n : ℕ) (t : Thread) : Sys := { s with threads := s.threads.set n t }

/-- A call changes the domain at an address. -/
def change (s : Sys) (domain : ℕ) (f : NSDomain → NSDomain) : Sys :=
  { s with domains := Function.update s.domains domain (f (s.domains domain)) }

/-- `domains->get(name, true)`: the address, and the table with it. -/
def get (s : Sys) (name : String) (domains : Table) : ℕ × Table × Sys :=
  match domains.lookup name with
  | some domain => (domain, domains, s)
  | none =>
    (s.fresh, domains.insert name s.fresh, { s with
      domains := Function.update s.domains s.fresh ∅
      fresh := s.fresh + 1 })

end Sys

/-- The next step of a thread. -/
def runThread (s : Sys) (n : ℕ) (response : Option (List NodeInfo)) : Thread → Option Sys
  | .query =>
    some (s.goto n (if s.m_queryDomains = ∅ then .done else .request s.m_queryDomains))
  | .request _ =>
    match response with
    | none => some { s.goto n .done with answered := false }
    | some infos => some (s.goto n (.answer infos ∅))
  | .answer [] domains => some { s.goto n .done with m_domains := domains }
  | .answer (i :: infos) domains =>
    if i.name ∈ s.m_queryDomains then
      let (domain, domains, s) := s.get i.name domains
      some ((s.change domain fun d => i.nodes.foldl (fun d n => addNode inet_addr i n d) d).goto n
        (.answer infos domains))
    else some (s.goto n (.answer infos domains))
  | .notify [] [] => some (s.goto n .done)
  | .notify (i :: dels) updates =>
    some (s.goto n (if i.name ∈ s.m_queryDomains then .delGet i dels updates else .notify dels updates))
  | .notify [] (i :: updates) =>
    some (s.goto n (if i.name ∈ s.m_queryDomains then .updateGet i updates else .notify [] updates))
  | .delGet i dels updates =>
    match s.m_domains.lookup i.name with
    | none => some (s.goto n (.notify dels updates))
    | some domain => some (s.goto n (.delNodes domain i i.nodes dels updates))
  | .delNodes _ _ [] dels updates => some (s.goto n (.notify dels updates))
  | .delNodes domain i (node :: nodes) dels updates =>
    some ((s.change domain fun d => d.del (i.cmd.getD 0) (newNode inet_addr node).m_id).goto n
      (.delNodes domain i nodes dels updates))
  | .updateGet i updates =>
    let (domain, m_domains, s) := s.get i.name s.m_domains
    some { s.goto n (.updateNodes domain i i.nodes updates) with m_domains := m_domains }
  | .updateNodes _ _ [] updates => some (s.goto n (.notify [] updates))
  | .updateNodes domain i (node :: nodes) updates =>
    some ((s.change domain (addNode inet_addr i node)).goto n (.updateNodes domain i nodes updates))
  | .done => none

/-- A change of `m_queryDomains`, before its query. -/
def Sys.onQueryDomainChange (s : Sys) (v : Finset String) : Sys :=
  { s with m_queryDomains := v, threads := s.threads ++ [.query] }

def next (s : Sys) : Label → Option Sys
  | .setQueryDomains v => some (s.onQueryDomainChange v)
  | .addQueryDomain domain => some (s.onQueryDomainChange (insert domain s.m_queryDomains))
  | .delQueryDomain domain => some (s.onQueryDomainChange (s.m_queryDomains.erase domain))
  | .notify dels updates => some { s with threads := s.threads ++ [.notify dels updates] }
  | .run n response => s.threads[n]?.bind (runThread inet_addr s n response)

def step (s : Sys) (l : Label) (s' : Sys) : Prop := next inet_addr s l = some s'

end

/-! ## What is to hold, and when -/

/-- Each domain that the client has is one that it asks for. -/
def Only (s : Sys) : Prop := ∀ name ∈ s.m_domains, name ∈ s.m_queryDomains

/-- No call is under way, and each query was answered. -/
def Settled (s : Sys) : Prop := (∀ t ∈ s.threads, t = .done) ∧ s.answered

/-- In the `query` after a change, which is to replace the table. -/
def Thread.querying : Thread → Bool
  | query | request _ | answer _ _ => true
  | _ => false

/-- As long as each query is answered: a query returns without a request only if the client has
    nothing but what it asks for, it swaps only such a table into `m_domains`, and a notification gets
    only such a domain; unless another query is under way. -/
def Meets (s : Sys) : Label → Prop
  | .run n _ =>
    let others (ok : Prop) : Prop := s.answered → ok ∨ ∃ m, m ≠ n ∧ IsAt s.threads Thread.querying m
    match s.threads[n]? with
    | some .query => s.m_queryDomains = ∅ → others (Only s)
    | some (.answer [] domains) => others (∀ name ∈ domains, name ∈ s.m_queryDomains)
    | some (.updateGet i _) => others (i.name ∈ s.m_queryDomains)
    | _ => True
  | _ => True

/-! ## Runs -/

/-- A domain too many is to be replaced. -/
def Curable (s : Sys) : Prop := s.answered → Only s ∨ ∃ m, IsAt s.threads Thread.querying m

/-- `get` leaves the client as it is, but for a new domain. -/
theorem get_same {s s' : Sys} {name : String} {domains domains' : Table} {domain : ℕ}
    (h : s.get name domains = (domain, domains', s')) :
    s'.m_queryDomains = s.m_queryDomains ∧ s'.m_domains = s.m_domains ∧ s'.threads = s.threads ∧
      s'.answered = s.answered := by
  unfold Sys.get at h
  split at h <;> cases h <;> exact ⟨rfl, rfl, rfl, rfl⟩

theorem mem_get {s s' : Sys} {name name' : String} {domains domains' : Table} {domain : ℕ}
    (h : s.get name domains = (domain, domains', s')) :
    name' ∈ domains' ↔ name' = name ∨ name' ∈ domains := by
  unfold Sys.get at h
  split at h
  · next hlookup =>
    cases h
    refine (or_iff_right_of_imp ?_).symm
    rintro rfl
    exact Finmap.mem_of_lookup_eq_some hlookup
  · cases h
    exact Finmap.mem_insert

section
variable {s s' : Sys} {n : ℕ} {t t' : Thread}

theorem querying_set (hn : s.threads[n]? = some t) :
    (∃ m, IsAt (s.threads.set n t') Thread.querying m) ↔
      t'.querying ∨ ∃ m, m ≠ n ∧ IsAt s.threads Thread.querying m := by
  simp only [isAt_set hn]
  constructor
  · rintro ⟨m, hm⟩
    split_ifs at hm with heq
    · exact .inl hm
    · exact .inr ⟨m, heq, hm⟩
  · rintro (ht | ⟨m, hne, hm⟩)
    · exact ⟨n, by rwa [if_pos rfl]⟩
    · exact ⟨m, by rwa [if_neg hne]⟩

theorem querying_iff (hn : s.threads[n]? = some t) (ht : t.querying = false) :
    (∃ m, IsAt s.threads Thread.querying m) ↔ ∃ m, m ≠ n ∧ IsAt s.threads Thread.querying m := by
  refine exists_congr fun m => (and_iff_right_of_imp ?_).symm
  rintro hm rfl
  rw [isAt_iff hn, ht] at hm
  cases hm

/-- A query that goes on is to replace the table. -/
theorem curable_querying (hn : s.threads[n]? = some t) (ht' : t'.querying)
    (hthreads : s'.threads = s.threads.set n t') : Curable s' :=
  fun _ => .inr (by rw [hthreads, querying_set hn]; exact .inl ht')

/-- A notification that goes on leaves the two sets as they are. -/
theorem curable_notify (h : Curable s) (hn : s.threads[n]? = some t) (ht : t.querying = false)
    (hthreads : s'.threads = s.threads.set n t') (hquery : s'.m_queryDomains = s.m_queryDomains)
    (hdomains : s'.m_domains = s.m_domains) (hanswered : s'.answered = s.answered) : Curable s' := by
  intro ha
  rw [hthreads, querying_set hn, ← querying_iff hn ht, Only, hquery, hdomains]
  exact (h (hanswered ▸ ha)).imp_right .inr

section
variable {inet_addr : String → BitVec 32}

theorem curable_runThread (h : Curable s) (hn : s.threads[n]? = some t)
    {response : Option (List NodeInfo)} (hstep : runThread inet_addr s n response t = some s') :
    Curable s' ↔ Meets s (.run n response) := by
  have hsame {t' : Thread} (ht : t.querying = false) (hthreads : s'.threads = s.threads.set n t')
      (hquery : s'.m_queryDomains = s.m_queryDomains) (hdomains : s'.m_domains = s.m_domains)
      (hanswered : s'.answered = s.answered) : Curable s' ↔ True :=
    iff_true_intro (curable_notify h hn ht hthreads hquery hdomains hanswered)
  simp only [Meets, hn]
  cases t
  case query =>
    cases hstep
    by_cases hempty : s.m_queryDomains = ∅
    · rw [if_pos hempty, forall_prop_of_true hempty, Curable, Sys.goto, querying_set hn]
      simp only [Thread.querying, Bool.false_eq_true, false_or]
      rfl
    · rw [if_neg hempty]
      exact iff_of_true (curable_querying hn rfl rfl) fun h => absurd h hempty
  case request domains =>
    cases response with
    | none =>
      cases hstep
      exact iff_of_true (fun ha => nomatch ha) trivial
    | some infos =>
      cases hstep
      exact iff_of_true (curable_querying hn rfl rfl) trivial
  case answer infos domains =>
    cases infos with
    | nil =>
      cases hstep
      rw [Curable, Sys.goto, querying_set hn]
      simp only [Thread.querying, Bool.false_eq_true, false_or]
      rfl
    | cons i infos =>
      refine iff_of_true ?_ trivial
      rw [runThread] at hstep
      by_cases hask : i.name ∈ s.m_queryDomains
      · rw [if_pos hask] at hstep
        rcases hget : s.get i.name domains with ⟨domain, domains', s₁⟩
        rw [hget] at hstep
        cases hstep
        have hthreads : (s₁.goto n (.answer infos domains')).threads =
            s.threads.set n (.answer infos domains') := by
          rw [Sys.goto, (get_same hget).2.2.1]
        exact curable_querying hn rfl hthreads
      · rw [if_neg hask] at hstep
        cases hstep
        exact curable_querying hn rfl rfl
  case notify dels updates =>
    cases dels <;> cases updates <;> cases hstep <;> exact hsame rfl rfl rfl rfl rfl
  case delGet i dels updates =>
    rw [runThread] at hstep
    cases hlookup : s.m_domains.lookup i.name <;> rw [hlookup] at hstep <;> cases hstep <;>
      exact hsame rfl rfl rfl rfl rfl
  case delNodes domain i nodes dels updates =>
    cases nodes <;> cases hstep <;> exact hsame rfl rfl rfl rfl rfl
  case updateGet i updates =>
    rw [runThread] at hstep
    rcases hget : s.get i.name s.m_domains with ⟨domain, m_domains, s₁⟩
    rw [hget] at hstep
    cases hstep
    obtain ⟨hquery, hdomains, hthreads, hanswered⟩ := get_same hget
    rw [Curable, Sys.goto, hthreads, querying_set hn]
    simp only [Thread.querying, Bool.false_eq_true, false_or, Only, hquery, hanswered, mem_get hget]
    refine forall_congr' fun ha => ⟨Or.imp_left fun honly => honly i.name (.inl rfl), fun hask => ?_⟩
    rw [Curable, querying_iff hn rfl] at h
    rcases h ha with honly | hother
    · refine hask.imp_left fun hask name hname => ?_
      rcases hname with rfl | hname
      exacts [hask, honly name hname]
    · exact .inr hother
  case updateNodes domain i nodes updates =>
    cases nodes <;> cases hstep <;> exact hsame rfl rfl rfl rfl rfl
  case done => cases hstep

/-- **One step.** -/
theorem curable_step {l : Label} (h : Curable s) (hstep : step inet_addr s l s') :
    Curable s' ↔ Meets s l := by
  have hquery {v : Finset String} (hs' : s.onQueryDomainChange v = s') : Curable s' := by
    refine fun _ => .inr ⟨s.threads.length, .query, ?_, rfl⟩
    rw [← hs', Sys.onQueryDomainChange, List.getElem?_concat_length]
  cases l with
  | setQueryDomains v => exact iff_of_true (hquery (Option.some.inj hstep)) trivial
  | addQueryDomain domain => exact iff_of_true (hquery (Option.some.inj hstep)) trivial
  | delQueryDomain domain => exact iff_of_true (hquery (Option.some.inj hstep)) trivial
  | notify dels updates =>
    cases hstep
    refine iff_of_true (fun ha => (h ha).imp_right fun ⟨m, hm⟩ => ⟨m, ?_⟩) trivial
    refine (isAt_append fun t ht => ?_).2 hm
    rw [List.mem_singleton.1 ht]
    rfl
  | run n response =>
    obtain ⟨t, hn, hstep⟩ := Option.bind_eq_some_iff.1 hstep
    exact curable_runThread h hn hstep

theorem only_of_curable (h : Curable s) (hs : Settled s) : Only s := by
  refine (h hs.2).resolve_right ?_
  rintro ⟨m, t, ht, hquerying⟩
  rw [hs.1 t (List.mem_of_getElem? ht)] at hquerying
  cases hquerying

end

theorem init_curable (v : Finset String) : Curable (init v) :=
  fun _ => .inl fun _ hname => absurd hname Finmap.notMem_empty

theorem curable_of_run {inet_addr : String → BitVec 32} {v : Finset String} {ls : List Label}
    (hr : Run (fun s l s' => step inet_addr s l s' ∧ Meets s l) (init v) ls s) : Curable s :=
  hr.invariant (P := Curable) (fun _ _ _ h hstep => (curable_step h hstep.1).2 hstep.2)
    (init_curable v)

end

/-- **A settled client has only what it asks for**, in each state that a run reaches whose steps all
    meet the condition. -/
theorem only_of_run {inet_addr : String → BitVec 32} {v : Finset String} {ls : List Label} {s : Sys}
    (hr : Run (fun s l s' => step inet_addr s l s' ∧ Meets s l) (init v) ls s) (hs : Settled s) :
    Only s :=
  only_of_curable (curable_of_run hr) hs

/-- A query that is answered, and a notification. -/
theorem only_of_run_two : ∃ s, Settled s ∧ s.m_domains.lookup "a" = some 0 ∧ Only s := by
  obtain ⟨s, hr, hthreads, hanswered, hlookup⟩ : ∃ s,
      Run (fun s l s' => step (fun _ => 0x0100007F#32) s l s' ∧ Meets s l) (init ∅)
        [.setQueryDomains {"a"}, .run 0 none,
          .run 0 (some [⟨some "a", some 1, [⟨some "127.0.0.1", some 8080, some 1⟩]⟩]), .run 0 none,
          .run 0 none, .notify [] [⟨some "b", none, []⟩], .run 1 none, .run 1 none] s ∧
      s.threads = [.done, .done] ∧ s.answered ∧ s.m_domains.lookup "a" = some 0 := by
    refine ⟨_, .cons ⟨rfl, trivial⟩ <| .cons ⟨rfl, fun h => ?_⟩ <| .cons ⟨rfl, trivial⟩ <|
      .cons ⟨rfl, trivial⟩ <| .cons ⟨rfl, fun _ => .inl fun name hname => ?_⟩ <| .cons ⟨rfl, trivial⟩ <|
      .cons ⟨rfl, trivial⟩ <| .cons ⟨rfl, trivial⟩ <| .nil _, rfl, rfl, rfl⟩
    · exact absurd h (Finset.singleton_ne_empty "a")
    · obtain rfl : name = "a" :=
        (Finmap.mem_insert.1 hname).resolve_right Finmap.notMem_empty
      exact Finset.mem_singleton_self "a"
  have hsettled : Settled s := ⟨fun t ht => by rw [hthreads] at ht; simpa using ht, hanswered⟩
  exact ⟨s, hsettled, hlookup, only_of_run hr hsettled⟩

/-! ## A step that does not meet the condition -/

/-- The steps that a loop over `infos` takes at most. -/
def cost (infos : List NodeInfo) : ℕ := tally (fun i => i.nodes.length + 3) infos

/-- The steps that a notification takes at most. -/
def Thread.left : Thread → ℕ
  | notify dels updates => cost dels + cost updates + 1
  | delGet i dels updates => i.nodes.length + 2 + cost dels + cost updates + 1
  | delNodes _ _ nodes dels updates => nodes.length + 1 + cost dels + cost updates + 1
  | updateGet i updates => i.nodes.length + 2 + cost updates + 1
  | updateNodes _ _ nodes updates => nodes.length + 1 + cost updates + 1
  | _ => 0

@[simp] theorem cost_nil : cost [] = 0 := rfl

@[simp] theorem cost_cons (i : NodeInfo) (infos : List NodeInfo) :
    cost (i :: infos) = i.nodes.length + 3 + cost infos := rfl

section
variable {inet_addr : String → BitVec 32} {s s' : Sys} {n : ℕ} {t t' : Thread}

/-- What a step of a notification leaves of a table that nothing is to replace. -/
structure Goes (s s' : Sys) (n : ℕ) (t t' : Thread) : Prop where
  threads : s'.threads = s.threads.set n t'
  m_queryDomains : s'.m_queryDomains = s.m_queryDomains
  m_domains : ∀ name ∈ s.m_domains, name ∈ s'.m_domains
  answered : s'.answered = s.answered
  querying : t'.querying = false
  left : t'.left < t.left

theorem exists_goes (s : Sys) (n : ℕ) (ht : t.querying = false) (hdone : t ≠ .done) :
    ∃ s' t', runThread inet_addr s n none t = some s' ∧ Goes s s' n t t' := by
  cases t
  case notify dels updates =>
    cases dels with
    | nil =>
      cases updates with
      | nil => exact ⟨_, _, rfl, rfl, rfl, fun _ h => h, rfl, rfl, Nat.succ_pos _⟩
      | cons i updates =>
        by_cases hask : i.name ∈ s.m_queryDomains
        · refine ⟨_, .updateGet i updates, rfl, by rw [if_pos hask]; rfl, rfl, fun _ h => h, rfl, rfl, ?_⟩
          simp [Thread.left]
        · refine ⟨_, .notify [] updates, rfl, by rw [if_neg hask]; rfl, rfl, fun _ h => h, rfl, rfl, ?_⟩
          simp [Thread.left]
    | cons i dels =>
      by_cases hask : i.name ∈ s.m_queryDomains
      · refine ⟨_, .delGet i dels updates, rfl, by rw [if_pos hask]; rfl, rfl, fun _ h => h, rfl, rfl, ?_⟩
        simp [Thread.left]
      · refine ⟨_, .notify dels updates, rfl, by rw [if_neg hask]; rfl, rfl, fun _ h => h, rfl, rfl, ?_⟩
        simp [Thread.left]
  case delGet i dels updates =>
    cases hlookup : s.m_domains.lookup i.name with
    | none =>
      refine ⟨s.goto n (.notify dels updates), _, by rw [runThread, hlookup], rfl, rfl, fun _ h => h,
        rfl, rfl, ?_⟩
      simp only [Thread.left]
      omega
    | some domain =>
      refine ⟨s.goto n (.delNodes domain i i.nodes dels updates), _, by rw [runThread, hlookup], rfl,
        rfl, fun _ h => h, rfl, rfl, ?_⟩
      simp only [Thread.left]
      omega
  case delNodes domain i nodes dels updates =>
    cases nodes with
    | nil => exact ⟨_, _, rfl, rfl, rfl, fun _ h => h, rfl, rfl, by simp [Thread.left]⟩
    | cons node nodes => exact ⟨_, _, rfl, rfl, rfl, fun _ h => h, rfl, rfl, by simp [Thread.left]⟩
  case updateGet i updates =>
    rcases hget : s.get i.name s.m_domains with ⟨domain, m_domains, s₁⟩
    obtain ⟨hquery, -, hthreads, hanswered⟩ := get_same hget
    refine ⟨{ s₁.goto n (.updateNodes domain i i.nodes updates) with m_domains := m_domains }, _,
      by rw [runThread, hget], by rw [← hthreads]; rfl, hquery, fun name hname => ?_, hanswered, rfl, ?_⟩
    · exact (mem_get hget).2 (.inr hname)
    · simp [Thread.left]
  case updateNodes domain i nodes updates =>
    cases nodes with
    | nil => exact ⟨_, _, rfl, rfl, rfl, fun _ h => h, rfl, rfl, by simp [Thread.left]⟩
    | cons node nodes => exact ⟨_, _, rfl, rfl, rfl, fun _ h => h, rfl, rfl, by simp [Thread.left]⟩
  case done => exact absurd rfl hdone
  all_goals cases ht

theorem not_curable_iff : ¬Curable s ↔
    s.answered ∧ ¬Only s ∧ ¬∃ m, IsAt s.threads Thread.querying m := by
  rw [Curable, Classical.not_imp, not_or]

theorem Goes.not_curable (h : Goes s s' n t t') (hn : s.threads[n]? = some t) (ht : t.querying = false)
    (hs : ¬Curable s) : ¬Curable s' := by
  rw [not_curable_iff] at hs ⊢
  obtain ⟨hanswered, honly, hnone⟩ := hs
  refine ⟨h.answered ▸ hanswered, fun honly' => honly fun name hname => ?_, ?_⟩
  · exact h.m_queryDomains ▸ honly' name (h.m_domains name hname)
  · rw [h.threads, querying_set hn, ← querying_iff hn ht, h.querying]
    rintro (h | h)
    exacts [(nomatch h), hnone h]

/-- A domain too many that no query is to replace stays: the notifications under way come to their
    ends. -/
theorem exists_settled (hs : ¬Curable s) : ∃ ls u,
    Run (fun s l s' => step inet_addr s l s' ∧ ∃ n, l = .run n none) s ls u ∧ Settled u ∧ ¬Only u := by
  have hnext (s : Sys) (hs : ¬Curable s) (hsettled : ¬∀ t ∈ s.threads, t = .done) :
      ∃ l s', (step inet_addr s l s' ∧ ∃ n, l = .run n none) ∧ ¬Curable s' ∧
        tally Thread.left s'.threads < tally Thread.left s.threads := by
    push Not at hsettled
    obtain ⟨t, hmem, hne⟩ := hsettled
    obtain ⟨n, hn⟩ := List.mem_iff_getElem?.1 hmem
    have ht : t.querying = false := by
      by_contra hquerying
      exact (not_curable_iff.1 hs).2.2 ⟨n, t, hn, Bool.not_eq_false _ ▸ hquerying⟩
    obtain ⟨s', t', hstep, hgoes⟩ : ∃ s' t', runThread inet_addr s n none t = some s' ∧ Goes s s' n t t' :=
      exists_goes s n ht hne
    refine ⟨.run n none, s', ⟨Option.bind_eq_some_iff.2 ⟨t, hn, hstep⟩, n, rfl⟩,
      hgoes.not_curable hn ht hs, ?_⟩
    have hset := tally_set Thread.left hn t'
    have hleft := hgoes.left
    rw [hgoes.threads]
    omega
  obtain ⟨ls, u, hr, hu, hdone⟩ :=
    Run.exists_of_measure (fun s : Sys => tally Thread.left s.threads) hnext hs
  obtain ⟨hanswered, honly, -⟩ := not_curable_iff.1 hu
  exact ⟨ls, u, hr, ⟨hdone, hanswered⟩, honly⟩

end

/-- **A step that does not meet the condition**, after steps that do, leaves a domain that the client
    does not ask for: it is there when the calls under way have returned. -/
theorem not_only_of_step {inet_addr : String → BitVec 32} {v : Finset String} {ls : List Label}
    {s s' : Sys} {l : Label}
    (hr : Run (fun s l s' => step inet_addr s l s' ∧ Meets s l) (init v) ls s)
    (hstep : step inet_addr s l s') (hl : ¬Meets s l) : ∃ ls' u,
      Run (fun s l s' => step inet_addr s l s' ∧ ∃ n, l = .run n none) s' ls' u ∧ Settled u ∧ ¬Only u :=
  exists_settled fun h => hl ((curable_step (curable_of_run hr) hstep).1 h)

/-- **No request is sent for no domains**: a client that is told to ask for none keeps those that it
    has. -/
theorem not_only_of_empty {inet_addr : String → BitVec 32} {s : Sys} (hs : Settled s) {name : String}
    (hname : name ∈ s.m_domains) : ∃ u,
      Run (step inet_addr) s [.setQueryDomains ∅, .run s.threads.length none] u ∧ Settled u ∧ ¬Only u := by
  have hquery : (s.onQueryDomainChange ∅).threads[s.threads.length]? = some Thread.query :=
    List.getElem?_concat_length
  refine ⟨(s.onQueryDomainChange ∅).goto s.threads.length .done, .cons rfl <| .cons ?_ <| .nil _,
    ⟨fun t ht => ?_, hs.2⟩, fun honly => absurd (honly name hname) (Finset.notMem_empty name)⟩
  · exact Option.bind_eq_some_iff.2 ⟨_, hquery, rfl⟩
  · have hset : ((s.onQueryDomainChange ∅).goto s.threads.length .done).threads =
        s.threads ++ [.done] := by
      show (s.threads ++ [Thread.query]).set s.threads.length .done = _
      rw [List.set_append_right _ _ le_rfl, Nat.sub_self, List.set_cons_zero]
    rw [hset] at ht
    exact (List.mem_append.1 ht).elim (hs.1 t) List.mem_singleton.1

/-- Two queries that are answered; the second one swaps its table first. -/
theorem not_only : ¬∀ (inet_addr : String → BitVec 32) (v : Finset String) (ls : List Label) (s : Sys),
    Run (step inet_addr) (init v) ls s → Settled s → Only s := by
  intro h
  obtain ⟨s, hr, hthreads, hanswered, hlookup, hask⟩ : ∃ s, Run (step fun _ => 0x0100007F#32) (init ∅)
      [.setQueryDomains {"a"}, .run 0 none,
        .run 0 (some [⟨some "a", some 1, [⟨some "127.0.0.1", some 8080, some 1⟩]⟩]), .run 0 none,
        .setQueryDomains {"b"}, .run 1 none,
        .run 1 (some [⟨some "b", some 1, [⟨some "127.0.0.1", some 8080, some 1⟩]⟩]), .run 1 none,
        .run 1 none, .run 0 none] s ∧
      s.threads = [.done, .done] ∧ s.answered ∧ s.m_domains.lookup "a" = some 0 ∧
        s.m_queryDomains = {"b"} := by
    refine ⟨_, .cons rfl <| .cons rfl <| .cons rfl <| .cons rfl <| .cons rfl <| .cons rfl <|
      .cons rfl <| .cons rfl <| .cons rfl <| .cons rfl <| .nil _, rfl, rfl, rfl, rfl⟩
  have hsettled : Settled s := ⟨fun t ht => by rw [hthreads] at ht; simpa using ht, hanswered⟩
  have hmem := h _ _ _ _ hr hsettled "a" (Finmap.mem_of_lookup_eq_some hlookup)
  rw [hask] at hmem
  exact absurd hmem (by decide)

end Ancfl.Ns.Client
