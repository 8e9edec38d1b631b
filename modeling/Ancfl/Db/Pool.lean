/-
  `MySQLManager`: the pooled connections.

  * `Pool`: the idle lists, the objects, and the handles that callers hold;
    `next` is a `get`, the release of a handle, a call on a held connection or
    a `checkConnection`, with what `mysql_ping` and `mysql_real_connect` answer;
  * `Placed`: every object that was not deleted is in one place;
  * `placed_of_kept`: this holds in a run in which no reconnect fails.
-/
import Ancfl.Lib.Int32
import Ancfl.Lib.Pool
import Ancfl.Lib.Run
import Mathlib.Algebra.Order.Ring.Int
import Mathlib.Logic.Function.Basic

namespace Ancfl.MySQLManager

open Lib

/-! ## Connections -/

/-- What a connection reads of its parameters: what `GetParamValue(m_params, "pool", 5)` gives. -/
structure Params where
  pool : BitVec 32
deriving DecidableEq

/-- `m_mysql` is whether there is one; `name`, for which the object was made, is not in the source. -/
structure MySQL where
  name : String
  m_params : Params
  m_mysql : Bool
  m_lastUsedTime : BitVec 64
  m_hasError : Bool
  m_poolSize : BitVec 32
deriving DecidableEq

namespace MySQL

def new (name : String) (args : Params) : MySQL := ⟨name, args, false, 0, false, 10⟩

/-- `mysql` is whether `mysql_init` connects. -/
def connect (mysql : Bool) (c : MySQL) : Bool × MySQL :=
  if c.m_mysql && !c.m_hasError then (true, c)
  else if !mysql then (false, { c with m_hasError := true })
  else (true, { c with m_hasError := false, m_poolSize := c.m_params.pool, m_mysql := true })

/-- `alive` is whether `mysql_ping` finds the server. -/
def ping (alive : Bool) (c : MySQL) : Bool × MySQL :=
  if !c.m_mysql then (false, c)
  else if !alive then (false, { c with m_hasError := true })
  else (true, { c with m_hasError := false })

def isNeedCheck (now : BitVec 64) (c : MySQL) : Bool :=
  !(now - c.m_lastUsedTime < 5 && !c.m_hasError)

/-- Not used for `sec` seconds. -/
def stale (now : BitVec 64) (sec : ℤ) (c : MySQL) : Bool :=
  sec ≤ ((now - c.m_lastUsedTime).truncate 32).toInt

end MySQL

/-! ## The manager -/

/-- `idle` are the lists of `m_conns`, one after the other as they grow, each connection with its name;
    `objs` are the objects by their addresses, as far as they are not deleted, those from `fresh` on are
    not in use; `handles` are the pointers that `get` has returned, with the name of their deleter. -/
structure Pool where
  idle : List (String × ℕ)
  objs : ℕ → Option MySQL
  fresh : ℕ
  handles : List (String × ℕ)

inductive Label
  | get (now : BitVec 64) (name : String) (alive mysql : Bool)
  /-- the last copy of a handle goes -/
  | release (i : ℕ)
  /-- a call on the connection of a handle leaves `m_hasError` so -/
  | use (i : ℕ) (m_hasError : Bool)
  | checkConnection (now : BitVec 64) (sec : ℤ)
deriving DecidableEq

namespace Pool

def empty : Pool := ⟨[], fun _ => none, 0, []⟩

/-- `m_conns[name]` -/
def m_conns (s : Pool) (name : String) : List ℕ := (s.idle.filter (·.1 = name)).map Prod.snd

def store (p : ℕ) (c : Option MySQL) (s : Pool) : Pool := { s with objs := Function.update s.objs p c }

/-- The connection is used now, and its handle returned. -/
def handOut (name : String) (p : ℕ) (now : BitVec 64) (rt : MySQL) (s : Pool) : Pool :=
  { s.store p (some { rt with m_lastUsedTime := now }) with handles := s.handles ++ [(name, p)] }

/-- An idle connection that was taken out of its list. -/
def checkOut (name : String) (p : ℕ) (now : BitVec 64) (alive mysql : Bool) (rt : MySQL) (s : Pool) :
    Pool :=
  if !rt.isNeedCheck now then s.handOut name p now rt
  else
    let (pinged, rt) := rt.ping alive
    if pinged then s.handOut name p now rt
    else
      let (connected, rt) := rt.connect mysql
      if connected then s.handOut name p now rt
      -- `return nullptr`: the object is not deleted
      else s.store p (some rt)

/-- `defs` is where `get` looks for the parameters of a name. -/
def get (defs : String → Option Params) (now : BitVec 64) (name : String) (alive mysql : Bool)
    (s : Pool) : Pool :=
  match s.m_conns name with
  | p :: _ =>
    let s := { s with idle := s.idle.eraseP (·.1 = name) }
    match s.objs p with
    | some rt => checkOut name p now alive mysql rt s
    | none => s
  | [] =>
    match defs name with
    | none => s
    | some args =>
      let (connected, rt) := (MySQL.new name args).connect mysql
      let p := s.fresh
      let s := { s with fresh := s.fresh + 1 }
      -- else `delete rt`
      if connected then s.handOut name p now rt else s

def freeMySQL (name : String) (p : ℕ) (s : Pool) : Pool :=
  match s.objs p with
  | none => s
  | some m =>
    if m.m_mysql && (s.m_conns name).length < (m.m_poolSize.signExtend 64).toNat then
      { s with idle := s.idle ++ [(name, p)] }
    else s.store p none

/-- The connection of an entry is not used for long. -/
def stale (now : BitVec 64) (sec : ℤ) (s : Pool) (entry : String × ℕ) : Bool :=
  (s.objs entry.2).any (MySQL.stale now sec)

def checkConnection (now : BitVec 64) (sec : ℤ) (s : Pool) : Pool :=
  let conns := s.idle.filter (s.stale now sec)
  { s with
    idle := s.idle.filter fun entry => !s.stale now sec entry
    objs := fun p => if p ∈ conns.map Prod.snd then none else s.objs p }

end Pool

def next (defs : String → Option Params) (s : Pool) : Label → Option Pool
  | .get now name alive mysql => some (s.get defs now name alive mysql)
  | .release i => s.handles[i]?.map fun (name, p) =>
    { s with handles := s.handles.eraseIdx i }.freeMySQL name p
  | .use i m_hasError => s.handles[i]?.bind fun (_, p) =>
    (s.objs p).map fun m => s.store p (some { m with m_hasError := m_hasError })
  | .checkConnection now sec => some (s.checkConnection now sec)

def step (defs : String → Option Params) (s : Pool) (l : Label) (s' : Pool) : Prop :=
  next defs s l = some s'

/-! ## What is to hold, and when -/

/-- The places of the objects. -/
def Pool.places (s : Pool) : List ℕ := (s.idle ++ s.handles).map Prod.snd

/-- Every object is in one place, the idle list of its name or a handle, and no idle list is longer than
    the pool size of its connections. -/
structure Placed (s : Pool) : Prop where
  once : s.places.Nodup
  live : ∀ p, s.objs p ≠ none ↔ p ∈ s.places
  named : ∀ name p, (name, p) ∈ s.idle ++ s.handles → ∀ m, s.objs p = some m → m.name = name
  size : ∀ name, ∀ p ∈ s.m_conns name, ∀ m, s.objs p = some m →
    (s.m_conns name).length ≤ m.m_poolSize.toInt

/-- No idle connection that is to be handed out fails its check and the reconnect, and no connection is
    given back with a negative pool size. -/
def Kept (s : Pool) : Label → Prop
  | .get now name alive mysql => ∀ p rest rt, s.m_conns name = p :: rest → s.objs p = some rt →
    rt.isNeedCheck now = true → (rt.ping alive).1 = true ∨ ((rt.ping alive).2.connect mysql).1 = true
  | .release i => ∀ name p m, s.handles[i]? = some (name, p) → s.objs p = some m →
    0 ≤ m.m_poolSize.toInt
  | _ => True

/-- `out` are connections that are on their way from one place to another. -/
structure Inv (defs : String → Option Params) (out : List (String × ℕ)) (s : Pool) : Prop where
  once : ((out ++ (s.idle ++ s.handles)).map Prod.snd).Nodup
  live : ∀ p, s.objs p ≠ none ↔ p ∈ (out ++ (s.idle ++ s.handles)).map Prod.snd
  named : ∀ entry ∈ out ++ (s.idle ++ s.handles), ∀ m, s.objs entry.2 = some m → m.name = entry.1
  fresh : ∀ p, s.objs p ≠ none → p < s.fresh
  conn : ∀ p m, s.objs p = some m → m.m_mysql = true ∧ defs m.name = some m.m_params ∧
    m.m_poolSize = m.m_params.pool
  size : ∀ name args, defs name = some args → s.m_conns name ≠ [] →
    (s.m_conns name).length ≤ args.pool.toInt

section
variable {defs : String → Option Params} {out out' : List (String × ℕ)} {s s' : Pool} {name : String}
  {p : ℕ} {m m' : MySQL} {l : Label}

theorem inv_empty : Inv defs [] .empty :=
  ⟨.nil, fun _ => iff_of_false (fun h => h rfl) (List.not_mem_nil), fun _ => nofun, fun _ h => absurd rfl h,
    fun _ _ => nofun, fun _ _ _ h => absurd rfl h⟩

theorem mem_m_conns : p ∈ s.m_conns name ↔ (name, p) ∈ s.idle := by
  simp only [Pool.m_conns, List.mem_map, List.mem_filter, decide_eq_true_eq]
  constructor
  · rintro ⟨⟨name', p'⟩, ⟨hmem, rfl⟩, rfl⟩
    exact hmem
  · exact fun h => ⟨_, ⟨h, rfl⟩, rfl⟩

theorem Inv.placed (h : Inv defs [] s) : Placed s := by
  have hnamed : ∀ name p, (name, p) ∈ s.idle ++ s.handles → ∀ m, s.objs p = some m → m.name = name :=
    fun name p hmem => h.named (name, p) hmem
  refine ⟨h.once, h.live, hnamed, ?_⟩
  intro name p hp m hm
  obtain ⟨-, hdefs, hpool⟩ := h.conn p m hm
  rw [hnamed name p (List.mem_append_left _ (mem_m_conns.1 hp)) m hm] at hdefs
  rw [hpool]
  exact h.size name _ hdefs (List.ne_nil_of_mem hp)

/-- Connections change their places. -/
theorem Inv.move (h : Inv defs out s)
    (hperm : (out' ++ (s'.idle ++ s'.handles)).Perm (out ++ (s.idle ++ s.handles)))
    (hobjs : s'.objs = s.objs) (hfresh : s'.fresh = s.fresh)
    (hsize : ∀ name args, defs name = some args → s'.m_conns name ≠ [] →
      (s'.m_conns name).length ≤ args.pool.toInt) : Inv defs out' s' where
  once := (hperm.map Prod.snd).nodup_iff.2 h.once
  live := fun p => by rw [hobjs, (hperm.map Prod.snd).mem_iff]; exact h.live p
  named := fun entry hmem => by rw [hobjs]; exact h.named entry (hperm.mem_iff.1 hmem)
  fresh := by rw [hobjs, hfresh]; exact h.fresh
  conn := by rw [hobjs]; exact h.conn
  size := hsize

/-- Idle lists get shorter. -/
theorem Inv.size_sublist (h : Inv defs out s) (hsub : s'.idle.Sublist s.idle) (name : String)
    (args : Params) (hdefs : defs name = some args) (hne : s'.m_conns name ≠ []) :
    (s'.m_conns name).length ≤ args.pool.toInt := by
  have hconns : (s'.m_conns name).Sublist (s.m_conns name) := (hsub.filter _).map _
  have hle := h.size name args hdefs fun hnil => hne (List.sublist_nil.1 (hnil ▸ hconns))
  have hlen := hconns.length_le
  omega

/-- An object changes. -/
theorem Inv.store (h : Inv defs out s) (hp : s.objs p = some m) (hname : m'.name = m.name)
    (hparams : m'.m_params = m.m_params) (hmysql : m'.m_mysql = true)
    (hpool : m'.m_poolSize = m.m_poolSize) : Inv defs out (s.store p (some m')) := by
  have hobj (q : ℕ) : (s.store p (some m')).objs q ≠ none ↔ s.objs q ≠ none := by
    by_cases hq : q = p
    · subst hq; simp [Pool.store, hp]
    · simp [Pool.store, hq]
  refine ⟨h.once, fun q => (hobj q).trans (h.live q), ?_, fun q hq => h.fresh q ((hobj q).1 hq), ?_, h.size⟩
  · intro entry hmem x hx
    by_cases hq : entry.2 = p
    · rw [hq] at hx
      obtain rfl : m' = x := by simpa [Pool.store] using hx
      rw [hname]
      exact h.named entry hmem m (hq ▸ hp)
    · exact h.named entry hmem x (by simpa [Pool.store, hq] using hx)
  · intro q x hx
    by_cases hq : q = p
    · rw [hq] at hx
      obtain rfl : m' = x := by simpa [Pool.store] using hx
      rw [hname, hparams, hpool]
      exact ⟨hmysql, (h.conn p m hp).2⟩
    · exact h.conn q x (by simpa [Pool.store, hq] using hx)

/-- An object is deleted. -/
theorem Inv.delete (h : Inv defs ((name, p) :: out) s) : Inv defs out (s.store p none) := by
  have hnodup := h.once
  rw [List.cons_append, List.map_cons, List.nodup_cons] at hnodup
  have hobj {q : ℕ} {x : MySQL} (hx : (s.store p none).objs q = some x) : q ≠ p ∧ s.objs q = some x := by
    by_cases hq : q = p
    · subst hq; simp [Pool.store] at hx
    · exact ⟨hq, by simpa [Pool.store, hq] using hx⟩
  refine ⟨hnodup.2, fun q => ?_, fun entry hmem x hx => ?_, fun q hq => ?_, fun q x hx => ?_, h.size⟩
  · by_cases hq : q = p
    · subst hq
      exact iff_of_false (by simp [Pool.store]) hnodup.1
    · have hlive := h.live q
      rw [List.cons_append, List.map_cons, List.mem_cons, or_iff_right hq] at hlive
      simpa [Pool.store, hq] using hlive
  · exact h.named entry (List.mem_cons_of_mem _ hmem) x (hobj hx).2
  · obtain ⟨x, hx⟩ := Option.ne_none_iff_exists'.1 hq
    exact h.fresh q (by rw [(hobj hx).2]; nofun)
  · exact h.conn q x (hobj hx).2

theorem Inv.handOut (h : Inv defs ((name, p) :: out) s) (hp : s.objs p = some m) (now : BitVec 64)
    (hname : m'.name = m.name) (hparams : m'.m_params = m.m_params) (hmysql : m'.m_mysql = true)
    (hpool : m'.m_poolSize = m.m_poolSize) : Inv defs out (s.handOut name p now m') := by
  have hstore : Inv defs ((name, p) :: out) (s.store p (some { m' with m_lastUsedTime := now })) :=
    h.store hp hname hparams hmysql hpool
  refine hstore.move ?_ rfl rfl hstore.size
  show (out ++ (s.idle ++ (s.handles ++ [(name, p)]))).Perm ((name, p) :: out ++ (s.idle ++ s.handles))
  rw [← List.append_assoc s.idle, ← List.append_assoc]
  exact (List.perm_append_singleton _ _)

/-! ## Steps keep every object in its place -/

/-- The front of an idle list is taken out. -/
theorem Inv.pop (h : Inv defs [] s) {rest : List ℕ} (hconns : s.m_conns name = p :: rest) :
    Inv defs [(name, p)] { s with idle := s.idle.eraseP (·.1 = name) } := by
  have hmem : (name, p) ∈ s.idle := mem_m_conns.1 (hconns ▸ List.mem_cons_self)
  obtain ⟨entry, a, b, ha, hentry, hidle, herase⟩ :=
    List.exists_of_eraseP (p := fun e => decide (e.1 = name)) hmem (by simp)
  have hfilter : s.idle.filter (·.1 = name) = entry :: b.filter (·.1 = name) := by
    have hnil : a.filter (·.1 = name) = [] := List.filter_eq_nil_iff.2 ha
    rw [hidle, List.filter_append, hnil, List.nil_append, List.filter_cons, if_pos hentry]
  obtain rfl : entry = (name, p) := by
    rw [Pool.m_conns, hfilter, List.map_cons] at hconns
    exact Prod.ext (by simpa using hentry) (List.cons.inj hconns).1
  refine h.move ?_ rfl rfl (h.size_sublist List.eraseP_sublist)
  show ((name, p) :: (s.idle.eraseP (·.1 = name) ++ s.handles)).Perm (s.idle ++ s.handles)
  rw [herase, hidle, ← List.cons_append]
  exact (List.perm_middle.symm).append_right s.handles

/-- What is taken out is handed out, if the connection can be used. -/
theorem inv_checkOut (h : Inv defs [(name, p)] s) (hp : s.objs p = some m) {now : BitVec 64}
    {alive mysql : Bool} (hkept : m.isNeedCheck now = true →
      (m.ping alive).1 = true ∨ ((m.ping alive).2.connect mysql).1 = true) :
    Inv defs [] (s.checkOut name p now alive mysql m) := by
  obtain ⟨hmysql, -, hpool⟩ := h.conn p m hp
  have hping : (m.ping alive).2.name = m.name ∧ (m.ping alive).2.m_params = m.m_params ∧
      (m.ping alive).2.m_mysql = true ∧ (m.ping alive).2.m_poolSize = m.m_poolSize := by
    unfold MySQL.ping
    split_ifs <;> simp_all
  have hconnect : ((m.ping alive).2.connect mysql).2.name = m.name ∧
      ((m.ping alive).2.connect mysql).2.m_params = m.m_params ∧
      ((m.ping alive).2.connect mysql).2.m_mysql = true ∧
      ((m.ping alive).2.connect mysql).2.m_poolSize = m.m_poolSize := by
    obtain ⟨h₁, h₂, h₃, h₄⟩ := hping
    unfold MySQL.connect
    split_ifs <;> simp_all
  unfold Pool.checkOut
  dsimp only
  split_ifs with hcheck hpinged hconnected
  · exact h.handOut hp now rfl rfl hmysql rfl
  · exact h.handOut hp now hping.1 hping.2.1 hping.2.2.1 hping.2.2.2
  · exact h.handOut hp now hconnect.1 hconnect.2.1 hconnect.2.2.1 hconnect.2.2.2
  · rcases hkept (by simpa using hcheck) with hok | hok
    · exact absurd hok hpinged
    · exact absurd hok hconnected

/-- A new object is connected. -/
theorem Inv.make (h : Inv defs [] s) (hp : s.fresh = p) {args : Params} (hdefs : defs name = some args)
    (hname : m.name = name) (hparams : m.m_params = args) (hmysql : m.m_mysql = true)
    (hpool : m.m_poolSize = args.pool) :
    Inv defs [(name, p)] { s.store p (some m) with fresh := s.fresh + 1 } := by
  have hnone : s.objs p = none := by
    by_contra hne
    exact absurd (h.fresh p hne) (by omega)
  have hnot : p ∉ (s.idle ++ s.handles).map Prod.snd := fun hmem => (h.live p).2 hmem hnone
  have hobj {q : ℕ} {x : MySQL} (hx : (s.store p (some m)).objs q = some x) :
      q = p ∧ x = m ∨ s.objs q = some x := by
    by_cases hq : q = p
    · subst hq
      exact .inl ⟨rfl, by simpa [Pool.store, eq_comm] using hx⟩
    · exact .inr (by simpa [Pool.store, hq] using hx)
  refine ⟨List.nodup_cons.2 ⟨hnot, h.once⟩, fun q => ?_, ?_, ?_, ?_, h.size⟩
  · show (s.store p (some m)).objs q ≠ none ↔ q ∈ p :: (s.idle ++ s.handles).map Prod.snd
    rw [List.mem_cons]
    by_cases hq : q = p
    · exact iff_of_true (by simp [Pool.store, hq]) (.inl hq)
    · rw [or_iff_right hq]
      simpa [Pool.store, hq] using h.live q
  · intro entry hmem x hx
    rcases hobj hx with ⟨hq, rfl⟩ | hx
    · rcases List.mem_cons.1 hmem with rfl | hmem
      · exact hname
      · exact absurd (hq ▸ List.mem_map_of_mem (f := Prod.snd) hmem) hnot
    · rcases List.mem_cons.1 hmem with rfl | hmem
      · rw [hnone] at hx
        cases hx
      · exact h.named entry hmem x hx
  · intro q hq
    show q < s.fresh + 1
    obtain ⟨x, hx⟩ := Option.ne_none_iff_exists'.1 hq
    rcases hobj hx with ⟨rfl, -⟩ | hx
    · omega
    · exact Nat.lt_succ_of_lt (h.fresh q (by rw [hx]; nofun))
  · intro q x hx
    rcases hobj hx with ⟨-, rfl⟩ | hx
    · rw [hname, hparams, hpool]
      exact ⟨hmysql, hdefs, rfl⟩
    · exact h.conn q x hx

theorem inv_get (h : Inv defs [] s) {now : BitVec 64} {alive mysql : Bool}
    (hkept : Kept s (.get now name alive mysql)) : Inv defs [] (s.get defs now name alive mysql) := by
  unfold Pool.get
  cases hconns : s.m_conns name with
  | cons p rest =>
    dsimp only
    cases hp : s.objs p with
    | some rt => exact inv_checkOut (h.pop hconns) hp (hkept p rest rt hconns hp)
    | none =>
      have hmem := mem_m_conns.1 (hconns ▸ List.mem_cons_self : p ∈ s.m_conns name)
      have hplace : p ∈ (s.idle ++ s.handles).map Prod.snd :=
        List.mem_map.2 ⟨(name, p), List.mem_append_left _ hmem, rfl⟩
      exact absurd hp ((h.live p).2 hplace)
  | nil =>
    cases hdefs : defs name with
    | none => exact h
    | some args =>
      dsimp only
      cases mysql with
      | false =>
        rw [if_neg (by simp [MySQL.new, MySQL.connect])]
        exact ⟨h.once, h.live, h.named, fun p hp => Nat.lt_succ_of_lt (h.fresh p hp), h.conn, h.size⟩
      | true =>
        rw [if_pos (by simp [MySQL.new, MySQL.connect])]
        have hmake := h.make rfl hdefs
          (m := { ((MySQL.new name args).connect true).2 with m_lastUsedTime := now }) rfl rfl rfl rfl
        refine hmake.move ?_ rfl rfl hmake.size
        show (s.idle ++ (s.handles ++ [(name, s.fresh)])).Perm ((name, s.fresh) :: (s.idle ++ s.handles))
        rw [← List.append_assoc]
        exact List.perm_append_singleton _ _

/-- A handle is taken back. -/
theorem Inv.unhand (h : Inv defs [] s) {i : ℕ} (hi : s.handles[i]? = some (name, p)) :
    Inv defs [(name, p)] { s with handles := s.handles.eraseIdx i } := by
  refine h.move ?_ rfl rfl h.size
  show ((name, p) :: (s.idle ++ s.handles.eraseIdx i)).Perm (s.idle ++ s.handles)
  exact List.perm_middle.symm.trans ((getElem?_perm hi).append_left s.idle)

theorem inv_free (h : Inv defs [(name, p)] s) (hp : s.objs p = some m)
    (hpool : 0 ≤ m.m_poolSize.toInt) : Inv defs [] (s.freeMySQL name p) := by
  obtain ⟨hmysql, hdefs, heq⟩ := h.conn p m hp
  have hname : m.name = name := h.named (name, p) List.mem_cons_self m hp
  unfold Pool.freeMySQL
  rw [hp]
  dsimp only
  split_ifs with hroom
  · refine h.move ?_ rfl rfl fun name' args hargs hne => ?_
    · show (s.idle ++ [(name, p)] ++ s.handles).Perm ((name, p) :: (s.idle ++ s.handles))
      rw [← List.cons_append]
      exact (List.perm_append_singleton _ _).append_right s.handles
    · by_cases hn : name' = name
      · subst hn
        obtain rfl : args = m.m_params := by
          rw [hname, hargs] at hdefs
          exact Option.some.inj hdefs
        have hlen : (({ s with idle := s.idle ++ [(name', p)] } : Pool).m_conns name').length =
            (s.m_conns name').length + 1 := by
          simp [Pool.m_conns]
        simp only [hmysql, Bool.true_and, decide_eq_true_eq, toNat_signExtend_of_nonneg hpool] at hroom
        rw [hlen, ← heq]
        omega
      · have hsame : ({ s with idle := s.idle ++ [(name, p)] } : Pool).m_conns name' = s.m_conns name' := by
          simp [Pool.m_conns, Ne.symm hn]
        rw [hsame] at hne ⊢
        exact h.size name' args hargs hne
  · exact h.delete

theorem inv_use (h : Inv defs [] s) (hp : s.objs p = some m) (m_hasError : Bool) :
    Inv defs [] (s.store p (some { m with m_hasError := m_hasError })) :=
  h.store hp rfl rfl (h.conn p m hp).1 rfl

theorem inv_check (h : Inv defs [] s) (now : BitVec 64) (sec : ℤ) :
    Inv defs [] (s.checkConnection now sec) := by
  have hsub : (s.checkConnection now sec).idle.Sublist s.idle := List.filter_sublist
  have hmem {entry : String × ℕ} (hin : entry ∈ (s.checkConnection now sec).idle ++ s.handles) :
      entry ∈ s.idle ++ s.handles := (hsub.append_right s.handles).subset hin
  have hobj {p : ℕ} {x : MySQL} (hx : (s.checkConnection now sec).objs p = some x) :
      s.objs p = some x := by
    simp only [Pool.checkConnection] at hx
    split_ifs at hx
    exact hx
  refine ⟨?_, fun p => ?_, fun entry hin x hx => h.named entry (hmem hin) x (hobj hx), fun p hp => ?_,
    fun p x hx => h.conn p x (hobj hx), h.size_sublist hsub⟩
  · exact h.once.sublist ((hsub.append_right s.handles).map Prod.snd)
  · -- what is deleted was in the idle lists, and nowhere else
    have hperm : (s.idle.filter (s.stale now sec) ++
        ((s.checkConnection now sec).idle ++ s.handles)).Perm (s.idle ++ s.handles) := by
      rw [← List.append_assoc]
      exact (List.filter_append_perm (s.stale now sec) s.idle).append_right s.handles
    have hnodup := (hperm.map Prod.snd).nodup_iff.2 h.once
    rw [List.map_append, List.nodup_append] at hnodup
    have hlive := h.live p
    rw [List.nil_append, ← (hperm.map Prod.snd).mem_iff, List.map_append, List.mem_append] at hlive
    show (if p ∈ (s.idle.filter (s.stale now sec)).map Prod.snd then none else s.objs p) ≠ none ↔
      p ∈ ((s.checkConnection now sec).idle ++ s.handles).map Prod.snd
    split_ifs with hp
    · exact iff_of_false (fun hne => hne rfl) fun hin => hnodup.2.2 p hp p hin rfl
    · rw [hlive, or_iff_right hp]
  · obtain ⟨x, hx⟩ := Option.ne_none_iff_exists'.1 hp
    exact h.fresh p (by rw [hobj hx]; nofun)

theorem inv_step (h : Inv defs [] s) (hkept : Kept s l) (hstep : step defs s l s') : Inv defs [] s' := by
  unfold step next at hstep
  cases l with
  | get now name alive mysql =>
    cases hstep
    exact inv_get h hkept
  | release i =>
    obtain ⟨⟨name, p⟩, hi, rfl⟩ := Option.map_eq_some_iff.1 hstep
    have hout := h.unhand hi
    obtain ⟨m, hm⟩ : ∃ m, s.objs p = some m := by
      have hplace : p ∈ (s.idle ++ s.handles).map Prod.snd :=
        List.mem_map.2 ⟨(name, p), List.mem_append_right _ (List.mem_of_getElem? hi), rfl⟩
      exact Option.ne_none_iff_exists'.1 ((h.live p).2 hplace)
    exact inv_free hout hm (hkept name p m hi hm)
  | use i m_hasError =>
    obtain ⟨⟨name, p⟩, hi, hstep⟩ := Option.bind_eq_some_iff.1 hstep
    obtain ⟨m, hm, rfl⟩ := Option.map_eq_some_iff.1 hstep
    exact inv_use h hm m_hasError
  | checkConnection now sec =>
    cases hstep
    exact inv_check h now sec

/-- **Pooled connections are neither lost nor shared**, in a run in which no idle connection fails its
    check and the reconnect, and none is given back with a negative pool size. -/
theorem placed_of_kept {ls : List Label}
    (hrun : Run (fun s l s' => Kept s l ∧ step defs s l s') .empty ls s) : Placed s :=
  (hrun.invariant (P := Inv defs []) (fun _ _ _ h hs => inv_step h hs.1 hs.2) inv_empty).placed

end

/-- Every name has a pool of two. -/
def two : String → Option Params := fun _ => some ⟨2⟩

theorem connect_true (c : MySQL) : (c.connect true).1 = true := by
  unfold MySQL.connect
  split_ifs <;> simp_all

/-- Three connections are handed out, two of them fit into the idle list, and one is handed out again. -/
theorem placed_three : ∃ s : Pool, Run (step two) .empty [.get 100 "db" true true, .get 100 "db" true true,
    .get 100 "db" true true, .release 0, .release 0, .release 0, .get 110 "db" false true] s ∧
    s.m_conns "db" = [1] ∧ s.handles = [("db", 0)] ∧ Placed s := by
  obtain ⟨s, hrun, hidle, hhandles⟩ : ∃ s : Pool, Run (fun s l s' => Kept s l ∧ step two s l s') .empty
      [.get 100 "db" true true, .get 100 "db" true true, .get 100 "db" true true, .release 0, .release 0,
        .release 0, .get 110 "db" false true] s ∧ s.m_conns "db" = [1] ∧ s.handles = [("db", 0)] := by
    have hget {s : Pool} {now : BitVec 64} {alive : Bool} : Kept s (.get now "db" alive true) :=
      fun _ _ _ _ _ _ => .inr (connect_true _)
    refine ⟨_, .cons ⟨hget, rfl⟩ (.cons ⟨hget, rfl⟩ (.cons ⟨hget, rfl⟩ (.cons ⟨?_, rfl⟩ (.cons ⟨?_, rfl⟩
      (.cons ⟨?_, rfl⟩ (.cons ⟨hget, rfl⟩ (.nil _))))))), rfl, rfl⟩
    iterate 3
      intro name p m hi hm
      cases hi
      cases hm
      decide
  exact ⟨s, hrun.mono fun _ _ _ h => h.2, hidle, hhandles, placed_of_kept hrun⟩

/-- **A connection is lost** when its check and the reconnect fail. -/
theorem not_placed : ¬∀ (defs : String → Option Params) (ls : List Label) (s : Pool),
    Run (step defs) .empty ls s → Placed s := by
  intro h
  obtain ⟨s, hs, hlive, hplaces⟩ : ∃ s : Pool, [.get 100 "db" true true, .release 0,
      .get 110 "db" false false].foldlM (next two) .empty = some s ∧ s.objs 0 ≠ none ∧ s.places = [] :=
    ⟨_, rfl, by decide, by decide⟩
  have hmem := ((h two _ s (Run.of_foldlM hs)).live 0).1 hlive
  rw [hplaces] at hmem
  cases hmem

end Ancfl.MySQLManager
