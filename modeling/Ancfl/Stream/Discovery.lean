/-
  `ZKServiceDiscovery` and `SDLoadBalance`: the load balancer of a service
  follows what ZooKeeper lists for it.

  * `getChildren` swaps the map of the service and calls `onServiceChange` with
    the old and the new map; `Sys` is one service, with calls of several threads
    under way, and each locked section is a step;
  * `difference`: how the changes that are under way stand between the balancer
    and the map;
  * `follows_of_applied`: in a run in which each change finds the ids that it
    deletes, and none that it adds, the balancer has the ids of the map when no
    call is in progress.
-/
import Ancfl.Lib.Pool
import Ancfl.Lib.Run
import Mathlib.Data.List.AList
import Mathlib.Tactic.Ring

namespace Ancfl.Discovery

open Lib

/-! ## Services -/

structure ServiceItemInfo where
  m_id : BitVec 64
  m_ip : String
  m_port : BitVec 16
  m_data : String

/-- `inet_addr` is the function of the C library, `Atoi` is `strtoull`. -/
def ServiceItemInfo.Create (inet_addr : String → BitVec 32) (Atoi : String → BitVec 64)
    (ip_and_port data : String) : Option ServiceItemInfo :=
  match ip_and_port.toList.span (· ≠ ':') with
  | (_, []) => none
  | (ip, _ :: port) =>
    let ip := String.ofList ip
    let port := Atoi (String.ofList port)
    let ip_addr := inet_addr ip
    if ip_addr = 0 then none
    else some ⟨ip_addr.zeroExtend 64 <<< 32 ||| port, ip, port.truncate 16, data⟩

/-- `unordered_map<uint64_t, ServiceItemInfo::ptr>` -/
abbrev Infos := AList fun _ : BitVec 64 => ServiceItemInfo

/-- The map that `getChildren` makes of the names of the children. -/
def infosOf (inet_addr : String → BitVec 32) (Atoi : String → BitVec 64) (vals : List String) :
    Infos :=
  vals.foldl (fun infos i =>
    match ServiceItemInfo.Create inet_addr Atoi i "" with
    | none => infos
    | some info => infos.insert info.m_id info) ∅

/-! ## Balancers -/

/-- `S` are the streams. -/
structure LoadBalanceItem (S : Type) where
  m_id : BitVec 64
  m_stream : S
  m_weight : BitVec 32

variable {S : Type}

/-- `m_datas` of a `LoadBalance`. -/
abbrev Items (S : Type) := AList fun _ : BitVec 64 => LoadBalanceItem S

/-- `adds` come in the order of their loop, `dels` are the keys of the map of that name. -/
def update (adds : List (LoadBalanceItem S)) (dels : List (BitVec 64)) (m_datas : Items S) :
    Items S :=
  adds.foldl (fun m i => m.insert i.m_id i) (dels.foldl (fun m id => m.erase id) m_datas)

/-- `del_infos` of `onServiceChange`. -/
def delInfos (old_value new_value : Infos) : List (BitVec 64) :=
  old_value.keys.filter fun id => id ∉ new_value

/-- `add_infos` of `onServiceChange`, when each stream is created. -/
def addInfos (m_cb : ServiceItemInfo → S) (old_value new_value : Infos) :
    List (LoadBalanceItem S) :=
  (new_value.entries.filter fun i => i.1 ∉ old_value).map fun i => ⟨i.1, m_cb i.2, 10000⟩

/-! ## Calls -/

/-- Where a call of `getChildren` is: the locked section that it enters next. -/
inductive Call
  /-- the swap of `m_datas[domain][service]` with `infos` -/
  | swap (infos : Infos)
  /-- `onServiceChange` at the read lock of `get(domain, service, true)` -/
  | get (old_value new_value : Infos)
  /-- at its write lock, with a new balancer -/
  | create (old_value new_value : Infos)
  /-- at `lb->update` -/
  | update (old_value new_value : Infos) (lb : ℕ)

/-- One service: `lb` is its entry in the map of `SDLoadBalance`, the balancers are at their
    addresses, those from `fresh` on are not in use. -/
structure Sys (S : Type) where
  m_datas : Infos
  lbs : ℕ → Items S
  fresh : ℕ
  lb : Option ℕ
  calls : List Call

inductive Label (S : Type)
  /-- a call gets the names of the children from ZooKeeper -/
  | getChildren (vals : List String)
  /-- the next locked section of the `n`-th call; `m_cb` are the streams that it creates -/
  | run (n : ℕ) (m_cb : ServiceItemInfo → S)

def init (S : Type) : Sys S := ⟨∅, fun _ => ∅, 0, none, []⟩

/-- One locked section of the `n`-th call. -/
def run (s : Sys S) (n : ℕ) (m_cb : ServiceItemInfo → S) : Call → Sys S
  | .swap infos => { s with m_datas := infos, calls := s.calls.set n (.get s.m_datas infos) }
  | .get old_value new_value =>
    match s.lb with
    | some lb => { s with calls := s.calls.set n (.update old_value new_value lb) }
    | none => { s with calls := s.calls.set n (.create old_value new_value) }
  | .create old_value new_value =>
    { s with
      lbs := Function.update s.lbs s.fresh ∅
      fresh := s.fresh + 1
      lb := some s.fresh
      calls := s.calls.set n (.update old_value new_value s.fresh) }
  | .update old_value new_value lb =>
    { s with
      lbs := Function.update s.lbs lb
        (update (addInfos m_cb old_value new_value) (delInfos old_value new_value) (s.lbs lb))
      calls := s.calls.eraseIdx n }

section
variable (inet_addr : String → BitVec 32) (Atoi : String → BitVec 64)

def next (s : Sys S) : Label S → Option (Sys S)
  | .getChildren vals => some { s with calls := s.calls ++ [.swap (infosOf inet_addr Atoi vals)] }
  | .run n m_cb => s.calls[n]?.map (run s n m_cb)

def step (s : Sys S) (l : Label S) (s' : Sys S) : Prop := next inet_addr Atoi s l = some s'

end

/-! ## What is to hold, and when -/

/-- The items of the service's balancer; there are none if it has no balancer. -/
def Sys.items (s : Sys S) : Items S := (s.lb.map s.lbs).getD ∅

/-- When no call is in progress, the balancer has the ids of the map, each with its item. -/
def Follows (s : Sys S) : Prop :=
  s.calls = [] → ∀ id, (id ∈ s.items ↔ id ∈ s.m_datas) ∧
    ∀ item, s.items.lookup id = some item → item.m_id = id

/-- A new balancer takes the place of none that has items; a change is made to the balancer of the
    service, which has the ids that it deletes, and none that it adds. -/
def Applied (s : Sys S) : Label S → Prop
  | .run n _ =>
    match s.calls[n]? with
    | some (.create _ _) => ∀ id, id ∉ s.items
    | some (.update old_value new_value lb) => ∀ id,
      (id ∈ old_value → id ∉ new_value → s.lb = some lb ∧ id ∈ s.items) ∧
      (id ∉ old_value → id ∈ new_value → s.lb = some lb ∧ id ∉ s.items)
    | _ => True
  | .getChildren _ => True

/-! ## `update` -/

section
variable {m : Items S} {adds : List (LoadBalanceItem S)} {dels : List (BitVec 64)} {id : BitVec 64}
  {old_value new_value : Infos} {m_cb : ServiceItemInfo → S}

theorem mem_foldl_erase (dels : List (BitVec 64)) (m : Items S) :
    id ∈ dels.foldl (fun m id => m.erase id) m ↔ id ∈ m ∧ id ∉ dels := by
  induction dels generalizing m with
  | nil => simp
  | cons x dels ih =>
    rw [List.foldl_cons, ih, AList.mem_erase, List.mem_cons, not_or]
    tauto

theorem mem_foldl_insert (adds : List (LoadBalanceItem S)) (m : Items S) :
    id ∈ adds.foldl (fun m i => m.insert i.m_id i) m ↔ id ∈ m ∨ ∃ i ∈ adds, i.m_id = id := by
  induction adds generalizing m with
  | nil => simp
  | cons x adds ih =>
    rw [List.foldl_cons, ih, AList.mem_insert, List.exists_mem_cons_iff, eq_comm]
    tauto

theorem mem_update : id ∈ update adds dels m ↔ (id ∈ m ∧ id ∉ dels) ∨ ∃ i ∈ adds, i.m_id = id := by
  rw [update, mem_foldl_insert, mem_foldl_erase]

/-- Each item is under its own id. -/
def Keyed (m : Items S) : Prop := ∀ id item, m.lookup id = some item → item.m_id = id

theorem keyed_foldl_erase (dels : List (BitVec 64)) {m : Items S} (h : Keyed m) :
    Keyed (dels.foldl (fun m id => m.erase id) m) := by
  induction dels generalizing m with
  | nil => exact h
  | cons x dels ih =>
    refine ih fun id item hitem => ?_
    by_cases hid : id = x
    · rw [hid, AList.lookup_erase] at hitem
      cases hitem
    · rw [AList.lookup_erase_ne hid] at hitem
      exact h id item hitem

theorem keyed_foldl_insert (adds : List (LoadBalanceItem S)) {m : Items S} (h : Keyed m) :
    Keyed (adds.foldl (fun m i => m.insert i.m_id i) m) := by
  induction adds generalizing m with
  | nil => exact h
  | cons x adds ih =>
    refine ih fun id item hitem => ?_
    by_cases hid : id = x.m_id
    · rw [hid, AList.lookup_insert] at hitem
      cases hitem
      exact hid.symm
    · rw [AList.lookup_insert_ne hid] at hitem
      exact h id item hitem

theorem mem_delInfos : id ∈ delInfos old_value new_value ↔ id ∈ old_value ∧ id ∉ new_value := by
  rw [delInfos, List.mem_filter, decide_eq_true_eq, ← AList.mem_keys]

theorem mem_addInfos : (∃ i ∈ addInfos m_cb old_value new_value, i.m_id = id) ↔
    id ∈ new_value ∧ id ∉ old_value := by
  simp only [addInfos, List.mem_map, List.mem_filter, decide_eq_true_eq]
  constructor
  · rintro ⟨_, ⟨i, ⟨hi, hold⟩, rfl⟩, rfl⟩
    exact ⟨AList.mem_keys.2 (List.mem_keys_of_mem hi), hold⟩
  · rintro ⟨hnew, hold⟩
    obtain ⟨info, hi⟩ := List.mem_keys.1 (AList.mem_keys.1 hnew)
    exact ⟨_, ⟨⟨id, info⟩, ⟨hi, hold⟩, rfl⟩, rfl⟩

end

/-! ## Runs -/

open Classical in
/-- One if it holds, for counting. -/
noncomputable def ind (p : Prop) : ℤ := if p then 1 else 0

theorem ind_of {p : Prop} (h : p) : ind p = 1 := if_pos h

theorem ind_of_not {p : Prop} (h : ¬p) : ind p = 0 := if_neg h

/-- The change of an id that a call is still to make. -/
noncomputable def Call.delta (id : BitVec 64) : Call → ℤ
  | swap _ => 0
  | get old_value new_value | create old_value new_value | update old_value new_value _ =>
    ind (id ∈ new_value) - ind (id ∈ old_value)

section
variable {α : Type} (f : α → ℤ) {l : List α} {n : ℕ} {c : α}

theorem sum_map_set (h : l[n]? = some c) (c' : α) :
    ((l.set n c').map f).sum = (l.map f).sum - f c + f c' := by
  have hset := tally_set f h c'
  unfold tally at hset
  omega

theorem sum_map_eraseIdx (h : l[n]? = some c) :
    ((l.eraseIdx n).map f).sum = (l.map f).sum - f c := by
  have herase := tally_eraseIdx f h
  unfold tally at herase
  omega

end

/-- The balancer and the changes under way make up the map. -/
structure Inv (s : Sys S) : Prop where
  difference : ∀ id, ind (id ∈ s.items) + (s.calls.map (Call.delta id)).sum = ind (id ∈ s.m_datas)
  keyed : ∀ lb, Keyed (s.lbs lb)

theorem init_inv (S : Type) : Inv (init S) where
  difference id := by simp [init, Sys.items]
  keyed _ id item h := by cases h

theorem Inv.keyed_items {s : Sys S} (h : Inv s) : Keyed s.items := by
  rw [Sys.items]
  cases s.lb with
  | none => exact (init_inv S).keyed 0
  | some lb => exact h.keyed lb

section
variable {s s' : Sys S} {n : ℕ} {m_cb : ServiceItemInfo → S} {old_value new_value : Infos}

theorem swap_inv {infos : Infos} (hinv : Inv s) (hc : s.calls[n]? = some (.swap infos)) :
    Inv (run s n m_cb (.swap infos)) where
  difference id := by
    have h := hinv.difference id
    simp only [run, sum_map_set _ hc, Call.delta, Sys.items] at h ⊢
    omega
  keyed := hinv.keyed

theorem get_inv (hinv : Inv s) (hc : s.calls[n]? = some (.get old_value new_value)) :
    Inv (run s n m_cb (.get old_value new_value)) := by
  rw [run]
  cases hlb : s.lb with
  | none =>
    refine ⟨fun id => ?_, hinv.keyed⟩
    have h := hinv.difference id
    simp only [sum_map_set _ hc, Call.delta, Sys.items, hlb] at h ⊢
    omega
  | some lb =>
    refine ⟨fun id => ?_, hinv.keyed⟩
    have h := hinv.difference id
    simp only [sum_map_set _ hc, Call.delta, Sys.items, hlb] at h ⊢
    omega

/-- A new balancer has no items, and it takes the place of none that has some. -/
theorem create_inv (hinv : Inv s) (hc : s.calls[n]? = some (.create old_value new_value))
    (hempty : ∀ id, id ∉ s.items) : Inv (run s n m_cb (.create old_value new_value)) where
  difference id := by
    have h := hinv.difference id
    rw [ind_of_not (hempty id)] at h
    simp only [run, sum_map_set _ hc, Call.delta, Sys.items, Option.map_some, Option.getD_some,
      Function.update_self, ind_of_not (AList.notMem_empty id)] at h ⊢
    omega
  keyed lb id item hitem := by
    simp only [run] at hitem
    by_cases hlb : lb = s.fresh
    · rw [hlb, Function.update_self, AList.lookup_empty] at hitem
      cases hitem
    · rw [Function.update_of_ne hlb] at hitem
      exact hinv.keyed lb id item hitem

theorem mem_items_run (lb : ℕ) (id : BitVec 64) :
    id ∈ (run s n m_cb (.update old_value new_value lb)).items ↔
      if s.lb = some lb then (id ∈ s.items ∧ ¬(id ∈ old_value ∧ id ∉ new_value)) ∨
        (id ∈ new_value ∧ id ∉ old_value) else id ∈ s.items := by
  simp only [run, Sys.items]
  split_ifs with hlb
  · rw [hlb]
    simp only [Option.map_some, Option.getD_some, Function.update_self]
    rw [mem_update, mem_delInfos, mem_addInfos]
  · cases hs : s.lb with
    | none => rfl
    | some lb' =>
      have hne : lb' ≠ lb := fun heq => hlb (heq ▸ hs)
      simp only [Option.map_some, Option.getD_some, Function.update_of_ne hne]

/-- An applied change of an id. -/
theorem ind_items_run {lb : ℕ} {id : BitVec 64}
    (hdel : id ∈ old_value → id ∉ new_value → s.lb = some lb ∧ id ∈ s.items)
    (hadd : id ∉ old_value → id ∈ new_value → s.lb = some lb ∧ id ∉ s.items) :
    ind (id ∈ (run s n m_cb (.update old_value new_value lb)).items) =
      ind (id ∈ s.items) + (ind (id ∈ new_value) - ind (id ∈ old_value)) := by
  rw [propext (mem_items_run lb id)]
  by_cases hold : id ∈ old_value <;> by_cases hnew : id ∈ new_value
  · rw [ind_of hold, ind_of hnew]
    simp [hold, hnew]
  · obtain ⟨hlb, hitem⟩ := hdel hold hnew
    rw [ind_of hold, ind_of_not hnew, ind_of hitem, if_pos hlb]
    exact ind_of_not fun h => h.elim (fun h => h.2 ⟨hold, hnew⟩) fun h => hnew h.1
  · obtain ⟨hlb, hitem⟩ := hadd hold hnew
    rw [ind_of_not hold, ind_of hnew, ind_of_not hitem, if_pos hlb]
    exact ind_of (.inr ⟨hnew, hold⟩)
  · rw [ind_of_not hold, ind_of_not hnew]
    simp [hold, hnew]

theorem update_inv {lb : ℕ} (hinv : Inv s)
    (hc : s.calls[n]? = some (.update old_value new_value lb))
    (happlied : ∀ id, (id ∈ old_value → id ∉ new_value → s.lb = some lb ∧ id ∈ s.items) ∧
      (id ∉ old_value → id ∈ new_value → s.lb = some lb ∧ id ∉ s.items)) :
    Inv (run s n m_cb (.update old_value new_value lb)) where
  difference id := by
    have h := hinv.difference id
    have hsum : ((run s n m_cb (.update old_value new_value lb)).calls.map (Call.delta id)).sum =
        (s.calls.map (Call.delta id)).sum - (ind (id ∈ new_value) - ind (id ∈ old_value)) :=
      sum_map_eraseIdx _ hc
    rw [hsum, ind_items_run (happlied id).1 (happlied id).2]
    simp only [run]
    omega
  keyed lb' := by
    simp only [run]
    by_cases hlb : lb' = lb
    · rw [hlb, Function.update_self]
      exact keyed_foldl_insert _ (keyed_foldl_erase _ (hinv.keyed lb))
    · rw [Function.update_of_ne hlb]
      exact hinv.keyed lb'

variable {inet_addr : String → BitVec 32} {Atoi : String → BitVec 64}

theorem step_inv {l : Label S} (hinv : Inv s) (happlied : Applied s l)
    (h : step inet_addr Atoi s l s') : Inv s' := by
  cases l with
  | getChildren vals =>
    cases h
    refine ⟨fun id => ?_, hinv.keyed⟩
    have hd := hinv.difference id
    simp only [Sys.items, List.map_append, List.sum_append, List.map_cons, List.map_nil,
      List.sum_singleton, Call.delta] at hd ⊢
    omega
  | run n m_cb =>
    obtain ⟨c, hc, rfl⟩ := Option.map_eq_some_iff.1 h
    simp only [Applied, hc] at happlied
    cases c with
    | swap infos => exact swap_inv hinv hc
    | get old_value new_value => exact get_inv hinv hc
    | create old_value new_value => exact create_inv hinv hc happlied
    | update old_value new_value lb => exact update_inv hinv hc happlied

/-- **The balancer follows the map** in a run in which each change is applied to what it was made
    for. -/
theorem follows_of_applied {ls : List (Label S)}
    (hrun : Run (fun s l s' => Applied s l ∧ step inet_addr Atoi s l s') (init S) ls s) :
    Follows s := by
  have hinv : Inv s :=
    hrun.invariant (P := Inv) (fun _ _ _ hinv h => step_inv hinv h.1 h.2) (init_inv S)
  intro hcalls id
  refine ⟨?_, hinv.keyed_items id⟩
  have hd := hinv.difference id
  rw [hcalls, List.map_nil, List.sum_nil, add_zero] at hd
  by_cases hitem : id ∈ s.items <;> by_cases hdata : id ∈ s.m_datas
  · exact iff_of_true hitem hdata
  · rw [ind_of hitem, ind_of_not hdata] at hd
    cases hd
  · rw [ind_of_not hitem, ind_of hdata] at hd
    cases hd
  · exact iff_of_false hitem hdata

end

/-- The functions of the C library at the names of the examples. -/
def loopback (ip : String) : BitVec 32 := if ip = "127.0.0.1" then 0x0100007F else 0xFFFFFFFF

def port (s : String) : BitVec 64 := if s = "80" then 80 else if s = "81" then 81 else 0

/-- The service gets a provider, and then another one in its place. -/
theorem follows_moved : ∃ s : Sys ℕ, Run (step loopback port) (init ℕ)
    [.getChildren ["127.0.0.1:80"], .run 0 fun _ => 1, .run 0 fun _ => 1, .run 0 fun _ => 1,
      .run 0 fun _ => 1, .getChildren ["127.0.0.1:81"], .run 0 fun _ => 2, .run 0 fun _ => 2,
      .run 0 fun _ => 2] s ∧
    s.items.keys = [0x0100007F00000051] ∧ s.m_datas.keys = s.items.keys ∧ Follows s := by
  obtain ⟨s, hrun, hitems⟩ : ∃ s : Sys ℕ,
      Run (fun s l s' => Applied s l ∧ step loopback port s l s') (init ℕ)
        [.getChildren ["127.0.0.1:80"], .run 0 fun _ => 1, .run 0 fun _ => 1, .run 0 fun _ => 1,
          .run 0 fun _ => 1, .getChildren ["127.0.0.1:81"], .run 0 fun _ => 2, .run 0 fun _ => 2,
          .run 0 fun _ => 2] s ∧
      s.items.keys = [0x0100007F00000051] ∧ s.m_datas.keys = s.items.keys := by
    refine ⟨_, .cons ⟨trivial, rfl⟩ (.cons ⟨trivial, rfl⟩ (.cons ⟨trivial, rfl⟩ (.cons ⟨?_, rfl⟩
      (.cons ⟨?_, rfl⟩ (.cons ⟨trivial, rfl⟩ (.cons ⟨trivial, rfl⟩ (.cons ⟨trivial, rfl⟩
        (.cons ⟨?_, rfl⟩ (.nil _))))))))), by decide, by decide⟩
    · exact fun id => AList.notMem_empty id
    · exact fun id => ⟨fun h => absurd h (AList.notMem_empty id),
        fun _ _ => ⟨rfl, AList.notMem_empty id⟩⟩
    · exact fun id => ⟨fun h _ => ⟨rfl, h⟩, fun h _ => ⟨rfl, h⟩⟩
  exact ⟨s, hrun.mono fun _ _ _ h => h.2, hitems.1, hitems.2, follows_of_applied hrun⟩

/-- Two results, whose callbacks come in the other order. -/
theorem not_follows : ¬∀ (ls : List (Label ℕ)) (s : Sys ℕ), Run (step loopback port) (init ℕ) ls s →
    Follows s := by
  intro h
  have hfollows := h [.getChildren ["127.0.0.1:80"], .run 0 fun _ => 1, .run 0 fun _ => 1,
    .run 0 fun _ => 1, .getChildren [], .run 1 fun _ => 2, .run 1 fun _ => 2, .run 1 fun _ => 2,
    .run 0 fun _ => 1] _ (.cons rfl (.cons rfl (.cons rfl (.cons rfl (.cons rfl (.cons rfl
      (.cons rfl (.cons rfl (.cons rfl (.nil _)))))))))) rfl 0x0100007F00000050
  have hitem : (0x0100007F00000050 : BitVec 64) ∉ (∅ : Infos) := AList.notMem_empty _
  exact hitem (hfollows.1.1 (by decide))

end Ancfl.Discovery
