/-
  The match queues of `CenterServer`.

  * `Queues`: `match_queues_`; `Env`: what a `ProcessMatch` meets, among them
    `std::sort`, which leaves the order of equal scores open;
  * `exact_iff`: `ProcessMatch` loses and changes nobody iff it finds a server
    or takes nobody, or the players it takes have the score 0 that it puts
    them back with;
  * `gone_of_single`: who leaves matchmaking is gone, in a run in which nobody
    is added under a second match type.
-/
import Ancfl.Lib.Int32
import Ancfl.Lib.Run
import Mathlib.Data.Finmap
import Mathlib.Data.List.Perm.Subperm
import Mathlib.Data.List.Sort

namespace Ancfl.Game.Match

open Lib

/-! ## The servers -/

inductive ServerType
  | LOGIN | ACCOUNT | LOGIC | DB | PROXY | GATEWAY | CENTER
deriving DecidableEq

inductive ServerStatus
  | INIT | RUNNING | STOPPING | STOPPED
deriving DecidableEq

/-- What `SelectBestServer` reads of a server. -/
structure ServerInfo where
  type : ServerType
  status : ServerStatus
  online_count : ℤ
  max_online : ℤ

def INT32_MAX : ℤ := 2 ^ 31 - 1

/-- `servers` is `servers_` in the order of its iteration. -/
def SelectBestServer (servers : List (ℤ × ServerInfo)) (type : ServerType) : ℤ :=
  (servers.foldl (fun (best_id, min_load) (server_id, info) =>
    if info.type = type ∧ info.status = .RUNNING ∧ info.online_count < min_load ∧
        info.online_count < info.max_online then (server_id, info.online_count)
    else (best_id, min_load)) (0, INT32_MAX)).1

structure MatchSuccessNtf where
  match_type : ℤ
  room_id : ℤ
  dest_server_id : ℤ
  role_ids : List (BitVec 64)
deriving DecidableEq

/-- The messages to the servers of the players that are on one.  What `SendMessageToServer` returns is
    only logged: the result is always `true`. -/
def NotifyMatchSuccess (cross_players : Finmap fun _ : BitVec 64 => ℤ) (ntf : MatchSuccessNtf) :
    Bool × List (ℤ × MatchSuccessNtf) :=
  (true, ntf.role_ids.filterMap fun role_id =>
    (cross_players.lookup role_id).map fun dest_server_id => (dest_server_id, ntf))

/-! ## The queues -/

/-- A role and its score. -/
abbrev Entry := BitVec 64 × ℤ

abbrev Queues := Finmap fun _ : ℤ => List Entry

def AddToMatchQueue (match_queues : Queues) (role_id : BitVec 64) (match_type score : ℤ) :
    Bool × Queues :=
  -- `match_queues_[match_type]` makes an empty queue where there is none
  let queue := (match_queues.lookup match_type).getD []
  if queue.any (·.1 == role_id) then (false, match_queues.insert match_type queue)
  else (true, match_queues.insert match_type (queue ++ [(role_id, score)]))

/-- `order` is the order in which the queues are visited; the loop ends at the first that changes. -/
def RemoveFromMatchQueue (match_queues : Queues) (role_id : BitVec 64) : List ℤ → Bool × Queues
  | [] => (false, match_queues)
  | match_type :: order =>
    match match_queues.lookup match_type with
    | none => RemoveFromMatchQueue match_queues role_id order
    | some queue =>
      let rest := queue.filter (·.1 != role_id)
      if rest.length < queue.length then (true, match_queues.insert match_type rest)
      else RemoveFromMatchQueue match_queues role_id order

/-- `std::sort` by score: some sorted arrangement of the entries. -/
structure Sorting where
  sort : List Entry → List Entry
  perm : ∀ queue, (sort queue).Perm queue
  sorted : ∀ queue, (sort queue).Pairwise (·.2 ≤ ·.2)

/-- What a `ProcessMatch` meets. -/
structure Env where
  sorting : Sorting
  servers : List (ℤ × ServerInfo)
  cross_players : Finmap fun _ : BitVec 64 => ℤ
  room_id : ℤ

/-- What a `ProcessMatch` returns, the players it has matched, and the messages it has sent. -/
structure Outcome where
  success : Bool
  matched : List (BitVec 64)
  sent : List (ℤ × MatchSuccessNtf)

/-- The loop that takes the players from the front of the queue. -/
def takeFront : ℕ → List Entry → List (BitVec 64) × List Entry
  | n + 1, entry :: queue =>
    let (matched_players, rest) := takeFront n queue
    (entry.1 :: matched_players, rest)
  | _, queue => ([], queue)

/-- `static_cast<size_t>` of an `int32_t`. -/
def toSize (n : BitVec 32) : ℕ := (n.signExtend 64).toNat

def ProcessMatch (env : Env) (match_queues : Queues) (match_type : ℤ) (team_size : BitVec 32) :
    Outcome × Queues :=
  match match_queues.lookup match_type with
  | none => (⟨false, [], []⟩, match_queues)
  | some queue =>
    if queue.length < toSize team_size then (⟨false, [], []⟩, match_queues)
    else
      let (matched_players, queue) := takeFront team_size.toInt.toNat (env.sorting.sort queue)
      -- both failures put the players back, with the score 0
      let restored := match_queues.insert match_type (queue ++ matched_players.map (·, 0))
      let dest_server_id := SelectBestServer env.servers .LOGIC
      if dest_server_id ≤ 0 then (⟨false, [], []⟩, restored)
      else
        let (notified, sent) := NotifyMatchSuccess env.cross_players
          ⟨match_type, env.room_id, dest_server_id, matched_players⟩
        if !notified then (⟨false, [], sent⟩, restored)
        else (⟨true, matched_players, sent⟩, match_queues.insert match_type queue)

/-- The entries of a queue; a queue that does not exist has none. -/
def entries (match_queues : Queues) (match_type : ℤ) : List Entry :=
  (match_queues.lookup match_type).getD []

theorem entries_of_lookup {match_queues : Queues} {match_type : ℤ} {queue : List Entry}
    (h : match_queues.lookup match_type = some queue) : entries match_queues match_type = queue := by
  rw [entries, h, Option.getD_some]

theorem entries_insert (match_queues : Queues) (match_type : ℤ) (queue : List Entry) :
    entries (match_queues.insert match_type queue) match_type = queue := by
  rw [entries, Finmap.lookup_insert, Option.getD_some]

theorem entries_insert_of_ne (match_queues : Queues) {match_type match_type' : ℤ}
    (queue : List Entry) (h : match_type' ≠ match_type) :
    entries (match_queues.insert match_type queue) match_type' = entries match_queues match_type' := by
  rw [entries, Finmap.lookup_insert_of_ne _ h, entries]

theorem takeFront_eq (n : ℕ) (queue : List Entry) :
    takeFront n queue = ((queue.take n).map Prod.fst, queue.drop n) := by
  induction n generalizing queue with
  | zero => rfl
  | succ n ih =>
    cases queue with
    | nil => rfl
    | cons entry queue => simp only [takeFront, ih, List.take_succ_cons, List.map_cons,
        List.drop_succ_cons]

/-! ## What a match does -/

/-- The three ways in which `ProcessMatch` goes. -/
inductive Processed (env : Env) (match_queues : Queues) (match_type : ℤ) (team_size : BitVec 32) :
    Outcome × Queues → Prop
  | short (hshort : match_queues.lookup match_type = none ∨
      (entries match_queues match_type).length < toSize team_size) :
    Processed env match_queues match_type team_size (⟨false, [], []⟩, match_queues)
  | restored {queue : List Entry} (hqueue : match_queues.lookup match_type = some queue)
      (hsize : toSize team_size ≤ queue.length)
      (hserver : SelectBestServer env.servers .LOGIC ≤ 0) :
    Processed env match_queues match_type team_size (⟨false, [], []⟩,
      match_queues.insert match_type ((env.sorting.sort queue).drop team_size.toInt.toNat ++
        ((env.sorting.sort queue).take team_size.toInt.toNat).map fun entry => (entry.1, 0)))
  | matched {queue : List Entry} {sent : List (ℤ × MatchSuccessNtf)}
      (hqueue : match_queues.lookup match_type = some queue)
      (hsize : toSize team_size ≤ queue.length)
      (hserver : 0 < SelectBestServer env.servers .LOGIC) :
    Processed env match_queues match_type team_size
      (⟨true, ((env.sorting.sort queue).take team_size.toInt.toNat).map Prod.fst, sent⟩,
        match_queues.insert match_type ((env.sorting.sort queue).drop team_size.toInt.toNat))

theorem processed (env : Env) (match_queues : Queues) (match_type : ℤ) (team_size : BitVec 32) :
    Processed env match_queues match_type team_size
      (ProcessMatch env match_queues match_type team_size) := by
  rw [ProcessMatch]
  cases hqueue : match_queues.lookup match_type with
  | none => exact .short (.inl hqueue)
  | some queue =>
    by_cases hsize : queue.length < toSize team_size
    · simp only [if_pos hsize]
      exact .short (.inr (by rwa [entries_of_lookup hqueue]))
    · simp only [if_neg hsize, takeFront_eq, List.map_map]
      by_cases hserver : SelectBestServer env.servers .LOGIC ≤ 0
      · simp only [if_pos hserver]
        exact .restored hqueue (not_lt.1 hsize) hserver
      · simp only [if_neg hserver]
        exact .matched hqueue (not_lt.1 hsize) (not_le.1 hserver)

/-- Nobody is lost or changed: a match removes `team_size` players with the lowest scores from its
    queue and no other entry; a failed one leaves all entries. -/
def Exact (before after : Queues) (match_type : ℤ) (team_size : BitVec 32) (outcome : Outcome) :
    Prop :=
  (outcome.success = true → ∃ taken rest,
    (entries before match_type).Perm (taken ++ rest) ∧ taken.length = team_size.toInt.toNat ∧
    (∀ x ∈ taken, ∀ y ∈ rest, x.2 ≤ y.2) ∧ outcome.matched = taken.map Prod.fst ∧
    (entries after match_type).Perm rest ∧
    ∀ other, other ≠ match_type → entries after other = entries before other) ∧
  (outcome.success = false → ∀ any, (entries after any).Perm (entries before any))

/-- A server is found, or nobody is taken, or the players taken have the score 0. -/
def Lossless (env : Env) (match_queues : Queues) (match_type : ℤ) (team_size : BitVec 32) : Prop :=
  0 < SelectBestServer env.servers .LOGIC ∨
  (entries match_queues match_type).length < toSize team_size ∨ team_size.toInt ≤ 0 ∨
  (∀ entry ∈ entries match_queues match_type, 0 ≤ entry.2) ∧
    team_size.toInt.toNat ≤ ((entries match_queues match_type).filter (·.2 = 0)).length

/-- The first `n` of a sorted list are all 0 iff there is no negative score and there are `n` zeros. -/
theorem take_zero_iff {queue : List Entry} (hsorted : queue.Pairwise (·.2 ≤ ·.2)) {n : ℕ}
    (hpos : 0 < n) (hn : n ≤ queue.length) :
    (∀ entry ∈ queue.take n, entry.2 = 0) ↔
      (∀ entry ∈ queue, 0 ≤ entry.2) ∧ n ≤ (queue.filter (·.2 = 0)).length := by
  have hsplit : queue.Pairwise (·.2 ≤ ·.2) ↔ (queue.take n ++ queue.drop n).Pairwise (·.2 ≤ ·.2) := by
    rw [List.take_append_drop]
  have hcross := (List.pairwise_append.1 (hsplit.1 hsorted)).2.2
  have hlen : (queue.take n).length = n := List.length_take_of_le hn
  have hfilter : (queue.filter (·.2 = 0)).length =
      ((queue.take n).filter (·.2 = 0)).length + ((queue.drop n).filter (·.2 = 0)).length := by
    rw [← List.length_append, ← List.filter_append, List.take_append_drop]
  constructor
  · intro hzero
    have hall : (queue.take n).filter (·.2 = 0) = queue.take n :=
      List.filter_eq_self.2 fun entry h => decide_eq_true (hzero entry h)
    refine ⟨fun entry hentry => ?_, by rw [hfilter, hall, hlen]; exact Nat.le_add_right _ _⟩
    rw [← List.take_append_drop n queue] at hentry
    rcases List.mem_append.1 hentry with h | h
    · exact (hzero entry h).ge
    · -- the first entry is a zero and no larger than this one
      obtain ⟨first, hfirst⟩ := List.exists_mem_of_length_pos (hlen.symm ▸ hpos)
      exact (hzero first hfirst) ▸ hcross first hfirst entry h
  · rintro ⟨hnonneg, hcount⟩
    by_contra hne
    push Not at hne
    obtain ⟨entry, hentry, hentry0⟩ := hne
    have hlt : 0 < entry.2 := lt_of_le_of_ne (hnonneg entry (List.mem_of_mem_take hentry)) (Ne.symm hentry0)
    -- then no later entry is a zero, and not all of the first are
    have hdrop : (queue.drop n).filter (·.2 = 0) = [] :=
      List.filter_eq_nil_iff.2 fun later h h0 =>
        (hlt.trans_le (hcross entry hentry later h)).ne' (of_decide_eq_true h0)
    have hless : ((queue.take n).filter (·.2 = 0)).length < (queue.take n).length :=
      List.length_filter_lt_length_iff_exists.2 ⟨entry, hentry, by simpa using hentry0⟩
    rw [hfilter, hdrop, List.length_nil] at hcount
    omega

theorem toSize_of_nonneg {n : BitVec 32} (h : 0 ≤ n.toInt) : toSize n = n.toInt.toNat :=
  toNat_signExtend_of_nonneg h

theorem length_take_sort {env : Env} {queue : List Entry} {team_size : BitVec 32}
    (hsize : toSize team_size ≤ queue.length) :
    ((env.sorting.sort queue).take team_size.toInt.toNat).length = team_size.toInt.toNat := by
  refine List.length_take_of_le ?_
  rw [(env.sorting.perm queue).length_eq]
  by_cases h : 0 ≤ team_size.toInt
  · rwa [toSize_of_nonneg h] at hsize
  · rw [Int.toNat_of_nonpos (not_le.1 h).le]
    exact Nat.zero_le _

/-- Players put back with the score 0 are as before iff that was their score. -/
theorem perm_zero_iff {taken rest : List Entry} :
    (rest ++ taken.map fun entry => (entry.1, (0 : ℤ))).Perm (taken ++ rest) ↔
      ∀ entry ∈ taken, entry.2 = 0 := by
  constructor
  · intro h entry hentry
    have hperm := (List.perm_append_left_iff rest).1 (h.trans List.perm_append_comm)
    obtain ⟨_, -, rfl⟩ := List.mem_map.1 (hperm.mem_iff.2 hentry)
    rfl
  · intro h
    have hsame : (taken.map fun entry => (entry.1, (0 : ℤ))) = taken.map id :=
      List.map_congr_left fun entry hentry => Prod.ext rfl (h entry hentry).symm
    rw [hsame, List.map_id]
    exact List.perm_append_comm

/-- **A match loses and changes nobody** iff a server is found, nobody is taken, or the players taken
    have the score 0. -/
theorem exact_iff (env : Env) (match_queues : Queues) (match_type : ℤ) (team_size : BitVec 32) :
    Exact match_queues (ProcessMatch env match_queues match_type team_size).2 match_type team_size
      (ProcessMatch env match_queues match_type team_size).1 ↔
      Lossless env match_queues match_type team_size := by
  have hcases := processed env match_queues match_type team_size
  generalize ProcessMatch env match_queues match_type team_size = result at hcases
  cases hcases with
  | short hshort =>
    refine iff_of_true ⟨fun h => (Bool.false_ne_true h).elim, fun _ _ => .refl _⟩ ?_
    rcases hshort with hnone | hshort
    · by_cases hneg : team_size.toInt ≤ 0
      · exact .inr (.inr (.inl hneg))
      · refine .inr (.inl ?_)
        rw [entries, hnone, toSize_of_nonneg (not_le.1 hneg).le]
        exact Int.pos_iff_toNat_pos.1 (not_le.1 hneg)
    · exact .inr (.inl hshort)
  | @restored queue hqueue hsize hserver =>
    have hsort := env.sorting.perm queue
    set taken := (env.sorting.sort queue).take team_size.toInt.toNat with htaken
    set rest := (env.sorting.sort queue).drop team_size.toInt.toNat
    have hjoin : (taken ++ rest).Perm queue := by
      rw [List.take_append_drop]
      exact hsort
    have hexact : Exact match_queues (match_queues.insert match_type
        (rest ++ taken.map fun entry => (entry.1, 0))) match_type team_size ⟨false, [], []⟩ ↔
        ∀ entry ∈ taken, entry.2 = 0 := by
      rw [← @perm_zero_iff taken rest]
      constructor
      · intro h
        have hperm := h.2 rfl match_type
        rw [entries_insert, entries_of_lookup hqueue] at hperm
        exact hperm.trans hjoin.symm
      · refine fun h => ⟨fun hfalse => (Bool.false_ne_true hfalse).elim, fun _ any => ?_⟩
        by_cases hany : any = match_type
        · rw [hany, entries_insert, entries_of_lookup hqueue]
          exact h.trans hjoin
        · rw [entries_insert_of_ne _ _ hany]
    refine hexact.trans ?_
    rw [Lossless, entries_of_lookup hqueue, or_iff_right (not_lt.2 hserver),
      or_iff_right (not_lt.2 hsize)]
    by_cases hneg : team_size.toInt ≤ 0
    · refine iff_of_true (fun entry hentry => ?_) (.inl hneg)
      rw [htaken, Int.toNat_of_nonpos hneg, List.take_zero] at hentry
      cases hentry
    · have hlen := @length_take_sort env queue team_size hsize
      have hle : team_size.toInt.toNat ≤ (env.sorting.sort queue).length := by
        rw [← hlen]
        exact List.length_take_le' _ _
      rw [or_iff_right hneg, take_zero_iff (env.sorting.sorted queue)
        (Int.pos_iff_toNat_pos.1 (not_le.1 hneg)) hle, (hsort.filter _).length_eq]
      simp only [hsort.mem_iff]
  | @matched queue sent hqueue hsize hserver =>
    refine iff_of_true ⟨fun _ => ?_, fun h => (Bool.false_ne_true h.symm).elim⟩ (.inl hserver)
    refine ⟨_, (env.sorting.sort queue).drop team_size.toInt.toNat, ?_, length_take_sort hsize, ?_,
      rfl, ?_, fun other hne => entries_insert_of_ne _ _ hne⟩
    · rw [entries_of_lookup hqueue, List.take_append_drop]
      exact (env.sorting.perm queue).symm
    · have hsorted := env.sorting.sorted queue
      rw [← List.take_append_drop team_size.toInt.toNat (env.sorting.sort queue)] at hsorted
      exact (List.pairwise_append.1 hsorted).2.2
    · rw [entries_insert]

/-! ## Runs -/

inductive Label
  | add (role_id : BitVec 64) (match_type score : ℤ)
  | remove (role_id : BitVec 64) (order : List ℤ)
  | process (env : Env) (match_type : ℤ) (team_size : BitVec 32)

/-- One call; `RemoveFromMatchQueue` visits the queues in any order. -/
def step (s : Queues) (l : Label) (s' : Queues) : Prop :=
  match l with
  | .add role_id match_type score => s' = (AddToMatchQueue s role_id match_type score).2
  | .remove role_id order => (∀ match_type, match_type ∈ order ↔ match_type ∈ s) ∧
    s' = (RemoveFromMatchQueue s role_id order).2
  | .process env match_type team_size => s' = (ProcessMatch env s match_type team_size).2

/-- The roles in a queue. -/
def players (s : Queues) (match_type : ℤ) : List (BitVec 64) := (entries s match_type).map Prod.fst

/-- No queue holds a role twice. -/
def NoTwice (s : Queues) : Prop := ∀ match_type, (players s match_type).Nodup

/-- The role is in no queue. -/
def Gone (s : Queues) (role_id : BitVec 64) : Prop := ∀ match_type, role_id ∉ players s match_type

/-- The call removes the role, or matches it. -/
def Leaves (s : Queues) (role_id : BitVec 64) : Label → Prop
  | .add _ _ _ => False
  | .remove removed _ => removed = role_id
  | .process env match_type team_size =>
    role_id ∈ (ProcessMatch env s match_type team_size).1.matched

/-- Nobody is added under a second match type. -/
def Single (s : Queues) : Label → Prop
  | .add role_id match_type _ => ∀ other, other ≠ match_type → role_id ∉ players s other
  | _ => True

theorem players_insert (s : Queues) (match_type : ℤ) (queue : List Entry) :
    players (s.insert match_type queue) match_type = queue.map Prod.fst := by
  rw [players, entries_insert]

theorem players_insert_of_ne (s : Queues) {match_type other : ℤ} (queue : List Entry)
    (h : other ≠ match_type) : players (s.insert match_type queue) other = players s other := by
  rw [players, entries_insert_of_ne s queue h, players]

theorem players_of_lookup {s : Queues} {match_type : ℤ} {queue : List Entry}
    (h : s.lookup match_type = some queue) : players s match_type = queue.map Prod.fst := by
  rw [players, entries_of_lookup h]

theorem players_empty (match_type : ℤ) : players ∅ match_type = [] := by
  rw [players, entries, Finmap.lookup_empty]
  rfl

theorem AddToMatchQueue_players (s : Queues) (role_id : BitVec 64) (match_type score : ℤ) :
    (∀ other, players (AddToMatchQueue s role_id match_type score).2 other = players s other) ∨
    (role_id ∉ players s match_type ∧
      players (AddToMatchQueue s role_id match_type score).2 match_type =
        players s match_type ++ [role_id] ∧
      ∀ other, other ≠ match_type →
        players (AddToMatchQueue s role_id match_type score).2 other = players s other) := by
  rw [AddToMatchQueue]
  have hqueue : (s.lookup match_type).getD [] = entries s match_type := rfl
  simp only [hqueue]
  by_cases hin : (entries s match_type).any (·.1 == role_id)
  · rw [if_pos hin]
    refine .inl fun other => ?_
    by_cases hother : other = match_type
    · rw [hother, players_insert, players]
    · exact players_insert_of_ne s _ hother
  · rw [if_neg hin]
    refine .inr ⟨fun hmem => hin ?_, ?_, fun other hother => players_insert_of_ne s _ hother⟩
    · obtain ⟨entry, hentry, rfl⟩ := List.mem_map.1 hmem
      exact List.any_eq_true.2 ⟨entry, hentry, beq_self_eq_true _⟩
    · rw [players_insert, List.map_append, players]
      rfl

/-- One queue that holds the role loses it; if none of `order` does, nothing changes. -/
def Removed (s after : Queues) (role_id : BitVec 64) (order : List ℤ) : Prop :=
  ((∀ match_type ∈ order, role_id ∉ players s match_type) ∧ after = s) ∨
  ∃ match_type, role_id ∈ players s match_type ∧
    players after match_type = (players s match_type).filter (· != role_id) ∧
    ∀ other, other ≠ match_type → players after other = players s other

theorem removed (s : Queues) (role_id : BitVec 64) (order : List ℤ) :
    Removed s (RemoveFromMatchQueue s role_id order).2 role_id order := by
  induction order with
  | nil => exact .inl ⟨fun match_type h => absurd h List.not_mem_nil, rfl⟩
  | cons match_type order ih =>
    -- a queue that is passed over does not hold the role
    have hpass (hnot : role_id ∉ players s match_type)
        (heq : RemoveFromMatchQueue s role_id (match_type :: order) =
          RemoveFromMatchQueue s role_id order) :
        Removed s (RemoveFromMatchQueue s role_id (match_type :: order)).2 role_id
          (match_type :: order) := by
      rw [heq]
      refine ih.imp_left fun ⟨hrest, hsame⟩ => ⟨fun other hother => ?_, hsame⟩
      rcases List.mem_cons.1 hother with rfl | h
      · exact hnot
      · exact hrest other h
    cases hqueue : s.lookup match_type with
    | none =>
      refine hpass ?_ (by rw [RemoveFromMatchQueue, hqueue])
      rw [players, entries, hqueue]
      exact List.not_mem_nil
    | some queue =>
      by_cases hshorter : (queue.filter (·.1 != role_id)).length < queue.length
      · refine .inr ⟨match_type, ?_, ?_, fun other hother => ?_⟩
        · obtain ⟨entry, hentry, hrole⟩ := List.length_filter_lt_length_iff_exists.1 hshorter
          rw [players_of_lookup hqueue]
          refine List.mem_map.2 ⟨entry, hentry, ?_⟩
          simpa using hrole
        · simp only [RemoveFromMatchQueue, hqueue, if_pos hshorter]
          rw [players_insert, players_of_lookup hqueue, List.filter_map]
          rfl
        · simp only [RemoveFromMatchQueue, hqueue, if_pos hshorter]
          exact players_insert_of_ne s _ hother
      · refine hpass (fun hmem => hshorter ?_) (by simp only [RemoveFromMatchQueue, hqueue, if_neg hshorter])
        rw [players_of_lookup hqueue] at hmem
        obtain ⟨entry, hentry, rfl⟩ := List.mem_map.1 hmem
        exact List.length_filter_lt_length_iff_exists.2 ⟨entry, hentry, by simp⟩

theorem ProcessMatch_players (env : Env) (s : Queues) (match_type : ℤ) (team_size : BitVec 32) :
    (players s match_type).Perm ((ProcessMatch env s match_type team_size).1.matched ++
      players (ProcessMatch env s match_type team_size).2 match_type) ∧
    ∀ other, other ≠ match_type →
      players (ProcessMatch env s match_type team_size).2 other = players s other := by
  have hcases := processed env s match_type team_size
  generalize ProcessMatch env s match_type team_size = result at hcases
  cases hcases with
  | short hshort => exact ⟨.refl _, fun other _ => rfl⟩
  | @restored queue hqueue hsize hserver =>
    refine ⟨?_, fun other hother => players_insert_of_ne s _ hother⟩
    rw [players_insert, players_of_lookup hqueue, List.map_append, List.map_map, List.nil_append]
    refine ((env.sorting.perm queue).map Prod.fst).symm.trans ?_
    conv_lhs => rw [← List.take_append_drop team_size.toInt.toNat (env.sorting.sort queue),
      List.map_append]
    exact List.perm_append_comm
  | @matched queue sent hqueue hsize hserver =>
    refine ⟨?_, fun other hother => players_insert_of_ne s _ hother⟩
    rw [players_insert, players_of_lookup hqueue]
    simp only [← List.map_append, List.take_append_drop]
    exact ((env.sorting.perm queue).map Prod.fst).symm

/-- No queue holds a role twice, and no two queues hold the same role. -/
structure Inv (s : Queues) : Prop where
  noTwice : NoTwice s
  single : ∀ role_id match_type other, role_id ∈ players s match_type →
    role_id ∈ players s other → match_type = other

/-- A step that adds nobody leaves of each queue a part of its players. -/
theorem step_subperm {s s' : Queues} {l : Label} (hl : ∀ role_id match_type score,
    l ≠ .add role_id match_type score) (hstep : step s l s') (match_type : ℤ) :
    (players s' match_type).Subperm (players s match_type) := by
  cases l with
  | add role_id match_type score => exact absurd rfl (hl role_id match_type score)
  | remove role_id order =>
    obtain ⟨-, rfl⟩ := hstep
    obtain ⟨-, hsame⟩ | ⟨t, -, hfilter, hother⟩ := removed s role_id order
    · rw [hsame]
    · by_cases ht : match_type = t
      · rw [ht, hfilter]
        exact List.filter_sublist.subperm
      · rw [hother match_type ht]
  | process env t team_size =>
    obtain rfl := hstep
    obtain ⟨hperm, hother⟩ := ProcessMatch_players env s t team_size
    by_cases ht : match_type = t
    · rw [ht]
      exact (List.sublist_append_right _ _).subperm.trans hperm.symm.subperm
    · rw [hother match_type ht]

theorem nodup_of_subperm {l l' : List (BitVec 64)} (h : l.Subperm l') (hnodup : l'.Nodup) :
    l.Nodup := by
  obtain ⟨m, hperm, hsub⟩ := h
  exact hperm.nodup_iff.1 (hnodup.sublist hsub)

theorem Inv.of_subperm {s s' : Queues} (h : Inv s)
    (hsub : ∀ match_type, (players s' match_type).Subperm (players s match_type)) : Inv s' :=
  ⟨fun t => nodup_of_subperm (hsub t) (h.noTwice t), fun r t u ht hu =>
    h.single r t u ((hsub t).subset ht) ((hsub u).subset hu)⟩

theorem Inv.add {s : Queues} (h : Inv s) {role_id : BitVec 64} {match_type score : ℤ}
    (hsingle : Single s (.add role_id match_type score)) :
    Inv (AddToMatchQueue s role_id match_type score).2 := by
  obtain hsame | ⟨hnot, hadd, hother⟩ := AddToMatchQueue_players s role_id match_type score
  · exact h.of_subperm fun t => by rw [hsame]
  · have hmem (r : BitVec 64) (t : ℤ)
        (ht : r ∈ players (AddToMatchQueue s role_id match_type score).2 t) :
        r ∈ players s t ∨ r = role_id ∧ t = match_type := by
      by_cases heq : t = match_type
      · rw [heq, hadd] at ht
        rcases List.mem_append.1 ht with ht | ht
        · exact .inl (heq ▸ ht)
        · exact .inr ⟨List.mem_singleton.1 ht, heq⟩
      · exact .inl (hother t heq ▸ ht)
    -- the role that is added is in no queue
    have hfresh (t : ℤ) : role_id ∉ players s t := by
      by_cases heq : t = match_type
      · rw [heq]; exact hnot
      · exact hsingle t heq
    refine ⟨fun t => ?_, fun r t u ht hu => ?_⟩
    · by_cases heq : t = match_type
      · rw [heq, hadd, List.nodup_append_comm]
        exact List.nodup_cons.2 ⟨hnot, h.noTwice match_type⟩
      · rw [hother t heq]
        exact h.noTwice t
    · obtain ht' | ⟨hr, ht'⟩ := hmem r t ht <;> obtain hu' | ⟨hr', hu'⟩ := hmem r u hu
      · exact h.single r t u ht' hu'
      · exact absurd (hr' ▸ ht') (hfresh t)
      · exact absurd (hr ▸ hu') (hfresh u)
      · rw [ht', hu']

theorem step_inv {s s' : Queues} {l : Label} (hsingle : Single s l) (hstep : step s l s')
    (h : Inv s) : Inv s' := by
  cases l with
  | add role_id match_type score =>
    obtain rfl := hstep
    exact h.add hsingle
  | remove role_id order => exact h.of_subperm (step_subperm (by simp) hstep)
  | process env match_type team_size => exact h.of_subperm (step_subperm (by simp) hstep)

/-- Who is removed or matched is in no queue after it. -/
theorem gone_of_leaves {s s' : Queues} {l : Label} {role_id : BitVec 64} (h : Inv s)
    (hleaves : Leaves s role_id l) (hstep : step s l s') : Gone s' role_id := by
  cases l with
  | add _ _ _ => exact hleaves.elim
  | remove r order =>
    obtain rfl : r = role_id := hleaves
    obtain ⟨horder, rfl⟩ := hstep
    intro t
    obtain ⟨hnone, hsame⟩ | ⟨u, hu, hfilter, hother⟩ := removed s r order
    · rw [hsame]
      intro ht
      -- a queue with a player exists, so the loop has visited it
      refine hnone t ((horder t).2 ?_) ht
      by_contra habsent
      rw [players, entries, Finmap.lookup_eq_none.2 habsent] at ht
      cases ht
    · by_cases ht : t = u
      · rw [ht, hfilter]
        intro hmem
        simpa using (List.mem_filter.1 hmem).2
      · rw [hother t ht]
        exact fun hmem => ht (h.single r t u hmem hu)
  | process env u team_size =>
    obtain rfl := hstep
    intro t
    obtain ⟨hperm, hother⟩ := ProcessMatch_players env s u team_size
    by_cases ht : t = u
    · rw [ht]
      exact fun hmem => List.disjoint_of_nodup_append (hperm.nodup_iff.1 (h.noTwice u)) hleaves hmem
    · rw [hother t ht]
      intro hmem
      exact ht (h.single role_id t u hmem (hperm.mem_iff.2 (List.mem_append_left _ hleaves)))

theorem step_gone {s s' : Queues} {l : Label} {role_id : BitVec 64}
    (hl : ∀ match_type score, l ≠ .add role_id match_type score) (hstep : step s l s')
    (h : Gone s role_id) : Gone s' role_id := by
  cases l with
  | add r match_type score =>
    obtain rfl := hstep
    have hne : role_id ≠ r := fun heq => hl match_type score (by rw [heq])
    intro t ht
    obtain hsame | ⟨-, hadd, hother⟩ := AddToMatchQueue_players s r match_type score
    · exact h t (hsame t ▸ ht)
    · by_cases heq : t = match_type
      · rw [heq, hadd] at ht
        rcases List.mem_append.1 ht with ht | ht
        · exact h match_type ht
        · exact hne (List.mem_singleton.1 ht)
      · exact h t (hother t heq ▸ ht)
  | remove r order => exact fun t ht => h t ((step_subperm (by simp) hstep t).subset ht)
  | process env u team_size => exact fun t ht => h t ((step_subperm (by simp) hstep t).subset ht)

/-- What the server promises in a state that a run has reached: no queue holds a role twice, and who
    leaves is gone until it is added again. -/
def Kept (run : Queues → List Label → Queues → Prop) (s : Queues) : Prop :=
  NoTwice s ∧ ∀ l ls' s' s'' role_id, run s [l] s' → run s' ls' s'' → Leaves s role_id l →
    (∀ match_type score, .add role_id match_type score ∉ ls') → Gone s'' role_id

/-- **Who leaves matchmaking is gone**, as long as nobody is added under a second match type. -/
theorem kept_of_single {ls : List Label} {s : Queues}
    (hrun : Run (fun s l s' => Single s l ∧ step s l s') ∅ ls s) :
    Kept (Run fun s l s' => Single s l ∧ step s l s') s := by
  have hinv : Inv s := hrun.invariant (P := Inv) (fun s l s' h hs => step_inv hs.1 hs.2 h)
    ⟨fun t => players_empty t ▸ List.nodup_nil,
      fun r t u ht => absurd (players_empty t ▸ ht) List.not_mem_nil⟩
  refine ⟨hinv.noTwice, ?_⟩
  intro l ls' s' s'' role_id hone hrest hleaves hnot
  obtain ⟨t, hstep, ht⟩ := Run.cons_iff.1 hone
  obtain rfl := Run.nil_iff.1 ht
  have hgone := gone_of_leaves hinv hleaves hstep.2
  clear hrun hone ht hstep hleaves
  induction hrest with
  | nil => exact hgone
  | @cons s₁ s₂ s₃ l' ls' hstep _ ih =>
    refine ih (fun t score h => hnot t score (List.mem_cons_of_mem _ h)) ?_
    exact step_gone (fun t score heq => hnot t score (heq ▸ List.mem_cons_self)) hstep.2 hgone

/-! ## One server that is missing, one role in two queues -/

def insertion : Sorting where
  sort := List.insertionSort (·.2 ≤ ·.2)
  perm := List.perm_insertionSort _
  sorted :=
    haveI : Std.Total fun a b : Entry => a.2 ≤ b.2 := ⟨fun a b => le_total a.2 b.2⟩
    haveI : IsTrans Entry fun a b => a.2 ≤ b.2 := ⟨fun _ _ _ => le_trans⟩
    List.pairwise_insertionSort _

/-- No server is there. -/
def deserted : Env := ⟨insertion, [], ∅, 17⟩

/-- **A match without a server takes a player's score**: it comes back with 0. -/
theorem not_exact_deserted : ¬∀ (env : Env) (ls : List Label) (s : Queues) (match_type : ℤ)
    (team_size : BitVec 32), Run step ∅ ls s →
      Exact s (ProcessMatch env s match_type team_size).2 match_type team_size
        (ProcessMatch env s match_type team_size).1 := by
  intro h
  have hrun : Run step ∅ [.add 7 1 1500] _ := .cons rfl (.nil _)
  have hperm := (h deserted _ _ 1 1 hrun).2 rfl 1
  have hentry : ((7 : BitVec 64), (0 : ℤ)) ∈ [((7 : BitVec 64), (1500 : ℤ))] :=
    hperm.mem_iff.1 (by decide)
  exact absurd hentry (by decide)

/-- A player is added and leaves, and a match is tried. -/
theorem gone_one : ∃ s, Run step ∅ [.add 7 1 1500, .remove 7 [1], .process deserted 1 1] s ∧
    Gone s 7 := by
  let queued : Queues := (∅ : Queues).insert 1 [(7, 1500)]
  have hadd : Run (fun s l s' => Single s l ∧ step s l s') ∅ [.add 7 1 1500] queued :=
    .cons ⟨fun t _ => by rw [players_empty]; exact List.not_mem_nil, rfl⟩ (.nil _)
  have hremove : Run (fun s l s' => Single s l ∧ step s l s') queued [.remove 7 [1]] _ :=
    .cons ⟨trivial, fun t => by simp [queued, Finmap.notMem_empty], rfl⟩ (.nil _)
  have hmatch : Run (fun s l s' => Single s l ∧ step s l s')
      (RemoveFromMatchQueue queued 7 [1]).2 [.process deserted 1 1] _ :=
    .cons ⟨trivial, rfl⟩ (.nil _)
  have hgone := (kept_of_single hadd).2 _ _ _ _ 7 hremove hmatch rfl (by simp)
  exact ⟨_, (Run.append_iff.2 ⟨_, hadd, Run.append_iff.2 ⟨_, hremove, hmatch⟩⟩).mono
    fun _ _ _ h => h.2, hgone⟩

/-- **A role that is in two queues is removed from one.** -/
theorem not_gone : ¬∀ (ls : List Label) (s : Queues), Run step ∅ ls s → Kept (Run step) s := by
  intro h
  let queued : Queues := Finmap.insert 2 [(7, 1500)] (Finmap.insert 1 [(7, 1500)] (∅ : Queues))
  have hadd : Run step ∅ [.add 7 1 1500, .add 7 2 1500] queued := .cons rfl (.cons rfl (.nil _))
  have hremove : Run step queued [.remove 7 [1, 2]] _ :=
    .cons ⟨fun t => by simp [queued, Finmap.notMem_empty, or_comm], rfl⟩ (.nil _)
  exact (h _ _ hadd).2 _ [] _ _ 7 hremove (.nil _) rfl (fun _ _ => List.not_mem_nil) 2 (by decide)

end Ancfl.Game.Match
