/-
  Timers and their manager.

  * `Timer`, `TimerManager`: the timer objects by a number, the set `m_timers` as
    the numbers in its order;
  * `addTimer`, `cancel`, `refresh`, `reset`, `getNextTimer`, `listExpiredCb`: each
    locked section; the clock's reading and the address of a new object are
    arguments;
  * `Ordered`: the set is in order, when some timers are out of it; `Inv`: when
    none is; `addTimer_ret`, `cancel_ret`, .. : every section keeps it, and what it
    does to the timers.
-/
import Ancfl.Lib.OrderedSet
import Mathlib.Algebra.Group.Nat.Defs
import Mathlib.Data.Prod.Lex
import Mathlib.Logic.Function.Basic

namespace Ancfl

open Lib

/-- `C` are the callbacks, `none` is the null callback. -/
structure Timer (C : Type) where
  addr : ℕ
  recurring : Bool
  ms : ℕ
  next : ℕ
  cb : Option C

/-- The objects `0`, .., `count - 1` exist. -/
structure TimerManager (C : Type) where
  heap : ℕ → Timer C
  count : ℕ
  timers : List ℕ
  tickled : Bool
  previouseTime : ℕ

variable {C : Type}

namespace TimerManager

/-- `Timer::Comparator` -/
def key (heap : ℕ → Timer C) (i : ℕ) : ℕ ×ₗ ℕ := toLex ((heap i).next, (heap i).addr)

def new (C : Type) (now : ℕ) : TimerManager C := ⟨fun _ => ⟨0, false, 0, 0, none⟩, 0, [], false, now⟩

/-- `addTimer(val, lock)`; the notification is owed if the first component is true. -/
def insertTimer (m : TimerManager C) (i : ℕ) : Bool × TimerManager C :=
  let (it, timers) := setInsert (key m.heap) m.timers i
  let atFront := it == 0 && !m.tickled
  (atFront, { m with timers := timers, tickled := m.tickled || atFront })

/-- `addTimer(ms, cb, recurring)`: the object `count`. -/
def addTimer (m : TimerManager C) (ms : ℕ) (cb : Option C) (recurring : Bool) (addr now : ℕ) :
    Bool × TimerManager C :=
  let timer := ⟨addr, recurring, ms, (now + ms) % 2 ^ 64, cb⟩
  insertTimer { m with heap := Function.update m.heap m.count timer, count := m.count + 1 } m.count

/-- Erasing the end of the set has no defined behaviour. -/
def cancel (m : TimerManager C) (i : ℕ) : Option (Bool × TimerManager C) :=
  if (m.heap i).cb.isSome then
    let heap := Function.update m.heap i { m.heap i with cb := none }
    let it := setFind (key heap) m.timers (key heap i)
    if it = m.timers.length then none
    else some (true, { m with heap := heap, timers := m.timers.eraseIdx it })
  else some (false, m)

def refresh (m : TimerManager C) (i now : ℕ) : Bool × TimerManager C :=
  if (m.heap i).cb.isNone then (false, m)
  else
    let it := setFind (key m.heap) m.timers (key m.heap i)
    if it = m.timers.length then (false, m)
    else
      let heap := Function.update m.heap i { m.heap i with next := (now + (m.heap i).ms) % 2 ^ 64 }
      (true, { m with heap := heap, timers := (setInsert (key heap) (m.timers.eraseIdx it) i).2 })

/-- The locked section of `reset`: its result, whether a notification is owed, the manager. -/
def resetLocked (m : TimerManager C) (i ms : ℕ) (fromNow : Bool) (now : ℕ) :
    Bool × Bool × TimerManager C :=
  if (m.heap i).cb.isNone then (false, false, m)
  else
    let it := setFind (key m.heap) m.timers (key m.heap i)
    if it = m.timers.length then (false, false, m)
    else
      let start := if fromNow then now else ((m.heap i).next + 2 ^ 64 - (m.heap i).ms) % 2 ^ 64
      let heap := Function.update m.heap i { m.heap i with ms := ms, next := (start + ms) % 2 ^ 64 }
      (true, insertTimer { m with heap := heap, timers := m.timers.eraseIdx it } i)

def reset (m : TimerManager C) (i ms : ℕ) (fromNow : Bool) (now : ℕ) : Bool × Bool × TimerManager C :=
  if ms = (m.heap i).ms ∧ fromNow = false then (true, false, m) else resetLocked m i ms fromNow now

/-- `none` is `~0ull`. -/
def getNextTimer (m : TimerManager C) (now : ℕ) : Option ℕ × TimerManager C :=
  let m := { m with tickled := false }
  match m.timers with
  | [] => (none, m)
  | i :: _ => (some (if (m.heap i).next ≤ now then 0 else (m.heap i).next - now), m)

def detectClockRollover (m : TimerManager C) (now : ℕ) : Bool × TimerManager C :=
  let rollover := now < m.previouseTime ∧ now < (m.previouseTime + 2 ^ 64 - 60 * 60 * 1000) % 2 ^ 64
  (decide rollover, { m with previouseTime := now })

/-- The loop over the expired timers: `cbs`, then the objects and the set. -/
def rearm (now : ℕ) : List ℕ → (ℕ → Timer C) → List ℕ → List (Option C) × (ℕ → Timer C) × List ℕ
  | [], heap, timers => ([], heap, timers)
  | i :: expired, heap, timers =>
    let (cbs, r) :=
      if (heap i).recurring then
        let heap := Function.update heap i { heap i with next := (now + (heap i).ms) % 2 ^ 64 }
        rearm now expired heap (setInsert (key heap) timers i).2
      else rearm now expired (Function.update heap i { heap i with cb := none }) timers
    ((heap i).cb :: cbs, r)

/-- `it`: the end, or the first timer after the dummy with the address `addr` that is later than
    `now`. -/
def expiredEnd (m : TimerManager C) (rollover : Bool) (now addr : ℕ) : ℕ :=
  let it := if rollover then m.timers.length
    else setLower (key m.heap) m.timers (toLex (now, addr))
  it + ((m.timers.drop it).takeWhile fun i => (m.heap i).next = now).length

/-- The locked section of `listExpiredCb`: `expired`, `cbs` and the manager. -/
def listLocked (m : TimerManager C) (now addr : ℕ) : List ℕ × List (Option C) × TimerManager C :=
  match m.timers with
  | [] => ([], [], m)
  | front :: _ =>
    let (rollover, m) := detectClockRollover m now
    if !rollover && decide (now < (m.heap front).next) then ([], [], m)
    else
      let it := expiredEnd m rollover now addr
      let (cbs, heap, timers) := rearm now (m.timers.take it) m.heap (m.timers.drop it)
      (m.timers.take it, cbs, { m with heap := heap, timers := timers })

def listExpiredCb (m : TimerManager C) (now addr : ℕ) : List ℕ × List (Option C) × TimerManager C :=
  if m.timers = [] then ([], [], m) else listLocked m now addr

/-! ## The set is in order -/

/-- The set `l` is in order and, like the timers `out` that are out of it, has existing timers, with
    different addresses; a timer with a callback is one of them. -/
structure Ordered (heap : ℕ → Timer C) (count : ℕ) (out l : List ℕ) : Prop where
  sorted : SortedBy (key heap) l
  nodup : (out ++ l).Nodup
  addr : ∀ i ∈ out ++ l, ∀ j ∈ out ++ l, (heap i).addr = (heap j).addr → i = j
  lt_count : ∀ i ∈ out ++ l, i < count
  mem_of_cb : ∀ i, (heap i).cb ≠ none → i ∈ out ++ l

abbrev Inv (m : TimerManager C) : Prop := Ordered m.heap m.count [] m.timers

theorem inv_new (C : Type) (now : ℕ) : Inv (new C now) :=
  ⟨.nil, .nil, fun _ hi => (nomatch hi), fun _ hi => (nomatch hi), fun _ hi => absurd rfl hi⟩

section
variable {heap : ℕ → Timer C} {count i : ℕ} {out l : List ℕ} {timer : Timer C}

theorem key_update {j : ℕ} (hj : j ≠ i) : key (Function.update heap i timer) j = key heap j := by
  rw [key, key, Function.update_of_ne hj]

theorem sorted_update (h : SortedBy (key heap) l) (hi : i ∉ l) :
    SortedBy (key (Function.update heap i timer)) l :=
  h.congr fun _ hj => (key_update (ne_of_mem_of_not_mem hj hi)).symm

variable (timer) in
/-- A timer that is out of the set may change. -/
theorem Ordered.update (h : Ordered heap count (i :: out) l) (haddr : timer.addr = (heap i).addr) :
    Ordered (Function.update heap i timer) count (i :: out) l := by
  have hi : i ∉ l := fun hi => (List.nodup_cons.1 h.nodup).1 (List.mem_append_right out hi)
  have heq (j : ℕ) : (Function.update heap i timer j).addr = (heap j).addr := by
    by_cases hj : j = i
    · rw [hj, Function.update_self, haddr]
    · rw [Function.update_of_ne hj]
  refine ⟨sorted_update h.sorted hi, h.nodup, fun j hj k hk => ?_, h.lt_count, fun j hj => ?_⟩
  · rw [heq, heq]
    exact h.addr j hj k hk
  · by_cases hji : j = i
    · rw [hji]
      exact List.mem_cons_self
    · rw [Function.update_of_ne hji] at hj
      exact h.mem_of_cb j hj

/-- **Putting a timer into the set.** -/
theorem Ordered.insert (h : Ordered heap count (i :: out) l) : ∃ a b, l = a ++ b ∧
    setInsert (key heap) l i = (a.length, a ++ i :: b) ∧ Ordered heap count out (a ++ i :: b) := by
  have hi : i ∉ l := fun hi => (List.nodup_cons.1 h.nodup).1 (List.mem_append_right out hi)
  obtain ⟨a, b, rfl, hinsert, hsorted⟩ := setInsert_ret (y := i) h.sorted fun j hj he => by
    have haddr : (heap j).addr = (heap i).addr := congrArg (fun k => (ofLex k).2) he
    have hji := h.addr j (by simp [hj]) i (by simp) haddr
    exact hi (hji ▸ hj)
  refine ⟨a, b, rfl, hinsert, ?_⟩
  have hperm : (out ++ (a ++ i :: b)).Perm (i :: out ++ (a ++ b)) :=
    (List.perm_middle.append_left out).trans List.perm_middle
  exact ⟨hsorted, hperm.nodup_iff.2 h.nodup,
    fun j hj k hk => h.addr j (hperm.mem_iff.1 hj) k (hperm.mem_iff.1 hk),
    fun j hj => h.lt_count j (hperm.mem_iff.1 hj), fun j hj => hperm.mem_iff.2 (h.mem_of_cb j hj)⟩

/-- A timer without callback may stay out of the set. -/
theorem Ordered.drop (h : Ordered heap count (i :: out) l) (hcb : (heap i).cb = none) :
    Ordered heap count out l := by
  refine ⟨h.sorted, (List.nodup_cons.1 h.nodup).2, fun j hj k hk => ?_, fun j hj => ?_, fun j hj => ?_⟩
  · exact h.addr j (List.mem_cons_of_mem i hj) k (List.mem_cons_of_mem i hk)
  · exact h.lt_count j (List.mem_cons_of_mem i hj)
  · refine (List.mem_cons.1 (h.mem_of_cb j hj)).resolve_left ?_
    rintro rfl
    exact hj hcb

/-- **Taking a timer out of the set.** -/
theorem Ordered.erase (h : Ordered heap count [] l) (hi : i ∈ l) : ∃ a b, l = a ++ i :: b ∧
    setFind (key heap) l (key heap i) = a.length ∧ a.length ≠ l.length ∧
      l.eraseIdx a.length = a ++ b ∧ Ordered heap count [i] (a ++ b) := by
  obtain ⟨a, b, rfl⟩ := List.append_of_mem hi
  have hsub : (a ++ b).Sublist (a ++ i :: b) :=
    List.Sublist.append (List.Sublist.refl a) (List.sublist_cons_self i b)
  have hperm : (i :: (a ++ b)).Perm (a ++ i :: b) := List.perm_middle.symm
  refine ⟨a, b, rfl, setFind_ret h.sorted, ?_, eraseIdx_append_cons a b i, h.sorted.sublist hsub,
    hperm.nodup_iff.2 h.nodup, fun j hj k hk => ?_, fun j hj => ?_, fun j hj => ?_⟩
  · rw [List.length_append, List.length_cons]
    omega
  · exact h.addr j (hperm.mem_iff.1 hj) k (hperm.mem_iff.1 hk)
  · exact h.lt_count j (hperm.mem_iff.1 hj)
  · exact hperm.mem_iff.2 (h.mem_of_cb j hj)

/-- A new timer. -/
theorem Ordered.create (h : Ordered heap count [] l) (haddr : ∀ j ∈ l, (heap j).addr ≠ timer.addr) :
    Ordered (Function.update heap count timer) (count + 1) [count] l := by
  have hnot : count ∉ l := fun hmem => (h.lt_count count hmem).false
  have heq {j : ℕ} (hj : j ∈ l) : Function.update heap count timer j = heap j :=
    Function.update_of_ne (ne_of_mem_of_not_mem hj hnot) timer heap
  refine ⟨sorted_update h.sorted hnot, List.nodup_cons.2 ⟨hnot, h.nodup⟩, ?_, ?_, ?_⟩
  · intro j hj k hk
    rcases List.mem_cons.1 hj with hj' | hj' <;> rcases List.mem_cons.1 hk with hk' | hk'
    · exact fun _ => hj'.trans hk'.symm
    · rw [hj', Function.update_self, heq hk']
      exact fun he => absurd he.symm (haddr k hk')
    · rw [hk', Function.update_self, heq hj']
      exact fun he => absurd he (haddr j hj')
    · rw [heq hj', heq hk']
      exact h.addr j hj' k hk'
  · intro j hj
    rcases List.mem_cons.1 hj with rfl | hj
    · exact Nat.lt_succ_self _
    · exact (h.lt_count j hj).trans (Nat.lt_succ_self count)
  · intro j hj
    by_cases hjc : j = count
    · rw [hjc]
      exact List.mem_cons_self
    · rw [Function.update_of_ne hjc] at hj
      exact List.mem_cons_of_mem count (h.mem_of_cb j hj)

theorem Ordered.split {a b : List ℕ} (h : Ordered heap count [] (a ++ b)) : Ordered heap count a b :=
  ⟨(List.pairwise_append.1 h.sorted).2.1, h.nodup, h.addr, h.lt_count, h.mem_of_cb⟩

/-- **The loop over the expired timers.** -/
theorem rearm_ret (now : ℕ) {expired : List ℕ} (h : Ordered heap count expired l) :
    ∃ heap' l', rearm now expired heap l = (expired.map fun i => (heap i).cb, heap', l') ∧
      Ordered heap' count [] l' ∧ (∀ i, i ∉ expired → heap' i = heap i) ∧
      (∀ i ∈ expired, heap' i = if (heap i).recurring
        then { heap i with next := (now + (heap i).ms) % 2 ^ 64 } else { heap i with cb := none }) ∧
      ∀ i, i ∈ l' ↔ i ∈ l ∨ (i ∈ expired ∧ (heap i).recurring) := by
  induction expired generalizing heap l with
  | nil => exact ⟨heap, l, rfl, h, fun i _ => rfl, fun i hi => (nomatch hi), by simp⟩
  | cons i expired ih =>
    have hi : i ∉ expired := fun hi => (List.nodup_cons.1 h.nodup).1 (List.mem_append_left l hi)
    have heq (timer : Timer C) {j : ℕ} (hj : j ∈ expired) : Function.update heap i timer j = heap j :=
      Function.update_of_ne (ne_of_mem_of_not_mem hj hi) timer heap
    by_cases hrec : (heap i).recurring
    · obtain ⟨a, b, rfl, hinsert, h'⟩ :=
        (h.update { heap i with next := (now + (heap i).ms) % 2 ^ 64 } rfl).insert
      obtain ⟨heap', l', hrearm, hord, hother, hexp, hmem⟩ := ih h'
      refine ⟨heap', l', ?_, hord, fun j hj => ?_, fun j hj => ?_, fun j => ?_⟩
      · rw [rearm]
        simp only [if_pos hrec, hinsert, hrearm, List.map_cons]
        rw [List.map_congr_left fun j hj => congrArg Timer.cb (heq _ hj)]
      · rw [hother j fun hmem => hj (List.mem_cons_of_mem i hmem), Function.update_of_ne]
        rintro rfl
        exact hj List.mem_cons_self
      · rcases List.mem_cons.1 hj with rfl | hj
        · rw [hother j hi, Function.update_self, if_pos hrec]
        · rw [hexp j hj, heq _ hj]
      · have hrec' : (j ∈ expired ∧ (Function.update heap i
            { heap i with next := (now + (heap i).ms) % 2 ^ 64 } j).recurring) ↔
            (j ∈ expired ∧ (heap j).recurring) :=
          and_congr_right fun hj => by rw [heq _ hj]
        have hiff : j = i ∧ (heap j).recurring ↔ j = i := and_iff_left_of_imp fun he => he ▸ hrec
        rw [hmem, hrec', List.mem_cons, or_and_right, hiff, List.mem_append, List.mem_append,
          List.mem_cons, @or_left_comm (j ∈ a), or_assoc, @or_left_comm (j ∈ a ∨ j ∈ b)]
    · obtain ⟨heap', l', hrearm, hord, hother, hexp, hmem⟩ :=
        ih ((h.update { heap i with cb := none } rfl).drop (by rw [Function.update_self]))
      refine ⟨heap', l', ?_, hord, fun j hj => ?_, fun j hj => ?_, fun j => ?_⟩
      · rw [rearm]
        simp only [if_neg hrec, hrearm, List.map_cons]
        rw [List.map_congr_left fun j hj => congrArg Timer.cb (heq _ hj)]
      · rw [hother j fun hmem => hj (List.mem_cons_of_mem i hmem), Function.update_of_ne]
        rintro rfl
        exact hj List.mem_cons_self
      · rcases List.mem_cons.1 hj with rfl | hj
        · rw [hother j hi, Function.update_self, if_neg hrec]
        · rw [hexp j hj, heq _ hj]
      · have hrec' : (j ∈ expired ∧ (Function.update heap i { heap i with cb := none } j).recurring) ↔
            (j ∈ expired ∧ (heap j).recurring) :=
          and_congr_right fun hj => by rw [heq _ hj]
        have hiff : ¬(j = i ∧ (heap j).recurring) := fun he => hrec (he.1 ▸ he.2)
        rw [hmem, hrec', List.mem_cons, or_and_right, or_iff_right hiff]

end

/-! ## The locked sections -/

section
variable {m : TimerManager C} {i : ℕ}

/-- Unless the notification is owed, it was suppressed or there is an earlier timer. -/
theorem insertTimer_ret (h : Ordered m.heap m.count [i] m.timers) : ∃ front l',
    insertTimer m i = (front, { m with timers := l', tickled := m.tickled || front }) ∧
      Ordered m.heap m.count [] l' ∧ (∀ j, j ∈ l' ↔ j = i ∨ j ∈ m.timers) ∧
      (front = false → m.tickled = true ∨ ∃ j ∈ m.timers, (m.heap j).next ≤ (m.heap i).next) := by
  obtain ⟨a, b, hab, hinsert, hord⟩ := h.insert
  refine ⟨a.length == 0 && !m.tickled, a ++ i :: b, ?_, hord, fun j => ?_, fun hfront => ?_⟩
  · rw [insertTimer, hinsert]
  · rw [hab, List.mem_append, List.mem_append, List.mem_cons]
    exact or_left_comm
  · cases a with
    | nil =>
      left
      simpa using hfront
    | cons j a =>
      refine .inr ⟨j, by rw [hab]; simp, ?_⟩
      have hlt := (List.pairwise_cons.1 hord.sorted).1 i (by simp)
      rcases Prod.Lex.toLex_lt_toLex.1 hlt with hlt | ⟨heq, -⟩
      · exact hlt.le
      · exact heq.le

theorem addTimer_ret (h : Inv m) {ms : ℕ} {cb : Option C} {recurring : Bool} {addr now : ℕ}
    (haddr : ∀ j ∈ m.timers, (m.heap j).addr ≠ addr) : ∃ heap front l',
    heap = Function.update m.heap m.count ⟨addr, recurring, ms, (now + ms) % 2 ^ 64, cb⟩ ∧
      addTimer m ms cb recurring addr now =
        (front, ⟨heap, m.count + 1, l', m.tickled || front, m.previouseTime⟩) ∧
      Ordered heap (m.count + 1) [] l' ∧ (∀ j, j ∈ l' ↔ j = m.count ∨ j ∈ m.timers) ∧
      (front = false → m.tickled = true ∨ ∃ j ∈ m.timers, (heap j).next ≤ (now + ms) % 2 ^ 64) := by
  obtain ⟨front, l', hinsert, hord, hmem, hfront⟩ := insertTimer_ret (m := { m with
    heap := Function.update m.heap m.count ⟨addr, recurring, ms, (now + ms) % 2 ^ 64, cb⟩
    count := m.count + 1 }) (h.create haddr)
  refine ⟨_, front, l', rfl, hinsert, hord, hmem, fun hf => ?_⟩
  simpa only [Function.update_self] using hfront hf

theorem cancel_ret (h : Inv m) (i : ℕ) :
    ((m.heap i).cb = none ∧ cancel m i = some (false, m)) ∨
      ((m.heap i).cb ≠ none ∧ ∃ heap l', heap = Function.update m.heap i { m.heap i with cb := none } ∧
        cancel m i = some (true, { m with heap := heap, timers := l' }) ∧
        Ordered heap m.count [] l' ∧ ∀ j, j ∈ l' ↔ j ≠ i ∧ j ∈ m.timers) := by
  by_cases hcb : (m.heap i).cb = none
  · exact .inl ⟨hcb, by rw [cancel, hcb]; rfl⟩
  · obtain ⟨a, b, hab, hfind, hlen, herase, hord⟩ := h.erase (h.mem_of_cb i hcb)
    have hkey : key (Function.update m.heap i { m.heap i with cb := none }) = key m.heap := by
      funext j
      by_cases hj : j = i
      · rw [hj, key, key, Function.update_self]
      · exact key_update hj
    refine .inr ⟨hcb, _, a ++ b, rfl, ?_, ?_, fun j => ?_⟩
    · rw [cancel, if_pos (Option.isSome_iff_ne_none.2 hcb)]
      simp only [hkey, hfind, if_neg hlen, herase]
    · exact (hord.update { m.heap i with cb := none } rfl).drop (by rw [Function.update_self])
    · have hnodup := hord.nodup
      rw [List.singleton_append, List.nodup_cons] at hnodup
      rw [hab, List.mem_append, List.mem_append, List.mem_cons]
      constructor
      · intro hj
        refine ⟨?_, hj.imp_right .inr⟩
        rintro rfl
        exact hnodup.1 (List.mem_append.2 hj)
      · rintro ⟨hne, hj⟩
        exact hj.imp_right fun h => h.resolve_left hne

theorem refresh_ret (h : Inv m) (i now : ℕ) :
    ((m.heap i).cb = none ∧ refresh m i now = (false, m)) ∨
      ((m.heap i).cb ≠ none ∧ ∃ heap l',
        heap = Function.update m.heap i { m.heap i with next := (now + (m.heap i).ms) % 2 ^ 64 } ∧
        refresh m i now = (true, { m with heap := heap, timers := l' }) ∧
        Ordered heap m.count [] l' ∧ ∀ j, j ∈ l' ↔ j ∈ m.timers) := by
  by_cases hcb : (m.heap i).cb = none
  · exact .inl ⟨hcb, by rw [refresh, hcb]; rfl⟩
  · obtain ⟨a, b, hab, hfind, hlen, herase, hord⟩ := h.erase (h.mem_of_cb i hcb)
    obtain ⟨c, d, hcd, hinsert, hord'⟩ := (hord.update
      { m.heap i with next := (now + (m.heap i).ms) % 2 ^ 64 } rfl).insert
    refine .inr ⟨hcb, _, c ++ i :: d, rfl, ?_, hord', fun j => ?_⟩
    · have hsome : ¬(m.heap i).cb.isNone := by rwa [Option.isNone_iff_eq_none]
      rw [refresh, if_neg hsome]
      simp only [hfind, if_neg hlen, herase, hinsert]
    · have hperm : (a ++ i :: b).Perm (c ++ i :: d) :=
        List.perm_middle.trans ((List.Perm.of_eq (congrArg (i :: ·) hcd)).trans List.perm_middle.symm)
      rw [hab, hperm.mem_iff]

theorem resetLocked_ret (h : Inv m) (i ms : ℕ) (fromNow : Bool) (now : ℕ) :
    ((m.heap i).cb = none ∧ resetLocked m i ms fromNow now = (false, false, m)) ∨
      ((m.heap i).cb ≠ none ∧ ∃ next heap front l',
        heap = Function.update m.heap i { m.heap i with ms := ms, next := next } ∧
        resetLocked m i ms fromNow now =
          (true, front, { m with heap := heap, timers := l', tickled := m.tickled || front }) ∧
        Ordered heap m.count [] l' ∧ (∀ j, j ∈ l' ↔ j ∈ m.timers) ∧
        (front = false → m.tickled = true ∨ ∃ j ∈ m.timers, j ≠ i ∧ (m.heap j).next ≤ next)) := by
  by_cases hcb : (m.heap i).cb = none
  · exact .inl ⟨hcb, by rw [resetLocked, hcb]; rfl⟩
  · obtain ⟨a, b, hab, hfind, hlen, herase, hord⟩ := h.erase (h.mem_of_cb i hcb)
    obtain ⟨start, hstart⟩ : ∃ start,
      start = if fromNow then now else ((m.heap i).next + 2 ^ 64 - (m.heap i).ms) % 2 ^ 64 := ⟨_, rfl⟩
    obtain ⟨front, l', hinsert, hord', hmem, hfront⟩ := insertTimer_ret (m := { m with
      heap := Function.update m.heap i { m.heap i with ms := ms, next := (start + ms) % 2 ^ 64 }
      timers := a ++ b }) (i := i) (hord.update _ rfl)
    refine .inr ⟨hcb, (start + ms) % 2 ^ 64, _, front, l', rfl, ?_, hord', fun j => ?_, fun hf => ?_⟩
    · have hsome : ¬(m.heap i).cb.isNone := by rwa [Option.isNone_iff_eq_none]
      rw [resetLocked, if_neg hsome]
      simp only [hfind, if_neg hlen, herase, ← hstart, hinsert]
    · rw [hmem, hab, List.mem_append, List.mem_append, List.mem_cons]
      exact or_left_comm
    · refine (hfront hf).imp_right ?_
      rintro ⟨j, hj, hle⟩
      have hji : j ≠ i := by
        rintro rfl
        have hnodup := hord.nodup
        rw [List.singleton_append, List.nodup_cons] at hnodup
        exact hnodup.1 hj
      simp only [Function.update_of_ne hji, Function.update_self] at hle
      refine ⟨j, ?_, hji, hle⟩
      rw [hab]
      rcases List.mem_append.1 hj with hj | hj <;> simp [hj]

theorem next_le {a b : List ℕ} {j : ℕ} (h : SortedBy (key m.heap) (a ++ i :: b)) (hj : j ∈ i :: b) :
    (m.heap i).next ≤ (m.heap j).next := by
  rcases List.mem_cons.1 hj with rfl | hj
  · exact le_rfl
  · have hlt := List.rel_of_pairwise_cons (List.pairwise_append.1 h).2.1 hj
    rcases Prod.Lex.toLex_lt_toLex.1 hlt with hlt | ⟨heq, -⟩
    · exact hlt.le
    · exact heq.le

/-- **The timers that have expired** are the first ones. -/
theorem expiredEnd_ret (h : Inv m) (now addr : ℕ) : ∃ a b, m.timers = a ++ b ∧
    expiredEnd m false now addr = a.length ∧ (∀ j ∈ a, (m.heap j).next ≤ now) ∧
      ∀ j ∈ b, now < (m.heap j).next := by
  obtain ⟨a, b, hab, ha, hb⟩ := exists_split h.sorted (toLex (now, addr))
  have hsorted := h.sorted
  rw [hab] at hsorted
  have ha' : ∀ j ∈ a, (m.heap j).next ≤ now := by
    intro j hj
    rcases Prod.Lex.toLex_lt_toLex.1 (ha j hj) with hlt | ⟨heq, -⟩
    · exact hlt.le
    · exact heq.le
  have hb' : ∀ j ∈ b, now ≤ (m.heap j).next := by
    intro j hj
    by_contra hlt
    exact hb j hj (Prod.Lex.toLex_lt_toLex.2 (.inl (not_le.1 hlt)))
  have hlow := setLower_append ha hb
  have hsplit : b = b.takeWhile (fun j => (m.heap j).next = now) ++
      b.dropWhile fun j => (m.heap j).next = now :=
    List.takeWhile_append_dropWhile.symm
  refine ⟨a ++ b.takeWhile fun j => (m.heap j).next = now, b.dropWhile fun j => (m.heap j).next = now,
    ?_, ?_, fun j hj => ?_, fun j hj => ?_⟩
  · rw [List.append_assoc, ← hsplit, hab]
  · rw [expiredEnd, if_neg (by simp), hab, hlow, List.drop_left, List.length_append]
  · rcases List.mem_append.1 hj with hj | hj
    · exact ha' j hj
    · have heq := List.mem_takeWhile_imp (p := fun j => decide ((m.heap j).next = now)) hj
      exact (of_decide_eq_true heq).le
  · cases hc : b.dropWhile fun j => (m.heap j).next = now with
    | nil => rw [hc] at hj; cases hj
    | cons k c =>
      rw [hc] at hj hsplit
      have hk : (m.heap k).next ≠ now := by
        have hnot := List.head_dropWhile_not (p := fun j => decide ((m.heap j).next = now)) (l := b) (by rw [hc]; simp)
        simpa [hc] using hnot
      have hkb : k ∈ b := by rw [hsplit]; simp
      have hle : (m.heap k).next ≤ (m.heap j).next := by
        refine next_le (a := a ++ b.takeWhile fun j => (m.heap j).next = now) (b := c) ?_ hj
        rw [List.append_assoc, ← hsplit]
        exact hsorted
      exact (lt_of_le_of_ne (hb' k hkb) hk.symm).trans_le hle

/-- **The expired timers** leave the set with their callbacks, and the recurring ones are put back. -/
theorem listLocked_ret (h : Inv m) (now addr : ℕ) : ∃ a b heap l' previouseTime,
    m.timers = a ++ b ∧ listLocked m now addr =
        (a, a.map fun i => (m.heap i).cb, ⟨heap, m.count, l', m.tickled, previouseTime⟩) ∧
      Ordered heap m.count [] l' ∧ (∀ i, i ∉ a → heap i = m.heap i) ∧
      (∀ i ∈ a, heap i = if (m.heap i).recurring
        then { m.heap i with next := (now + (m.heap i).ms) % 2 ^ 64 } else { m.heap i with cb := none }) ∧
      (∀ i, i ∈ l' ↔ i ∈ b ∨ (i ∈ a ∧ (m.heap i).recurring)) ∧
      (m.previouseTime ≤ now → previouseTime ≤ now ∧ (∀ j ∈ a, (m.heap j).next ≤ now) ∧
        ∀ j ∈ b, now < (m.heap j).next) := by
  rw [listLocked]
  cases hm : m.timers with
  | nil =>
    obtain ⟨heap, count, timers, tickled, previouseTime⟩ := m
    obtain rfl : timers = [] := hm
    exact ⟨[], [], heap, [], previouseTime, rfl, rfl, h, fun i _ => rfl, fun i hi => (nomatch hi),
      by simp, fun hle => ⟨hle, fun j hj => (nomatch hj), fun j hj => (nomatch hj)⟩⟩
  | cons front rest =>
    have hroll : m.previouseTime ≤ now → (detectClockRollover m now).1 = false := fun hle =>
      decide_eq_false fun hlt => (not_lt.2 hle) hlt.1
    obtain ⟨rollover, hdetect⟩ : ∃ rollover,
        detectClockRollover m now = (rollover, { m with previouseTime := now }) := ⟨_, rfl⟩
    rw [hdetect] at hroll
    simp only [hdetect]
    by_cases hwait : (!rollover && decide (now < (m.heap front).next)) = true
    · rw [if_pos hwait]
      rw [Bool.and_eq_true, decide_eq_true_eq] at hwait
      refine ⟨[], front :: rest, m.heap, m.timers, now, rfl, by rw [hm]; rfl, h, fun i _ => rfl,
        fun i hi => (nomatch hi), by simp [hm], fun _ => ⟨le_rfl, fun j hj => (nomatch hj), fun j hj => ?_⟩⟩
      have hsorted := h.sorted
      rw [hm] at hsorted
      exact hwait.2.trans_le (next_le (a := []) hsorted hj)
    · rw [if_neg hwait]
      obtain ⟨it, hit⟩ : ∃ it, it = expiredEnd { m with previouseTime := now } rollover now addr := ⟨_, rfl⟩
      have hord := h
      rw [Inv, ← List.take_append_drop it m.timers] at hord
      obtain ⟨heap, l', hrearm, hord', hother, hexp, hmem⟩ := rearm_ret now hord.split
      refine ⟨m.timers.take it, m.timers.drop it, heap, l', now, ?_, ?_, hord', hother, hexp, hmem,
        fun hle => ⟨le_rfl, ?_⟩⟩
      · rw [← hm, List.take_append_drop]
      · simp only [← hit, hrearm]
      · obtain ⟨a, b, hab, hend, ha, hb⟩ := expiredEnd_ret (m := { m with previouseTime := now }) h now addr
        have hr : rollover = false := hroll hle
        rw [hr, hend] at hit
        have hab : m.timers = a ++ b := hab
        rw [hit, hab, List.take_left, List.drop_left]
        exact ⟨ha, hb⟩

theorem getNextTimer_ret (h : Inv m) (now : ℕ) :
    Inv (getNextTimer m now).2 ∧ (getNextTimer m now).2.timers = m.timers ∧
      (getNextTimer m now).2.heap = m.heap ∧ (getNextTimer m now).2.tickled = false := by
  rw [getNextTimer]
  dsimp only
  split <;> exact ⟨h, rfl, rfl, rfl⟩

theorem listExpiredCb_eq (m : TimerManager C) (now addr : ℕ) :
    listExpiredCb m now addr = listLocked m now addr := by
  rw [listExpiredCb]
  split_ifs with hempty
  · rw [listLocked, hempty]
  · rfl

end

end TimerManager

end Ancfl
