/-
  The names of shared memory segments: `CreateShareMemory` and `MapShareMemory`.

  * `createId` and `mapId` are the project ids the two give to `ftok`, where
    their sums are an `int`;
  * the segments that exist are a map from keys; `CreateShareMemory` removes the
    one under its key first;
  * `same_iff`: when the two ids of a page give one key; `keeps_iff`: when the
    creation of a page keeps the segment of another.
-/
import Mathlib.Data.Finmap

namespace Ancfl.Game.Segments

/-- The arguments that name a segment, neither of them negative. -/
structure Page where
  module_id : ℕ
  page_index : ℕ
deriving DecidableEq

namespace Page

variable (x : Page)

/-- The project id of `CreateShareMemory`, if the sum is an `int`. -/
def createId : Option ℕ :=
  if x.module_id * 10 + x.page_index < 2 ^ 31 then
    let proj_id := (x.module_id * 10 + x.page_index) % 255
    some (if proj_id = 0 then 1 else proj_id)
  else none

/-- The project id of `MapShareMemory`, if the sum is an `int`. -/
def mapId : Option ℕ :=
  if x.module_id * 256 + x.page_index < 2 ^ 31 then some (x.module_id * 256 + x.page_index) else none

end Page

/-- A segment, and the page it was made for. -/
structure Segment where
  page : Page
  shmid : ℕ
  size : ℤ
deriving DecidableEq

section
variable {K : Type} [DecidableEq K] (ftok : ℕ → K)

/-- The segments that `shmget` finds. -/
abbrev Shm (K : Type) := Finmap fun _ : K => Segment

/-- The retries: what the system refuses for another reason than a segment with that key. -/
def retry (key : K) (segment : Segment) : List Bool → Shm K → Option ℕ × Shm K
  | [], shm => (none, shm)
  | refused :: more, shm =>
    if !refused ∧ key ∉ shm then (some (segment.shmid + 1), shm.insert key segment)
    else retry key segment more (shm.erase key)

/-- The handle and the segments afterwards; `shmid` is the id the system gives. -/
def CreateShareMemory (x : Page) (size : ℤ) (shmid : ℕ) (refused : Bool × Bool × Bool) (shm : Shm K) :
    Option (Option ℕ × Shm K) :=
  x.createId.map fun proj_id =>
    let key := ftok proj_id
    retry key ⟨x, shmid, size⟩ [refused.1, refused.2.1, refused.2.2] (shm.erase key)

/-- The segment that is attached, if `attached` says that it can be. -/
def MapShareMemory (x : Page) (size : ℤ) (attached : Bool) (shm : Shm K) : Option (Option Segment) :=
  x.mapId.map fun proj_id =>
    (shm.lookup (ftok proj_id)).filter fun segment => size ≤ segment.size ∧ attached

/-! ## What is to hold, and when -/

/-- `ftok` tells project ids apart by their low 8 bits, and by nothing else. -/
def Ftok : Prop := ∀ i j, ftok i = ftok j ↔ i % 256 = j % 256

/-- Both use the same key for the page. -/
def SameKey (x : Page) : Prop := ∃ i j, x.createId = some i ∧ x.mapId = some j ∧ ftok i = ftok j

/-- They have different keys in `CreateShareMemory`. -/
def Differ (x y : Page) : Prop := ∃ i j, x.createId = some i ∧ y.createId = some j ∧ ftok i ≠ ftok j

/-- The creation of `y` leaves the segment of `x` where it is. -/
def Keeps (x y : Page) : Prop :=
  ∃ i, x.createId = some i ∧ ∀ (shm : Shm K) segment, segment.page = x →
    shm.lookup (ftok i) = some segment → ∀ size shmid refused, ∃ out,
      CreateShareMemory ftok y size shmid refused shm = some out ∧ out.2.lookup (ftok i) = some segment

/-- With `b` the low byte of the page index and `a` the rest: `b` is no multiple of 255 and
    `10 m + a` is one, or `b` is 1 and `10 m + a + 1` is one. -/
def Agree (x : Page) : Prop :=
  x.module_id * 256 + x.page_index < 2 ^ 31 ∧
    (x.page_index % 256 ≠ 0 ∧ x.page_index % 256 ≠ 255 ∧
        (x.module_id * 10 + x.page_index / 256) % 255 = 0 ∨
      x.page_index % 256 = 1 ∧ (x.module_id * 10 + x.page_index / 256 + 1) % 255 = 0)

/-- The remainder of which `CreateShareMemory` makes its id. -/
def Page.residue (x : Page) : ℕ := (x.module_id * 10 + x.page_index) % 255

/-- The remainders differ, and not as 0 and 1 do. -/
def Apart (x y : Page) : Prop :=
  x.module_id * 10 + x.page_index < 2 ^ 31 ∧ y.module_id * 10 + y.page_index < 2 ^ 31 ∧
    x.residue ≠ y.residue ∧ ¬(x.residue ≤ 1 ∧ y.residue ≤ 1)

instance (x : Page) : Decidable (Agree x) := inferInstanceAs (Decidable (_ ∧ _))

instance (x y : Page) : Decidable (Apart x y) := inferInstanceAs (Decidable (_ ∧ _))

variable {ftok}

/-- The id, which is between 1 and 254. -/
def Page.id (x : Page) : ℕ := if x.residue = 0 then 1 else x.residue

theorem createId_eq_some_iff {x : Page} {i : ℕ} :
    x.createId = some i ↔ x.module_id * 10 + x.page_index < 2 ^ 31 ∧ x.id = i := by
  rw [Page.createId]
  split_ifs with h
  · exact Option.some_inj.trans (and_iff_right h).symm
  · exact iff_of_false nofun fun hi => h hi.1

theorem mapId_eq_some_iff {x : Page} {j : ℕ} : x.mapId = some j ↔
    x.module_id * 256 + x.page_index < 2 ^ 31 ∧ x.module_id * 256 + x.page_index = j := by
  rw [Page.mapId]
  split_ifs with h
  · exact Option.some_inj.trans (and_iff_right h).symm
  · exact iff_of_false nofun fun hj => h hj.1

theorem id_lt (x : Page) : x.id < 255 := by
  rw [Page.id, Page.residue]
  split_ifs <;> omega

omit [DecidableEq K] in
/-- **One key for the page.** -/
theorem sameKey_iff (h : Ftok ftok) (x : Page) : SameKey ftok x ↔ Agree x := by
  have hid := id_lt x
  have hkey : SameKey ftok x ↔ x.module_id * 256 + x.page_index < 2 ^ 31 ∧ x.id = x.page_index % 256 := by
    constructor
    · rintro ⟨i, j, hi, hj, hij⟩
      obtain ⟨-, rfl⟩ := createId_eq_some_iff.1 hi
      obtain ⟨hlt, rfl⟩ := mapId_eq_some_iff.1 hj
      rw [h] at hij
      exact ⟨hlt, by omega⟩
    · rintro ⟨hlt, hsame⟩
      refine ⟨_, _, createId_eq_some_iff.2 ⟨by omega, rfl⟩, mapId_eq_some_iff.2 ⟨hlt, rfl⟩, ?_⟩
      rw [h]
      omega
  rw [hkey, Agree, Page.id, Page.residue]
  refine and_congr_right fun _ => ?_
  split_ifs
  · omega
  · omega

omit [DecidableEq K] in
/-- **Different keys for two pages.** -/
theorem differ_iff (h : Ftok ftok) (x y : Page) : Differ ftok x y ↔ Apart x y := by
  have hx := id_lt x
  have hy := id_lt y
  have hkeys : ftok x.id ≠ ftok y.id ↔ x.residue ≠ y.residue ∧ ¬(x.residue ≤ 1 ∧ y.residue ≤ 1) := by
    rw [ne_eq, h, Nat.mod_eq_of_lt (by omega), Nat.mod_eq_of_lt (by omega), Page.id, Page.id]
    split_ifs <;> omega
  rw [Apart, ← hkeys]
  constructor
  · rintro ⟨i, j, hi, hj, hij⟩
    obtain ⟨hltx, rfl⟩ := createId_eq_some_iff.1 hi
    obtain ⟨hlty, rfl⟩ := createId_eq_some_iff.1 hj
    exact ⟨hltx, hlty, hij⟩
  · rintro ⟨hltx, hlty, hij⟩
    exact ⟨_, _, createId_eq_some_iff.2 ⟨hltx, rfl⟩, createId_eq_some_iff.2 ⟨hlty, rfl⟩, hij⟩

theorem retry_lookup_ne {key k : K} (hk : k ≠ key) (segment : Segment) (refusals : List Bool)
    (shm : Shm K) : (retry key segment refusals shm).2.lookup k = shm.lookup k := by
  induction refusals generalizing shm with
  | nil => rfl
  | cons refused more ih =>
    rw [retry]
    split_ifs
    · exact Finmap.lookup_insert_of_ne shm hk
    · rw [ih, Finmap.lookup_erase_ne hk]

/-- What the key finds afterwards is the new segment, or nothing. -/
theorem retry_lookup {key : K} {segment segment' : Segment} {refusals : List Bool} {shm : Shm K}
    (hkey : key ∉ shm) (h : (retry key segment refusals shm).2.lookup key = some segment') :
    segment' = segment := by
  induction refusals generalizing shm with
  | nil => exact absurd (Finmap.mem_of_lookup_eq_some h) hkey
  | cons refused more ih =>
    rw [retry] at h
    split_ifs at h
    · exact (Option.some.inj ((Finmap.lookup_insert shm).symm.trans h)).symm
    · exact ih (Finmap.notMem_erase_self) h

theorem createShareMemory_eq {y : Page} {j : ℕ} (hj : y.createId = some j) (size : ℤ) (shmid : ℕ)
    (refused : Bool × Bool × Bool) (shm : Shm K) : CreateShareMemory ftok y size shmid refused shm =
      some (retry (ftok j) ⟨y, shmid, size⟩ [refused.1, refused.2.1, refused.2.2] (shm.erase (ftok j))) := by
  rw [CreateShareMemory, hj, Option.map_some]

/-- **The segment of another page is kept** exactly if the keys differ. -/
theorem keeps_iff_differ {x y : Page} (hxy : x ≠ y) : Keeps ftok x y ↔ Differ ftok x y := by
  constructor
  · rintro ⟨i, hi, hkeeps⟩
    let segment : Segment := ⟨x, 0, 0⟩
    obtain ⟨out, hcreate, hlookup⟩ := hkeeps (Finmap.singleton (ftok i) segment) segment rfl
      Finmap.lookup_singleton_eq 0 0 (false, false, false)
    obtain ⟨j, hj, -⟩ := Option.map_eq_some_iff.1 hcreate
    have hretry := Option.some.inj ((createShareMemory_eq hj ..).symm.trans hcreate)
    refine ⟨i, j, hi, hj, fun hij => hxy ?_⟩
    -- the key finds the new segment or nothing
    rw [hij, ← hretry] at hlookup
    exact congrArg Segment.page (retry_lookup Finmap.notMem_erase_self hlookup)
  · rintro ⟨i, j, hi, hj, hij⟩
    refine ⟨i, hi, fun shm segment _ hsegment size shmid refused => ?_⟩
    refine ⟨_, createShareMemory_eq hj .., ?_⟩
    rw [retry_lookup_ne hij, Finmap.lookup_erase_ne hij, hsegment]

/-- **Segments are named consistently** exactly under these conditions on the pages. -/
theorem named_iff (h : Ftok ftok) (x y : Page) :
    (SameKey ftok x ↔ Agree x) ∧
    (x ≠ y → (Differ ftok x y ↔ Apart x y) ∧ (Keeps ftok x y ↔ Apart x y)) :=
  ⟨sameKey_iff h x, fun hxy => ⟨differ_iff h x y, (keeps_iff_differ hxy).trans (differ_iff h x y)⟩⟩

end

theorem ftok_mod : Ftok (· % 256) := fun _ _ => Iff.rfl

/-- The pages 2 and 3 of module 0. -/
theorem named_two : SameKey (· % 256) ⟨0, 2⟩ ∧ Keeps (· % 256) ⟨0, 2⟩ ⟨0, 3⟩ :=
  have hnamed := named_iff ftok_mod ⟨0, 2⟩ ⟨0, 3⟩
  ⟨hnamed.1.2 (by decide), (hnamed.2 (by decide)).2.2 (by decide)⟩

/-- **The page 0 of module 0 has two keys**, and the creation of page 1 removes its segment. -/
theorem not_named : ¬∀ (ftok : ℕ → ℕ) (x y : Page), Ftok ftok → x ≠ y →
    SameKey ftok x ∧ Differ ftok x y ∧ Keeps ftok x y := by
  intro h
  obtain ⟨-, hdiffer, -⟩ := h _ ⟨0, 0⟩ ⟨0, 1⟩ ftok_mod (by decide)
  exact absurd ((differ_iff ftok_mod _ _).1 hdiffer) (by decide)

end Ancfl.Game.Segments
