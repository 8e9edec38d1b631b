/-
  The block pool of `SharedMemoryBase`.

  * A page is mapped memory: the data areas of its blocks, and behind them its
    table of `SMBlock`s; a pointer is an address, and `GetBlockIndex` finds its
    page and block by address arithmetic;
  * `Sys` keeps the pointers that are allocated as well: `live` lets a `Free`
    of any pointer into a block free the block, `held` only that of the
    pointer that `Allocate` returned;
  * `pool_of_fits`: the pool is sound in a run in which neither the data area of
    a page nor the number of blocks exceeds an `int32_t`.
-/
import Ancfl.Lib.Int32
import Ancfl.Lib.Run
import Mathlib.Algebra.BigOperators.Group.List.Basic
import Mathlib.Data.Finset.Basic

namespace Ancfl.Game.SharedMemory

open Lib

/-! ## The pool -/

/-- An entry of the table of a page, and of the object in the data area of the block the time of its
    last change. -/
structure Block where
  index : ℤ
  in_use : Bool
  new_block : Bool
  before_time : ℤ
  after_time : ℤ
  update_time : ℤ
deriving DecidableEq

/-- The block is given back. -/
def Block.clear (block : Block) : Block := { block with in_use := false, new_block := false }

/-- `table` is what `blocks` points to. -/
structure ShareMemoryPage where
  data : ℤ
  blocks : ℤ
  size : ℤ
  block_count : ℤ
  table : List Block
deriving DecidableEq

structure SharedMemoryBase where
  block_size : ℤ
  count_per_page : ℤ
  page_count : ℤ
  used_blocks : ℤ
  pages : List ShareMemoryPage
deriving DecidableEq

/-- `sizeof(ShareObject)` and `sizeof(SMBlock)`. -/
def sizeofShareObject : ℤ := 64

def sizeofSMBlock : ℤ := 24

/-- The constructor. -/
def SharedMemoryBase.new (block_size count_per_page : ℤ) : SharedMemoryBase :=
  ⟨if block_size < sizeofShareObject then sizeofShareObject else block_size, count_per_page, 0, 0, []⟩

namespace SharedMemoryBase

variable (s : SharedMemoryBase)

/-- `count_per_page_ * (block_size + sizeof(SMBlock))`, a `size_t`, as an `int32_t`. -/
def pageSize : ℤ := toInt32 (s.count_per_page * (s.block_size + sizeofSMBlock))

/-- The initial entries of the table of a new page. -/
def newTable : List Block :=
  (List.range s.count_per_page.toNat).map fun i : ℕ =>
    ⟨toInt32 (s.page_count * s.count_per_page + i), false, false, 0, 0, 0⟩

/-- `data` is where the new page is mapped, if it can be created.  The product
    `count_per_page_ * block_size` is an `int`. -/
def NewPage (data : Option ℤ) : Option SharedMemoryBase :=
  data.map fun data => { s with
    page_count := toInt32 (s.page_count + 1)
    pages := s.pages ++ [{
      data := data
      blocks := data + toInt32 (s.count_per_page * s.block_size)
      size := s.pageSize
      block_count := s.count_per_page
      table := s.newTable }] }

/-- Change a block. -/
def modify (i j : ℕ) (f : Block → Block) : SharedMemoryBase :=
  { s with pages := s.pages.modify i fun page => { page with table := page.table.modify j f } }

/-- The first block that is not in use, from page `i` on. -/
def firstFree : List ShareMemoryPage → ℕ → Option (ℕ × ℕ)
  | [], _ => none
  | page :: pages, i =>
    match page.table.findIdx? fun block => !block.in_use with
    | some j => some (i, j)
    | none => firstFree pages (i + 1)

/-- Mark a block and make its object. -/
def take (i j : ℕ) (time : ℤ) : Option ℤ × SharedMemoryBase :=
  match s.pages[i]? with
  | none => (none, s)
  | some page =>
    (some (page.data + toInt32 (j * s.block_size)),
      { s.modify i j fun block => { block with
          in_use := true, new_block := true, before_time := time, update_time := time } with
        used_blocks := toInt32 (s.used_blocks + 1) })

def Allocate (time : ℤ) (data : Option ℤ) : Option ℤ × SharedMemoryBase :=
  match firstFree s.pages 0 with
  | some (i, j) => s.take i j time
  | none =>
    match s.NewPage data with
    | none => (none, s)
    | some s => s.take (s.pages.length - 1) 0 time

/-- The loop of `GetBlockIndex`, from page `i` on. -/
def blockIndex (data : ℤ) : List ShareMemoryPage → ℕ → Option (ℕ × ℤ)
  | [], _ => none
  | page :: pages, i =>
    let data_area_size := toUInt64 (toInt32 (page.block_count * s.block_size))
    if page.data ≤ data ∧ data < page.data + data_area_size then
      some (i, toInt32 ((data - page.data) / s.block_size))
    else blockIndex data pages (i + 1)

def GetBlockIndex (data : ℤ) : Option (ℕ × ℤ) := s.blockIndex data s.pages 0

def Free (data : ℤ) : SharedMemoryBase :=
  match s.GetBlockIndex data with
  | none => s
  | some (page_index, block_index) =>
    match s.pages[page_index]? with
    | none => s
    | some page =>
      if block_index < 0 ∨ page.block_count ≤ block_index then s
      else
        match page.table[block_index.toNat]? with
        | none => s
        | some block =>
          if block.in_use then
            { s.modify page_index block_index.toNat Block.clear with
              used_blocks := toInt32 (s.used_blocks - 1) }
          else s

/-- The loop of `CleanExpiredData` over the blocks of a page, and `used_blocks_`. -/
def cleanBlocks (expired_time : ℤ) : List Block → ℤ → List Block × ℤ
  | [], used_blocks => ([], used_blocks)
  | block :: table, used_blocks =>
    if block.in_use = true ∧ block.update_time < expired_time then
      let (table, used_blocks) := cleanBlocks expired_time table (toInt32 (used_blocks - 1))
      (block.clear :: table, used_blocks)
    else
      let (table, used_blocks) := cleanBlocks expired_time table used_blocks
      (block :: table, used_blocks)

def cleanPages (expired_time : ℤ) : List ShareMemoryPage → ℤ → List ShareMemoryPage × ℤ
  | [], used_blocks => ([], used_blocks)
  | page :: pages, used_blocks =>
    let (table, used_blocks) := cleanBlocks expired_time page.table used_blocks
    let (pages, used_blocks) := cleanPages expired_time pages used_blocks
    ({ page with table := table } :: pages, used_blocks)

def CleanExpiredData (expired_time : ℤ) : SharedMemoryBase :=
  let (pages, used_blocks) := cleanPages expired_time s.pages s.used_blocks
  { s with pages := pages, used_blocks := used_blocks }

def GetBlockCount : ℤ := toInt32 (s.page_count * s.count_per_page)

/-- `Lock`, `Unlock` or another method of the object at `data`, called by its owner. -/
def touch (data time : ℤ) : SharedMemoryBase :=
  match s.GetBlockIndex data with
  | none => s
  | some (i, j) => s.modify i j.toNat fun block => { block with update_time := time }

/-- A block, by its page and its place there. -/
def block? (i j : ℕ) : Option Block := (s.pages[i]?).bind fun page => page.table[j]?

/-- The object at `data` was last changed before `expired_time`. -/
def expired (expired_time data : ℤ) : Bool :=
  match (s.GetBlockIndex data).bind fun (i, j) => s.block? i j.toNat with
  | some block => block.update_time < expired_time
  | none => false

end SharedMemoryBase

/-! ## Runs -/

/-- The pool, and the pointers that are allocated: returned by `Allocate`, not freed and not expired
    since.  A `Free` of a pointer into the data of a block ends the block in `live`; in `held` only
    one of the pointer that was returned does. -/
structure Sys where
  pool : SharedMemoryBase
  live : Finset ℤ
  held : Finset ℤ

inductive Label
  /-- `data` is the address of the new page, if the call needs one and it can be created -/
  | allocate (time : ℤ) (data : Option ℤ)
  | free (data : ℤ)
  | clean (expired_time : ℤ)
  | touch (data time : ℤ)

def init (block_size count_per_page : ℤ) : Sys := ⟨.new block_size count_per_page, ∅, ∅⟩

def next (s : Sys) : Label → Sys
  | .allocate time data =>
    match s.pool.Allocate time data with
    | (some p, pool) => ⟨pool, insert p s.live, insert p s.held⟩
    | (none, pool) => ⟨pool, s.live, s.held⟩
  | .free q => ⟨s.pool.Free q, s.live.filter fun p => ¬(p ≤ q ∧ q < p + s.pool.block_size),
    s.held.erase q⟩
  | .clean expired_time => ⟨s.pool.CleanExpiredData expired_time,
    s.live.filter fun p => s.pool.expired expired_time p = false,
    s.held.filter fun p => s.pool.expired expired_time p = false⟩
  | .touch data time => ⟨s.pool.touch data time, s.live, s.held⟩

/-- The system maps a page of a positive size, and where no page is mapped. -/
def Mapped (s : SharedMemoryBase) (data : ℤ) : Prop :=
  0 < s.pageSize ∧ ∀ page ∈ s.pages, data + s.pageSize ≤ page.data ∨ page.data + page.size ≤ data

def step (s : Sys) (l : Label) (s' : Sys) : Prop :=
  (∀ time data, l = .allocate time (some data) → Mapped s.pool data) ∧ s' = next s l

/-- A block in use, and the address of its data. -/
def Allocated (s : SharedMemoryBase) (i j : ℕ) (data : ℤ) : Prop :=
  ∃ page block, s.pages[i]? = some page ∧ page.table[j]? = some block ∧ block.in_use = true ∧
    data = page.data + toInt32 (j * s.block_size)

/-- What the pool promises: the counters are right, the data of the allocated blocks overlaps neither
    that of another nor a table, and the allocated blocks are those whose pointers are live. -/
structure Sound (s : Sys) : Prop where
  used : s.pool.used_blocks = ((s.pool.pages.map (·.table)).flatten.countP (·.in_use) : ℕ)
  count : s.pool.GetBlockCount = s.pool.pages.length * s.pool.count_per_page
  apart : ∀ i j data i' j' data', Allocated s.pool i j data → Allocated s.pool i' j' data' →
    (i, j) ≠ (i', j') → data + s.pool.block_size ≤ data' ∨ data' + s.pool.block_size ≤ data
  tables : ∀ i j data page, Allocated s.pool i j data → page ∈ s.pool.pages →
    data + s.pool.block_size ≤ page.blocks ∨
      page.blocks + page.block_count * sizeofSMBlock ≤ data
  live : ∀ data, data ∈ s.live ↔ ∃ i j, Allocated s.pool i j data

/-- The blocks are fewer than `2 ^ 31`, also with the page that is made when none is free. -/
def Room (s : SharedMemoryBase) : Label → Prop
  | .allocate _ _ => SharedMemoryBase.firstFree s.pages 0 = none →
    (s.pages.length + 1) * s.count_per_page < 2 ^ 31
  | _ => True

/-- No pointer into the middle of a live block is freed. -/
def Exact (s : Sys) : Label → Prop
  | .free q => ∀ p ∈ s.live, p ≤ q → q < p + s.pool.block_size → q = p
  | _ => True

/-! ## The layout of the pages -/

/-- What of a page never changes. -/
def ShareMemoryPage.shape (page : ShareMemoryPage) : ℤ × ℤ × ℤ × ℤ × ℕ :=
  (page.data, page.blocks, page.size, page.block_count, page.table.length)

/-- The pages have the sizes that they should have, and do not overlap. -/
structure Layout (s : SharedMemoryBase) : Prop where
  size : sizeofShareObject ≤ s.block_size
  count : 1 ≤ s.count_per_page
  fits : s.count_per_page * s.block_size < 2 ^ 31
  total : s.pages.length * s.count_per_page < 2 ^ 31
  page_count : s.page_count = s.pages.length
  page : ∀ page ∈ s.pages, page.shape = (page.data, page.data + s.count_per_page * s.block_size,
    s.count_per_page * (s.block_size + sizeofSMBlock), s.count_per_page, s.count_per_page.toNat)
  apart : s.pages.Pairwise fun a b => a.data + a.size ≤ b.data ∨ b.data + b.size ≤ a.data

/-- The data of block `j` of page `i` is at `data`. -/
def At (s : SharedMemoryBase) (i j : ℕ) (data : ℤ) : Prop :=
  ∃ page, s.pages[i]? = some page ∧ (j : ℤ) < s.count_per_page ∧ data = page.data + j * s.block_size

namespace Layout

variable {s : SharedMemoryBase}

theorem size_pos (h : Layout s) : 0 < s.block_size := lt_of_lt_of_le (by decide) h.size

/-- A block ends where the next one begins, and no later than the data area. -/
theorem area_le (h : Layout s) {j : ℕ} (hj : (j : ℤ) < s.count_per_page) :
    j * s.block_size + s.block_size ≤ s.count_per_page * s.block_size := by
  have hmul := mul_le_mul_of_nonneg_right (Int.add_one_le_iff.2 hj) h.size_pos.le
  rwa [add_one_mul] at hmul

theorem offset_nonneg (h : Layout s) (j : ℕ) : 0 ≤ j * s.block_size :=
  mul_nonneg (Int.natCast_nonneg j) h.size_pos.le

/-- `i * block_size_` does not overflow. -/
theorem offset (h : Layout s) {j : ℕ} (hj : (j : ℤ) < s.count_per_page) :
    toInt32 (j * s.block_size) = j * s.block_size := by
  have := h.area_le hj
  have := h.offset_nonneg j
  have := h.size_pos
  have := h.fits
  exact toInt32_of_lt (by omega) (by omega)

theorem area_nonneg (h : Layout s) : 0 ≤ s.count_per_page * s.block_size :=
  mul_nonneg (zero_le_one.trans h.count) h.size_pos.le

/-- Neither does the size of the data area. -/
theorem area (h : Layout s) :
    (toUInt64 (toInt32 (s.count_per_page * s.block_size)) : ℤ) = s.count_per_page * s.block_size := by
  have := h.area_nonneg
  have := h.fits
  rw [toInt32_of_lt (by omega) (by omega), toUInt64_cast]
  omega

/-- A page that can be mapped has the size that it should have. -/
theorem pageSize (h : Layout s) (hpos : 0 < s.pageSize) :
    s.pageSize = s.count_per_page * (s.block_size + sizeofSMBlock) := by
  have hsize : sizeofShareObject * s.count_per_page ≤ s.count_per_page * s.block_size := by
    rw [mul_comm]
    exact mul_le_mul_of_nonneg_left h.size (zero_le_one.trans h.count)
  have hcount := h.count
  have hfits := h.fits
  rw [SharedMemoryBase.pageSize, mul_add] at *
  unfold sizeofSMBlock sizeofShareObject at *
  generalize s.count_per_page * s.block_size = area at *
  rw [toInt32, Int.bmod_def] at *
  split_ifs at * <;> omega

theorem fields (h : Layout s) {page : ShareMemoryPage} (hpage : page ∈ s.pages) :
    page.blocks = page.data + s.count_per_page * s.block_size ∧
    page.size = s.count_per_page * s.block_size + s.count_per_page * sizeofSMBlock ∧
    page.block_count = s.count_per_page ∧ page.table.length = s.count_per_page.toNat := by
  have hshape := h.page page hpage
  rw [ShareMemoryPage.shape, mul_add] at hshape
  simpa only [Prod.mk.injEq, true_and] using hshape

theorem pages_apart (h : Layout s) {i i' : ℕ} {page page' : ShareMemoryPage}
    (hpage : s.pages[i]? = some page) (hpage' : s.pages[i']? = some page') (hne : i ≠ i') :
    page.data + page.size ≤ page'.data ∨ page'.data + page'.size ≤ page.data := by
  obtain ⟨hi, rfl⟩ := List.getElem?_eq_some_iff.1 hpage
  obtain ⟨hi', rfl⟩ := List.getElem?_eq_some_iff.1 hpage'
  rcases lt_or_gt_of_ne hne with hlt | hlt
  · exact List.pairwise_iff_getElem.1 h.apart i i' hi hi' hlt
  · exact (List.pairwise_iff_getElem.1 h.apart i' i hi' hi hlt).symm

/-- A block lies in the data area of its page. -/
theorem at_area (h : Layout s) {i j : ℕ} {data : ℤ} (hat : At s i j data) :
    ∃ page, s.pages[i]? = some page ∧ page.data ≤ data ∧
      data + s.block_size ≤ page.data + s.count_per_page * s.block_size := by
  obtain ⟨page, hpage, hj, rfl⟩ := hat
  have := h.area_le hj
  have := h.offset_nonneg j
  exact ⟨page, hpage, by omega, by omega⟩

/-- Two different blocks do not overlap. -/
theorem at_apart (h : Layout s) {i j i' j' : ℕ} {data data' : ℤ} (hat : At s i j data)
    (hat' : At s i' j' data') (hne : (i, j) ≠ (i', j')) :
    data + s.block_size ≤ data' ∨ data' + s.block_size ≤ data := by
  by_cases hi : i = i'
  · subst hi
    obtain ⟨page, hpage, hj, rfl⟩ := hat
    obtain ⟨page', hpage', hj', rfl⟩ := hat'
    obtain rfl : page = page' := Option.some.inj (hpage.symm.trans hpage')
    have hlt {a b : ℕ} (hab : a < b) : a * s.block_size + s.block_size ≤ b * s.block_size := by
      have hmul := mul_le_mul_of_nonneg_right (Int.add_one_le_iff.2 (Int.ofNat_lt.2 hab)) h.size_pos.le
      rwa [add_one_mul] at hmul
    rcases lt_or_gt_of_ne (fun heq => hne (by rw [heq]) : j ≠ j') with hj | hj
    · exact .inl (by have := hlt hj; omega)
    · exact .inr (by have := hlt hj; omega)
  · obtain ⟨page, hpage, hlo, hhi⟩ := h.at_area hat
    obtain ⟨page', hpage', hlo', hhi'⟩ := h.at_area hat'
    obtain ⟨-, hsize, -⟩ := h.fields (List.mem_of_getElem? hpage)
    obtain ⟨-, hsize', -⟩ := h.fields (List.mem_of_getElem? hpage')
    have hcount := h.count
    unfold sizeofSMBlock at hsize hsize'
    rcases h.pages_apart hpage hpage' hi with hle | hle
    · exact .inl (by omega)
    · exact .inr (by omega)

/-- Nor does a block overlap a table. -/
theorem at_table (h : Layout s) {i j : ℕ} {data : ℤ} {page : ShareMemoryPage} (hat : At s i j data)
    (hpage : page ∈ s.pages) : data + s.block_size ≤ page.blocks ∨
      page.blocks + page.block_count * sizeofSMBlock ≤ data := by
  obtain ⟨page', hpage', hlo, hhi⟩ := h.at_area hat
  obtain ⟨i', hi'⟩ := List.getElem?_of_mem hpage
  obtain ⟨hblocks, hsize, hblock_count, -⟩ := h.fields hpage
  obtain ⟨-, hsize', -⟩ := h.fields (List.mem_of_getElem? hpage')
  have hcount := h.count
  have harea := h.area_nonneg
  unfold sizeofSMBlock at *
  rw [hblocks, hblock_count]
  by_cases hi : i' = i
  · subst hi
    obtain rfl : page = page' := Option.some.inj (hi'.symm.trans hpage')
    exact .inl hhi
  · rcases h.pages_apart hi' hpage' hi with hle | hle
    · exact .inr (by omega)
    · exact .inl (by omega)

theorem at_inj (h : Layout s) {i j i' j' : ℕ} {data : ℤ} (hat : At s i j data)
    (hat' : At s i' j' data) : (i, j) = (i', j') := by
  by_contra hne
  have := h.size_pos
  rcases h.at_apart hat hat' hne with hle | hle <;> omega

end Layout

/-! ## From pointers to blocks -/

/-- `q` is in the data area of the page, as `GetBlockIndex` tests it. -/
def InArea (s : SharedMemoryBase) (page : ShareMemoryPage) (q : ℤ) : Prop :=
  page.data ≤ q ∧ q < page.data + toUInt64 (toInt32 (page.block_count * s.block_size))

theorem blockIndex_some {s : SharedMemoryBase} {q : ℤ} {pages : List ShareMemoryPage} {i₀ i : ℕ}
    {b : ℤ} (h : s.blockIndex q pages i₀ = some (i, b)) :
    ∃ k page, i = i₀ + k ∧ pages[k]? = some page ∧ InArea s page q ∧
      b = toInt32 ((q - page.data) / s.block_size) := by
  induction pages generalizing i₀ with
  | nil => cases h
  | cons page pages ih =>
    rw [SharedMemoryBase.blockIndex] at h
    split_ifs at h with hin
    · cases h
      exact ⟨0, page, rfl, rfl, hin, rfl⟩
    · obtain ⟨k, page', hi, hpage', hin', hb⟩ := ih h
      exact ⟨k + 1, page', by omega, hpage', hin', hb⟩

theorem blockIndex_isSome {s : SharedMemoryBase} {q : ℤ} {pages : List ShareMemoryPage} (i₀ : ℕ)
    {page : ShareMemoryPage} (hpage : page ∈ pages) (hin : InArea s page q) :
    ∃ i b, s.blockIndex q pages i₀ = some (i, b) := by
  induction pages generalizing i₀ with
  | nil => cases hpage
  | cons first pages ih =>
    rw [SharedMemoryBase.blockIndex]
    by_cases hfirst : InArea s first q
    · exact ⟨_, _, if_pos hfirst⟩
    · rw [if_neg (show ¬(first.data ≤ q ∧ _) from hfirst)]
      rcases List.mem_cons.1 hpage with rfl | hrest
      · exact absurd hin hfirst
      · exact ih (i₀ + 1) hrest

namespace Layout

variable {s : SharedMemoryBase}

theorem inArea_iff (h : Layout s) {page : ShareMemoryPage} (hpage : page ∈ s.pages) {q : ℤ} :
    InArea s page q ↔ page.data ≤ q ∧ q < page.data + s.count_per_page * s.block_size := by
  obtain ⟨-, -, hblock_count, -⟩ := h.fields hpage
  rw [InArea, hblock_count, h.area]

/-- `GetBlockIndex` finds the block into whose data a pointer points. -/
theorem at_of_blockIndex (h : Layout s) {q : ℤ} {i : ℕ} {b : ℤ}
    (hindex : s.GetBlockIndex q = some (i, b)) :
    ∃ (j : ℕ) (data : ℤ), b = j ∧ At s i j data ∧ data ≤ q ∧ q < data + s.block_size := by
  obtain ⟨k, page, hi, hpage, hin, hb⟩ := blockIndex_some hindex
  obtain rfl : i = k := by omega
  obtain ⟨hlo, hhi⟩ := (h.inArea_iff (List.mem_of_getElem? hpage)).1 hin
  have hpos := h.size_pos
  have hfits := h.fits
  have hnonneg : 0 ≤ (q - page.data) / s.block_size := Int.ediv_nonneg (by omega) hpos.le
  have hlt : (q - page.data) / s.block_size < s.count_per_page :=
    Int.ediv_lt_of_lt_mul hpos (by omega)
  have hself : (q - page.data) / s.block_size ≤ q - page.data := Int.ediv_le_self _ (by omega)
  have hdiv := Int.mul_ediv_add_emod (q - page.data) s.block_size
  have hmod := Int.emod_nonneg (q - page.data) hpos.ne'
  have hmod' := Int.emod_lt_of_pos (q - page.data) hpos
  rw [toInt32_of_lt (by omega) (by omega)] at hb
  refine ⟨((q - page.data) / s.block_size).toNat, page.data +
    (q - page.data) / s.block_size * s.block_size, ?_, ⟨page, hpage, ?_, ?_⟩, ?_, ?_⟩
  · rw [hb, Int.toNat_of_nonneg hnonneg]
  · rwa [Int.toNat_of_nonneg hnonneg]
  · rw [Int.toNat_of_nonneg hnonneg]
  · rw [mul_comm] at hdiv
    omega
  · rw [mul_comm] at hdiv
    omega

theorem blockIndex_of_at (h : Layout s) {q data : ℤ} {i j : ℕ} (hat : At s i j data)
    (hlo : data ≤ q) (hhi : q < data + s.block_size) : s.GetBlockIndex q = some (i, (j : ℤ)) := by
  obtain ⟨page, hpage, hdata, hend⟩ := h.at_area hat
  have hmem := List.mem_of_getElem? hpage
  have hin : InArea s page q := (h.inArea_iff hmem).2 ⟨by omega, by omega⟩
  obtain ⟨i', b, hindex⟩ := blockIndex_isSome 0 hmem hin
  obtain ⟨j', data', rfl, hat', hlo', hhi'⟩ := h.at_of_blockIndex hindex
  -- the block that is found overlaps this one
  have heq : (i', j') = (i, j) := by
    by_contra hne
    rcases h.at_apart hat' hat hne with hle | hle <;> omega
  cases heq
  exact hindex

end Layout

/-! ## Changes of the blocks -/

section
variable {α : Type} {p : α → Bool}

/-- What a change of one element does to a count. -/
theorem countP_modify {l : List α} {j : ℕ} {a : α} (h : l[j]? = some a) (f : α → α) :
    (l.modify j f).countP p + (p a).toNat = l.countP p + (p (f a)).toNat := by
  induction l generalizing j with
  | nil => cases h
  | cons b l ih =>
    cases j with
    | zero =>
      cases h
      rw [List.modify_zero_cons, List.countP_cons, List.countP_cons]
      cases p a <;> cases p (f a) <;> simp
    | succ j =>
      rw [List.modify_succ_cons, List.countP_cons, List.countP_cons]
      have := ih h
      omega

theorem countP_flatten_modify {ls : List (List α)} {i j : ℕ} {l : List α} {a : α}
    (hl : ls[i]? = some l) (h : l[j]? = some a) (f : α → α) :
    (ls.modify i (·.modify j f)).flatten.countP p + (p a).toNat =
      ls.flatten.countP p + (p (f a)).toNat := by
  induction ls generalizing i with
  | nil => cases hl
  | cons m ls ih =>
    cases i with
    | zero =>
      cases hl
      rw [List.modify_zero_cons, List.flatten_cons, List.flatten_cons, List.countP_append,
        List.countP_append]
      have := countP_modify (p := p) h f
      omega
    | succ i =>
      rw [List.modify_succ_cons, List.flatten_cons, List.flatten_cons, List.countP_append,
        List.countP_append]
      have := ih hl
      omega

end

/-- The number of blocks in use. -/
def inUse (s : SharedMemoryBase) : ℕ := (s.pages.map (·.table)).flatten.countP (·.in_use)

theorem Layout.of_shape {s s' : SharedMemoryBase} (h : Layout s)
    (hshape : s'.pages.map (·.shape) = s.pages.map (·.shape)) (hsize : s'.block_size = s.block_size)
    (hcount : s'.count_per_page = s.count_per_page) (hpages : s'.page_count = s.page_count) :
    Layout s' := by
  have hlen : s'.pages.length = s.pages.length := by
    rw [← List.length_map (·.shape), hshape, List.length_map]
  refine ⟨hsize ▸ h.size, hcount ▸ h.count, by rw [hcount, hsize]; exact h.fits,
    by rw [hlen, hcount]; exact h.total, by rw [hpages, hlen]; exact h.page_count, ?_, ?_⟩
  · intro page hpage
    have hmem : page.shape ∈ s.pages.map (·.shape) := hshape ▸ List.mem_map_of_mem hpage
    obtain ⟨page', hpage', heq⟩ := List.mem_map.1 hmem
    rw [hcount, hsize, ← heq, h.page page' hpage']
    rw [ShareMemoryPage.shape, ShareMemoryPage.shape, Prod.mk.injEq] at heq
    rw [heq.1]
  · have hapart := h.apart
    let disjoint (a b : ℤ × ℤ × ℤ × ℤ × ℕ) : Prop := a.1 + a.2.2.1 ≤ b.1 ∨ b.1 + b.2.2.1 ≤ a.1
    have hmap : (s.pages.map (·.shape)).Pairwise disjoint := List.pairwise_map.2 hapart
    rw [← hshape] at hmap
    exact List.pairwise_map.1 hmap

theorem at_of_shape {s s' : SharedMemoryBase}
    (hshape : s'.pages.map (·.shape) = s.pages.map (·.shape)) (hsize : s'.block_size = s.block_size)
    (hcount : s'.count_per_page = s.count_per_page) {i j : ℕ} {data : ℤ} (hat : At s i j data) :
    At s' i j data := by
  obtain ⟨page, hpage, hj, rfl⟩ := hat
  have hget : (s'.pages.map (·.shape))[i]? = some page.shape := by
    rw [hshape, List.getElem?_map, hpage]
    rfl
  rw [List.getElem?_map] at hget
  obtain ⟨page', hpage', heq⟩ := Option.map_eq_some_iff.1 hget
  rw [ShareMemoryPage.shape, ShareMemoryPage.shape, Prod.mk.injEq] at heq
  exact ⟨page', hpage', hcount ▸ hj, by rw [heq.1, hsize]⟩

section
variable (s : SharedMemoryBase) (i j : ℕ) (f : Block → Block)

theorem modify_shape : (s.modify i j f).pages.map (·.shape) = s.pages.map (·.shape) := by
  refine List.ext_getElem? fun k => ?_
  rw [SharedMemoryBase.modify, List.getElem?_map, List.getElem?_map, List.getElem?_modify]
  cases s.pages[k]? with
  | none => rfl
  | some page =>
    by_cases hk : i = k
    · simp [hk, ShareMemoryPage.shape]
    · simp [hk]

theorem block?_modify (i' j' : ℕ) : (s.modify i j f).block? i' j' =
    if i' = i ∧ j' = j then (s.block? i j).map f else s.block? i' j' := by
  simp only [SharedMemoryBase.block?, SharedMemoryBase.modify, List.getElem?_modify]
  by_cases hi : i' = i
  · subst hi
    cases s.pages[i']? with
    | none => simp
    | some page =>
      by_cases hj : j' = j
      · simp [hj]
      · simp [hj, Ne.symm hj]
  · rw [if_neg (fun h => hi h.1)]
    cases s.pages[i']? with
    | none => rfl
    | some page => simp [Ne.symm hi]

theorem inUse_modify {block : Block} (h : s.block? i j = some block) :
    inUse (s.modify i j f) + block.in_use.toNat = inUse s + (f block).in_use.toNat := by
  obtain ⟨page, hpage, hblock⟩ := Option.bind_eq_some_iff.1 h
  have htable : (s.pages.map (·.table))[i]? = some page.table := by
    rw [List.getElem?_map, hpage]
    rfl
  have hmodify : (s.modify i j f).pages.map (·.table) =
      (s.pages.map (·.table)).modify i (·.modify j f) := by
    refine List.ext_getElem? fun k => ?_
    rw [SharedMemoryBase.modify, List.getElem?_map, List.getElem?_modify, List.getElem?_modify,
      List.getElem?_map]
    cases s.pages[k]? with
    | none => rfl
    | some page => by_cases hk : i = k <;> simp [hk]
  rw [inUse, inUse, hmodify]
  exact countP_flatten_modify htable hblock f

end

/-! ## The blocks in use -/

/-- A block in use, and where its data is. -/
def Used (s : SharedMemoryBase) (i j : ℕ) (data : ℤ) : Prop :=
  At s i j data ∧ ∃ block, s.block? i j = some block ∧ block.in_use = true

namespace Layout

variable {s : SharedMemoryBase}

theorem at_of_block (h : Layout s) {i j : ℕ} {block : Block} (hblock : s.block? i j = some block) :
    ∃ page, s.pages[i]? = some page ∧ page.table[j]? = some block ∧
      At s i j (page.data + j * s.block_size) := by
  obtain ⟨page, hpage, htable⟩ := Option.bind_eq_some_iff.1 hblock
  obtain ⟨-, -, -, hlen⟩ := h.fields (List.mem_of_getElem? hpage)
  obtain ⟨hj, -⟩ := List.getElem?_eq_some_iff.1 htable
  exact ⟨page, hpage, htable, page, hpage, by omega, rfl⟩

theorem block_of_at (h : Layout s) {i j : ℕ} {data : ℤ} (hat : At s i j data) :
    ∃ page block, s.pages[i]? = some page ∧ page.table[j]? = some block ∧
      s.block? i j = some block := by
  obtain ⟨page, hpage, hj, -⟩ := hat
  obtain ⟨-, -, -, hlen⟩ := h.fields (List.mem_of_getElem? hpage)
  have hlt : j < page.table.length := by omega
  refine ⟨page, page.table[j], hpage, List.getElem?_eq_getElem hlt, ?_⟩
  rw [SharedMemoryBase.block?, hpage, Option.bind_some, List.getElem?_eq_getElem hlt]

theorem allocated_iff (h : Layout s) {i j : ℕ} {data : ℤ} : Allocated s i j data ↔ Used s i j data := by
  constructor
  · rintro ⟨page, block, hpage, htable, huse, rfl⟩
    have hblock : s.block? i j = some block := by rw [SharedMemoryBase.block?, hpage]; exact htable
    obtain ⟨page', hpage', -, hat⟩ := h.at_of_block hblock
    obtain rfl : page = page' := Option.some.inj (hpage.symm.trans hpage')
    have hj : (j : ℤ) < s.count_per_page := by obtain ⟨_, _, hj, _⟩ := hat; exact hj
    rw [h.offset hj]
    exact ⟨hat, block, hblock, huse⟩
  · rintro ⟨hat, block, hblock, huse⟩
    obtain ⟨page, hpage, htable, -⟩ := h.at_of_block hblock
    obtain ⟨page', hpage', hj, rfl⟩ := hat
    obtain rfl : page = page' := Option.some.inj (hpage.symm.trans hpage')
    exact ⟨page, block, hpage, htable, huse, by rw [h.offset hj]⟩

theorem inUse_le (h : Layout s) : (inUse s : ℤ) ≤ s.pages.length * s.count_per_page := by
  have hlen : (s.pages.map (·.table)).flatten.length = s.pages.length * s.count_per_page.toNat := by
    rw [List.length_flatten, List.map_map, List.sum_eq_card_nsmul _ s.count_per_page.toNat,
      List.length_map, Nat.nsmul_eq_mul]
    intro n hn
    obtain ⟨page, hpage, rfl⟩ := List.mem_map.1 hn
    exact (h.fields hpage).2.2.2
  have hle : inUse s ≤ s.pages.length * s.count_per_page.toNat := hlen ▸ List.countP_le_length
  have hcount := h.count
  calc (inUse s : ℤ) ≤ (s.pages.length * s.count_per_page.toNat : ℕ) := Int.ofNat_le.2 hle
    _ = s.pages.length * s.count_per_page := by
      rw [Nat.cast_mul, Int.toNat_of_nonneg (by omega)]

theorem modify (h : Layout s) (i j : ℕ) (f : Block → Block) (used_blocks : ℤ) :
    Layout { s.modify i j f with used_blocks := used_blocks } :=
  h.of_shape (modify_shape s i j f) rfl rfl rfl

end Layout

/-- Which blocks are in use after a change of one. -/
theorem used_modify {s : SharedMemoryBase} {i j : ℕ} {block : Block} {f : Block → Block} {used_blocks : ℤ}
    (hblock : s.block? i j = some block) {i' j' : ℕ} {data : ℤ} :
    Used { s.modify i j f with used_blocks := used_blocks } i' j' data ↔
      if i' = i ∧ j' = j then At s i' j' data ∧ (f block).in_use = true else Used s i' j' data := by
  have hat : At { s.modify i j f with used_blocks := used_blocks } i' j' data ↔ At s i' j' data :=
    ⟨at_of_shape (modify_shape s i j f).symm rfl rfl, at_of_shape (modify_shape s i j f) rfl rfl⟩
  have hget : SharedMemoryBase.block? { s.modify i j f with used_blocks := used_blocks } i' j' =
      if i' = i ∧ j' = j then (s.block? i j).map f else s.block? i' j' := block?_modify s i j f i' j'
  rw [Used, hat, hget]
  by_cases heq : i' = i ∧ j' = j
  · simp [heq, hblock]
  · simp [heq, Used]

/-! ## What each operation does -/

/-- A `Free` ends the block into whose data the pointer points, if it is in use. -/
theorem Free_cases {s : SharedMemoryBase} (h : Layout s) (q : ℤ) :
    ((∀ i j data, Used s i j data → ¬(data ≤ q ∧ q < data + s.block_size)) ∧ s.Free q = s) ∨
    ∃ i j data block, At s i j data ∧ data ≤ q ∧ q < data + s.block_size ∧
      s.block? i j = some block ∧ block.in_use = true ∧
      s.Free q = { s.modify i j Block.clear with used_blocks := toInt32 (s.used_blocks - 1) } := by
  rw [SharedMemoryBase.Free]
  cases hindex : s.GetBlockIndex q with
  | none =>
    refine .inl ⟨fun i j data hused hin => ?_, rfl⟩
    cases hindex.symm.trans (h.blockIndex_of_at hused.1 hin.1 hin.2)
  | some index =>
    obtain ⟨i, b⟩ := index
    obtain ⟨j, data, rfl, hat, hlo, hhi⟩ := h.at_of_blockIndex hindex
    obtain ⟨page, block, hpage, htable, hblock⟩ := h.block_of_at hat
    have hj : (j : ℤ) < s.count_per_page := by obtain ⟨_, _, hj, _⟩ := hat; exact hj
    obtain ⟨-, -, hblock_count, -⟩ := h.fields (List.mem_of_getElem? hpage)
    have hrange : ¬((j : ℤ) < 0 ∨ page.block_count ≤ j) := by omega
    simp only [hpage, if_neg hrange, Int.toNat_natCast, htable]
    by_cases huse : block.in_use = true
    · exact .inr ⟨i, j, data, block, hat, hlo, hhi, hblock, huse, if_pos huse⟩
    · refine .inl ⟨fun i' j' data' hused hin => ?_, if_neg huse⟩
      have hsame := hindex.symm.trans (h.blockIndex_of_at hused.1 hin.1 hin.2)
      simp only [Option.some.injEq, Prod.mk.injEq, Int.ofNat_inj] at hsame
      obtain ⟨rfl, rfl⟩ := hsame
      obtain ⟨block', hblock', huse'⟩ := hused.2
      obtain rfl : block = block' := Option.some.inj (hblock.symm.trans hblock')
      exact huse huse'

/-- What `Allocate` makes of a block. -/
def taken (time : ℤ) (block : Block) : Block :=
  { block with in_use := true, new_block := true, before_time := time, update_time := time }

theorem take_eq {s : SharedMemoryBase} (h : Layout s) {i j : ℕ} {block : Block} (time : ℤ)
    (hblock : s.block? i j = some block) : ∃ data, At s i j data ∧
      s.take i j time = (some data,
        { s.modify i j (taken time) with used_blocks := toInt32 (s.used_blocks + 1) }) := by
  obtain ⟨page, hpage, -, hat⟩ := h.at_of_block hblock
  have hj : (j : ℤ) < s.count_per_page := by obtain ⟨_, _, hj, _⟩ := hat; exact hj
  refine ⟨_, hat, ?_⟩
  rw [SharedMemoryBase.take, hpage]
  simp only [h.offset hj]
  rfl

theorem firstFree_some {pages : List ShareMemoryPage} {i₀ i j : ℕ}
    (h : SharedMemoryBase.firstFree pages i₀ = some (i, j)) :
    ∃ k page block, i = i₀ + k ∧ pages[k]? = some page ∧ page.table[j]? = some block ∧
      block.in_use = false := by
  induction pages generalizing i₀ with
  | nil => cases h
  | cons page pages ih =>
    rw [SharedMemoryBase.firstFree] at h
    cases hfind : page.table.findIdx? (fun block => !block.in_use) with
    | some j' =>
      rw [hfind] at h
      cases h
      obtain ⟨hj, hfree, -⟩ := List.findIdx?_eq_some_iff_getElem.1 hfind
      exact ⟨0, page, page.table[j], rfl, rfl, List.getElem?_eq_getElem hj, by simpa using hfree⟩
    | none =>
      rw [hfind] at h
      obtain ⟨k, page', block, hi, hpage, hblock, hfree⟩ := ih h
      exact ⟨k + 1, page', block, by omega, hpage, hblock, hfree⟩

theorem newTable_free {s : SharedMemoryBase} {block : Block} (h : block ∈ s.newTable) :
    block.in_use = false := by
  obtain ⟨i, -, rfl⟩ := List.mem_map.1 h
  rfl

theorem newTable_length (s : SharedMemoryBase) : s.newTable.length = s.count_per_page.toNat := by
  rw [SharedMemoryBase.newTable, List.length_map, List.length_range]

/-- The pool with a new page. -/
def extended (s : SharedMemoryBase) (page : ShareMemoryPage) : SharedMemoryBase :=
  { s with page_count := toInt32 (s.page_count + 1), pages := s.pages ++ [page] }

section
variable {s : SharedMemoryBase} {page : ShareMemoryPage}

theorem Layout.extended (h : Layout s) (hroom : (s.pages.length + 1) * s.count_per_page < 2 ^ 31)
    (hshape : page.shape = (page.data, page.data + s.count_per_page * s.block_size,
      s.count_per_page * (s.block_size + sizeofSMBlock), s.count_per_page, s.count_per_page.toNat))
    (hapart : ∀ old ∈ s.pages, old.data + old.size ≤ page.data ∨ page.data + page.size ≤ old.data) :
    Layout (extended s page) := by
  have hlen : ((s.pages ++ [page]).length : ℤ) = s.pages.length + 1 := by simp
  refine ⟨h.size, h.count, h.fits, ?_, ?_, ?_, ?_⟩
  · show ((s.pages ++ [page]).length : ℤ) * s.count_per_page < 2 ^ 31
    rwa [hlen]
  · have hcount := h.count
    have hle : (s.pages.length + 1 : ℤ) ≤ (s.pages.length + 1) * s.count_per_page :=
      le_mul_of_one_le_right (by omega) hcount
    show toInt32 (s.page_count + 1) = ((s.pages ++ [page]).length : ℤ)
    rw [hlen, h.page_count, toInt32_of_lt (by omega) (by omega)]
  · intro p hp
    rcases List.mem_append.1 hp with hp | hp
    · exact h.page p hp
    · rw [List.mem_singleton.1 hp]
      exact hshape
  · refine List.pairwise_append.2 ⟨h.apart, List.pairwise_singleton _ _, fun a ha b hb => ?_⟩
    rw [List.mem_singleton.1 hb]
    exact hapart a ha

theorem used_extended (htable : ∀ block ∈ page.table, block.in_use = false) {i j : ℕ} {data : ℤ} :
    Used (extended s page) i j data ↔ Used s i j data := by
  have hget (hi : i < s.pages.length) : (extended s page).pages[i]? = s.pages[i]? :=
    List.getElem?_append_left hi
  constructor
  · rintro ⟨⟨p, hp, hj, rfl⟩, block, hblock, huse⟩
    by_cases hi : i < s.pages.length
    · rw [hget hi] at hp
      rw [SharedMemoryBase.block?, hget hi] at hblock
      exact ⟨⟨p, hp, hj, rfl⟩, block, hblock, huse⟩
    · -- the new page holds no block in use
      obtain ⟨p', hp', hblock'⟩ := Option.bind_eq_some_iff.1 hblock
      have hnew : p' = page := by
        have hnew : p' ∈ [page] := by
          have hdrop : [page][i - s.pages.length]? = some p' := by
            rw [← List.getElem?_append_right (not_lt.1 hi)]
            exact hp'
          exact List.mem_of_getElem? hdrop
        exact List.mem_singleton.1 hnew
      rw [hnew] at hblock'
      rw [htable block (List.mem_of_getElem? hblock')] at huse
      cases huse
  · rintro ⟨⟨p, hp, hj, rfl⟩, block, hblock, huse⟩
    obtain ⟨hi, -⟩ := List.getElem?_eq_some_iff.1 hp
    refine ⟨⟨p, (hget hi).trans hp, hj, rfl⟩, block, ?_, huse⟩
    rw [SharedMemoryBase.block?, hget hi]
    exact hblock

theorem inUse_extended (htable : ∀ block ∈ page.table, block.in_use = false) :
    inUse (extended s page) = inUse s := by
  have hzero : page.table.countP (·.in_use) = 0 :=
    List.countP_eq_zero.2 fun block hblock => by rw [htable block hblock]; exact Bool.false_ne_true
  rw [inUse, extended, List.map_append, List.flatten_append, List.countP_append, inUse]
  simp [hzero]

end

/-- A new page has its place and only blocks that are free. -/
theorem NewPage_spec {s s₁ : SharedMemoryBase} (h : Layout s) {data : ℤ} (hmapped : Mapped s data)
    (hroom : (s.pages.length + 1) * s.count_per_page < 2 ^ 31)
    (hnew : s.NewPage (some data) = some s₁) : ∃ page, s₁ = extended s page ∧ Layout s₁ ∧
      (∀ block ∈ page.table, block.in_use = false) ∧
      ∃ block, s₁.block? (s₁.pages.length - 1) 0 = some block ∧ block.in_use = false := by
  cases hnew
  have hcount := h.count
  refine ⟨_, rfl, h.extended hroom ?_ ?_, fun block => newTable_free, ?_⟩
  · have harea := h.area_nonneg
    have hfits := h.fits
    simp only [ShareMemoryPage.shape, newTable_length, h.pageSize hmapped.1,
      toInt32_of_lt (show -(2 ^ 31) ≤ s.count_per_page * s.block_size by omega) hfits]
  · exact fun old hold => (hmapped.2 old hold).symm
  · have hlt : 0 < s.newTable.length := by rw [newTable_length]; omega
    refine ⟨s.newTable[0], ?_, newTable_free (List.getElem_mem hlt)⟩
    rw [SharedMemoryBase.block?]
    simp [List.getElem?_eq_getElem hlt]

/-! ## Expired blocks -/

/-- What `CleanExpiredData` makes of a block. -/
def expire (expired_time : ℤ) (block : Block) : Block :=
  if block.in_use = true ∧ block.update_time < expired_time then block.clear else block

/-- The blocks in use that it ends. -/
def isExpired (expired_time : ℤ) (block : Block) : Bool :=
  block.in_use && decide (block.update_time < expired_time)

section
variable (expired_time : ℤ)

theorem cleanBlocks_eq {table : List Block} {used_blocks : ℤ}
    (hlo : (table.countP (·.in_use) : ℤ) ≤ used_blocks) (hhi : used_blocks < 2 ^ 31) :
    SharedMemoryBase.cleanBlocks expired_time table used_blocks =
      (table.map (expire expired_time), used_blocks - table.countP (isExpired expired_time)) := by
  induction table generalizing used_blocks with
  | nil => simp [SharedMemoryBase.cleanBlocks]
  | cons block table ih =>
    rw [List.countP_cons] at hlo
    rw [SharedMemoryBase.cleanBlocks, List.map_cons, List.countP_cons]
    by_cases hexp : block.in_use = true ∧ block.update_time < expired_time
    · have hcond : isExpired expired_time block = true := by simpa [isExpired] using hexp
      rw [if_pos hexp.1] at hlo
      push_cast at hlo
      rw [if_pos hexp, toInt32_of_lt (by omega) (by omega), ih (by omega) (by omega), expire,
        if_pos hexp, if_pos hcond]
      simp only [Prod.mk.injEq, true_and]
      push_cast
      omega
    · have hcond : ¬isExpired expired_time block = true := by simpa [isExpired] using hexp
      rw [if_neg hexp, ih (by omega) hhi, expire, if_neg hexp, if_neg hcond, Nat.add_zero]

theorem cleanPages_eq {pages : List ShareMemoryPage} {used_blocks : ℤ}
    (hlo : ((pages.map (·.table)).flatten.countP (·.in_use) : ℤ) ≤ used_blocks)
    (hhi : used_blocks < 2 ^ 31) :
    SharedMemoryBase.cleanPages expired_time pages used_blocks =
      (pages.map fun page => { page with table := page.table.map (expire expired_time) },
        used_blocks - (pages.map (·.table)).flatten.countP (isExpired expired_time)) := by
  induction pages generalizing used_blocks with
  | nil => simp [SharedMemoryBase.cleanPages]
  | cons page pages ih =>
    rw [List.map_cons, List.flatten_cons, List.countP_append] at hlo
    push_cast at hlo
    have hexp : page.table.countP (isExpired expired_time) ≤ page.table.countP (·.in_use) :=
      List.countP_mono_left fun block _ h => (Bool.and_eq_true_iff.1 h).1
    rw [SharedMemoryBase.cleanPages, cleanBlocks_eq expired_time (by omega) hhi]
    dsimp only
    rw [ih (by omega) (by omega), List.map_cons, List.map_cons, List.flatten_cons, List.countP_append]
    simp only [Prod.mk.injEq, true_and]
    push_cast
    omega

theorem countP_expire (table : List Block) :
    (table.map (expire expired_time)).countP (·.in_use) + table.countP (isExpired expired_time) =
      table.countP (·.in_use) := by
  induction table with
  | nil => rfl
  | cons block table ih =>
    rw [List.map_cons, List.countP_cons, List.countP_cons, List.countP_cons, ← ih]
    by_cases hexp : block.in_use = true ∧ block.update_time < expired_time
    · have hcond : isExpired expired_time block = true := by simpa [isExpired] using hexp
      rw [expire, if_pos hexp, if_pos hcond, if_pos hexp.1]
      simp [Block.clear]
      omega
    · have hcond : ¬isExpired expired_time block = true := by simpa [isExpired] using hexp
      rw [expire, if_neg hexp, if_neg hcond]
      omega

/-- All pages, with the expired blocks ended. -/
def cleaned (s : SharedMemoryBase) (used_blocks : ℤ) : SharedMemoryBase :=
  { s with
    pages := s.pages.map fun page => { page with table := page.table.map (expire expired_time) }
    used_blocks := used_blocks }

theorem inUse_cleaned (s : SharedMemoryBase) (used_blocks : ℤ) :
    inUse (cleaned expired_time s used_blocks) +
      (s.pages.map (·.table)).flatten.countP (isExpired expired_time) = inUse s := by
  have hflatten : ((cleaned expired_time s used_blocks).pages.map (·.table)).flatten =
      (s.pages.map (·.table)).flatten.map (expire expired_time) := by
    rw [cleaned, List.map_map, List.map_flatten, List.map_map]
    rfl
  rw [inUse, hflatten, inUse]
  exact countP_expire expired_time _

theorem CleanExpiredData_eq {s : SharedMemoryBase} (hused : s.used_blocks = inUse s)
    (hlt : s.used_blocks < 2 ^ 31) : ∃ used_blocks,
      s.CleanExpiredData expired_time = cleaned expired_time s used_blocks ∧
      used_blocks = inUse (cleaned expired_time s used_blocks) := by
  refine ⟨s.used_blocks - (s.pages.map (·.table)).flatten.countP (isExpired expired_time), ?_, ?_⟩
  · rw [SharedMemoryBase.CleanExpiredData, cleanPages_eq expired_time hused.ge hlt]
    rfl
  · have h := inUse_cleaned expired_time s
      (s.used_blocks - (s.pages.map (·.table)).flatten.countP (isExpired expired_time))
    omega

theorem cleaned_shape (s : SharedMemoryBase) (used_blocks : ℤ) :
    (cleaned expired_time s used_blocks).pages.map (·.shape) = s.pages.map (·.shape) := by
  rw [cleaned, List.map_map]
  exact List.map_congr_left fun page _ => by simp [ShareMemoryPage.shape]

theorem block?_cleaned (s : SharedMemoryBase) (used_blocks : ℤ) (i j : ℕ) :
    (cleaned expired_time s used_blocks).block? i j = (s.block? i j).map (expire expired_time) := by
  simp only [SharedMemoryBase.block?, cleaned, List.getElem?_map]
  cases s.pages[i]? with
  | none => rfl
  | some page => simp

/-- Which blocks are in use after it: those that are not expired. -/
theorem used_cleaned {s : SharedMemoryBase} (h : Layout s) (used_blocks : ℤ) {i j : ℕ} {data : ℤ} :
    Used (cleaned expired_time s used_blocks) i j data ↔
      Used s i j data ∧ s.expired expired_time data = false := by
  have hshape := cleaned_shape expired_time s used_blocks
  have hat : At (cleaned expired_time s used_blocks) i j data ↔ At s i j data :=
    ⟨at_of_shape hshape.symm rfl rfl, at_of_shape hshape rfl rfl⟩
  rw [Used, hat, Used, and_assoc]
  refine and_congr_right fun hat => ?_
  obtain ⟨-, block, -, -, hblock⟩ := h.block_of_at hat
  have hpos := h.size_pos
  have hexpired : s.expired expired_time data = decide (block.update_time < expired_time) := by
    rw [SharedMemoryBase.expired, h.blockIndex_of_at hat le_rfl (by omega), Option.bind_some]
    simp only [Int.toNat_natCast, hblock]
  rw [block?_cleaned, hblock, hexpired]
  simp only [Option.map_some, Option.some.injEq, exists_eq_left', decide_eq_false_iff_not]
  by_cases hexp : block.in_use = true ∧ block.update_time < expired_time
  · rw [expire, if_pos hexp]
    simp [Block.clear, hexp.2]
  · rw [expire, if_neg hexp]
    exact ⟨fun huse => ⟨huse, fun hlt => hexp ⟨huse, hlt⟩⟩, fun huse => huse.1⟩

end

/-! ## The invariant -/

/-- The layout holds, the counter is right, and the live pointers are those of the blocks in use. -/
structure Inv (s : Sys) : Prop where
  layout : Layout s.pool
  used : s.pool.used_blocks = inUse s.pool
  live : ∀ data, data ∈ s.live ↔ ∃ i j, Used s.pool i j data

theorem Inv.sound {s : Sys} (h : Inv s) : Sound s := by
  have hlayout := h.layout
  have htotal := hlayout.total
  have hcount := hlayout.count
  have hnonneg : 0 ≤ s.pool.pages.length * s.pool.count_per_page :=
    mul_nonneg (Int.natCast_nonneg _) (zero_le_one.trans hcount)
  refine ⟨h.used, ?_, fun i j data i' j' data' ha ha' hne => ?_, fun i j data page ha hpage => ?_,
    fun data => ?_⟩
  · rw [SharedMemoryBase.GetBlockCount, hlayout.page_count, toInt32_of_lt (by omega) htotal]
  · exact hlayout.at_apart (hlayout.allocated_iff.1 ha).1 (hlayout.allocated_iff.1 ha').1 hne
  · exact hlayout.at_table (hlayout.allocated_iff.1 ha).1 hpage
  · rw [h.live data]
    simp only [hlayout.allocated_iff]

/-- A free block is taken: its pointer was not live. -/
theorem Inv.take {s : Sys} (h : Inv s) {i j : ℕ} {block : Block} (time : ℤ)
    (hblock : s.pool.block? i j = some block) (hfree : block.in_use = false) (held : Finset ℤ) :
    ∃ p pool, s.pool.take i j time = (some p, pool) ∧ p ∉ s.live ∧ Inv ⟨pool, insert p s.live, held⟩ := by
  obtain ⟨p, hat, htake⟩ := take_eq h.layout time hblock
  have hbound := h.layout.inUse_le
  have htotal := h.layout.total
  have hused := h.used
  refine ⟨p, _, htake, fun hlive => ?_, h.layout.modify i j _ _, ?_, fun data => ?_⟩
  · obtain ⟨i', j', hused'⟩ := (h.live p).1 hlive
    cases h.layout.at_inj hused'.1 hat
    obtain ⟨-, block', hblock', huse⟩ := hused'
    obtain rfl : block = block' := Option.some.inj (hblock.symm.trans hblock')
    rw [hfree] at huse
    cases huse
  · have hmodify := inUse_modify s.pool i j (taken time) hblock
    rw [hfree] at hmodify
    have hone : inUse (s.pool.modify i j (taken time)) = inUse s.pool + 1 := hmodify
    show toInt32 (s.pool.used_blocks + 1) = (inUse (s.pool.modify i j (taken time)) : ℤ)
    -- there is a free block left, so the blocks in use are fewer than all
    have hlt : (inUse s.pool : ℤ) + 1 ≤ s.pool.pages.length * s.pool.count_per_page := by
      have hbound' := (h.layout.modify i j (taken time) 0).inUse_le
      have hlen : (s.pool.modify i j (taken time)).pages.length = s.pool.pages.length :=
        List.length_modify _ _ _
      have hle : (inUse (s.pool.modify i j (taken time)) : ℤ) ≤
          (s.pool.modify i j (taken time)).pages.length * s.pool.count_per_page := hbound'
      rw [hone, hlen] at hle
      push_cast at hle
      exact hle
    rw [hone, hused, toInt32_of_lt (by omega) (by omega)]
    push_cast
    rfl
  · rw [Finset.mem_insert]
    constructor
    · rintro (rfl | hlive)
      · exact ⟨i, j, (used_modify hblock).2 (by rw [if_pos ⟨rfl, rfl⟩]; exact ⟨hat, rfl⟩)⟩
      · obtain ⟨i', j', hused'⟩ := (h.live data).1 hlive
        refine ⟨i', j', (used_modify hblock).2 ?_⟩
        split_ifs
        · exact ⟨hused'.1, rfl⟩
        · exact hused'
    · rintro ⟨i', j', hused'⟩
      have hcases := (used_modify hblock).1 hused'
      split_ifs at hcases with heq
      · rw [heq.1, heq.2] at hcases
        obtain ⟨page, hpage, -, rfl⟩ := hcases.1
        obtain ⟨page', hpage', -, rfl⟩ := hat
        obtain rfl : page = page' := Option.some.inj (hpage.symm.trans hpage')
        exact .inl rfl
      · exact .inr ((h.live data).2 ⟨i', j', hcases⟩)

/-- `Allocate` fails, or returns a pointer that was not live. -/
theorem Inv.allocate {s : Sys} (h : Inv s) {time : ℤ} {data : Option ℤ}
    (hroom : Room s.pool (.allocate time data))
    (hmapped : ∀ a, data = some a → Mapped s.pool a) (held : Finset ℤ) :
    s.pool.Allocate time data = (none, s.pool) ∨
    ∃ p pool, s.pool.Allocate time data = (some p, pool) ∧ p ∉ s.live ∧
      Inv ⟨pool, insert p s.live, held⟩ := by
  cases hfirst : SharedMemoryBase.firstFree s.pool.pages 0 with
  | some index =>
    obtain ⟨i, j⟩ := index
    obtain ⟨k, page, block, hi, hpage, htable, hfree⟩ := firstFree_some hfirst
    obtain rfl : i = k := by omega
    have hblock : s.pool.block? i j = some block := by
      rw [SharedMemoryBase.block?, hpage]
      exact htable
    obtain ⟨p, pool, htake, hnot, hinv⟩ := h.take time hblock hfree held
    refine .inr ⟨p, pool, ?_, hnot, hinv⟩
    rw [SharedMemoryBase.Allocate, hfirst]
    exact htake
  | none =>
    cases data with
    | none => exact .inl (by rw [SharedMemoryBase.Allocate, hfirst]; rfl)
    | some a =>
      obtain ⟨s₁, hnew⟩ : ∃ s₁, s.pool.NewPage (some a) = some s₁ := ⟨_, rfl⟩
      obtain ⟨page, rfl, hlayout, htable, block, hblock, hfree⟩ :=
        NewPage_spec h.layout (hmapped a rfl) (hroom hfirst) hnew
      have h₁ : Inv ⟨extended s.pool page, s.live, s.held⟩ := by
        refine ⟨hlayout, ?_, fun data => ?_⟩
        · rw [inUse_extended htable]
          exact h.used
        · simp only [used_extended htable]
          exact h.live data
      obtain ⟨p, pool, htake, hnot, hinv⟩ := h₁.take time hblock hfree held
      refine .inr ⟨p, pool, ?_, hnot, hinv⟩
      rw [SharedMemoryBase.Allocate, hfirst]
      simp only [hnew]
      exact htake

theorem Inv.free {s : Sys} (h : Inv s) (q : ℤ) (held : Finset ℤ) :
    Inv ⟨s.pool.Free q, s.live.filter fun p => ¬(p ≤ q ∧ q < p + s.pool.block_size), held⟩ := by
  obtain ⟨hnone, hsame⟩ | ⟨i, j, p, block, hat, hlo, hhi, hblock, huse, hfree⟩ :=
    Free_cases h.layout q
  · rw [hsame]
    refine ⟨h.layout, h.used, fun data => ?_⟩
    rw [Finset.mem_filter, h.live data]
    refine and_iff_left_of_imp ?_
    rintro ⟨i, j, hused⟩
    exact hnone i j data hused
  · rw [hfree]
    have hmodify := inUse_modify s.pool i j Block.clear hblock
    rw [huse] at hmodify
    have hone : inUse (s.pool.modify i j Block.clear) + 1 = inUse s.pool := hmodify
    have hbound := h.layout.inUse_le
    have htotal := h.layout.total
    have hused := h.used
    refine ⟨h.layout.modify i j _ _, ?_, fun data => ?_⟩
    · show toInt32 (s.pool.used_blocks - 1) = (inUse (s.pool.modify i j Block.clear) : ℤ)
      rw [toInt32_of_lt (by omega) (by omega)]
      omega
    · have hcond {i' j' : ℕ} : Used { s.pool.modify i j Block.clear with
          used_blocks := toInt32 (s.pool.used_blocks - 1) } i' j' data ↔
          Used s.pool i' j' data ∧ ¬(data ≤ q ∧ q < data + s.pool.block_size) := by
        rw [used_modify hblock]
        split_ifs with heq
        · -- the block that is ended
          refine iff_of_false (fun hcleared => Bool.false_ne_true hcleared.2) ?_
          rintro ⟨⟨hat', -⟩, hout⟩
          rw [heq.1, heq.2] at hat'
          obtain ⟨page, hpage, -, rfl⟩ := hat
          obtain ⟨page', hpage', -, rfl⟩ := hat'
          obtain rfl : page = page' := Option.some.inj (hpage.symm.trans hpage')
          exact hout ⟨hlo, hhi⟩
        · refine (and_iff_left_of_imp fun hused' hin => heq ?_).symm
          have hne : (i, j) ≠ (i', j') := fun h => heq (by cases h; exact ⟨rfl, rfl⟩)
          rcases h.layout.at_apart hat hused'.1 hne with hle | hle <;> omega
      rw [Finset.mem_filter, h.live data]
      simp only [hcond, exists_and_right]

theorem Inv.clean {s : Sys} (h : Inv s) (expired_time : ℤ) (held : Finset ℤ) :
    Inv ⟨s.pool.CleanExpiredData expired_time,
      s.live.filter fun p => s.pool.expired expired_time p = false, held⟩ := by
  have hbound := h.layout.inUse_le
  have htotal := h.layout.total
  obtain ⟨used_blocks, hclean, hused⟩ :=
    CleanExpiredData_eq expired_time h.used (by rw [h.used]; omega)
  rw [hclean]
  refine ⟨h.layout.of_shape (cleaned_shape expired_time s.pool used_blocks) rfl rfl rfl, hused,
    fun data => ?_⟩
  rw [Finset.mem_filter, h.live data]
  simp only [used_cleaned expired_time h.layout used_blocks, exists_and_right]

theorem Inv.touch {s : Sys} (h : Inv s) (data time : ℤ) (held : Finset ℤ) :
    Inv ⟨s.pool.touch data time, s.live, held⟩ := by
  rw [SharedMemoryBase.touch]
  cases hindex : s.pool.GetBlockIndex data with
  | none => exact ⟨h.layout, h.used, h.live⟩
  | some index =>
    obtain ⟨i, b⟩ := index
    obtain ⟨j, p, rfl, hat, -, -⟩ := h.layout.at_of_blockIndex hindex
    obtain ⟨-, block, -, -, hblock⟩ := h.layout.block_of_at hat
    simp only [Int.toNat_natCast]
    have hmodify := Nat.add_right_cancel
      (inUse_modify s.pool i j (fun block => { block with update_time := time }) hblock)
    refine ⟨h.layout.modify i j _ s.pool.used_blocks, ?_, fun data => ?_⟩
    · exact h.used.trans (congrArg _ hmodify.symm)
    · rw [h.live data]
      refine exists_congr fun i' => exists_congr fun j' => ?_
      refine Iff.trans ?_ (used_modify hblock).symm
      split_ifs with heq
      · rw [heq.1, heq.2, Used, hblock]
        simp
      · rfl

theorem step_inv {s s' : Sys} {l : Label} (hroom : Room s.pool l) (hstep : step s l s')
    (h : Inv s) : Inv s' := by
  obtain ⟨hmapped, rfl⟩ := hstep
  cases l with
  | allocate time data =>
    obtain hnone | ⟨p, pool, hsome, -, hinv⟩ :=
      h.allocate hroom (fun a ha => hmapped time a (by rw [ha])) s.held
    · rw [next, hnone]
      exact h
    · rw [next, hsome]
      exact ⟨hinv.layout, hinv.used, hinv.live⟩
  | free q => exact h.free q _
  | clean expired_time => exact h.clean expired_time _
  | touch data time => exact h.touch data time _

/-- As long as only pointers that were returned are freed, a block ends when its pointer is freed. -/
theorem step_held {s s' : Sys} {l : Label} (hexact : Exact s l) (hstep : step s l s') (h : Inv s)
    (hheld : s.held = s.live) : s'.held = s'.live := by
  obtain ⟨-, rfl⟩ := hstep
  cases l with
  | allocate time data =>
    rw [next]
    split
    · show insert _ s.held = insert _ s.live
      rw [hheld]
    · exact hheld
  | free q =>
    have hpos := h.layout.size_pos
    ext p
    show p ∈ s.held.erase q ↔ p ∈ s.live.filter fun p => ¬(p ≤ q ∧ q < p + s.pool.block_size)
    rw [hheld, Finset.mem_erase, Finset.mem_filter, and_comm]
    refine and_congr_right fun hlive => not_congr ⟨?_, fun hin => (hexact p hlive hin.1 hin.2).symm⟩
    rintro rfl
    exact ⟨le_rfl, by omega⟩
  | clean expired_time =>
    show s.held.filter _ = s.live.filter _
    rw [hheld]
  | touch data time => exact hheld

theorem inv_init {block_size count_per_page : ℤ} (hcount : 1 ≤ count_per_page)
    (hfits : count_per_page * (SharedMemoryBase.new block_size count_per_page).block_size < 2 ^ 31) :
    Inv (init block_size count_per_page) := by
  refine ⟨⟨?_, hcount, hfits, by simp [init, SharedMemoryBase.new], rfl, nofun, .nil⟩, rfl,
    fun data => ?_⟩
  · show sizeofShareObject ≤ if block_size < sizeofShareObject then _ else _
    split_ifs with hlt
    · exact le_rfl
    · exact not_lt.1 hlt
  · refine iff_of_false (Finset.notMem_empty data) ?_
    rintro ⟨i, j, ⟨page, hpage, -⟩, -⟩
    simp [init, SharedMemoryBase.new] at hpage

/-! ## The promises of the pool -/

/-- `Allocate` returned a pointer that was allocated already, as `allocated` has it. -/
def Returns (allocated : Sys → Finset ℤ) (s : Sys) : Label → Prop
  | .allocate time data => ∃ p, (s.pool.Allocate time data).1 = some p ∧ p ∈ allocated s
  | _ => False

/-- **The pool is sound** in a run in which the data area of a page and the number of blocks fit an
    `int32_t`, and `Allocate` returns no pointer whose block is allocated.  If besides no pointer into
    the middle of a block is freed, it returns no pointer that was returned, and neither freed itself
    nor expired since. -/
theorem pool_of_fits {block_size count_per_page : ℤ} (hcount : 1 ≤ count_per_page)
    (hfits : count_per_page * (SharedMemoryBase.new block_size count_per_page).block_size < 2 ^ 31) :
    (∀ ls s, Run (fun s l s' => Room s.pool l ∧ step s l s') (init block_size count_per_page) ls s →
      Sound s ∧ ∀ l s', Room s.pool l → step s l s' → ¬Returns Sys.live s l) ∧
    ∀ ls s, Run (fun s l s' => (Room s.pool l ∧ Exact s l) ∧ step s l s')
      (init block_size count_per_page) ls s →
      ∀ l s', Room s.pool l → step s l s' → ¬Returns Sys.held s l := by
  have hreturns {s s' : Sys} {l : Label} (h : Inv s) (hroom : Room s.pool l) (hstep : step s l s') :
      ¬Returns Sys.live s l := by
    cases l with
    | allocate time data =>
      rintro ⟨p, hp, hlive⟩
      obtain hnone | ⟨p', pool, hsome, hnot, -⟩ :=
        h.allocate hroom (fun a ha => hstep.1 time a (by rw [ha])) s.held
      · rw [hnone] at hp; cases hp
      · rw [hsome] at hp; cases hp; exact hnot hlive
    | free _ => exact id
    | clean _ => exact id
    | touch _ _ => exact id
  have hinit := inv_init hcount hfits
  refine ⟨fun ls s hrun => ?_, fun ls s hrun l s' hroom hstep => ?_⟩
  · have h := hrun.invariant (P := Inv) (fun _ _ _ h hs => step_inv hs.1 hs.2 h) hinit
    exact ⟨h.sound, fun l s' hroom hstep => hreturns h hroom hstep⟩
  · obtain ⟨h, hheld⟩ := hrun.invariant (P := fun s => Inv s ∧ s.held = s.live)
      (fun _ _ _ h hs => ⟨step_inv hs.1.1 hs.2 h.1, step_held hs.1.2 hs.2 h.1 h.2⟩) ⟨hinit, rfl⟩
    have hlive := hreturns h hroom hstep
    cases l with
    | allocate time data => rwa [Returns, hheld]
    | free _ => exact id
    | clean _ => exact id
    | touch _ _ => exact id

/-- Two blocks of a page; the first is freed. -/
theorem pool_two : ∃ s, Run step (init 100 2)
    [.allocate 1000 (some 4096), .allocate 1001 none, .free 4096] s ∧ Sound s := by
  have hmapped : Mapped (init 100 2).pool 4096 := ⟨by decide, nofun⟩
  have hrun : Run (fun s l s' => Room s.pool l ∧ step s l s') (init 100 2)
      [.allocate 1000 (some 4096), .allocate 1001 none, .free 4096] _ :=
    .cons ⟨fun _ => by decide, fun _ _ h => by cases h; exact hmapped, rfl⟩
      (.cons ⟨fun h => absurd h (by decide), fun _ _ h => (by cases h), rfl⟩
        (.cons ⟨trivial, fun _ _ h => (by cases h), rfl⟩ (.nil _)))
  exact ⟨_, hrun.mono fun _ _ _ h => h.2, ((pool_of_fits (by decide) (by decide)).1 _ _ hrun).1⟩

/-- **Four blocks of a gibibyte**: the size of their data area overflows to 0, so the table lies over
    the first block. -/
theorem not_sound : ¬∀ (block_size count_per_page : ℤ) (ls : List Label) (s : Sys),
    1 ≤ count_per_page → Run step (init block_size count_per_page) ls s → Sound s := by
  intro h
  have hmapped : Mapped (init (2 ^ 30) 4).pool 4096 := ⟨by decide, nofun⟩
  have hrun : Run step (init (2 ^ 30) 4) [.allocate 1000 (some 4096)] _ :=
    .cons ⟨fun _ _ h => (by cases h; exact hmapped), rfl⟩ (.nil _)
  have hsound := h _ _ _ _ (by decide) hrun
  have hallocated : Allocated (next (init (2 ^ 30) 4) (.allocate 1000 (some 4096))).pool 0 0 4096 :=
    ⟨_, _, rfl, rfl, rfl, rfl⟩
  rcases hsound.tables 0 0 4096 _ hallocated (List.mem_singleton_self _) with hle | hle
  · exact absurd hle (by decide)
  · exact absurd hle (by decide)

/-- A pointer into the middle of a block is freed: the next `Allocate` returns the block, although its
    own pointer was not freed. -/
theorem interior : ∃ s, Run step (init 100 2) [.allocate 1000 (some 4096), .free 4104] s ∧
    Returns Sys.held s (.allocate 1001 none) := by
  have hmapped : Mapped (init 100 2).pool 4096 := ⟨by decide, nofun⟩
  have hrun : Run step (init 100 2) [.allocate 1000 (some 4096), .free 4104] _ :=
    .cons ⟨fun _ _ h => (by cases h; exact hmapped), rfl⟩
      (.cons ⟨fun _ _ h => (by cases h), rfl⟩ (.nil _))
  exact ⟨_, hrun, 4096, rfl, by decide⟩

end Ancfl.Game.SharedMemory
