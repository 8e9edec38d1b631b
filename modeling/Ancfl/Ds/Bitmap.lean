/-
  The bitmap: an array of 16-bit words of which 14 bits are values, in a plain
  form and in a compressed one.

  * `Bitmap.get`, `set`, `complement`, `andAssign`, `orAssign`, `cross`: the
    operations, with `load` and `store` for the accesses to the array and
    `load64`, `store64` for the accesses four words at a time;
  * `compress`: runs of equal words become run lengths in base `2 ^ 14`, marked
    by the two bits above the value bits, other words are kept as they are;
  * `walk`: the loop over a compressed bitmap that `uncompress` and the
    operations with a compressed operand have in common;
  * `Made`: the plain bitmaps that the constructor and the operations make.
-/
import Mathlib.Data.BitVec
import Mathlib.Tactic.Common

namespace Ancfl

/-- Why an operation does not return. -/
inductive Fault where
  /-- it throws `std::logic_error` -/
  | logicError (what : String)
  /-- `ANCFL_ASSERT` fails -/
  | assertion
  /-- its behaviour is not defined: an access outside the array, a shift that is too wide -/
  | undefined
deriving DecidableEq

abbrev Result := Except Fault

/-- `base_type` -/
abbrev Word := BitVec 16

/-- A bitmap; `m_dataSize` is the length of `data`. -/
structure Bitmap where
  isCompress : Bool
  size : ℕ
  size_lt : size < 2 ^ 32
  data : List Word
deriving DecidableEq

namespace Bitmap

def valueSize : ℕ := 14
def compressMask : Word := 0x8000#16
def valueMask : Word := 0x4000#16
def countMask : Word := 0x3FFF#16
def notValueMask : Word := ~~~valueMask
def u64DivBase : ℕ := 4
def u64ValueSize : ℕ := valueSize * u64DivBase

/-- `POS[i]` -/
def pos (i : ℕ) : Word := 1#16 <<< i

/-- `NPOS[i]` -/
def npos (i : ℕ) : Word := ~~~pos i

/-! ## The array -/

/-- `data[i]` -/
def load (data : List Word) (i : ℕ) : Result Word :=
  match data[i]? with
  | some w => .ok w
  | none => .error .undefined

/-- `data[i] = w` -/
def store (data : List Word) (i : ℕ) (w : Word) : Result (List Word) :=
  if i < data.length then .ok (data.set i w) else .error .undefined

/-- Four words read as one number, little endian. -/
def block (w₀ w₁ w₂ w₃ : Word) : BitVec 64 := w₃ ++ w₂ ++ w₁ ++ w₀

/-- `((uint64_t*)data)[i]` -/
def load64 (data : List Word) (i : ℕ) : Result (BitVec 64) := do
  let w₀ ← load data (u64DivBase * i)
  let w₁ ← load data (u64DivBase * i + 1)
  let w₂ ← load data (u64DivBase * i + 2)
  let w₃ ← load data (u64DivBase * i + 3)
  return block w₀ w₁ w₂ w₃

/-- `((uint64_t*)data)[i] = x` -/
def store64 (data : List Word) (i : ℕ) (x : BitVec 64) : Result (List Word) := do
  let data ← store data (u64DivBase * i) (x.extractLsb' 0 16)
  let data ← store data (u64DivBase * i + 1) (x.extractLsb' 16 16)
  let data ← store data (u64DivBase * i + 2) (x.extractLsb' 32 16)
  store data (u64DivBase * i + 3) (x.extractLsb' 48 16)

/-- `ceil(size * 1.0 / VALUE_SIZE)`; the quotient of a 32-bit number is exact enough in a double
    for the ceiling to be the ceiling of the quotient. -/
def words (size : ℕ) : ℕ := (size + (valueSize - 1)) / valueSize

/-- `Bitmap(size, def)` -/
def new (size : ℕ) (h : size < 2 ^ 32) (fill : BitVec 8) : Bitmap :=
  ⟨false, size, h, List.replicate (words size) (fill ++ fill)⟩

def get (b : Bitmap) (idx : ℕ) : Result Bool := do
  let w ← load b.data (idx / valueSize)
  return w &&& pos (idx % valueSize) ≠ 0

def set (b : Bitmap) (idx : ℕ) (v : Bool) : Result Bitmap := do
  let w ← load b.data (idx / valueSize)
  let data ← store b.data (idx / valueSize)
    (if v then w ||| pos (idx % valueSize) else w &&& npos (idx % valueSize))
  return { b with data := data }

/-- The words `set(from, size, v)` and `get(from, size, v)` go through. -/
def span (start size : ℕ) : Result (List ℕ) :=
  let stop := (start + size) % 2 ^ 32
  if start % valueSize = 0 ∧ stop % valueSize = 0 then
    .ok (List.range' (start / valueSize) (stop / valueSize - start / valueSize))
  else .error .assertion

def fillWord (v : Bool) : Word := if v then countMask else 0

/-- `set(from, size, v)` -/
def setRange (data : List Word) (start size : ℕ) (v : Bool) : Result (List Word) :=
  if size = 0 then .ok data
  else do
    let is ← span start size
    is.foldlM (fun data i => store data i (fillWord v)) data

/-- The loop of `get(from, size, v)`: does a word have a value bit, or for `v` false none? -/
def anyWord (data : List Word) (v : Bool) : List ℕ → Result Bool
  | [] => .ok false
  | i :: is => do
    let w ← load data i
    if (if v then w &&& countMask ≠ 0 else w &&& countMask = 0) then return true
    anyWord data v is

/-- `get(from, size, v)` -/
def getRange (data : List Word) (start size : ℕ) (v : Bool) : Result Bool :=
  if size = 0 then .ok false
  else do
    let is ← span start size
    anyWord data v is

/-! ## Plain operands -/

/-- The number of 64-bit blocks, and the words that follow them. -/
def maxSize (size : ℕ) : ℕ := size / u64ValueSize

def restWords (size dataSize : ℕ) : List ℕ :=
  List.range' (maxSize size * u64DivBase) (dataSize - maxSize size * u64DivBase)

/-- The loops of `&=` and `|=` on plain operands. -/
def zipBits (op : (w : ℕ) → BitVec w → BitVec w → BitVec w) (size : ℕ) (a b : List Word) :
    Result (List Word) := do
  let a ← (List.range (maxSize size)).foldlM (fun a i => do
    store64 a i (op 64 (← load64 a i) (← load64 b i))) a
  (restWords size a.length).foldlM (fun a i => do
    store a i (op 16 (← load a i) (← load b i))) a

/-- The loops of `~` on a plain operand. -/
def mapBits (op : (w : ℕ) → BitVec w → BitVec w) (size : ℕ) (a : List Word) :
    Result (List Word) := do
  let a ← (List.range (maxSize size)).foldlM (fun a i => do store64 a i (op 64 (← load64 a i))) a
  (restWords size a.length).foldlM (fun a i => do store a i (op 16 (← load a i))) a

/-- `operator~` -/
def complement (b : Bitmap) : Result Bitmap := do
  if b.isCompress then
    return { b with data := b.data.map fun cur =>
      if cur &&& compressMask ≠ 0 then
        if cur &&& valueMask ≠ 0 then cur &&& notValueMask else cur ||| valueMask
      else ~~~cur &&& countMask }
  else
    let data ← mapBits (fun _ x => ~~~x) b.size b.data
    return { b with data := data }

/-! ## Compressing -/

/-- `count_bits`: the number of bits set -/
def countBits (v : Word) : ℕ := (List.range 16).countP fun i => v.getLsbD i

/-- `while (cur_count) { data[dst_cur_pos++] = ...; cur_count >>= VALUE_SIZE; }` -/
def runWords (v : Bool) (count : ℕ) : List Word :=
  if h : count = 0 then []
  else
    (if v then compressMask ||| valueMask ||| (BitVec.ofNat 16 count &&& countMask)
      else compressMask ||| (BitVec.ofNat 16 count &&& countMask)) ::
      runWords v (count >>> valueSize)
termination_by count
decreasing_by
  rw [Nat.shiftRight_eq_div_pow]
  exact Nat.div_lt_self (Nat.pos_of_ne_zero h) (by decide)

/-- The state of the loop of `compress`; `out` are the words written to `data` so far. -/
structure Pack where
  value : Bool
  count : ℕ
  out : List Word
deriving DecidableEq

/-- Write out the pending run. -/
def Pack.emit (st : Pack) : List Word :=
  if st.count / valueSize > 1 then st.out ++ runWords st.value st.count
  else if st.count ≠ 0 then st.out ++ [fillWord st.value]
  else st.out

/-- The body of the loop of `compress`. -/
def Pack.step (st : Pack) (cur : Word) : Result Pack :=
  let c := countBits (cur &&& countMask)
  if c = 0 ∧ st.value = false ∨ c = valueSize ∧ st.value = true then
    .ok { st with count := st.count + valueSize }
  else if st.count / valueSize > 1 ∧ st.count % valueSize ≠ 0 then .error .assertion
  else if c = 0 ∨ c = valueSize then .ok ⟨c = valueSize, valueSize, st.emit⟩
  else .ok ⟨st.value, 0, st.emit ++ [cur]⟩

/-- `compress()`; its buffer holds `m_dataSize` words. -/
def compress (b : Bitmap) : Result Bitmap := do
  if b.isCompress then return b
  let st ← b.data.foldlM Pack.step ⟨false, 0, []⟩
  if b.data.length < st.emit.length then throw .undefined
  return ⟨true, b.size, b.size_lt, st.emit⟩

/-! ## Walking over a compressed bitmap -/

/-- What the loop over a compressed bitmap comes to: a run, or the value bits of a word. -/
inductive Item where
  | run (v : Bool) (count : ℕ)
  | word (bits : Word)
deriving DecidableEq

/-- The inner loop: the words after the first one of a run are its higher digits. -/
def gather : ℕ → ℕ → List Word → Result ℕ
  | _, count, [] => .ok count
  | k, count, w :: ws =>
    if 32 ≤ valueSize * k then .error .undefined
    else gather (k + 1) (((w &&& countMask).toNat <<< (valueSize * k)) % 2 ^ 32 ||| count) ws

def isRun (w : Word) : Bool := w &&& compressMask ≠ 0

def runValue (w : Word) : Bool := w &&& valueMask ≠ 0

def sameRun (v : Bool) (w : Word) : Bool := isRun w && v == runValue w

/-- The loop over a compressed bitmap; `f` does what the operation does at an item, `done` ends
    the loop early. -/
def walk {σ : Type} (f : ℕ → Item → σ → Result (ForInStep σ)) (curPos : ℕ) (s : σ) :
    List Word → Result σ
  | [] => .ok s
  | cur :: rest => do
    if isRun cur then
      let digits := rest.takeWhile (sameRun (runValue cur))
      let count ← gather 1 (cur &&& countMask).toNat digits
      match ← f curPos (.run (runValue cur) count) s with
      | .done s => return s
      | .yield s =>
        walk f ((curPos + count) % 2 ^ 32) s (rest.dropWhile (sameRun (runValue cur)))
    else
      match ← f curPos (.word (cur &&& countMask)) s with
      | .done s => return s
      | .yield s => walk f ((curPos + valueSize) % 2 ^ 32) s rest
termination_by ws => ws.length
decreasing_by
  · exact Nat.lt_succ_of_le (List.dropWhile_suffix _).length_le
  · exact Nat.lt_succ_self _

def uncompressItem (curPos : ℕ) (item : Item) (data : List Word) :
    Result (ForInStep (List Word)) := do
  match item with
  | .run v count => return .yield (← setRange data curPos count v)
  | .word bits => return .yield (← store data (curPos / valueSize) bits)

/-- `uncompress()` -/
def uncompress (b : Bitmap) : Result Bitmap := do
  if !b.isCompress then return b
  let data ← walk uncompressItem 0 (new b.size b.size_lt 0).data b.data
  return ⟨false, b.size, b.size_lt, data⟩

def andItem (curPos : ℕ) (item : Item) (data : List Word) : Result (ForInStep (List Word)) := do
  match item with
  | .run false count => return .yield (← setRange data curPos count false)
  | .run true _ => return .yield data
  | .word bits =>
    let w ← load data (curPos / valueSize)
    return .yield (← store data (curPos / valueSize) (w &&& bits))

def orItem (curPos : ℕ) (item : Item) (data : List Word) : Result (ForInStep (List Word)) := do
  match item with
  | .run true count => return .yield (← setRange data curPos count true)
  | .run false _ => return .yield data
  | .word bits =>
    let w ← load data (curPos / valueSize)
    return .yield (← store data (curPos / valueSize) (w ||| bits))

/-- `operator&=` -/
def andAssign (a b : Bitmap) : Result Bitmap := do
  if a.size ≠ b.size then throw (.logicError "m_size != b.m_size")
  match a.isCompress, b.isCompress with
  | false, false =>
    let data ← zipBits (fun _ x y => x &&& y) a.size a.data b.data
    return { a with data := data }
  | false, true =>
    let data ← walk andItem 0 a.data b.data
    return { a with data := data }
  | true, false => throw (.logicError "compress &= uncompress not support")
  | true, true => throw (.logicError "compress &= compress not support")

/-- `operator|=` -/
def orAssign (a b : Bitmap) : Result Bitmap := do
  if a.size ≠ b.size then throw (.logicError "m_size != b.m_size")
  match a.isCompress, b.isCompress with
  | false, false =>
    let data ← zipBits (fun _ x y => x ||| y) a.size a.data b.data
    return { a with data := data }
  | false, true =>
    let data ← walk orItem 0 a.data b.data
    return { a with data := data }
  | true, false => throw (.logicError "compress |= uncompress not support")
  | true, true => throw (.logicError "compress |= compress not support")

/-- `true` is returned at once where the operands meet. -/
def crossItem (data : List Word) (curPos : ℕ) (item : Item) (_ : Bool) :
    Result (ForInStep Bool) := do
  match item with
  | .run true count => return if ← getRange data curPos count true then .done true else .yield false
  | .run false _ => return .yield false
  | .word bits =>
    let w ← load data (curPos / valueSize)
    return if w &&& bits ≠ 0 then .done true else .yield false

def compressCross (a b : Bitmap) : Result Bool := walk (crossItem a.data) 0 false b.data

/-- The two loops of `normalCross`, with `meet` at an index of the first or the second. -/
def anyMeet (meet : ℕ → Result Bool) : List ℕ → Result Bool
  | [] => .ok false
  | i :: is => do if ← meet i then return true else anyMeet meet is

def normalCross (a b : Bitmap) : Result Bool := do
  if ← anyMeet (fun i => do
      let x ← load64 a.data i
      if x ≠ 0 then return x &&& (← load64 b.data i) ≠ 0 else return false)
    (List.range (maxSize a.size)) then return true
  anyMeet (fun i => do return (← load a.data i) &&& (← load b.data i) ≠ 0)
    (restWords a.size a.data.length)

/-- `cross(b)` -/
def cross (a b : Bitmap) : Result Bool :=
  match a.isCompress, b.isCompress with
  | false, true => compressCross a b
  | false, false => normalCross a b
  | true, _ => .ok false

/-! ## The bitmaps that can be made -/

/-- The plain bitmaps the constructor and the operations make, when `set` is called with the
    indices `R` allows for the size. -/
inductive Made (R : ℕ → ℕ → Prop) : Bitmap → Prop where
  | new (size : ℕ) (h : size < 2 ^ 32) {fill : BitVec 8} (hfill : fill = 0x00#8 ∨ fill = 0xFF#8) :
      Made R (new size h fill)
  | set {b b' : Bitmap} {idx : ℕ} {v : Bool} : Made R b → R b.size idx → b.set idx v = .ok b' →
      Made R b'
  | complement {b b' : Bitmap} : Made R b → b.complement = .ok b' → Made R b'
  | andAssign {a b a' : Bitmap} : Made R a → Made R b → a.andAssign b = .ok a' → Made R a'
  | orAssign {a b a' : Bitmap} : Made R a → Made R b → a.orAssign b = .ok a' → Made R a'

/-- `set` may be called with any index that has a word. -/
abbrev Built : Bitmap → Prop := Made fun _ _ => True

/-- `set` is called with indices below the size. -/
abbrev BuiltInside : Bitmap → Prop := Made fun size idx => idx < size

end Bitmap
end Ancfl
