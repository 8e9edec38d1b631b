/-
  A bitmap on a byte array: `writeTo` and `readFrom`.

  * `readFrom` changes the bitmap as it reads: the two fields of the header, then
    the array, which is new memory before its words are there;
  * `writeTo_written`: `writeTo` writes the bytes `wire` at the cursor;
  * `roundTrips_iff`: they are read back, unless the array is empty and the byte
    array ends behind its header;
  * `keeps_iff`: a read that fails leaves the bits as they were, unless it fails
    behind the header.
-/
import Ancfl.ByteArray.RoundTrip
import Ancfl.Ds.Bitmap.Plain

namespace Ancfl.Bitmap

open Lib Ancfl.ByteArray

/-! ## The operations -/

/-- The words in memory. -/
def imageWords (data : List Word) : List UInt8 := data.flatMap fun w => image 2 w

/-- The words whose bytes in memory are these. -/
def ofImageWords : List UInt8 → List Word
  | b₀ :: b₁ :: bytes => ofImage 2 [b₀, b₁] :: ofImageWords bytes
  | _ => []

def writeTo (b : Bitmap) : Call Exn ByteArray Unit := do
  writeFuint8 (if b.isCompress then 1 else 0)
  writeFuint32 (BitVec.ofNat 32 b.size)
  writeFuint32 (BitVec.ofNat 32 b.data.length)
  write (imageWords b.data)

/-- A call on the byte array, beside the bitmap. -/
def reading {α : Type} (x : Call Exn ByteArray α) : Call Exn (Bitmap × ByteArray) α := fun s =>
  match x s.2 with
  | .undef => .undef
  | .throw e ba => .throw e (s.1, ba)
  | .ret a ba => .ret a (s.1, ba)

/-- The `try` block of `readFrom` up to the words, with `m_dataSize`; `mem` is what the memory contains
    that `malloc` gives. -/
def readHead (mem : ℕ → Word) : Call Exn (Bitmap × ByteArray) ℕ := do
  let isCompress ← reading readFuint8
  .modify fun s => ({ s.1 with isCompress := isCompress != 0 }, s.2)
  let size ← reading readFuint32
  .modify fun s => ({ s.1 with size := size.toNat, size_lt := size.isLt }, s.2)
  let dataSize ← reading readFuint32
  .modify fun s => ({ s.1 with data := (List.range dataSize.toNat).map mem }, s.2)
  return dataSize.toNat

def readFrom (mem : ℕ → Word) : Call Exn (Bitmap × ByteArray) Bool :=
  .catchAll (do
    let dataSize ← readHead mem
    let bytes ← reading (ByteArray.read (2 * dataSize))
    .modify fun s => ({ s.1 with data := ofImageWords bytes }, s.2)
    return true) false

/-- `readFrom` on what `writeTo` has written at the cursor of `ba` gives the bitmap back. -/
def RoundTrips (mem : ℕ → Word) (b t : Bitmap) (ba : ByteArray) : Prop :=
  ∃ ba₁ ba₂ ba₃, b.writeTo ba = .ret () ba₁ ∧ setPosition ba.position ba₁ = .ret () ba₂ ∧
    readFrom mem (t, ba₂) = .ret true (b, ba₃)

/-- After a `readFrom` that returns `false` the bitmap answers `get` as before. -/
def Keeps (t : Bitmap) (ba : ByteArray) : Prop :=
  ∀ mem t' ba', readFrom mem (t, ba) = .ret false (t', ba') → ∀ i v, t.get i = .ok v → t'.get i = .ok v

/-! ## Writing -/

/-- The byte array after a write of `w` at the cursor. -/
structure Written (ba : ByteArray) (w : List UInt8) (ba' : ByteArray) : Prop where
  rep : ba'.Rep
  flat_eq : ba'.flat = ba.flat.write ba.baseSize w
  same : ba.Same ba'

section
variable {ba ba₁ ba₂ : ByteArray} {w w' : List UInt8}

theorem written_write (h : ba.Rep) (w : List UInt8) : ∃ ba', write w ba = .ret () ba' ∧ Written ba w ba' := by
  obtain ⟨ba', hret, hrep, hflat, hsame⟩ := write_ret h w
  exact ⟨ba', hret, hrep, hflat, hsame⟩

theorem Written.trans (h : ba.Rep) (h₁ : Written ba w ba₁) (h₂ : Written ba₁ w' ba₂) :
    Written ba (w ++ w') ba₂ := by
  refine ⟨h₂.rep, ?_, h₂.same.1.trans h₁.same.1, h₂.same.2.trans h₁.same.2⟩
  have hpos : ba.position ≤ ba.content.length := h.length_content ▸ h.pos_le
  rw [h₂.flat_eq, h₁.flat_eq, h₁.same.1, Flat.write, Flat.write, Flat.write]
  simp only [flat]
  rw [overwrite_overwrite w w' hpos, List.length_append, Nat.add_assoc, ← Nat.add_assoc ba.position,
    grown_grown h.base_pos, Nat.add_assoc]

/-- What `writeTo` writes. -/
def wire (e : Endian) (b : Bitmap) : List UInt8 :=
  image 1 (if b.isCompress then 1 else 0) ++ (fixedBytes e 4 (BitVec.ofNat 32 b.size) ++
    (fixedBytes e 4 (BitVec.ofNat 32 b.data.length) ++ imageWords b.data))

theorem writeFuint32_written (h : ba.Rep) (v : BitVec 32) : ∃ ba', writeFuint32 v ba = .ret () ba' ∧
    Written ba (fixedBytes ba.endian 4 v) ba' := by
  obtain ⟨ba', hret, hw⟩ := written_write h (fixedBytes ba.endian 4 v)
  exact ⟨ba', (Call.bind_ret (Call.gets_apply _ _)).trans hret, hw⟩

theorem writeTo_written (h : ba.Rep) (b : Bitmap) :
    ∃ ba', b.writeTo ba = .ret () ba' ∧ Written ba (wire ba.endian b) ba' := by
  obtain ⟨ba₁, hret₁, h₁⟩ := written_write h (image 1 (if b.isCompress then 1 else 0))
  obtain ⟨ba₂, hret₂, h₂⟩ := writeFuint32_written h₁.rep (BitVec.ofNat 32 b.size)
  obtain ⟨ba₃, hret₃, h₃⟩ := writeFuint32_written h₂.rep (BitVec.ofNat 32 b.data.length)
  obtain ⟨ba₄, hret₄, h₄⟩ := written_write h₃.rep (imageWords b.data)
  rw [h₁.same.2] at h₂
  rw [h₂.same.2, h₁.same.2] at h₃
  refine ⟨ba₄, ?_, h₁.trans h (h₂.trans h₁.rep (h₃.trans h₂.rep h₄))⟩
  rw [writeTo, Call.bind_ret (x := writeFuint8 _) hret₁, Call.bind_ret hret₂, Call.bind_ret hret₃]
  exact hret₄

end

/-! ## Reading -/

/-- The bytes still to be read. -/
def unread (ba : ByteArray) : List UInt8 := ba.content.drop ba.position

/-- An integer read in the byte order `e`. -/
def ofFixed (e : Endian) (n : ℕ) (bytes : List UInt8) : BitVec (8 * n) :=
  if e = byteOrder then ofImage n bytes else byteswap (ofImage n bytes)

/-! The fields of the header. -/

def headCompress (bytes : List UInt8) : Bool := ofImage 1 (slice bytes 0 1) != 0
def headSize (e : Endian) (bytes : List UInt8) : BitVec 32 := ofFixed e 4 (slice bytes 1 4)
def headDataSize (e : Endian) (bytes : List UInt8) : BitVec 32 := ofFixed e 4 (slice bytes 5 4)

/-- The header is there, and the words it announces are not. -/
def Truncated (ba : ByteArray) : Prop :=
  9 ≤ (unread ba).length ∧ (unread ba).length < 9 + 2 * (headDataSize ba.endian (unread ba)).toNat

/-- The byte array after `n` bytes were read. -/
structure Advanced (ba : ByteArray) (n : ℕ) (ba' : ByteArray) : Prop where
  rep : ba'.Rep
  flat_eq : ba'.flat = { ba.flat with cursor := ba.position + n }
  same : ba.Same ba'

section
variable {ba ba' : ByteArray} {mem : ℕ → Word} {t : Bitmap} {n : ℕ}

theorem length_unread (ba : ByteArray) : (unread ba).length = ba.content.length - ba.position :=
  List.length_drop

theorem Advanced.position_eq (h : Advanced ba n ba') : ba'.position = ba.position + n :=
  congrArg Flat.cursor h.flat_eq

theorem Advanced.capacity_eq (h : Advanced ba n ba') : ba'.capacity = ba.capacity :=
  congrArg Flat.cap h.flat_eq

theorem Advanced.unread_eq (h : Advanced ba n ba') : unread ba' = (unread ba).drop n := by
  have hcontent : ba'.content = ba.content := congrArg Flat.bytes h.flat_eq
  rw [unread, unread, hcontent, h.position_eq, List.drop_drop]

theorem Advanced.trans {m : ℕ} {ba'' : ByteArray} (h : Advanced ba n ba') (h' : Advanced ba' m ba'') :
    Advanced ba (n + m) ba'' := by
  refine ⟨h'.rep, ?_, h'.same.1.trans h.same.1, h'.same.2.trans h.same.2⟩
  rw [h'.flat_eq, h.flat_eq, h.position_eq, Nat.add_assoc]

theorem read_advanced (h : ba.Rep) (hn : n ≤ (unread ba).length) (h0 : n = 0 → ba.position < ba.capacity) :
    ∃ ba', ByteArray.read n ba = .ret ((unread ba).take n) ba' ∧ Advanced ba n ba' := by
  rw [length_unread] at hn
  obtain ⟨ba', hret, hrep, hflat, hsame⟩ := read_ret h hn h0
  exact ⟨ba', hret, hrep, hflat, hsame⟩

theorem readFuint8_advanced (h : ba.Rep) (hn : 1 ≤ (unread ba).length) : ∃ ba',
    readFuint8 ba = .ret (ofImage 1 ((unread ba).take 1)) ba' ∧ Advanced ba 1 ba' := by
  obtain ⟨ba', hret, hadv⟩ := read_advanced h hn nofun
  exact ⟨ba', Call.bind_ret hret, hadv⟩

theorem readFuint32_advanced (h : ba.Rep) (hn : 4 ≤ (unread ba).length) : ∃ ba',
    readFuint32 ba = .ret (ofFixed ba.endian 4 ((unread ba).take 4)) ba' ∧ Advanced ba 4 ba' := by
  obtain ⟨ba', hret, hadv⟩ := read_advanced h hn nofun
  refine ⟨ba', ?_, hadv⟩
  rw [readFuint32, readFixed, Call.bind_ret hret, Call.bind_ret (Call.gets_apply _ _), hadv.same.2]
  rfl

theorem readFuint8_throw (h : ba.Rep) (hn : (unread ba).length < 1) :
    readFuint8 ba = .throw (.outOfRange "not enough len") ba :=
  Call.bind_throw (read_throw h (length_unread ba ▸ hn))

theorem readFuint32_throw (h : ba.Rep) (hn : (unread ba).length < 4) :
    readFuint32 ba = .throw (.outOfRange "not enough len") ba :=
  Call.bind_throw (read_throw h (length_unread ba ▸ hn))

theorem reading_ret {α : Type} {x : Call Exn ByteArray α} {a : α} (h : x ba = .ret a ba') :
    reading x (t, ba) = .ret a (t, ba') := by
  rw [reading, h]

theorem reading_throw {α : Type} {x : Call Exn ByteArray α} {e : Exn} (h : x ba = .throw e ba') :
    reading x (t, ba) = .throw e (t, ba') := by
  rw [reading, h]

theorem reading_undef {α : Type} {x : Call Exn ByteArray α} (h : x ba = .undef) :
    reading x (t, ba) = .undef := by
  rw [reading, h]

variable (mem t) in
/-- **The header is read.** -/
theorem readHead_ret (h : ba.Rep) (hlen : 9 ≤ (unread ba).length) : ∃ ba',
    readHead mem (t, ba) = .ret (headDataSize ba.endian (unread ba)).toNat
      (⟨headCompress (unread ba), (headSize ba.endian (unread ba)).toNat,
        (headSize ba.endian (unread ba)).isLt,
        (List.range (headDataSize ba.endian (unread ba)).toNat).map mem⟩, ba') ∧ Advanced ba 9 ba' := by
  obtain ⟨ba₁, hret₁, h₁⟩ := readFuint8_advanced h (by omega)
  obtain ⟨ba₂, hret₂, h₂⟩ := readFuint32_advanced h₁.rep (by rw [h₁.unread_eq, List.length_drop]; omega)
  have h₁₂ := h₁.trans h₂
  obtain ⟨ba₃, hret₃, h₃⟩ := readFuint32_advanced h₂.rep (by rw [h₁₂.unread_eq, List.length_drop]; omega)
  rw [h₁.unread_eq, h₁.same.2] at hret₂
  rw [h₁₂.unread_eq, h₁₂.same.2] at hret₃
  refine ⟨ba₃, ?_, h₁₂.trans h₃⟩
  rw [readHead, Call.bind_ret (reading_ret hret₁), Call.bind_ret (Call.modify_apply _ _),
    Call.bind_ret (reading_ret hret₂), Call.bind_ret (Call.modify_apply _ _),
    Call.bind_ret (reading_ret hret₃), Call.bind_ret (Call.modify_apply _ _), Call.pure_apply]
  rfl

variable (mem t) in
/-- **The header is cut off**: the array is still the old one. -/
theorem readHead_throw (h : ba.Rep) (hlen : (unread ba).length < 9) : ∃ e t' ba',
    readHead mem (t, ba) = .throw e (t', ba') ∧ t'.data = t.data := by
  by_cases h₀ : (unread ba).length < 1
  · exact ⟨_, t, ba, Call.bind_throw (reading_throw (readFuint8_throw h h₀)), rfl⟩
  obtain ⟨ba₁, hret₁, h₁⟩ := readFuint8_advanced h (by omega)
  have hlen₁ : (unread ba₁).length = (unread ba).length - 1 := by rw [h₁.unread_eq, List.length_drop]
  rw [readHead, Call.bind_ret (reading_ret hret₁), Call.bind_ret (Call.modify_apply _ _)]
  by_cases h₄ : (unread ba₁).length < 4
  · exact ⟨_, _, ba₁, Call.bind_throw (reading_throw (readFuint32_throw h₁.rep h₄)), rfl⟩
  obtain ⟨ba₂, hret₂, h₂⟩ := readFuint32_advanced h₁.rep (by omega)
  have hlen₂ : (unread ba₂).length = (unread ba₁).length - 4 := by rw [h₂.unread_eq, List.length_drop]
  have hthrow := readFuint32_throw h₂.rep (by omega)
  rw [Call.bind_ret (reading_ret hret₂), Call.bind_ret (Call.modify_apply _ _)]
  exact ⟨_, _, ba₂, Call.bind_throw (reading_throw hthrow), rfl⟩

end

/-! ## A round trip -/

section
variable {ba : ByteArray} {mem : ℕ → Word} {b t : Bitmap} {e : Endian} {bytes tail : List UInt8}

theorem ofImageWords_imageWords : ∀ data : List Word, ofImageWords (imageWords data) = data
  | [] => rfl
  | w :: data => by
    have hword : ofImageWords (imageWords (w :: data)) =
        ofImage 2 (image 2 w) :: ofImageWords (imageWords data) := rfl
    rw [hword, ofImage_image, ofImageWords_imageWords data]

theorem length_imageWords (data : List Word) : (imageWords data).length = 2 * data.length := by
  induction data with
  | nil => rfl
  | cons w data ih =>
    rw [imageWords, List.flatMap_cons, List.length_append, ← imageWords, ih, length_image,
      List.length_cons]
    omega

theorem ofFixed_fixedBytes (e : Endian) (n : ℕ) (v : BitVec (8 * n)) :
    ofFixed e n (fixedBytes e n v) = v := by
  by_cases he : e = byteOrder
  · rw [ofFixed, if_pos he, fixedBytes, if_neg (not_not.2 he), ofImage_image]
  · rw [ofFixed, if_neg he, fixedBytes, if_pos he, ofImage_image, byteswap_byteswap]

theorem length_fixedBytes (e : Endian) (n : ℕ) (v : BitVec (8 * n)) : (fixedBytes e n v).length = n :=
  length_image n _

theorem length_wire (e : Endian) (b : Bitmap) : (wire e b).length = 9 + 2 * b.data.length := by
  rw [wire, List.length_append, List.length_append, List.length_append, length_image, length_fixedBytes,
    length_fixedBytes, length_imageWords]
  omega

/-- The pieces of what is written. -/
theorem head_wire (e : Endian) (b : Bitmap) (hlen : b.data.length < 2 ^ 32) (tail : List UInt8) :
    headCompress (wire e b ++ tail) = b.isCompress ∧
      (headSize e (wire e b ++ tail)).toNat = b.size ∧
      (headDataSize e (wire e b ++ tail)).toNat = b.data.length ∧
      (wire e b ++ tail).drop 9 = imageWords b.data ++ tail := by
  obtain ⟨c, hc⟩ : ∃ c, image 1 (if b.isCompress then 1 else 0) = c := ⟨_, rfl⟩
  obtain ⟨n, hn⟩ : ∃ n, fixedBytes e 4 (BitVec.ofNat 32 b.size) = n := ⟨_, rfl⟩
  obtain ⟨m, hm⟩ : ∃ m, fixedBytes e 4 (BitVec.ofNat 32 b.data.length) = m := ⟨_, rfl⟩
  have hclen : c.length = 1 := hc ▸ length_image 1 _
  have hnlen : n.length = 4 := hn ▸ length_fixedBytes e 4 _
  have hmlen : m.length = 4 := hm ▸ length_fixedBytes e 4 _
  have hwire : wire e b ++ tail = c ++ (n ++ (m ++ (imageWords b.data ++ tail))) := by
    rw [wire, hc, hn, hm]
    simp only [List.append_assoc]
  have hslice (l₁ l₂ l₃ : List UInt8) (i k : ℕ) (hi : l₁.length = i) (hk : l₂.length = k) :
      slice (l₁ ++ (l₂ ++ l₃)) i k = l₂ := by
    rw [slice, ← hi, List.drop_left, ← hk, List.take_left]
  refine ⟨?_, ?_, ?_, ?_⟩
  · have hfirst := hslice [] c (n ++ (m ++ (imageWords b.data ++ tail))) 0 1 rfl hclen
    rw [List.nil_append] at hfirst
    rw [headCompress, hwire, hfirst, ← hc, ofImage_image]
    cases b.isCompress <;> rfl
  · rw [headSize, hwire, hslice _ _ _ _ _ hclen hnlen, ← hn, ofFixed_fixedBytes, BitVec.toNat_ofNat,
      Nat.mod_eq_of_lt b.size_lt]
  · rw [headDataSize, hwire, ← List.append_assoc c n, hslice _ _ _ _ _ (by simp [hclen, hnlen]) hmlen, ← hm,
      ofFixed_fixedBytes, BitVec.toNat_ofNat, Nat.mod_eq_of_lt hlen]
  · rw [hwire, ← List.append_assoc n m, ← List.append_assoc c, List.drop_left']
    simp [hclen, hnlen, hmlen]

variable (mem t) in
/-- The header is read, and the words are asked for. -/
theorem readFrom_head (h : ba.Rep) (hlen : 9 ≤ (unread ba).length) : ∃ t' ba',
    t'.isCompress = headCompress (unread ba) ∧ t'.size = (headSize ba.endian (unread ba)).toNat ∧
    t'.data = (List.range (headDataSize ba.endian (unread ba)).toNat).map mem ∧ Advanced ba 9 ba' ∧
    readFrom mem (t, ba) = Call.catchAll (do
      let bytes ← reading (ByteArray.read (2 * (headDataSize ba.endian (unread ba)).toNat))
      .modify fun s => ({ s.1 with data := ofImageWords bytes }, s.2)
      return true) false (t', ba') := by
  obtain ⟨ba', hret, hadv⟩ := readHead_ret mem t h hlen
  refine ⟨⟨headCompress (unread ba), (headSize ba.endian (unread ba)).toNat, (headSize ba.endian _).isLt, _⟩,
    ba', rfl, rfl, rfl, hadv, ?_⟩
  rw [readFrom, Call.catchAll, Call.catchAll, Call.bind_ret hret]

/-- What is left of the words is enough, or not. -/
theorem readWords_ret {n : ℕ} (h : ba.Rep) (hlen : n ≤ (unread ba).length)
    (h0 : n = 0 → ba.position < ba.capacity) : ∃ ba',
    (Call.catchAll (do
      let bytes ← reading (ByteArray.read n)
      .modify fun s => ({ s.1 with data := ofImageWords bytes }, s.2)
      return true) false : Call Exn (Bitmap × ByteArray) Bool) (t, ba) =
        .ret true ({ t with data := ofImageWords ((unread ba).take n) }, ba') := by
  obtain ⟨ba', hret, -⟩ := read_advanced h hlen h0
  exact ⟨ba', Call.catchAll_ret ((Call.bind_ret (reading_ret hret)).trans rfl)⟩

theorem readWords_undef (h : ba.Rep) (hpos : ba.position = ba.capacity) :
    (Call.catchAll (do
      let bytes ← reading (ByteArray.read 0)
      .modify fun s => ({ s.1 with data := ofImageWords bytes }, s.2)
      return true) false : Call Exn (Bitmap × ByteArray) Bool) (t, ba) = .undef :=
  Call.catchAll_undef (Call.bind_undef (reading_undef (read_undef h hpos)))

theorem readWords_false {n : ℕ} (h : ba.Rep) (hlen : (unread ba).length < n) :
    (Call.catchAll (do
      let bytes ← reading (ByteArray.read n)
      .modify fun s => ({ s.1 with data := ofImageWords bytes }, s.2)
      return true) false : Call Exn (Bitmap × ByteArray) Bool) (t, ba) = .ret false (t, ba) := by
  rw [Call.catchAll, Call.bind_throw (reading_throw (read_throw h (length_unread ba ▸ hlen)))]

/-- What `writeTo` leaves behind the cursor, when it goes back to where it was. -/
theorem written_unread (h : ba.Rep) {ba₁ : ByteArray} {w : List UInt8} (h₁ : Written ba w ba₁) :
    ∃ ba₂, setPosition ba.position ba₁ = .ret () ba₂ ∧ ba₂.Rep ∧ ba₂.endian = ba.endian ∧
      ba₂.position = ba.position ∧ ba₂.capacity = grown ba.baseSize ba.capacity (ba.position + w.length) ∧
      unread ba₂ = w ++ ba.content.drop (ba.position + w.length) := by
  have hpos : ba.position ≤ ba.content.length := h.length_content ▸ h.pos_le
  have hcontent₁ : ba₁.content = overwrite ba.content ba.position w := congrArg Flat.bytes h₁.flat_eq
  have hcapacity₁ : ba₁.capacity = grown ba.baseSize ba.capacity (ba.position + w.length) :=
    congrArg Flat.cap h₁.flat_eq
  have hroom := le_grown h.base_pos ba.capacity (ba.position + w.length)
  obtain ⟨ba₂, w', hset, hrep₂, hlen', hflat, hsame⟩ :=
    setPosition_ret h₁.rep (p := ba.position) (by rw [hcapacity₁]; omega)
  have hlen₁ : ba.position ≤ ba₁.content.length := by
    rw [hcontent₁, overwrite, List.length_append, List.length_append, List.length_take]
    omega
  obtain rfl : w' = [] := List.length_eq_zero_iff.1 (by omega)
  have hcontent₂ : ba₂.content = ba₁.content ++ [] := congrArg Flat.bytes hflat
  have hposition₂ : ba₂.position = ba.position := congrArg Flat.cursor hflat
  refine ⟨ba₂, hset, hrep₂, hsame.2.trans h₁.same.2, hposition₂,
    (congrArg Flat.cap hflat).trans hcapacity₁, ?_⟩
  rw [unread, hcontent₂, List.append_nil, hposition₂, hcontent₁, overwrite, List.append_assoc,
    List.drop_left']
  rw [List.length_take, Nat.min_eq_left hpos]

theorem eq_of_fields {a b : Bitmap} (hcompress : a.isCompress = b.isCompress) (hsize : a.size = b.size)
    (hdata : a.data = b.data) : a = b := by
  cases a
  cases b
  cases hcompress
  cases hsize
  cases hdata
  rfl

/-- The cursor goes back to the bytes that were written, and they are read. -/
theorem roundTrips_iff_read {ba₁ ba₂ : ByteArray} (hwrite : b.writeTo ba = .ret () ba₁)
    (hset : setPosition ba.position ba₁ = .ret () ba₂) :
    RoundTrips mem b t ba ↔ ∃ ba', readFrom mem (t, ba₂) = .ret true (b, ba') := by
  constructor
  · rintro ⟨ba₁', ba₂', ba', hwrite', hset', hread'⟩
    obtain ⟨-, rfl⟩ := Out.ret.inj (hwrite.symm.trans hwrite')
    obtain ⟨-, rfl⟩ := Out.ret.inj (hset.symm.trans hset')
    exact ⟨ba', hread'⟩
  · exact fun ⟨ba', hread'⟩ => ⟨ba₁, ba₂, ba', hwrite, hset, hread'⟩

/-- **The bytes that were written are read back**, where there is a block for the cursor behind the
    header, or there are words. -/
theorem roundTrips_iff (h : ba.Rep) (hlen : b.data.length < 2 ^ 32) : RoundTrips mem b t ba ↔
    ¬(b.data = [] ∧ ba.capacity ≤ ba.position + 9 ∧ ba.baseSize ∣ ba.position + 9) := by
  obtain ⟨ba₁, hwrite, h₁⟩ := writeTo_written h b
  obtain ⟨ba₂, hset, hrep₂, hendian, hposition, hcapacity, hunread⟩ := written_unread h h₁
  have hlen₂ : 9 ≤ (unread ba₂).length := by
    rw [hunread, List.length_append, length_wire]
    omega
  obtain ⟨t', ba₃, hcompress', hsize', -, h₃, hread⟩ := readFrom_head mem t hrep₂ hlen₂
  obtain ⟨hcompress, hsize, hdata, hrest⟩ :=
    head_wire ba.endian b hlen (ba.content.drop (ba.position + (wire ba.endian b).length))
  rw [hunread] at hcompress'
  rw [hendian, hunread] at hsize'
  rw [roundTrips_iff_read hwrite hset, hread, hendian, hunread, hdata]
  have hrest₃ : unread ba₃ = imageWords b.data ++ ba.content.drop (ba.position + (wire ba.endian b).length) := by
    rw [h₃.unread_eq, hunread, hrest]
  have hposition₃ : ba₃.position = ba.position + 9 := by rw [h₃.position_eq, hposition]
  have hcapacity₃ : ba₃.capacity = grown ba.baseSize ba.capacity (ba.position + (9 + 2 * b.data.length)) := by
    rw [h₃.capacity_eq, hcapacity, length_wire]
  have hfull : b.data = [] → (ba₃.capacity = ba₃.position ↔
      ba.capacity ≤ ba.position + 9 ∧ ba.baseSize ∣ ba.position + 9) := fun hnil => by
    have hblocks : ba.baseSize ∣ ba.capacity := h.capacity_eq ▸ Nat.dvd_mul_left _ _
    rw [hcapacity₃, hposition₃, hnil]
    exact grown_eq_self_iff h.base_pos hblocks _
  have hle₃ := h₃.rep.pos_le.trans h₃.rep.size_le
  by_cases hnull : b.data = [] ∧ ba₃.capacity = ba₃.position
  · have hundef := readWords_undef (t := t') h₃.rep hnull.2.symm
    refine iff_of_false ?_ (not_not.2 ⟨hnull.1, (hfull hnull.1).1 hnull.2⟩)
    rintro ⟨ba', hret⟩
    rw [hnull.1] at hret
    exact nomatch hundef.symm.trans hret
  · have hroom : 2 * b.data.length = 0 → ba₃.position < ba₃.capacity := fun h0 => by
      have hnil : b.data = [] := List.length_eq_zero_iff.1 (by omega)
      have hne : ba₃.capacity ≠ ba₃.position := fun heq => hnull ⟨hnil, heq⟩
      omega
    obtain ⟨ba', hret⟩ := readWords_ret (t := t') (n := 2 * b.data.length) h₃.rep
      (by rw [hrest₃, List.length_append, length_imageWords]; omega) hroom
    refine iff_of_true ⟨ba', hret.trans ?_⟩ fun hbad => hnull ⟨hbad.1, (hfull hbad.1).2 hbad.2⟩
    congr 2
    refine eq_of_fields (hcompress'.trans hcompress) (hsize'.trans hsize) ?_
    show ofImageWords _ = b.data
    rw [hrest₃, ← length_imageWords, List.take_left, ofImageWords_imageWords]

/-! ## A read that fails -/

theorem get_congr {a b : Bitmap} (h : a.data = b.data) (i : ℕ) : a.get i = b.get i := by
  rw [get, get, h]

variable (mem t) in
/-- When all the words are there, `false` is not returned. -/
theorem readFrom_ne_false (h : ba.Rep) (hlen : 9 ≤ (unread ba).length)
    (hwords : 9 + 2 * (headDataSize ba.endian (unread ba)).toNat ≤ (unread ba).length)
    (s : Bitmap × ByteArray) : readFrom mem (t, ba) ≠ .ret false s := by
  intro hret
  obtain ⟨t₁, ba₁, -, -, -, h₁, hread⟩ := readFrom_head mem t h hlen
  rw [hread] at hret
  generalize (headDataSize ba.endian (unread ba)).toNat = n at hwords hret
  have hlen₁ : 2 * n ≤ (unread ba₁).length := by rw [h₁.unread_eq, List.length_drop]; omega
  by_cases hroom : 2 * n = 0 → ba₁.position < ba₁.capacity
  · obtain ⟨ba', hret'⟩ := readWords_ret (t := t₁) h₁.rep hlen₁ hroom
    cases hret'.symm.trans hret
  · obtain ⟨hzero, hfull⟩ := Classical.not_imp.1 hroom
    have hle₁ := h₁.rep.pos_le.trans h₁.rep.size_le
    rw [hzero] at hret
    cases (readWords_undef (t := t₁) h₁.rep (by omega)).symm.trans hret

variable (mem t) in
/-- When words are missing, the bitmap has the memory that was allocated for them. -/
theorem readFrom_truncated (h : ba.Rep) (htrunc : Truncated ba) : ∃ t' ba',
    t'.data = (List.range (headDataSize ba.endian (unread ba)).toNat).map mem ∧
      readFrom mem (t, ba) = .ret false (t', ba') := by
  obtain ⟨hlen, hshort⟩ := htrunc
  obtain ⟨t₁, ba₁, -, -, hdata, h₁, hread⟩ := readFrom_head mem t h hlen
  refine ⟨t₁, ba₁, hdata, hread.trans (readWords_false h₁.rep ?_)⟩
  rw [h₁.unread_eq, List.length_drop]
  omega

theorem keeps_of_short (h : ba.Rep) (hlen : (unread ba).length < 9) : Keeps t ba := by
  intro mem t₂ ba₂ hret i v hget
  obtain ⟨e, t', ba', hthrow, hdata⟩ := readHead_throw mem t h hlen
  have hfalse : readFrom mem (t, ba) = .ret false (t', ba') := by
    rw [readFrom, Call.catchAll, Call.bind_throw hthrow]
  obtain ⟨-, hpair⟩ := Out.ret.inj (hfalse.symm.trans hret)
  cases hpair
  rw [get_congr hdata]
  exact hget

/-- The first bit is lost when the memory has the complement of the first word. -/
theorem not_keeps (h : ba.Rep) (htrunc : Truncated ba) (hne : t.data ≠ []) : ¬Keeps t ba := by
  intro hkeeps
  have hbit (b : Bitmap) (hb : 0 < b.data.length) : b.get 0 = .ok ((b.data.getD 0 0).getLsbD 0) :=
    get_ret (i := 0) hb
  have hpos : 0 < t.data.length := List.length_pos_iff.2 hne
  obtain ⟨t₁, ba₁, hdata, hread⟩ := readFrom_truncated (fun _ => ~~~t.data.getD 0 0) t h htrunc
  have hpos₁ : 0 < t₁.data.length := by
    have hcut := htrunc.1.trans_lt htrunc.2
    rw [hdata, List.length_map, List.length_range]
    omega
  have hsame := hkeeps _ t₁ ba₁ hread 0 _ (hbit t hpos)
  have hword : t₁.data.getD 0 0 = ~~~t.data.getD 0 0 := by
    rw [List.getD_eq_getElem _ _ hpos₁]
    simp only [hdata, List.getElem_map]
  rw [hbit t₁ hpos₁, Except.ok.injEq, hword, BitVec.getLsbD_not] at hsame
  simp at hsame

/-- **A read that fails keeps the bits**, unless the words are cut off and there was a bit. -/
theorem keeps_iff (h : ba.Rep) : Keeps t ba ↔ (t.data ≠ [] → ¬Truncated ba) := by
  refine ⟨fun hkeeps hne htrunc => not_keeps h htrunc hne hkeeps, fun hcut => ?_⟩
  rcases Nat.lt_or_ge (unread ba).length 9 with hshort | hlen
  · exact keeps_of_short h hshort
  intro mem t₂ ba₂ hret i v hget
  rcases Nat.lt_or_ge (unread ba).length (9 + 2 * (headDataSize ba.endian (unread ba)).toNat) with
    hcutoff | hwords
  · have hnil : t.data = [] := by_contra fun hne => hcut hne ⟨hlen, hcutoff⟩
    rw [get, hnil] at hget
    cases hget
  · exact absurd hret (readFrom_ne_false mem t h hlen hwords _)

/-- **A bitmap on a byte array.** What `writeTo` writes is read back unless there are no words, and
    the byte array has no block for the cursor behind the header; a read that fails keeps the bits
    unless the words are cut off, and there was a bit. -/
theorem wire_iff {ba' : ByteArray} (mem : ℕ → Word) (t : Bitmap) (h : ba.Rep) (h' : ba'.Rep)
    (hlen : b.data.length < 2 ^ 32) :
    (RoundTrips mem b t ba ↔
      ¬(b.data = [] ∧ ba.capacity ≤ ba.position + 9 ∧ ba.baseSize ∣ ba.position + 9)) ∧
    (Keeps t ba' ↔ (t.data ≠ [] → ¬Truncated ba')) :=
  ⟨roundTrips_iff h hlen, keeps_iff h'⟩

end

/-- A bitmap of 20 bits through a new byte array, and a read from another one. -/
theorem wire_twenty :
    RoundTrips (fun _ => 7) (new 20 (by decide) 0xFF#8) (new 3 (by decide) 0x00#8) (.new 8 fun _ => 0) ∧
      Keeps (new 3 (by decide) 0x00#8) (.new 8 fun _ => 0) := by
  have hrep : (ByteArray.new 8 fun _ => 0).Rep := new_rep (by decide) _
  obtain ⟨htrips, hkeeps⟩ := wire_iff (b := new 20 (by decide) 0xFF#8) (fun _ => 7)
    (new 3 (by decide) 0x00#8) hrep hrep (by decide)
  refine ⟨htrips.2 fun hnil => absurd hnil.1 (by decide), hkeeps.2 fun _ htrunc => ?_⟩
  have hle := htrunc.1
  rw [length_unread, content_new] at hle
  exact absurd hle (by decide)

/-- **The header of a bitmap of one word, and nothing behind it.** -/
theorem not_wire : ¬((∀ (mem : ℕ → Word) (b t : Bitmap) (ba : ByteArray), ba.Rep →
      b.data.length < 2 ^ 32 → RoundTrips mem b t ba) ∧
    ∀ (t : Bitmap) (ba : ByteArray), ba.Rep → Keeps t ba) := by
  rintro ⟨-, hkeeps⟩
  have hnew : (ByteArray.new 16 fun _ => 0).Rep := new_rep (by decide) _
  obtain ⟨ba₁, -, h₁⟩ := written_write hnew [0, 0, 0, 0, 14, 0, 0, 0, 1]
  obtain ⟨ba₂, -, hrep₂, hendian, -, -, hunread⟩ := written_unread hnew h₁
  rw [content_new, List.drop_nil, List.append_nil] at hunread
  have htrunc : Truncated ba₂ := by
    rw [Truncated, hunread, hendian]
    decide
  exact (keeps_iff hrep₂).1 (hkeeps (new 14 (by decide) 0x00#8) ba₂ hrep₂) (by decide) htrunc

end Ancfl.Bitmap
