/-
  The typed readers undo the typed writers.

  * `decodeZigzag_encodeZigzag`, `ofImage_image`, `byteswap_byteswap` and
    `readVarint_ret`: each encoding of an integer is read back;
  * `encode` are the bytes a value is written as, `writeVal_ret` and
    `readVal_ret` the specifications of its writer and reader;
  * `readVal_undef`: an empty string whose length ends at the end of the
    capacity is not read back, the `read` of its body dereferences null;
  * `roundTrip_iff`: a sequence of values is read back iff it does not end in
    such a string.
-/
import Ancfl.ByteArray.Flat
import Ancfl.ByteArray.Typed
import Ancfl.Lib.Codec

namespace Ancfl

open Lib

/-! ## Integers -/

theorem decodeZigzag_encodeZigzag {w : ℕ} (hw : 0 < w) (v : BitVec w) :
    decodeZigzag (encodeZigzag v) = v := by
  have hpow : 2 ^ w = 2 * 2 ^ (w - 1) := by rw [← pow_succ', Nat.sub_add_cancel hw]
  have hhalf : 0 < 2 ^ (w - 1) := Nat.two_pow_pos _
  have hv := v.isLt
  have hone : (1#w).toNat = 1 := by
    rw [BitVec.toNat_ofNat, Nat.mod_eq_of_lt]; omega
  have hbit (e : BitVec w) : (e &&& 1#w).toNat = e.toNat % 2 := by
    rw [BitVec.toNat_and, hone, Nat.and_one_is_mod]
  have hshift (e : BitVec w) : (e >>> 1).toNat = e.toNat / 2 := by
    rw [BitVec.toNat_ushiftRight, Nat.shiftRight_eq_div_pow, pow_one]
  have htwo : (v * 2#w).toNat = v.toNat * 2 % 2 ^ w := by
    rw [BitVec.toNat_mul, BitVec.toNat_ofNat, Nat.mul_mod_mod]
  unfold encodeZigzag decodeZigzag
  rw [BitVec.toInt_eq_toNat_cond]
  by_cases hsmall : 2 * v.toNat < 2 ^ w
  · rw [if_pos hsmall, if_neg (by omega)]
    have he : (v * 2#w).toNat = 2 * v.toNat := by
      rw [htwo, Nat.mod_eq_of_lt (by omega), Nat.mul_comm]
    have hlow : v * 2#w &&& 1#w = 0#w := by
      apply BitVec.eq_of_toNat_eq; rw [hbit, he]; simp
    have hhigh : (v * 2#w) >>> 1 = v := by
      apply BitVec.eq_of_toNat_eq; rw [hshift, he]; omega
    rw [hlow, hhigh]; simp
  · rw [if_neg hsmall, if_pos (by omega)]
    set e := -v * 2#w - 1#w with hedef
    have he : e.toNat = 2 * 2 ^ w - 2 * v.toNat - 1 := by
      have hneg : (-v * 2#w).toNat = (2 ^ w - v.toNat) * 2 % 2 ^ w := by
        rw [BitVec.toNat_mul, BitVec.toNat_ofNat, BitVec.toNat_neg, Nat.mul_mod_mod, Nat.mod_mul_mod]
      rw [hedef, BitVec.toNat_sub, hone, hneg]
      rcases Nat.lt_or_ge ((2 ^ w - v.toNat) * 2) (2 ^ w) with h | h
      · rw [Nat.mod_eq_of_lt h, show 2 ^ w - 1 + (2 ^ w - v.toNat) * 2 =
          (2 * 2 ^ w - 2 * v.toNat - 1) + 2 ^ w by omega, Nat.add_mod_right, Nat.mod_eq_of_lt (by omega)]
      · rw [show (2 ^ w - v.toNat) * 2 = 2 ^ w by omega, Nat.mod_self, Nat.mod_eq_of_lt (by omega)]
        omega
    have hlow : e &&& 1#w = 1#w := by
      apply BitVec.eq_of_toNat_eq; rw [hbit, he, hone]; omega
    have hhigh : e >>> 1 = ~~~v := by
      apply BitVec.eq_of_toNat_eq; rw [hshift, he, BitVec.toNat_not]; omega
    rw [hlow, hhigh, BitVec.neg_one_eq_allOnes, BitVec.xor_allOnes, BitVec.not_not]

@[simp]
theorem length_image (n : ℕ) (v : BitVec (8 * n)) : (image n v).length = n := by
  simp [image, byteOrder]

theorem two_pow_eight_mul (n : ℕ) : 2 ^ (8 * n) = 256 ^ n := by
  rw [pow_mul]; rfl

theorem ofImage_image (n : ℕ) (v : BitVec (8 * n)) : ofImage n (image n v) = v := by
  apply BitVec.eq_of_toNat_eq
  have hv := v.isLt
  simp only [ofImage, image, byteOrder, BitVec.toNat_ofNat, leNat_leBytes]
  rw [two_pow_eight_mul] at *
  rw [Nat.mod_mod, Nat.mod_eq_of_lt hv]

theorem byteswap_byteswap {n : ℕ} (v : BitVec (8 * n)) : byteswap (byteswap v) = v := by
  apply BitVec.eq_of_toNat_eq
  have hv := v.isLt
  have hlt := leNat_lt (leBytes n v.toNat).reverse
  have hinv := leBytes_leNat (leBytes n v.toNat).reverse
  rw [List.length_reverse, length_leBytes] at hlt hinv
  rw [two_pow_eight_mul] at hv
  simp only [byteswap, BitVec.toNat_ofNat, two_pow_eight_mul]
  rw [Nat.mod_eq_of_lt hlt, hinv, List.reverse_reverse, leNat_leBytes, Nat.mod_mod,
    Nat.mod_eq_of_lt hv]

theorem byteswapOnLittleEndian_byteswapOnLittleEndian {n : ℕ} (t : BitVec (8 * n)) :
    byteswapOnLittleEndian (byteswapOnLittleEndian t) = t := by
  unfold byteswapOnLittleEndian
  split_ifs
  · exact byteswap_byteswap t
  · rfl

/-! ## Varints -/

theorem varint_small {x : ℕ} (h : x < 128) : varint x = [UInt8.ofNat x] := by
  rw [varint, if_neg (by omega)]

theorem varint_large {x : ℕ} (h : 128 ≤ x) :
    varint x = UInt8.ofNat (x % 128 + 128) :: varint (x / 128) := by
  have hlow : (x &&& 0x7F) ||| 0x80 = x % 128 + 128 := by
    rw [show (0x7F : ℕ) = 2 ^ 7 - 1 by rfl, Nat.and_two_pow_sub_one_eq_mod, Nat.or_comm,
      show (0x80 : ℕ) = 2 ^ 7 * 1 by rfl, ← Nat.two_pow_add_eq_or_of_lt (Nat.mod_lt _ (by decide))]
    omega
  rw [varint, if_pos h, hlow, Nat.shiftRight_eq_div_pow]

theorem varint_ne_nil (x : ℕ) : varint x ≠ [] := by
  by_cases h : 128 ≤ x
  · rw [varint_large h]; simp
  · rw [varint_small (by omega)]; simp

/-- A digit ORed in above the bits read so far is added. -/
theorem or_shiftLeft {w i : ℕ} {r : BitVec w} {d : ℕ} (hr : r.toNat < 2 ^ i) (hd : d * 2 ^ i < 2 ^ w) :
    r ||| (BitVec.ofNat w d <<< i) = BitVec.ofNat w (r.toNat + d * 2 ^ i) := by
  have hpos : 0 < 2 ^ i := Nat.two_pow_pos i
  have hdw : d < 2 ^ w := lt_of_le_of_lt (Nat.le_mul_of_pos_right d hpos) hd
  have hsum : r.toNat + d * 2 ^ i = r.toNat ||| d * 2 ^ i := by
    rw [Nat.add_comm, Nat.or_comm, Nat.mul_comm, Nat.two_pow_add_eq_or_of_lt hr]
  apply BitVec.eq_of_toNat_eq
  rw [BitVec.toNat_or, BitVec.toNat_shiftLeft, BitVec.toNat_ofNat, BitVec.toNat_ofNat,
    Nat.mod_eq_of_lt hdw, Nat.shiftLeft_eq, Nat.mod_eq_of_lt hd, hsum, Nat.mod_eq_of_lt]
  exact Nat.or_lt_two_pow r.isLt hd

namespace ByteArray

/-! ## Appending and reading on -/

/-- A buffer of blocks of size `s` and byte order `e` to which `v` has been appended so far. -/
structure Appended (e : Endian) (s : ℕ) (b : ByteArray) (v : List UInt8) : Prop where
  rep : Rep b
  endian_eq : b.endian = e
  base_eq : b.baseSize = s
  content_eq : b.content = v
  position_eq : b.position = v.length
  capacity_eq : b.capacity = grown s s v.length

/-- A buffer of content `v`, byte order `e` and capacity `C` with `rest` still to be read. -/
structure Unread (e : Endian) (v : List UInt8) (C : ℕ) (b : ByteArray) (rest : List UInt8) : Prop where
  rep : Rep b
  endian_eq : b.endian = e
  content_eq : b.content = v
  capacity_eq : b.capacity = C
  drop_eq : v.drop b.position = rest

theorem new_appended {base : ℕ} (hb : 1 ≤ base) (heap : ℕ → UInt8) :
    Appended .big base (new base heap) [] :=
  ⟨new_rep hb heap, rfl, rfl, content_new base heap, rfl, (if_pos (Nat.zero_le base)).symm⟩

theorem grown_grown {s : ℕ} (hs : 0 < s) (cap t n : ℕ) :
    grown s (grown s cap t) (t + n) = grown s cap (t + n) := by
  unfold grown
  by_cases ht : t ≤ cap
  · rw [if_pos ht]
  · rw [if_neg ht, if_neg (show ¬ t + n ≤ cap by omega)]
    split_ifs with hfit
    · have h1 : (t + n + s - 1) / s ≤ (t + s - 1) / s := by
        rw [← Nat.lt_add_one_iff, Nat.div_lt_iff_lt_mul hs, Nat.add_mul]; omega
      have h2 : (t + s - 1) / s ≤ (t + n + s - 1) / s := Nat.div_le_div_right (by omega)
      rw [Nat.le_antisymm h2 h1]
    · rfl

/-- The capacity is used up iff it was, and the content fills a number of blocks. -/
theorem grown_eq_self_iff {s cap : ℕ} (hs : 0 < s) (hcap : s ∣ cap) (t : ℕ) :
    grown s cap t = t ↔ cap ≤ t ∧ s ∣ t := by
  unfold grown
  split_ifs with h
  · constructor
    · rintro rfl
      exact ⟨le_rfl, hcap⟩
    · exact fun hd => Nat.le_antisymm hd.1 h
  · constructor
    · exact fun he => ⟨(not_le.1 h).le, Dvd.intro_left _ he⟩
    · rintro ⟨-, k, rfl⟩
      rw [Nat.add_sub_assoc hs, Nat.mul_add_div hs, Nat.div_eq_of_lt (by omega), Nat.add_zero,
        Nat.mul_comm]

theorem grown_eq_iff {s : ℕ} (hs : 0 < s) {t : ℕ} (ht : 0 < t) : grown s s t = t ↔ s ∣ t :=
  (grown_eq_self_iff hs dvd_rfl t).trans ⟨And.right, fun hd => ⟨Nat.le_of_dvd ht hd, hd⟩⟩

theorem write_writes (e : Endian) (s : ℕ) (w : List UInt8) : Writes (Appended e s) (write w) w := by
  intro b v h
  obtain ⟨b', hw, hr, hf, hs⟩ := write_ret h.rep w
  refine ⟨b', hw, hr, hs.2.trans h.endian_eq, hs.1.trans h.base_eq, ?_, ?_, ?_⟩
  · have hc : b'.content = overwrite b.content b.position w := congrArg Flat.bytes hf
    rw [hc, h.content_eq, h.position_eq, overwrite]; simp
  · have hp : b'.position = b.position + w.length := congrArg Flat.cursor hf
    rw [hp, h.position_eq, List.length_append]
  · have hc : b'.capacity = grown b.baseSize b.capacity (b.position + w.length) := congrArg Flat.cap hf
    rw [hc, h.base_eq, h.capacity_eq, h.position_eq, grown_grown (h.base_eq ▸ h.rep.base_pos),
      List.length_append]

/-- **Reading on** returns the next bytes, if there are any to return, or more to read after
    them, or room left in the last block. -/
theorem read_unread {e : Endian} {v : List UInt8} {C : ℕ} {b : ByteArray} {w rest : List UInt8}
    (h : Unread e v C b (w ++ rest)) (h0 : w = [] → rest ≠ [] ∨ v.length < C) :
    ∃ b', read w.length b = .ret w b' ∧ Unread e v C b' rest := by
  have hpos : b.position ≤ v.length := by
    rw [← h.content_eq, h.rep.length_content]; exact h.rep.pos_le
  have hle : v.length ≤ b.capacity := by
    rw [← h.content_eq, h.rep.length_content]; exact h.rep.size_le
  have hlen : w.length + rest.length = v.length - b.position := by
    rw [← List.length_append, ← h.drop_eq, List.length_drop]
  obtain ⟨b', hr, hrep, hf, hs⟩ := read_ret (n := w.length) h.rep (by rw [h.content_eq]; omega)
    (fun hw => by
      rw [h.capacity_eq] at hle ⊢
      rcases h0 (List.length_eq_zero_iff.1 hw) with hrest | hroom
      · have := List.length_pos_iff.2 hrest; omega
      · omega)
  have hslice : slice b.content b.position w.length = w := by
    rw [slice, h.content_eq, h.drop_eq, List.take_left]
  have hposition : b'.position = b.position + w.length := congrArg Flat.cursor hf
  refine ⟨b', by rw [hr, hslice], hrep, hs.2.trans h.endian_eq,
    (congrArg Flat.bytes hf).trans h.content_eq, (congrArg Flat.cap hf).trans h.capacity_eq, ?_⟩
  rw [hposition, ← List.drop_drop, h.drop_eq, List.drop_left]

/-- With nothing left to read and no room left in the last block, a read of no bytes is not
    defined. -/
theorem read_unread_undef {e : Endian} {v : List UInt8} {b : ByteArray}
    (h : Unread e v v.length b []) : read 0 b = .undef := by
  refine read_undef h.rep (Nat.le_antisymm (h.rep.pos_le.trans h.rep.size_le) ?_)
  rw [h.capacity_eq]; exact List.drop_eq_nil_iff.1 h.drop_eq

/-! ## One value -/

/-- The bytes of an integer in the byte order `e`. -/
def fixedBytes (e : Endian) (n : ℕ) (v : BitVec (8 * n)) : List UInt8 :=
  image n (if e ≠ byteOrder then byteswap v else v)

/-- The bytes a value is written as. -/
def encode (e : Endian) : Val → List UInt8
  | .fint8 v | .fuint8 v => image 1 v
  | .fint16 v | .fuint16 v => fixedBytes e 2 v
  | .fint32 v | .fuint32 v | .float v => fixedBytes e 4 v
  | .fint64 v | .fuint64 v | .double v => fixedBytes e 8 v
  | .uint32 v => varint v.toNat
  | .int32 v => varint (encodeZigzag32 v).toNat
  | .uint64 v => varint v.toNat
  | .int64 v => varint (encodeZigzag64 v).toNat
  | .stringF16 v => fixedBytes e 2 (BitVec.ofNat 16 v.length) ++ v
  | .stringF32 v => fixedBytes e 4 (BitVec.ofNat 32 v.length) ++ v
  | .stringF64 v => fixedBytes e 8 (BitVec.ofNat 64 v.length) ++ v
  | .stringVint v => varint (BitVec.ofNat 64 v.length).toNat ++ v

end ByteArray

/-- The length of a string fits its prefix. -/
def Val.Fits : Val → Prop
  | .stringF16 v => v.length < 2 ^ 16
  | .stringF32 v => v.length < 2 ^ 32
  | .stringF64 v | .stringVint v => v.length < 2 ^ 64
  | _ => True

/-- The empty string, with a prefix of any kind. -/
def Val.IsEmptyString : Val → Prop
  | .stringF16 v | .stringF32 v | .stringF64 v | .stringVint v => v = []
  | _ => False

namespace ByteArray

/-! ### The writers -/

theorem writeFixed_writes (e : Endian) (s n : ℕ) (v : BitVec (8 * n)) :
    Writes (Appended e s) (writeFixed n v) (fixedBytes e n v) := by
  intro b w h
  obtain ⟨b', hw, hb'⟩ := write_writes e s (fixedBytes e n v) b w h
  refine ⟨b', ?_, hb'⟩
  rw [writeFixed, Call.bind_ret (Call.gets_apply _ _), h.endian_eq]
  exact hw

theorem writeString_writes {e : Endian} {s w : ℕ} {len : BitVec w → Call Exn ByteArray Unit}
    {v p : List UInt8} (hlen : Writes (Appended e s) (len (BitVec.ofNat w v.length)) p) :
    Writes (Appended e s) (writeString len v) (p ++ v) :=
  hlen.seq (write_writes e s v)

/-- **The writer of a value appends its encoding.** -/
theorem writeVal_writes (e : Endian) (s : ℕ) (v : Val) :
    Writes (Appended e s) (writeVal v) (encode e v) := by
  cases v with
  | fint8 v | fuint8 v =>
    show Writes (Appended e s) (write (image 1 v)) (image 1 v)
    exact write_writes e s _
  | fint16 v | fuint16 v => exact writeFixed_writes e s 2 v
  | fint32 v | fuint32 v | float v => exact writeFixed_writes e s 4 v
  | fint64 v | fuint64 v | double v => exact writeFixed_writes e s 8 v
  | int32 v | uint32 v | int64 v | uint64 v => exact write_writes e s _
  | stringF16 v => exact writeString_writes (writeFixed_writes e s 2 _)
  | stringF32 v => exact writeString_writes (writeFixed_writes e s 4 _)
  | stringF64 v => exact writeString_writes (writeFixed_writes e s 8 _)
  | stringVint v => exact writeString_writes (write_writes e s _)

/-! ### The readers -/

/-- As `Unread`, with `tail` after the bytes that are read next. -/
def Left (e : Endian) (v : List UInt8) (C : ℕ) (tail : List UInt8) (b : ByteArray)
    (rest : List UInt8) : Prop := Unread e v C b (rest ++ tail)

section
variable {e : Endian} {v tail : List UInt8} {C : ℕ}

theorem read_reads {w : List UInt8} (h0 : w = [] → tail ≠ [] ∨ v.length < C) :
    Reads (Left e v C tail) (read w.length) w w := by
  intro b rest h
  rw [Left, List.append_assoc] at h
  refine read_unread h fun hw => (h0 hw).imp_left fun ht => ?_
  simp [ht]

theorem readFuint8_reads (x : UInt8) :
    Reads (Left e v C tail) readFuint8 [x] (BitVec.ofNat 8 x.toNat) := by
  have hread : Reads (Left e v C tail) (read 1) [x] [x] := read_reads (w := [x]) (by simp)
  have h := hread.map (ofImage 1)
  have hx : ofImage 1 [x] = BitVec.ofNat 8 x.toNat := by simp [ofImage, byteOrder, leNat]
  rw [hx, map_eq_pure_bind] at h
  exact h

theorem readFixed_reads (n : ℕ) (hn : 0 < n) (x : BitVec (8 * n)) :
    Reads (Left e v C tail) (readFixed n) (fixedBytes e n x) x := by
  have hlen : (fixedBytes e n x).length = n := length_image n _
  have hread : Reads (Left e v C tail) (read n) (fixedBytes e n x) (fixedBytes e n x) := by
    have hall : Reads (Left e v C tail) (read (fixedBytes e n x).length) _ (fixedBytes e n x) :=
      read_reads fun h => by rw [h] at hlen; simp at hlen; omega
    rwa [hlen] at hall
  rw [← List.append_nil (fixedBytes e n x)]
  refine hread.bind fun b rest h => ⟨b, ?_, h⟩
  rw [Call.bind_ret (Call.gets_apply _ _), h.endian_eq, Call.pure_apply]
  by_cases he : e = byteOrder
  · rw [if_pos he, fixedBytes, if_neg (by simpa using he), ofImage_image]
  · rw [if_neg he, fixedBytes, if_pos he, ofImage_image, byteswap_byteswap]

/-- The loop adds the rest of the varint to the bits read so far. -/
theorem readVarint_reads {w : ℕ} (hw : 8 ≤ w) (x : ℕ) : ∀ (i : ℕ) (r : BitVec w), i < w →
    r.toNat < 2 ^ i → x * 2 ^ i < 2 ^ w →
      Reads (Left e v C tail) (readVarint w i r) (varint x) (BitVec.ofNat w (r.toNat + x * 2 ^ i)) := by
  have hbyte : 2 ^ 8 ≤ 2 ^ w := Nat.pow_le_pow_right (by decide) hw
  induction x using Nat.strong_induction_on with
  | _ x ih =>
    intro i r hi hr hx
    rw [readVarint, if_pos hi]
    by_cases hlarge : 128 ≤ x
    · rw [varint_large hlarge]
      have hb : (UInt8.ofNat (x % 128 + 128)).toNat = x % 128 + 128 := by
        rw [UInt8.toNat_ofNat']; omega
      have hdigit : (BitVec.ofNat 8 (x % 128 + 128) &&& 0x7F#8).setWidth w = BitVec.ofNat w (x % 128) := by
        apply BitVec.eq_of_toNat_eq
        rw [BitVec.toNat_setWidth, BitVec.toNat_and, BitVec.toNat_ofNat, BitVec.toNat_ofNat,
          BitVec.toNat_ofNat, show (0x7F % 2 ^ 8 : ℕ) = 2 ^ 7 - 1 by rfl, Nat.and_two_pow_sub_one_eq_mod]
        congr 1; omega
      have hdx : x % 128 * 2 ^ i ≤ x * 2 ^ i := Nat.mul_le_mul_right _ (Nat.mod_le _ _)
      have hrest : x / 128 * 2 ^ (i + 7) + x % 128 * 2 ^ i = x * 2 ^ i := by
        rw [pow_add, show (2 : ℕ) ^ 7 = 128 by rfl, ← Nat.mul_assoc, Nat.mul_right_comm, ← Nat.add_mul,
          Nat.div_add_mod']
      have hi7 : i + 7 < w := by
        have : 2 ^ (i + 7) < 2 ^ w := calc
          2 ^ (i + 7) ≤ x / 128 * 2 ^ (i + 7) := Nat.le_mul_of_pos_left _ (by omega)
          _ < 2 ^ w := by omega
        exact (Nat.pow_lt_pow_iff_right (by decide)).1 this
      have hr' : r.toNat + x % 128 * 2 ^ i < 2 ^ (i + 7) := by
        have : x % 128 * 2 ^ i ≤ 127 * 2 ^ i := Nat.mul_le_mul_right _ (by omega)
        rw [pow_add, show (2 : ℕ) ^ 7 = 128 by rfl]; omega
      have hsum : r.toNat + x % 128 * 2 ^ i < 2 ^ w :=
        hr'.trans_le (Nat.pow_le_pow_right (by decide) hi7.le)
      have hr₁ : (BitVec.ofNat w (r.toNat + x % 128 * 2 ^ i)).toNat = r.toNat + x % 128 * 2 ^ i := by
        rw [BitVec.toNat_ofNat, Nat.mod_eq_of_lt hsum]
      have hnext := ih (x / 128) (by omega) (i + 7) _ hi7 (hr₁.symm ▸ hr') (by omega)
      rw [hr₁, Nat.add_assoc, Nat.add_comm (x % 128 * 2 ^ i), hrest] at hnext
      refine (readFuint8_reads _).bind ?_
      rw [hb, if_neg (by rw [BitVec.lt_def, BitVec.toNat_ofNat, BitVec.toNat_ofNat]; omega), hdigit,
        or_shiftLeft hr (by omega)]
      exact hnext
    · rw [varint_small (by omega), ← List.append_nil [UInt8.ofNat x]]
      have hb : (UInt8.ofNat x).toNat = x := by rw [UInt8.toNat_ofNat']; omega
      have hdigit : (BitVec.ofNat 8 x).setWidth w = BitVec.ofNat w x := by
        apply BitVec.eq_of_toNat_eq
        rw [BitVec.toNat_setWidth, BitVec.toNat_ofNat, BitVec.toNat_ofNat,
          Nat.mod_eq_of_lt (show x < 2 ^ 8 by omega)]
      refine (readFuint8_reads _).bind ?_
      rw [hb, if_pos (by rw [BitVec.lt_def, BitVec.toNat_ofNat, BitVec.toNat_ofNat]; omega), hdigit,
        or_shiftLeft hr hx]
      exact Reads.pure _

theorem readUint_reads {w : ℕ} (hw : 8 ≤ w) (x : BitVec w) :
    Reads (Left e v C tail) (readVarint w 0 0) (varint x.toNat) x := by
  have h : Reads (Left e v C tail) (readVarint w 0 0) _ _ :=
    readVarint_reads hw x.toNat 0 0 (by omega) (by simp) (by simpa using x.isLt)
  simpa using h

theorem readInt_reads {w : ℕ} (hw : 8 ≤ w) (x : BitVec w) :
    Reads (Left e v C tail) (do return decodeZigzag (← readVarint w 0 0))
      (varint (encodeZigzag x).toNat) x := by
  have hread : Reads (Left e v C tail) (readVarint w 0 0) _ _ := readUint_reads hw (encodeZigzag x)
  have h := hread.map decodeZigzag
  rw [decodeZigzag_encodeZigzag (by omega), map_eq_pure_bind] at h
  exact h

theorem readString_reads {w : ℕ} {len : Call Exn ByteArray (BitVec w)} {s p : List UInt8}
    (hlen : Reads (Left e v C tail) len p (BitVec.ofNat w s.length)) (hs : s.length < 2 ^ w)
    (h0 : s = [] → tail ≠ [] ∨ v.length < C) : Reads (Left e v C tail) (readString len) (p ++ s) s := by
  refine hlen.bind ?_
  rw [BitVec.toNat_ofNat, Nat.mod_eq_of_lt hs]
  exact read_reads h0

/-- **The reader of a type reads back the encoding of a value** that is not an empty string, or
    has bytes after it, or room left in the last block. -/
theorem readVal_reads {x : Val} (hx : x.Fits) (h0 : x.IsEmptyString → tail ≠ [] ∨ v.length < C) :
    Reads (Left e v C tail) (readKind x.kind) (encode e x) x := by
  cases x with
  | fint8 x | fuint8 x =>
    obtain ⟨y, rfl⟩ : ∃ y : UInt8, x = BitVec.ofNat 8 y.toNat :=
      ⟨UInt8.ofBitVec x, by simp⟩
    have himage : image 1 (BitVec.ofNat 8 y.toNat) = [y] := by simp [image, byteOrder, leBytes]
    show Reads _ (_ <$> _) (image 1 _) _
    rw [himage]
    exact (readFuint8_reads y).map _
  | fint16 x | fuint16 x => exact (readFixed_reads 2 (by decide) x).map _
  | fint32 x | fuint32 x | float x => exact (readFixed_reads 4 (by decide) x).map _
  | fint64 x | fuint64 x | double x => exact (readFixed_reads 8 (by decide) x).map _
  | uint32 x => exact (readUint_reads (w := 32) (by decide) x).map _
  | uint64 x => exact (readUint_reads (w := 64) (by decide) x).map _
  | int32 x => exact (readInt_reads (w := 32) (by decide) x).map _
  | int64 x => exact (readInt_reads (w := 64) (by decide) x).map _
  | stringF16 s => exact (readString_reads (readFixed_reads 2 (by decide) _) hx h0).map _
  | stringF32 s => exact (readString_reads (readFixed_reads 4 (by decide) _) hx h0).map _
  | stringF64 s => exact (readString_reads (readFixed_reads 8 (by decide) _) hx h0).map _
  | stringVint s => exact (readString_reads (readUint_reads (w := 64) (by decide) _) hx h0).map _

theorem readString_undef {w : ℕ} {len : Call Exn ByteArray (BitVec w)} {p : List UInt8}
    {b : ByteArray} (hlen : Reads (Left e v v.length []) len p 0#w) (hp : Unread e v v.length b p) :
    readString len b = .undef := by
  obtain ⟨b', hr, hb'⟩ := hlen b [] (by rw [Left, List.append_nil, List.append_nil]; exact hp)
  rw [readString, Call.bind_ret hr, BitVec.toNat_zero]
  exact read_unread_undef hb'

/-- **An empty string whose length ends at the end of the capacity is not read back.** -/
theorem readVal_undef {x : Val} (hx : x.IsEmptyString) {b : ByteArray}
    (h : Unread e v v.length b (encode e x)) : readKind x.kind b = .undef := by
  have hmap {α : Type} {rd : Call Exn ByteArray α} (g : α → Val) (hu : rd b = .undef) :
      (g <$> rd) b = .undef := by rw [Call.map_apply, hu]
  cases x with
  | stringF16 s =>
    obtain rfl : s = [] := hx
    refine hmap _ (readString_undef (e := e) (v := v) (readFixed_reads 2 (by decide) 0#16) ?_)
    simpa [encode] using h
  | stringF32 s =>
    obtain rfl : s = [] := hx
    refine hmap _ (readString_undef (e := e) (v := v) (readFixed_reads 4 (by decide) 0#32) ?_)
    simpa [encode] using h
  | stringF64 s =>
    obtain rfl : s = [] := hx
    refine hmap _ (readString_undef (e := e) (v := v) (readFixed_reads 8 (by decide) 0#64) ?_)
    simpa [encode] using h
  | stringVint s =>
    obtain rfl : s = [] := hx
    refine hmap _ (readString_undef (e := e) (v := v) (readUint_reads (by decide) 0#64) ?_)
    simpa [encode] using h
  | _ => exact hx.elim

end

/-! ## Sequences of values -/

theorem encode_ne_nil (e : Endian) (x : Val) : encode e x ≠ [] := by
  have hfixed (n : ℕ) (hn : 0 < n) (y : BitVec (8 * n)) : fixedBytes e n y ≠ [] := by
    intro h
    have := length_image n (if e ≠ byteOrder then byteswap y else y)
    rw [← fixedBytes, h] at this
    simp at this; omega
  cases x with
  | fint8 x | fuint8 x => simp [encode, image, byteOrder, leBytes]
  | fint16 x | fuint16 x => exact hfixed 2 (by decide) x
  | fint32 x | fuint32 x | float x => exact hfixed 4 (by decide) x
  | fint64 x | fuint64 x | double x => exact hfixed 8 (by decide) x
  | int32 x | uint32 x | int64 x | uint64 x => exact varint_ne_nil _
  | stringF16 s => exact List.append_ne_nil_of_left_ne_nil (hfixed 2 (by decide) _) _
  | stringF32 s => exact List.append_ne_nil_of_left_ne_nil (hfixed 4 (by decide) _) _
  | stringF64 s => exact List.append_ne_nil_of_left_ne_nil (hfixed 8 (by decide) _) _
  | stringVint s => exact List.append_ne_nil_of_left_ne_nil (varint_ne_nil _) _

/-- The byte order `setIsLittleEndian` sets. -/
def order (little : Bool) : Endian := if little then .little else .big

/-- The values end in an empty string and their encodings fill a number of blocks of size `base`. -/
def EndsFull (base : ℕ) (e : Endian) (vs : List Val) : Prop :=
  ∃ init x, vs = init ++ [x] ∧ x.IsEmptyString ∧ base ∣ (vs.flatMap (encode e)).length

/-- The writers leave a buffer with all the bytes still to be read. -/
theorem written {base : ℕ} (hb : 1 ≤ base) (heap : ℕ → UInt8) (little : Bool) (vs : List Val) :
    ∃ b, Unread (order little) (vs.flatMap (encode (order little)))
        (grown base base (vs.flatMap (encode (order little))).length) b
        (vs.flatMap (encode (order little))) ∧
      roundTrip little vs (new base heap) = (do
        let rs ← vs.mapM fun v => readKind v.kind
        let left ← .gets getReadSize
        return (rs, left) : Call Exn ByteArray (List Val × ℕ)) b := by
  set e := order little with he
  set b₀ : ByteArray := { new base heap with endian := e } with hb₀
  have hrep : Rep b₀ := by
    obtain ⟨h1, h2, h3, h4, h5, h6, h7⟩ := new_rep hb heap
    exact ⟨h1, h2, h3, h4, h5, h6, h7⟩
  have happ : Appended e base b₀ [] :=
    ⟨hrep, rfl, rfl, content_new base heap, rfl, (if_pos (Nat.zero_le base)).symm⟩
  obtain ⟨b₁, hw, h₁⟩ := Writes.forM vs (fun v _ => writeVal_writes e base v) b₀ [] happ
  rw [List.nil_append] at h₁
  obtain ⟨b₂, w, hset, hr₂, hwlen, hf, hs⟩ := setPosition_ret h₁.rep (Nat.zero_le _)
  obtain rfl : w = [] := List.length_eq_zero_iff.1 (by omega)
  refine ⟨b₂, ⟨hr₂, hs.2.trans h₁.endian_eq, ?_, (congrArg Flat.cap hf).trans h₁.capacity_eq, ?_⟩, ?_⟩
  · have hc : b₂.content = b₁.content ++ [] := congrArg Flat.bytes hf
    rw [hc, List.append_nil, h₁.content_eq]
  · have hp : b₂.position = 0 := congrArg Flat.cursor hf
    rw [hp, List.drop_zero]
  · have hlittle : setIsLittleEndian little (new base heap) = .ret () b₀ := rfl
    rw [roundTrip, Call.bind_ret hlittle, Call.bind_ret hw, Call.bind_ret hset]

section
variable {e : Endian} {v : List UInt8} {C : ℕ} {b : ByteArray}

/-- The values before the last one are read back. -/
theorem readInit_ret {init : List Val} {x : Val} (hfits : ∀ y ∈ init, y.Fits)
    (h : Unread e v C b ((init ++ [x]).flatMap (encode e))) :
    ∃ b', init.mapM (fun y => readKind y.kind) b = .ret init b' ∧ Unread e v C b' (encode e x) := by
  have hreads : Reads (Left e v C (encode e x)) (init.mapM fun y => readKind y.kind)
      (init.flatMap (encode e)) (init.map id) :=
    Reads.mapM init fun y hy => readVal_reads (hfits y hy) fun _ => .inl (encode_ne_nil e x)
  rw [List.map_id] at hreads
  rw [List.flatMap_append, List.flatMap_singleton] at h
  obtain ⟨b', hr, h'⟩ := hreads b [] (by rw [Left, List.append_nil]; exact h)
  exact ⟨b', hr, h'⟩

/-- All the values are read back if the last one is not empty or has room after it. -/
theorem readAll_ret {init : List Val} {x : Val} (hfits : ∀ y ∈ init ++ [x], y.Fits)
    (hroom : x.IsEmptyString → v.length < C)
    (h : Unread e v C b ((init ++ [x]).flatMap (encode e))) :
    ∃ b', (init ++ [x]).mapM (fun y => readKind y.kind) b = .ret (init ++ [x]) b' ∧
      Unread e v C b' [] := by
  obtain ⟨b₁, hinit, h₁⟩ := readInit_ret (fun y hy => hfits y (by simp [hy])) h
  have hlast : Reads (Left e v C []) (readKind x.kind) (encode e x) x :=
    readVal_reads (hfits x (by simp)) fun hx => .inr (hroom hx)
  obtain ⟨b₂, hx, h₂⟩ := hlast b₁ [] (by rw [Left, List.append_nil, List.append_nil]; exact h₁)
  refine ⟨b₂, ?_, h₂⟩
  rw [List.mapM_append, Call.bind_ret hinit, List.mapM_cons, List.mapM_nil, bind_assoc,
    Call.bind_ret hx]
  rfl

/-- An empty string at the end of the capacity stops the readers. -/
theorem readAll_undef {init : List Val} {x : Val} (hfits : ∀ y ∈ init, y.Fits)
    (hx : x.IsEmptyString) (h : Unread e v v.length b ((init ++ [x]).flatMap (encode e))) :
    (init ++ [x]).mapM (fun y => readKind y.kind) b = .undef := by
  obtain ⟨b₁, hinit, h₁⟩ := readInit_ret hfits h
  rw [List.mapM_append, Call.bind_ret hinit, List.mapM_cons, bind_assoc,
    Call.bind_undef (readVal_undef hx h₁)]

theorem getReadSize_eq_zero (h : Unread e v C b []) : b.getReadSize = 0 := by
  have hlen : b.size = v.length := by rw [← h.content_eq, h.rep.length_content]
  have hle := List.drop_eq_nil_iff.1 h.drop_eq
  rw [getReadSize, hlen, Nat.sub_eq_zero_of_le hle]

end

/-- **The values written are read back, and nothing else is left, iff** the values do not end in
    an empty string with their encodings filling a number of blocks. -/
theorem roundTrip_iff {base : ℕ} (hb : 1 ≤ base) (heap : ℕ → UInt8) (little : Bool) (vs : List Val)
    (hfits : ∀ v ∈ vs, v.Fits) :
    (∃ b, roundTrip little vs (new base heap) = .ret (vs, 0) b) ↔
      ¬ EndsFull base (order little) vs := by
  obtain ⟨b, h, hrt⟩ := written hb heap little vs
  rw [hrt]
  have hfull {init : List Val} {x : Val} : 0 < ((init ++ [x]).flatMap (encode (order little))).length := by
    rw [List.flatMap_append, List.flatMap_singleton, List.length_append]
    have := List.length_pos_iff.2 (encode_ne_nil (order little) x)
    omega
  constructor
  · rintro ⟨b', hret⟩ ⟨init, x, rfl, hx, hdvd⟩
    rw [(grown_eq_iff hb hfull).2 hdvd] at h
    rw [Call.bind_undef (readAll_undef (fun y hy => hfits y (by simp [hy])) hx h)] at hret
    cases hret
  · intro hends
    rcases vs.eq_nil_or_concat with rfl | ⟨init, x, rfl⟩
    · refine ⟨b, ?_⟩
      rw [List.mapM_nil, pure_bind, Call.bind_ret (Call.gets_apply _ _), getReadSize_eq_zero h]
      rfl
    · rw [List.concat_eq_append] at *
      have hroom (hx : x.IsEmptyString) :
          ((init ++ [x]).flatMap (encode (order little))).length <
            grown base base ((init ++ [x]).flatMap (encode (order little))).length := by
        refine lt_of_le_of_ne (le_grown hb _ _) fun heq => hends ⟨init, x, rfl, hx, ?_⟩
        exact (grown_eq_iff hb hfull).1 heq.symm
      obtain ⟨b', hread, h'⟩ := readAll_ret hfits hroom h
      refine ⟨b', ?_⟩
      rw [Call.bind_ret hread, Call.bind_ret (Call.gets_apply _ _), getReadSize_eq_zero h']
      rfl

/-- Over blocks of 4 bytes, a string, a signed integer and an empty string are read back. -/
theorem roundTrip_strings :
    ∃ b, roundTrip true [.stringF16 [7], .int32 (-1), .stringVint []] (new 4 fun _ => 0) =
      .ret ([.stringF16 [7], .int32 (-1), .stringVint []], 0) b := by
  refine (roundTrip_iff (by decide) _ true _ (by simp [Val.Fits])).2 ?_
  rintro ⟨init, x, -, -, hdvd⟩
  revert hdvd
  have hlen : ([.stringF16 [7], .int32 (-1), .stringVint []].flatMap
      (encode (order true))).length = 5 := by
    simp [encode, fixedBytes, varint_small, encodeZigzag32, encodeZigzag]
  rw [hlen]
  decide

/-- With blocks of one byte, an empty string is written and not read back. -/
theorem not_roundTrip : ¬ ∀ (base : ℕ) (heap : ℕ → UInt8) (little : Bool) (vs : List Val), 1 ≤ base →
    (∀ v ∈ vs, v.Fits) → ∃ b, roundTrip little vs (new base heap) = .ret (vs, 0) b := by
  intro hall
  obtain ⟨b', hret⟩ := hall 1 (fun _ => 0) true [.stringVint []] le_rfl (by simp [Val.Fits])
  obtain ⟨b, h, hrt⟩ := written le_rfl (fun _ => 0) true [.stringVint []]
  have hencode : [Val.stringVint []].flatMap (encode (order true)) = [0] := by
    simp [encode, varint_small]
  have hundef : ([] ++ [Val.stringVint []]).mapM (fun y => readKind (Val.kind y)) b = .undef := by
    refine readAll_undef (v := [0]) (e := order true) (by simp) (x := .stringVint []) rfl ?_
    rw [List.nil_append, hencode]
    rw [hencode] at h
    exact h
  rw [List.nil_append] at hundef
  rw [hrt, Call.bind_undef hundef] at hret
  cases hret

end ByteArray
end Ancfl
