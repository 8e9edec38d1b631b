/-
  `base64encode` and `base64decode`.

  * `base64encode` takes up to three bytes a turn, `base64decode` up to four
    characters a turn; the decoder writes through a pointer into a buffer of
    `size * 3 / 4` bytes, and `none` is a write beyond it;
  * `WellFormed`: digits and at most two `=`, in all a multiple of four;
  * `base64decode_encode`, `base64decode_malformed`: the round trip, and the
    texts that are refused, without a write beyond the buffer.
-/
import Mathlib.Tactic.Common
import Mathlib.Algebra.Group.Nat.Defs
import Mathlib.Data.List.Basic

namespace Ancfl.Util

/-! ## Encoding -/

/-- `ABCDEFGHIJKLMNOPQRSTUVWXYZabcdefghijklmnopqrstuvwxyz0123456789+/`. -/
def base64 : List UInt8 := [
  65, 66, 67, 68, 69, 70, 71, 72, 73, 74, 75, 76, 77, 78, 79, 80, 81, 82, 83, 84, 85, 86, 87, 88,
  89, 90, 97, 98, 99, 100, 101, 102, 103, 104, 105, 106, 107, 108, 109, 110, 111, 112, 113, 114,
  115, 116, 117, 118, 119, 120, 121, 122, 48, 49, 50, 51, 52, 53, 54, 55, 56, 57, 43, 47]

/-- The first inner loop of `base64encode`, `n` turns before its end: the turns left when the bytes
    end, the number packed, and the bytes after it. -/
def packBytes : ℕ → ℕ → List UInt8 → ℕ × ℕ × List UInt8
  | 0, packed, ptr => (0, packed, ptr)
  | n + 1, packed, [] => (n + 1, packed, [])
  | n + 1, packed, c :: ptr => packBytes n (packed <<< 8 ||| c.toNat) ptr

theorem packBytes_length : ∀ (n packed : ℕ) (ptr : List UInt8),
    (packBytes n packed ptr).2.2.length ≤ ptr.length
  | 0, _, _ => Nat.le_refl _
  | _ + 1, _, [] => Nat.le_refl _
  | n + 1, _, _ :: ptr => Nat.le_succ_of_le (packBytes_length n _ ptr)

/-- The characters written for a group, `base64` being indexed by six bits of `packed`. -/
def digits (padding packed : ℕ) : List UInt8 :=
  [base64.getD (packed >>> 18) 0, base64.getD ((packed >>> 12) &&& 0x3f) 0] ++
    (if padding ≠ 2 then [base64.getD ((packed >>> 6) &&& 0x3f) 0] else []) ++
    (if padding = 0 then [base64.getD (packed &&& 0x3f) 0] else []) ++ List.replicate padding 61

/-- The loop of `base64encode`.  The turns that are left are those of the second inner loop, and the
    padding. -/
def encodeTurns : List UInt8 → List UInt8
  | [] => []
  | c :: ptr =>
    let group := packBytes 3 0 (c :: ptr)
    digits group.1 (group.2.1 <<< (8 * group.1)) ++ encodeTurns group.2.2
termination_by ptr => ptr.length
decreasing_by exact Nat.lt_succ_of_le (packBytes_length 2 _ ptr)

def base64encode (data : List UInt8) : List UInt8 := encodeTurns data

/-! ## Decoding -/

/-- The value of a character in `base64decode`. -/
def val? (c : UInt8) : Option ℕ :=
  if 65 ≤ c ∧ c ≤ 90 then some (c.toNat - 65)
  else if 97 ≤ c ∧ c ≤ 122 then some (c.toNat - 97 + 26)
  else if 48 ≤ c ∧ c ≤ 57 then some (c.toNat - 48 + 52)
  else if c = 43 then some 62
  else if c = 47 then some 63
  else none

/-- What the inner loop of `base64decode` leaves. -/
structure Group where
  /-- the turns left when the characters end: `4 - i` -/
  left : ℕ
  padding : ℕ
  packed : ℕ
  ptr : List UInt8

/-- The inner loop of `base64decode`, `n` turns before its end; `none` is `return ""`. -/
def packChars : ℕ → ℕ → ℕ → List UInt8 → Option Group
  | 0, padding, packed, ptr => some ⟨0, padding, packed, ptr⟩
  | n + 1, padding, packed, [] => some ⟨n + 1, padding, packed, []⟩
  | n + 1, padding, packed, c :: ptr =>
    if c = 61 then packChars n (padding + 1) (packed <<< 6) ptr
    else if padding > 0 then none
    else
      match val? c with
      | none => none
      | some val => packChars n padding (packed <<< 6 ||| val) ptr

theorem packChars_length : ∀ {n padding packed : ℕ} {ptr : List UInt8} {g : Group},
    packChars n padding packed ptr = some g → g.ptr.length + n = ptr.length + g.left
  | 0, _, _, _, _, h => by cases h; rfl
  | n + 1, _, _, [], _, h => by cases h; rfl
  | n + 1, _, _, c :: ptr, g, h => by
    rw [packChars] at h
    split_ifs at h with hpad hlate
    · have := packChars_length h
      simp only [List.length_cons]; omega
    · cases hval : val? c with
      | none => rw [hval] at h; cases h
      | some val =>
        rw [hval] at h
        have := packChars_length h
        simp only [List.length_cons]; omega

/-- `*writeBuf++ = c`, in a buffer of `size` bytes of which `written` are behind `writeBuf`. -/
def write (size : ℕ) (written : List UInt8) (c : ℕ) : Option (List UInt8) :=
  if written.length < size then some (written ++ [UInt8.ofNat c]) else none

/-- The bytes of a group. -/
def writeGroup (size : ℕ) (written : List UInt8) (g : Group) : Option (List UInt8) := do
  let written ← write size written ((g.packed >>> 16) &&& 0xff)
  let written ← if g.padding ≠ 2 then write size written ((g.packed >>> 8) &&& 0xff) else some written
  if g.padding = 0 then write size written (g.packed &&& 0xff) else some written

/-- The loop of `base64decode`. -/
def decodeTurns (size : ℕ) (written : List UInt8) : List UInt8 → Option (List UInt8)
  | [] => some written
  | c :: ptr =>
    match _hg : packChars 4 0 0 (c :: ptr) with
    | none => some []
    | some g =>
      if _hleft : g.left ≠ 0 then some []
      else if g.padding > 0 ∧ g.ptr ≠ [] then some []
      else if g.padding > 2 then some []
      else (writeGroup size written g).bind fun written => decodeTurns size written g.ptr
termination_by ptr => ptr.length
decreasing_by have := packChars_length _hg; omega

def base64decode (src : List UInt8) : Option (List UInt8) :=
  decodeTurns (src.length * 3 / 4) [] src

/-! ## Groups -/

/-- `x` shifted by `n` bits, with `y` in the low ones. -/
theorem shift_or {n y : ℕ} (x : ℕ) (h : y < 2 ^ n) : x <<< n ||| y = x * 2 ^ n + y := by
  rw [← Nat.shiftLeft_add_eq_or_of_lt h, Nat.shiftLeft_eq]

theorem val?_base64 : ∀ n < 64, val? (base64.getD n 0) = some n := by decide

theorem base64_ne_equals : ∀ n < 64, base64.getD n 0 ≠ 61 := by decide

theorem mem_base64_of_val? {c : UInt8} {val : ℕ} (h : val? c = some val) : c ∈ base64 := by
  have hall : ∀ b : BitVec 8, (val? ⟨b⟩).isSome → (⟨b⟩ : UInt8) ∈ base64 := by decide
  exact hall c.toBitVec (by simp [h])

/-- A digit packs six bits. -/
theorem packChars_digit {m : ℕ} (hm : m < 64) (n packed : ℕ) (ptr : List UInt8) :
    packChars (n + 1) 0 packed (base64.getD m 0 :: ptr) = packChars n 0 (packed * 64 + m) ptr := by
  rw [packChars, if_neg (base64_ne_equals m hm), if_neg (Nat.lt_irrefl 0), val?_base64 m hm]
  exact congrArg (packChars n 0 · ptr) (shift_or packed (show m < 2 ^ 6 from hm))

theorem packChars_equals (n padding packed : ℕ) (ptr : List UInt8) :
    packChars (n + 1) padding packed (61 :: ptr) = packChars n (padding + 1) (packed * 64) ptr := by
  rw [packChars, if_pos rfl, Nat.shiftLeft_eq]

/-- What is packed from the characters of a group is what was written in them. -/
theorem packChars_digits {padding packed : ℕ} (rest : List UInt8) (hpad : padding ≤ 2)
    (hlt : packed < 2 ^ 24) (hdvd : 2 ^ (8 * padding) ∣ packed) :
    packChars 4 0 0 (digits padding packed ++ rest) = some ⟨0, padding, packed, rest⟩ := by
  have hsix (x : ℕ) : x &&& 0x3f = x % 64 := Nat.and_two_pow_sub_one_eq_mod x 6
  obtain rfl | rfl | rfl : padding = 0 ∨ padding = 1 ∨ padding = 2 := by omega
  · show packChars 4 0 0 ([_, _, _, _] ++ rest) = _
    simp only [List.cons_append, List.nil_append, hsix, Nat.shiftRight_eq_div_pow]
    rw [packChars_digit (by omega), packChars_digit (by omega), packChars_digit (by omega),
      packChars_digit (by omega), packChars]
    congr 2
    omega
  · show packChars 4 0 0 ([_, _, _, 61] ++ rest) = _
    simp only [List.cons_append, List.nil_append, hsix, Nat.shiftRight_eq_div_pow]
    rw [packChars_digit (by omega), packChars_digit (by omega), packChars_digit (by omega),
      packChars_equals, packChars]
    congr 2
    omega
  · show packChars 4 0 0 ([_, _, 61, 61] ++ rest) = _
    simp only [List.cons_append, List.nil_append, hsix, Nat.shiftRight_eq_div_pow]
    rw [packChars_digit (by omega), packChars_digit (by omega), packChars_equals, packChars_equals,
      packChars]
    congr 2
    omega

/-- The bytes that a group decodes to. -/
def Group.bytes (g : Group) : List UInt8 :=
  [UInt8.ofNat ((g.packed >>> 16) &&& 0xff)] ++
    (if g.padding ≠ 2 then [UInt8.ofNat ((g.packed >>> 8) &&& 0xff)] else []) ++
    (if g.padding = 0 then [UInt8.ofNat (g.packed &&& 0xff)] else [])

theorem Group.length_bytes_le (g : Group) : g.bytes.length ≤ 3 := by
  simp only [bytes, List.length_append]
  split_ifs <;> simp

theorem write_of_lt {size : ℕ} {written : List UInt8} (c : ℕ) (h : written.length < size) :
    write size written c = some (written ++ [UInt8.ofNat c]) := if_pos h

theorem writeGroup_of_le {size : ℕ} {written : List UInt8} (g : Group)
    (h : written.length + 3 ≤ size) : writeGroup size written g = some (written ++ g.bytes) := by
  have h1 : written.length < size := by omega
  rw [writeGroup, write_of_lt _ h1, Group.bytes]
  simp only [Option.bind_eq_bind, Option.bind_some]
  split_ifs with hmid hlast
  · rw [write_of_lt _ (by simp; omega), Option.bind_some, write_of_lt _ (by simp; omega)]
    simp
  · rw [write_of_lt _ (by simp; omega), Option.bind_some]
    simp
  · omega
  · simp

/-- There is room in the buffer for the characters that are left. -/
def Fits (size : ℕ) (written ptr : List UInt8) : Prop :=
  4 * written.length + 3 * ptr.length ≤ 4 * size + 3

/-- One turn that does not return `""`. -/
theorem decodeTurns_group {size padding packed : ℕ} {written ptr rest : List UInt8}
    (hg : packChars 4 0 0 ptr = some ⟨0, padding, packed, rest⟩) (hpad : padding ≤ 2)
    (hlast : padding = 0 ∨ rest = []) (hfits : Fits size written ptr) :
    decodeTurns size written ptr =
        decodeTurns size (written ++ Group.bytes ⟨0, padding, packed, rest⟩) rest ∧
      Fits size (written ++ Group.bytes ⟨0, padding, packed, rest⟩) rest := by
  have hlen : rest.length + 4 = ptr.length := packChars_length hg
  have hbytes := Group.length_bytes_le ⟨0, padding, packed, rest⟩
  unfold Fits at hfits ⊢
  have hroom : written.length + 3 ≤ size := by omega
  refine ⟨?_, by rw [List.length_append]; omega⟩
  cases ptr with
  | nil => simp at hlen
  | cons c ptr =>
    have hnot : ¬(padding > 0 ∧ rest ≠ []) := fun h => hlast.elim (by omega) h.2
    rw [decodeTurns]
    split
    · rename_i hnone; rw [hg] at hnone; cases hnone
    · rename_i g hsome
      cases hg.symm.trans hsome
      simp only [ne_eq, not_true_eq_false, dite_false]
      rw [if_neg hnot, if_neg (by omega), writeGroup_of_le _ hroom, Option.bind_some]

/-! ## Texts that are refused -/

/-- Digits, then at most two `=`, the length being a multiple of four. -/
def WellFormed (s : List UInt8) : Prop :=
  4 ∣ s.length ∧ ∃ (ds : List UInt8) (k : ℕ), s = ds ++ List.replicate k 61 ∧ k ≤ 2 ∧
    ∀ c ∈ ds, c ∈ base64

/-- A group is made of digits and of the padding. -/
theorem packChars_eq_some : ∀ {n padding packed : ℕ} {ptr : List UInt8} {g : Group},
    packChars n padding packed ptr = some g →
    ∃ (ds : List UInt8) (k : ℕ), ptr = ds ++ List.replicate k 61 ++ g.ptr ∧
      (∀ c ∈ ds, c ∈ base64) ∧ g.padding = padding + k ∧ (0 < padding → ds = [])
  | 0, _, _, _, _, h => by cases h; exact ⟨[], 0, rfl, nofun, rfl, fun _ => rfl⟩
  | n + 1, _, _, [], _, h => by cases h; exact ⟨[], 0, rfl, nofun, rfl, fun _ => rfl⟩
  | n + 1, padding, _, c :: ptr, g, h => by
    rw [packChars] at h
    split_ifs at h with hpad hlate
    · obtain ⟨ds, k, rfl, -, hg, hnil⟩ := packChars_eq_some h
      obtain rfl := hnil (Nat.succ_pos _)
      refine ⟨[], k + 1, ?_, nofun, by omega, fun _ => rfl⟩
      rw [hpad]; rfl
    · cases hval : val? c with
      | none => rw [hval] at h; cases h
      | some val =>
        rw [hval] at h
        obtain ⟨ds, k, rfl, hds, hg, -⟩ := packChars_eq_some h
        refine ⟨c :: ds, k, rfl, ?_, hg, fun h0 => absurd h0 hlate⟩
        simp only [List.mem_cons, forall_eq_or_imp]
        exact ⟨mem_base64_of_val? hval, hds⟩

/-- Before a well formed text, a full group makes a well formed text. -/
theorem WellFormed.of_group {ptr : List UInt8} {g : Group} (hg : packChars 4 0 0 ptr = some g)
    (hleft : g.left = 0) (hpad : g.padding ≤ 2) (hlast : g.padding = 0 ∨ g.ptr = [])
    (h : WellFormed g.ptr) : WellFormed ptr := by
  have hlen := packChars_length hg
  obtain ⟨ds, k, hptr, hds, hk, -⟩ := packChars_eq_some hg
  refine ⟨by have := h.1; omega, ?_⟩
  rcases hlast with hzero | hend
  · obtain ⟨-, ds', k', hptr', hk', hds'⟩ := h
    obtain rfl : k = 0 := by omega
    refine ⟨ds ++ ds', k', ?_, hk', fun c hc => (List.mem_append.1 hc).elim (hds c) (hds' c)⟩
    rw [hptr, hptr']
    simp
  · exact ⟨ds, k, by rw [hptr, hend, List.append_nil], by omega, hds⟩

theorem decodeTurns_malformed {size : ℕ} {written ptr : List UInt8} (hfits : Fits size written ptr)
    (h : ¬WellFormed ptr) : decodeTurns size written ptr = some [] := by
  induction hn : ptr.length using Nat.strongRecOn generalizing written ptr with
  | ind n ih =>
    subst hn
    cases ptr with
    | nil => exact absurd ⟨by simp, [], 0, rfl, by omega, nofun⟩ h
    | cons c ptr =>
      cases hg : packChars 4 0 0 (c :: ptr) with
      | none => rw [decodeTurns]; split <;> simp_all
      | some g =>
        by_cases hok : g.left = 0 ∧ g.padding ≤ 2 ∧ (g.padding = 0 ∨ g.ptr = [])
        · obtain ⟨hleft, hpad, hlast⟩ := hok
          have hlen := packChars_length hg
          obtain ⟨left, padding, packed, rest⟩ := g
          obtain rfl : left = 0 := hleft
          obtain ⟨hturn, hfits'⟩ := decodeTurns_group hg hpad hlast hfits
          rw [hturn]
          exact ih rest.length (by simp only at hlen; omega) hfits'
            (fun hrest => h (hrest.of_group hg rfl hpad hlast)) rfl
        · rw [decodeTurns]
          split
          · rfl
          · rename_i g' hg'
            cases hg.symm.trans hg'
            split_ifs with h1 h2 h3 <;> try rfl
            exact absurd ⟨not_not.1 h1, by omega,
              (not_and_or.1 h2).imp Nat.eq_zero_of_not_pos not_not.1⟩ hok

/-! ## The round trip -/

theorem ofNat_and (x : ℕ) (c : UInt8) (h : x % 256 = c.toNat) : UInt8.ofNat (x &&& 0xff) = c := by
  have hand : x &&& 0xff = x % 256 := Nat.and_two_pow_sub_one_eq_mod x 8
  rw [hand, h, UInt8.ofNat_toNat]

/-- The bytes of a group are those that are packed in it. -/
theorem packBytes_group (a : UInt8) (ptr : List UInt8) : ∃ (padding packed : ℕ) (rest : List UInt8),
    packBytes 3 0 (a :: ptr) = (padding, packed, rest) ∧ padding ≤ 2 ∧
    packed <<< (8 * padding) < 2 ^ 24 ∧ (padding = 0 ∨ rest = []) ∧
    ∀ r, Group.bytes ⟨0, padding, packed <<< (8 * padding), r⟩ ++ rest = a :: ptr := by
  have ha := a.toNat_lt
  have hshift (x : ℕ) (c : UInt8) : x <<< 8 ||| c.toNat = x * 256 + c.toNat := shift_or x c.toNat_lt
  match ptr with
  | [] =>
    refine ⟨2, a.toNat, [], ?_, Nat.le_refl _, ?_, .inr rfl, fun r => ?_⟩
    · simp only [packBytes, hshift, Nat.zero_mul, Nat.zero_add]
    · rw [Nat.shiftLeft_eq]; omega
    · simp only [Group.bytes, Nat.shiftLeft_eq, Nat.shiftRight_eq_div_pow]
      rw [ofNat_and _ a (by omega)]
      rfl
  | [b] =>
    have hb := b.toNat_lt
    refine ⟨1, a.toNat * 256 + b.toNat, [], ?_, by omega, ?_, .inr rfl, fun r => ?_⟩
    · simp only [packBytes, hshift, Nat.zero_mul, Nat.zero_add]
    · rw [Nat.shiftLeft_eq]; omega
    · simp only [Group.bytes, Nat.shiftLeft_eq, Nat.shiftRight_eq_div_pow]
      rw [ofNat_and _ a (by omega), ofNat_and _ b (by omega)]
      rfl
  | b :: c :: rest =>
    have hb := b.toNat_lt
    have hc := c.toNat_lt
    refine ⟨0, (a.toNat * 256 + b.toNat) * 256 + c.toNat, rest, ?_, by omega, ?_, .inl rfl,
      fun r => ?_⟩
    · simp only [packBytes, hshift, Nat.zero_mul, Nat.zero_add]
    · rw [Nat.shiftLeft_eq]; omega
    · simp only [Group.bytes, Nat.shiftLeft_eq, Nat.shiftRight_eq_div_pow]
      rw [ofNat_and _ a (by omega), ofNat_and _ b (by omega), ofNat_and _ c (by omega)]
      rfl

theorem decodeTurns_encodeTurns {size : ℕ} {written x : List UInt8}
    (hfits : Fits size written (encodeTurns x)) :
    decodeTurns size written (encodeTurns x) = some (written ++ x) := by
  induction hn : x.length using Nat.strongRecOn generalizing written x with
  | ind n ih =>
    subst hn
    cases x with
    | nil => rw [encodeTurns, decodeTurns, List.append_nil]
    | cons a ptr =>
      obtain ⟨padding, packed, rest, hpack, hpad, hlt, hlast, hbytes⟩ := packBytes_group a ptr
      have hrest : rest.length ≤ ptr.length := by
        have := packBytes_length 2 (0 <<< 8 ||| a.toNat) ptr
        rwa [show packBytes 2 (0 <<< 8 ||| a.toNat) ptr = (padding, packed, rest) from hpack] at this
      have henc : encodeTurns (a :: ptr) =
          digits padding (packed <<< (8 * padding)) ++ encodeTurns rest := by
        rw [encodeTurns, hpack]
      rw [henc] at hfits ⊢
      have hg := packChars_digits (encodeTurns rest) hpad hlt ⟨packed, by
        rw [Nat.shiftLeft_eq, Nat.mul_comm]⟩
      have hend : padding = 0 ∨ encodeTurns rest = [] := hlast.imp_right (by rintro rfl; rw [encodeTurns])
      obtain ⟨hturn, hfits'⟩ := decodeTurns_group hg hpad hend hfits
      rw [hturn, ih rest.length (Nat.lt_succ_of_le hrest) hfits' rfl, List.append_assoc, hbytes]

/-- **The round trip, and the texts that are refused.**  There is one alphabet. -/
theorem base64_roundTrip : (∀ x, base64decode (base64encode x) = some x) ∧
    ∀ s, ¬WellFormed s → base64decode s = some [] := by
  have hfits (s : List UInt8) : Fits (s.length * 3 / 4) [] s := by
    rw [Fits, List.length_nil]; omega
  exact ⟨fun x => decodeTurns_encodeTurns (hfits _), fun s h => decodeTurns_malformed (hfits s) h⟩

/-- `QUJD` without its last character. -/
theorem base64_roundTrip_short : base64decode [81, 85, 74] = some [] :=
  base64_roundTrip.2 _ fun h => absurd h.1 (by decide)

/-- The character of the alphabet for URLs that stands for a character of `base64`. -/
def urlSafe (c : UInt8) : UInt8 := if c = 43 then 45 else if c = 47 then 95 else c

/-- **A text in the alphabet for URLs is refused.** -/
theorem not_base64_urlSafe : ¬∀ x, base64decode (base64encode x) = some x ∧
    base64decode ((base64encode x).map urlSafe) = some x := by
  intro h
  have htext : (base64encode [0xfb]).map urlSafe = [45, 119, 61, 61] := by
    simp [base64encode, encodeTurns, packBytes, digits, base64, urlSafe]
  have hnone : packChars 4 0 0 [45, 119, 61, 61] = none := by decide
  have hdecode : base64decode [45, 119, 61, 61] = some [] := by
    rw [base64decode, decodeTurns]
    split
    · rfl
    · rename_i hsome; rw [hnone] at hsome; cases hsome
  have := (h [0xfb]).2
  rw [htext, hdecode] at this
  exact absurd this (by decide)

end Ancfl.Util
