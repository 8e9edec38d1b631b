/-
  `StringUtil::UrlEncode` and `StringUtil::UrlDecode`.

  * both walk over the string with a buffer `ss` that is created at the first
    character that changes: `before` is what stands before that character, and
    what the buffer is created with;
  * `UrlDecode_UrlEncode`: decoding undoes encoding, in both modes;
  * the table `uri_chars` marks one character more than the comment of
    `UrlEncode` lists, `=` (`uri_chars_iff`), so that the text is well formed
    only if the string has none (`encodes_iff`).
-/
import Mathlib.Tactic.Common
import Mathlib.Data.List.Flatten

namespace Ancfl.Util.StringUtil

/-! ## Tables -/

def uri_chars : List ℕ := [
  0, 0, 0, 0, 0, 0, 0, 0, 0, 0, 0, 0, 0, 0, 0, 0,
  0, 0, 0, 0, 0, 0, 0, 0, 0, 0, 0, 0, 0, 0, 0, 0,
  0, 0, 0, 0, 0, 0, 0, 0, 0, 0, 0, 0, 0, 1, 1, 0,
  1, 1, 1, 1, 1, 1, 1, 1, 1, 1, 0, 0, 0, 1, 0, 0,
  0, 1, 1, 1, 1, 1, 1, 1, 1, 1, 1, 1, 1, 1, 1, 1,
  1, 1, 1, 1, 1, 1, 1, 1, 1, 1, 1, 0, 0, 0, 0, 1,
  0, 1, 1, 1, 1, 1, 1, 1, 1, 1, 1, 1, 1, 1, 1, 1,
  1, 1, 1, 1, 1, 1, 1, 1, 1, 1, 1, 0, 0, 0, 1, 0,
  0, 0, 0, 0, 0, 0, 0, 0, 0, 0, 0, 0, 0, 0, 0, 0,
  0, 0, 0, 0, 0, 0, 0, 0, 0, 0, 0, 0, 0, 0, 0, 0,
  0, 0, 0, 0, 0, 0, 0, 0, 0, 0, 0, 0, 0, 0, 0, 0,
  0, 0, 0, 0, 0, 0, 0, 0, 0, 0, 0, 0, 0, 0, 0, 0,
  0, 0, 0, 0, 0, 0, 0, 0, 0, 0, 0, 0, 0, 0, 0, 0,
  0, 0, 0, 0, 0, 0, 0, 0, 0, 0, 0, 0, 0, 0, 0, 0,
  0, 0, 0, 0, 0, 0, 0, 0, 0, 0, 0, 0, 0, 0, 0, 0,
  0, 0, 0, 0, 0, 0, 0, 0, 0, 0, 0, 0, 0, 0, 0, 0]

def xdigit_chars : List ℕ := [
  0, 0, 0, 0, 0, 0, 0, 0, 0, 0, 0, 0, 0, 0, 0, 0,
  0, 0, 0, 0, 0, 0, 0, 0, 0, 0, 0, 0, 0, 0, 0, 0,
  0, 0, 0, 0, 0, 0, 0, 0, 0, 0, 0, 0, 0, 0, 0, 0,
  0, 1, 2, 3, 4, 5, 6, 7, 8, 9, 0, 0, 0, 0, 0, 0,
  0, 10, 11, 12, 13, 14, 15, 0, 0, 0, 0, 0, 0, 0, 0, 0,
  0, 0, 0, 0, 0, 0, 0, 0, 0, 0, 0, 0, 0, 0, 0, 0,
  0, 10, 11, 12, 13, 14, 15, 0, 0, 0, 0, 0, 0, 0, 0, 0,
  0, 0, 0, 0, 0, 0, 0, 0, 0, 0, 0, 0, 0, 0, 0, 0,
  0, 0, 0, 0, 0, 0, 0, 0, 0, 0, 0, 0, 0, 0, 0, 0,
  0, 0, 0, 0, 0, 0, 0, 0, 0, 0, 0, 0, 0, 0, 0, 0,
  0, 0, 0, 0, 0, 0, 0, 0, 0, 0, 0, 0, 0, 0, 0, 0,
  0, 0, 0, 0, 0, 0, 0, 0, 0, 0, 0, 0, 0, 0, 0, 0,
  0, 0, 0, 0, 0, 0, 0, 0, 0, 0, 0, 0, 0, 0, 0, 0,
  0, 0, 0, 0, 0, 0, 0, 0, 0, 0, 0, 0, 0, 0, 0, 0,
  0, 0, 0, 0, 0, 0, 0, 0, 0, 0, 0, 0, 0, 0, 0, 0,
  0, 0, 0, 0, 0, 0, 0, 0, 0, 0, 0, 0, 0, 0, 0, 0]

def CHAR_IS_UNRESERVED (c : UInt8) : Bool := uri_chars.getD c.toNat 0 != 0

/-- `hexdigits[n]`, for the text `0123456789ABCDEF`. -/
def hexdigit (n : ℕ) : UInt8 :=
  [48, 49, 50, 51, 52, 53, 54, 55, 56, 57, 65, 66, 67, 68, 69, 70].getD n 0

/-- The library's `isxdigit`. -/
def isxdigit (c : UInt8) : Bool :=
  (48 ≤ c && c ≤ 57) || (65 ≤ c && c ≤ 70) || (97 ≤ c && c ≤ 102)

/-! ## Encoding and decoding -/

/-- The loop of `UrlEncode` from a character on, `before` being those before it. -/
def encodeLoop (space_as_plus : Bool) :
    List UInt8 → List UInt8 → Option (List UInt8) → Option (List UInt8)
  | _, [], ss => ss
  | before, c :: rest, ss =>
    if !CHAR_IS_UNRESERVED c then
      let ss := ss.getD before
      let ss :=
        if c == 32 && space_as_plus then ss ++ [43]
        else ss ++ [37, hexdigit (c.toNat >>> 4), hexdigit (c.toNat &&& 0xf)]
      encodeLoop space_as_plus (before ++ [c]) rest (some ss)
    else encodeLoop space_as_plus (before ++ [c]) rest (ss.map (· ++ [c]))

def UrlEncode (str : List UInt8) (space_as_plus : Bool) : List UInt8 :=
  (encodeLoop space_as_plus [] str none).getD str

/-- The loop of `UrlDecode` from a character on, `before` being those before it. -/
def decodeLoop (space_as_plus : Bool) :
    List UInt8 → List UInt8 → Option (List UInt8) → Option (List UInt8)
  | _, [], ss => ss
  | before, c :: rest, ss =>
    if c == 43 && space_as_plus then
      decodeLoop space_as_plus (before ++ [c]) rest (some (ss.getD before ++ [32]))
    else
      match rest with
      | a :: b :: rest' =>
        if c == 37 && isxdigit a && isxdigit b then
          let d := UInt8.ofNat (xdigit_chars.getD a.toNat 0 <<< 4 ||| xdigit_chars.getD b.toNat 0)
          decodeLoop space_as_plus (before ++ [c, a, b]) rest' (some (ss.getD before ++ [d]))
        else decodeLoop space_as_plus (before ++ [c]) (a :: b :: rest') (ss.map (· ++ [c]))
      | rest => decodeLoop space_as_plus (before ++ [c]) rest (ss.map (· ++ [c]))
termination_by _ rest _ => rest.length

def UrlDecode (str : List UInt8) (space_as_plus : Bool) : List UInt8 :=
  (decodeLoop space_as_plus [] str none).getD str

/-! ## What is encoded -/

/-- The characters that the comment of `UrlEncode` lists. -/
def Unreserved (c : UInt8) : Prop :=
  c = 45 ∨ c = 46 ∨ (48 ≤ c ∧ c ≤ 57) ∨ (65 ≤ c ∧ c ≤ 90) ∨ c = 95 ∨ (97 ≤ c ∧ c ≤ 122) ∨ c = 126

instance (c : UInt8) : Decidable (Unreserved c) := inferInstanceAs (Decidable (_ ∨ _))

/-- Unreserved characters, `%` with two hex digits, and `+` if a space becomes one. -/
inductive Encoded (space_as_plus : Bool) : List UInt8 → Prop
  | nil : Encoded space_as_plus []
  | unreserved {c : UInt8} {rest : List UInt8} : Unreserved c → Encoded space_as_plus rest →
      Encoded space_as_plus (c :: rest)
  | plus {rest : List UInt8} : space_as_plus = true → Encoded space_as_plus rest →
      Encoded space_as_plus (43 :: rest)
  | percent {a b : UInt8} {rest : List UInt8} : isxdigit a → isxdigit b →
      Encoded space_as_plus rest → Encoded space_as_plus (37 :: a :: b :: rest)

/-- What `UrlEncode` writes for a character. -/
def escape (space_as_plus : Bool) (c : UInt8) : List UInt8 :=
  if CHAR_IS_UNRESERVED c then [c]
  else if c = 32 ∧ space_as_plus then [43]
  else [37, hexdigit (c.toNat >>> 4), hexdigit (c.toNat &&& 0xf)]

/-- The table against the comment: one character more. -/
theorem uri_chars_iff (c : UInt8) : CHAR_IS_UNRESERVED c ↔ Unreserved c ∨ c = 61 := by
  have hall : ∀ b : BitVec 8, CHAR_IS_UNRESERVED ⟨b⟩ ↔ Unreserved ⟨b⟩ ∨ (⟨b⟩ : UInt8) = 61 := by
    decide
  exact hall c.toBitVec

theorem isxdigit_hexdigit : ∀ n < 16, isxdigit (hexdigit n) := by decide

theorem xdigit_chars_hexdigit : ∀ n < 16, xdigit_chars.getD (hexdigit n).toNat 0 = n := by decide

theorem high_lt (c : UInt8) : c.toNat >>> 4 < 16 := by
  have := c.toNat_lt
  rw [Nat.shiftRight_eq_div_pow]
  omega

theorem low_lt (c : UInt8) : c.toNat &&& 0xf < 16 := Nat.lt_of_le_of_lt Nat.and_le_right (by decide)

/-- The two halves of a character. -/
theorem ofNat_halves (c : UInt8) :
    UInt8.ofNat ((c.toNat >>> 4) <<< 4 ||| (c.toNat &&& 0xf)) = c := by
  have hall : ∀ b : BitVec 8, UInt8.ofNat ((b.toNat >>> 4) <<< 4 ||| (b.toNat &&& 0xf)) = ⟨b⟩ := by
    decide
  exact hall c.toBitVec

theorem encodeLoop_eq (p : Bool) {str : List UInt8} : ∀ (before : List UInt8)
    (ss : Option (List UInt8)), (encodeLoop p before str ss).getD (before ++ str) =
      ss.getD before ++ str.flatMap (escape p) := by
  induction str with
  | nil => intro before ss; simp [encodeLoop]
  | cons c rest ih =>
    intro before ss
    have ih' (out : Option (List UInt8)) := ih (before ++ [c]) out
    simp only [List.append_assoc, List.singleton_append] at ih'
    rw [encodeLoop, List.flatMap_cons, escape]
    by_cases hc : CHAR_IS_UNRESERVED c
    · simp only [hc, Bool.not_true, Bool.false_eq_true, if_false, if_true, ih']
      cases ss <;> simp
    · by_cases hs : c = 32 ∧ p
      · obtain ⟨rfl, rfl⟩ := hs
        simp only [hc, Bool.not_false, beq_self_eq_true, Bool.and_self, Bool.false_eq_true, if_true,
          if_false, ih', and_self, Option.getD_some, List.append_assoc]
      · have hs' : (c == 32 && p) = false := by simpa using hs
        simp only [hc, hs, hs', Bool.not_false, Bool.false_eq_true, if_true, if_false, ih',
          Option.getD_some, List.append_assoc]

/-- Encoding is character by character. -/
theorem UrlEncode_eq (str : List UInt8) (p : Bool) : UrlEncode str p = str.flatMap (escape p) :=
  encodeLoop_eq p [] none

/-! ## Decoding undoes encoding -/

section
variable {p : Bool} {c : UInt8} {before rest : List UInt8} {ss : Option (List UInt8)}

theorem decodeLoop_keep (hplus : c ≠ 43) (hpercent : c ≠ 37) :
    decodeLoop p before (c :: rest) ss = decodeLoop p (before ++ [c]) rest (ss.map (· ++ [c])) := by
  rcases rest with _ | ⟨a, _ | ⟨b, rest⟩⟩ <;> simp [decodeLoop, hplus, hpercent]

theorem decodeLoop_plus : decodeLoop true before (43 :: rest) ss =
    decodeLoop true (before ++ [43]) rest (some (ss.getD before ++ [32])) := by
  rcases rest with _ | ⟨a, _ | ⟨b, rest⟩⟩ <;> simp [decodeLoop]

theorem decodeLoop_percent {a b : UInt8} (ha : isxdigit a) (hb : isxdigit b) :
    decodeLoop p before (37 :: a :: b :: rest) ss = decodeLoop p (before ++ [37, a, b]) rest
      (some (ss.getD before ++
        [UInt8.ofNat (xdigit_chars.getD a.toNat 0 <<< 4 ||| xdigit_chars.getD b.toNat 0)])) := by
  have hplus : ((37 : UInt8) == 43 && p) = false := rfl
  simp only [decodeLoop, hplus, ha, hb, Bool.false_eq_true, if_false, beq_self_eq_true, Bool.and_self,
    if_true]

end

theorem decodeLoop_escape (p : Bool) (c : UInt8) (before rest : List UInt8)
    (ss : Option (List UInt8)) : ∃ ss', decodeLoop p before (escape p c ++ rest) ss =
      decodeLoop p (before ++ escape p c) rest ss' ∧
      ss'.getD (before ++ escape p c) = ss.getD before ++ [c] := by
  rw [escape]
  split_ifs with hc hs
  · -- neither `+` nor `%` is marked in the table
    have hplus : c ≠ 43 := by rintro rfl; revert hc; decide
    have hpercent : c ≠ 37 := by rintro rfl; revert hc; decide
    exact ⟨ss.map (· ++ [c]), decodeLoop_keep hplus hpercent, by cases ss <;> rfl⟩
  · obtain ⟨rfl, rfl⟩ := hs
    exact ⟨some (ss.getD before ++ [32]), decodeLoop_plus, rfl⟩
  · refine ⟨some (ss.getD before ++ [c]), ?_, rfl⟩
    have hpercent : decodeLoop p before (37 :: _ :: _ :: rest) ss = _ :=
      decodeLoop_percent (isxdigit_hexdigit _ (high_lt c)) (isxdigit_hexdigit _ (low_lt c))
    rwa [xdigit_chars_hexdigit _ (high_lt c), xdigit_chars_hexdigit _ (low_lt c), ofNat_halves]
      at hpercent

theorem decodeLoop_encoded (p : Bool) {str : List UInt8} : ∀ (before : List UInt8)
    (ss : Option (List UInt8)), (decodeLoop p before (str.flatMap (escape p)) ss).getD
      (before ++ str.flatMap (escape p)) = ss.getD before ++ str := by
  induction str with
  | nil => intro before ss; simp [decodeLoop]
  | cons c rest ih =>
    intro before ss
    obtain ⟨ss', hloop, hss⟩ := decodeLoop_escape p c before (rest.flatMap (escape p)) ss
    rw [List.flatMap_cons, hloop, ← List.append_assoc, ih, hss, List.append_assoc]
    rfl

theorem UrlDecode_UrlEncode (str : List UInt8) (p : Bool) : UrlDecode (UrlEncode str p) p = str := by
  rw [UrlEncode_eq]
  exact decodeLoop_encoded p [] none

/-! ## The characters of the text -/

theorem Encoded.no_equals {p : Bool} {s : List UInt8} (h : Encoded p s) : 61 ∉ s := by
  have hne {c : UInt8} (hc : isxdigit c) : c ≠ 61 := by rintro rfl; revert hc; decide
  induction h with
  | nil => simp
  | unreserved hc _ ih =>
    refine List.not_mem_cons_of_ne_of_not_mem ?_ ih
    rintro rfl; revert hc; decide
  | plus _ _ ih => exact List.not_mem_cons_of_ne_of_not_mem (by decide) ih
  | percent ha hb _ ih =>
    simp only [List.mem_cons, not_or]
    exact ⟨by decide, (hne ha).symm, (hne hb).symm, ih⟩

theorem Encoded.append_escape {p : Bool} {c : UInt8} {s : List UInt8} (hc : c ≠ 61)
    (h : Encoded p s) : Encoded p (escape p c ++ s) := by
  rw [escape]
  split_ifs with hu hs
  · exact .unreserved (((uri_chars_iff c).1 hu).resolve_right hc) h
  · exact .plus hs.2 h
  · exact .percent (isxdigit_hexdigit _ (high_lt c)) (isxdigit_hexdigit _ (low_lt c)) h

theorem encoded_iff (p : Bool) (str : List UInt8) : Encoded p (str.flatMap (escape p)) ↔ 61 ∉ str := by
  constructor
  · intro h hmem
    exact h.no_equals (List.mem_flatMap.2 ⟨61, hmem, by simp [escape, uri_chars_iff]⟩)
  · intro h
    induction str with
    | nil => exact .nil
    | cons c rest ih =>
      obtain ⟨hc, hrest⟩ := not_or.1 (fun hor => h (List.mem_cons.2 hor))
      exact (ih hrest).append_escape (Ne.symm hc)

/-- The text decodes to the string, and has the characters that it should have. -/
def Encodes (str : List UInt8) (p : Bool) : Prop :=
  UrlDecode (UrlEncode str p) p = str ∧ Encoded p (UrlEncode str p)

/-- **Encoding is right** for the strings without `=`. -/
theorem encodes_iff (str : List UInt8) (p : Bool) : Encodes str p ↔ 61 ∉ str := by
  rw [Encodes, UrlEncode_eq str p, encoded_iff]
  exact and_iff_right (UrlEncode_eq str p ▸ UrlDecode_UrlEncode str p)

/-- **`=` is left as it is.** -/
theorem not_encodes : ¬∀ (str : List UInt8) (p : Bool), Encodes str p := by
  intro h
  have htext : UrlEncode [97, 61] false = [97, 61] := by decide
  have := (h [97, 61] false).2.no_equals
  rw [htext] at this
  exact this (by decide)

end Ancfl.Util.StringUtil
