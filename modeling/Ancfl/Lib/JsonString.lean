/-
  String literals of JSON, as bytes.

  * `readString` reads a literal: the characters between the quotes, among
    them escapes, none of which is a control character;
  * `readChars_plain`, `readChars_escape`: what one of them contributes;
    `readString_of_control`: a text that begins with a control character is no
    literal.
-/
import Mathlib.Data.List.Basic
import Mathlib.Tactic.Common

namespace Lib.Json

/-- The character of a short escape, by what follows the backslash. -/
def unescape (c : UInt8) : Option UInt8 :=
  if c = 34 ∨ c = 47 ∨ c = 92 then some c
  else if c = 98 then some 8
  else if c = 102 then some 12
  else if c = 110 then some 10
  else if c = 114 then some 13
  else if c = 116 then some 9
  else none

def hexVal (c : UInt8) : Option ℕ :=
  if 48 ≤ c ∧ c ≤ 57 then some (c.toNat - 48)
  else if 65 ≤ c ∧ c ≤ 70 then some (c.toNat - 55)
  else if 97 ≤ c ∧ c ≤ 102 then some (c.toNat - 87)
  else none

/-- The code unit of four digits, and what follows them. -/
def codeUnit : List UInt8 → Option (ℕ × List UInt8)
  | a :: b :: c :: d :: rest => do
    let a ← hexVal a
    let b ← hexVal b
    let c ← hexVal c
    let d ← hexVal d
    return (((a * 16 + b) * 16 + c) * 16 + d, rest)
  | _ => none

/-- The character of the escape whose digits come first, and what follows it; a character outside of
    the basic plane has two escapes. -/
def codePoint (s : List UInt8) : Option (ℕ × List UInt8) := do
  let (u, rest) ← codeUnit s
  if u < 0xD800 ∨ 0xE000 ≤ u then return (u, rest)
  else if 0xDC00 ≤ u then none
  else
    match rest with
    | 92 :: 117 :: rest => do
      let (v, rest) ← codeUnit rest
      if 0xDC00 ≤ v ∧ v < 0xE000 then return (0x10000 + (u - 0xD800) * 1024 + (v - 0xDC00), rest)
      else none
    | _ => none

def utf8 (p : ℕ) : List UInt8 :=
  if p < 0x80 then [.ofNat p]
  else if p < 0x800 then [.ofNat (0xC0 + p / 64), .ofNat (0x80 + p % 64)]
  else if p < 0x10000 then
    [.ofNat (0xE0 + p / 4096), .ofNat (0x80 + p / 64 % 64), .ofNat (0x80 + p % 64)]
  else
    [.ofNat (0xF0 + p / 262144), .ofNat (0x80 + p / 4096 % 64), .ofNat (0x80 + p / 64 % 64),
      .ofNat (0x80 + p % 64)]

theorem codeUnit_length {s rest : List UInt8} {u : ℕ} (h : codeUnit s = some (u, rest)) :
    rest.length < s.length := by
  unfold codeUnit at h
  split at h
  · simp only [Option.bind_eq_bind, Option.bind_eq_some_iff, Option.pure_def, Option.some.injEq,
      Prod.mk.injEq] at h
    obtain ⟨-, -, -, -, -, -, -, -, -, rfl⟩ := h
    simp only [List.length_cons]
    omega
  · cases h

theorem codePoint_length {s rest : List UInt8} {p : ℕ} (h : codePoint s = some (p, rest)) :
    rest.length < s.length := by
  unfold codePoint at h
  obtain ⟨⟨u, rest₁⟩, hunit, h⟩ := Option.bind_eq_some_iff.1 h
  have hlen₁ := codeUnit_length hunit
  dsimp only at h
  split_ifs at h
  · obtain ⟨-, rfl⟩ := Prod.mk.inj (Option.some.inj h)
    exact hlen₁
  · split at h
    · obtain ⟨⟨v, rest₂⟩, hunit₂, h⟩ := Option.bind_eq_some_iff.1 h
      have hlen₂ := codeUnit_length hunit₂
      dsimp only at h
      split_ifs at h
      obtain ⟨-, rfl⟩ := Prod.mk.inj (Option.some.inj h)
      simp only [List.length_cons] at hlen₁
      omega
    · cases h

/-- The characters from behind the first quote to the last one, which ends the text. -/
def readChars : List UInt8 → Option (List UInt8)
  | [] => none
  | 34 :: rest => if rest = [] then some [] else none
  | 92 :: 117 :: rest =>
    match _h : codePoint rest with
    | none => none
    | some (p, rest') => (readChars rest').map (utf8 p ++ ·)
  | 92 :: c :: rest =>
    match unescape c with
    | none => none
    | some d => (readChars rest).map (d :: ·)
  | c :: rest => if c < 32 ∨ c = 92 then none else (readChars rest).map (c :: ·)
termination_by s => s.length
decreasing_by
  · have hlen := codePoint_length _h
    simp only [List.length_cons]
    omega
  all_goals simp only [List.length_cons]; omega

/-- What a literal stands for. -/
def readString : List UInt8 → Option (List UInt8)
  | 34 :: s => readChars s
  | _ => none

variable {c d : UInt8} {s : List UInt8}

theorem readChars_quote : readChars [34] = some [] := by
  rw [readChars, if_pos rfl]

theorem readChars_plain (h : 32 ≤ c) (hquote : c ≠ 34) (hback : c ≠ 92) :
    readChars (c :: s) = (readChars s).map (c :: ·) := by
  rw [readChars, if_neg]
  · rintro (hlt | rfl)
    · exact absurd hlt (UInt8.not_lt.2 h)
    · exact hback rfl
  · exact hquote
  · exact fun _ hc => absurd hc hback
  · exact fun _ _ hc => absurd hc hback

theorem readChars_escape (h : unescape c = some d) :
    readChars (92 :: c :: s) = (readChars s).map (d :: ·) := by
  rw [readChars]
  · rw [h]
  · rintro rfl
    simp [unescape] at h

/-- A text that begins with a control character is no literal. -/
theorem readString_of_control (h : c < 32) : readString (34 :: c :: s) = none := by
  have hne {d : UInt8} (hd : ¬d < 32) : c ≠ d := fun hc => hd (hc ▸ h)
  rw [readString, readChars, if_pos (.inl h)]
  · exact hne (by decide)
  · exact fun _ hc => absurd hc (hne (by decide))
  · exact fun _ _ hc => absurd hc (hne (by decide))

end Lib.Json
