/-
  Numbers in decimal: what `std::to_string` writes and `strtol` reads.

  * `strtol_ten`: `strtol` takes the digits and no more;
  * `digits_decimal`: the digits of a number are read back.
-/
import Ancfl.Http.ResponseElements

namespace Ancfl.Http

/-- The digits of a number. -/
def decimal (n : ℕ) : List UInt8 := ascii (toString n)

theorem unsignedVal_ten (s : List UInt8) : unsignedVal 10 s = digits 10 s 0 := by
  unfold unsignedVal
  split
  · rw [if_neg fun h => absurd h.1 (by decide)]
  · rfl

theorem strtol_ten {d : List UInt8} (hne : d ≠ []) (hdigits : ∀ c ∈ d, isDigit 10 c = true)
    {t : List UInt8} (ht : ∀ c u, t = c :: u → digitVal 10 c = none) :
    strtol 10 (d ++ t) = min (digits 10 d 0 : ℤ) (2 ^ 63 - 1) := by
  have hval : digits 10 (d ++ t) 0 = digits 10 d 0 := by
    cases t with
    | nil => rw [List.append_nil]
    | cons c u => exact digits_append (ht c u rfl) u 0 hdigits
  obtain ⟨c, d, rfl⟩ := List.exists_cons_of_ne_nil hne
  obtain ⟨hspace, hplus, hminus, -⟩ := digit_ne (hdigits c List.mem_cons_self)
  rw [strtol, List.cons_append, List.dropWhile_cons_of_neg (by simp [hspace]), ← List.cons_append]
  split
  · rename_i heq
    exact absurd (List.cons.inj heq).1 hplus
  · rename_i heq
    exact absurd (List.cons.inj heq).1 hminus
  · rw [unsignedVal_ten, hval]

/-! ## The digits of a number -/

/-- The byte of a digit. -/
theorem digitVal_ofNat {c : Char} (hc : c.isDigit = true) :
    digitVal 10 (UInt8.ofNat c.toNat) = some (c.toNat - '0'.toNat) := by
  have hc : 48 ≤ c.toNat ∧ c.toNat ≤ 57 := Char.isDigit_iff_toNat.1 hc
  have hbytes : ∀ k : Fin 10, digitVal 10 (UInt8.ofNat (48 + k)) = some (48 + k - '0'.toNat) := by
    decide
  have h := hbytes ⟨c.toNat - 48, by omega⟩
  rwa [Nat.add_sub_cancel' hc.1] at h

theorem digits_map : ∀ {l : List Char} (_ : ∀ c ∈ l, c.isDigit = true) (v : ℕ),
    digits 10 (l.map fun c => UInt8.ofNat c.toNat) v = Nat.ofDigitChars 10 l v
  | [], _, _ => rfl
  | c :: l, h, v => by
    rw [List.map_cons, digits, digitVal_ofNat (h c List.mem_cons_self), Nat.ofDigitChars_cons,
      Nat.mul_comm]
    exact digits_map (fun c' hc' => h c' (List.mem_cons_of_mem _ hc')) _

variable {n : ℕ}

theorem decimal_eq : decimal n = (Nat.toDigits 10 n).map fun c => UInt8.ofNat c.toNat := by
  rw [decimal, ascii, Nat.toString_eq_repr, Nat.toList_repr]

theorem decimal_ne_nil : decimal n ≠ [] := by
  rw [decimal_eq, Ne, List.map_eq_nil_iff]
  exact Nat.toDigits_ne_nil

theorem isDigit_of_decimal : ∀ c ∈ decimal n, isDigit 10 c = true := by
  intro c hc
  rw [decimal_eq] at hc
  obtain ⟨x, hx, rfl⟩ := List.mem_map.1 hc
  rw [isDigit, digitVal_ofNat (Nat.isDigit_of_mem_toDigits (by decide) (by decide) hx)]
  rfl

/-- **The digits of a number are read back**. -/
theorem digits_decimal : digits 10 (decimal n) 0 = n := by
  rw [decimal_eq, digits_map fun c hc => Nat.isDigit_of_mem_toDigits (by decide) (by decide) hc]
  exact Nat.ofDigitChars_ten_toDigits

end Ancfl.Http
