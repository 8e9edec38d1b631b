/-
  `snprintf` and `sscanf`, for formats of characters, `%d` and `%s` without
  white space.

  * `print` is the text of a format with its arguments, `scan` what a format
    stores of a text;
  * `Matches`: a text that matches a format without `%s`;
  * `scan_matches`: it is scanned, if no digit follows a `%d`; `scan_sound`: a
    scan that comes to a `%s` has read such a text; `matches_print`: what is
    printed is one.
-/
import Ancfl.Http.Decimal
import Mathlib.Data.List.TakeWhile

namespace Ancfl.Stdio

open Http (ascii cStr isspace isDigit digits strtol decimal)

inductive Directive
  | char (c : UInt8)
  /-- `%d` -/
  | int
  /-- `%s` -/
  | str
deriving DecidableEq

def parse : List UInt8 → List Directive
  | 37 :: 100 :: f => .int :: parse f
  | 37 :: 115 :: f => .str :: parse f
  | c :: f => .char c :: parse f
  | [] => []

def format (s : String) : List Directive := parse (ascii s)

/-! ## Printing -/

def printInt (i : BitVec 32) : List UInt8 :=
  if i.toInt < 0 then 45 :: decimal i.toInt.natAbs else decimal i.toInt.natAbs

/-- The text, as far as there are arguments. -/
def print : List Directive → List (BitVec 32) → List (List UInt8) → List UInt8
  | .char c :: f, is, ss => c :: print f is ss
  | .int :: f, i :: is, ss => printInt i ++ print f is ss
  | .str :: f, is, s :: ss => cStr s ++ print f is ss
  | _, _, _ => []

/-- What is in a buffer of `size` bytes before the NUL. -/
def snprintf (size : ℕ) (f : List Directive) (is : List (BitVec 32)) (ss : List (List UInt8)) :
    List UInt8 :=
  (print f is ss).take (size - 1)

/-! ## Scanning -/

/-- A sign, and what is after it. -/
def splitSign : List UInt8 → List UInt8 × List UInt8
  | 43 :: s => ([43], s)
  | 45 :: s => ([45], s)
  | s => ([], s)

/-- `%d`: the number, and what is after it. -/
def scanInt (s : List UInt8) : Option (BitVec 32 × List UInt8) :=
  let (sign, s) := splitSign (s.dropWhile isspace)
  let d := s.takeWhile (isDigit 10)
  if d = [] then none else some (.ofInt 32 (strtol 10 (sign ++ d)), s.dropWhile (isDigit 10))

/-- `%s`: the word, and what is after it. -/
def scanStr (s : List UInt8) : Option (List UInt8 × List UInt8) :=
  let s := s.dropWhile isspace
  let w := s.takeWhile fun c => !isspace c
  if w = [] then none else some (w, s.dropWhile fun c => !isspace c)

/-- The numbers and the words that are stored until a directive fails. -/
def scan : List Directive → List UInt8 → List (BitVec 32) × List (List UInt8)
  | .char c :: f, b :: s => if b = c then scan f s else ([], [])
  | .int :: f, s =>
    match scanInt s with
    | some (i, s) => (i :: (scan f s).1, (scan f s).2)
    | none => ([], [])
  | .str :: f, s =>
    match scanStr s with
    | some (w, s) => ((scan f s).1, w :: (scan f s).2)
    | none => ([], [])
  | _, _ => ([], [])

def sscanf (s : List UInt8) (f : List Directive) : List (BitVec 32) × List (List UInt8) := scan f (cStr s)

/-! ## Texts that match -/

/-- White space, a sign and digits, with the value that `%d` stores. -/
def Numeral (n : List UInt8) (i : BitVec 32) : Prop :=
  ∃ ws sign d, n = ws ++ (sign ++ d) ∧ (∀ c ∈ ws, isspace c) ∧
    (sign = [] ∨ sign = [43] ∨ sign = [45]) ∧ d ≠ [] ∧ (∀ c ∈ d, isDigit 10 c) ∧ i = .ofInt 32 (strtol 10 (sign ++ d))

/-- The text matches a format without `%s`, and stores these numbers. -/
inductive Matches : List Directive → List UInt8 → List (BitVec 32) → Prop
  | nil : Matches [] [] []
  | char {c f t is} : Matches f t is → Matches (.char c :: f) (c :: t) is
  | int {n i f t is} : Numeral n i → Matches f t is → Matches (.int :: f) (n ++ t) (i :: is)

/-- No `%s`, and after each `%d` a character that is no digit. -/
def Separated : List Directive → Bool
  | [] => true
  | .char _ :: f => Separated f
  | .int :: .char c :: f => !isDigit 10 c && Separated f
  | _ => false

theorem takeWhile_append_of_boundary {p : UInt8 → Bool} {w rest : List UInt8} (hw : ∀ c ∈ w, p c)
    (hrest : ∀ c ∈ rest.head?, p c = false) : (w ++ rest).takeWhile p = w := by
  rw [List.takeWhile_append_of_pos hw]
  cases rest with
  | nil => rw [List.takeWhile_nil, List.append_nil]
  | cons c rest => rw [List.takeWhile_cons_of_neg (by simp [hrest c rfl]), List.append_nil]

theorem dropWhile_append_of_boundary {p : UInt8 → Bool} {w rest : List UInt8} (hw : ∀ c ∈ w, p c)
    (hrest : ∀ c ∈ rest.head?, p c = false) : (w ++ rest).dropWhile p = rest := by
  rw [List.dropWhile_append_of_pos hw]
  cases rest with
  | nil => rfl
  | cons c rest => rw [List.dropWhile_cons_of_neg (by simp [hrest c rfl])]

theorem splitSign_append {sign d : List UInt8} (hsign : sign = [] ∨ sign = [43] ∨ sign = [45])
    (hd : d ≠ []) (hdigits : ∀ c ∈ d, isDigit 10 c) (rest : List UInt8) :
    splitSign (sign ++ d ++ rest) = (sign, d ++ rest) := by
  rcases hsign with rfl | rfl | rfl
  · obtain ⟨c, d, rfl⟩ := List.exists_cons_of_ne_nil hd
    obtain ⟨-, hplus, hminus, -⟩ := Http.digit_ne (hdigits c List.mem_cons_self)
    rw [List.nil_append, List.cons_append, splitSign]
    · exact fun _ h => hplus (List.cons.inj h).1
    · exact fun _ h => hminus (List.cons.inj h).1
  · rfl
  · rfl

/-- **A number is scanned** up to the next character that is no digit. -/
theorem scanInt_numeral {n rest : List UInt8} {i : BitVec 32} (hn : Numeral n i)
    (hrest : ∀ c ∈ rest.head?, isDigit 10 c = false) : scanInt (n ++ rest) = some (i, rest) := by
  obtain ⟨ws, sign, d, rfl, hws, hsign, hd, hdigits, rfl⟩ := hn
  have hspace : ∀ c ∈ (sign ++ d ++ rest).head?, isspace c = false := by
    rcases hsign with rfl | rfl | rfl
    · obtain ⟨c, d, rfl⟩ := List.exists_cons_of_ne_nil hd
      rintro _ ⟨⟩
      exact (Http.digit_ne (hdigits c List.mem_cons_self)).1
    · rintro _ ⟨⟩
      rfl
    · rintro _ ⟨⟩
      rfl
  rw [scanInt, List.append_assoc, dropWhile_append_of_boundary hws hspace,
    splitSign_append hsign hd hdigits]
  dsimp only
  rw [takeWhile_append_of_boundary hdigits hrest, dropWhile_append_of_boundary hdigits hrest, if_neg hd]

theorem splitSign_spec (s : List UInt8) : s = (splitSign s).1 ++ (splitSign s).2 ∧
    ((splitSign s).1 = [] ∨ (splitSign s).1 = [43] ∨ (splitSign s).1 = [45]) := by
  unfold splitSign
  split
  · exact ⟨rfl, .inr (.inl rfl)⟩
  · exact ⟨rfl, .inr (.inr rfl)⟩
  · exact ⟨rfl, .inl rfl⟩

theorem numeral_of_scanInt {s rest : List UInt8} {i : BitVec 32} (h : scanInt s = some (i, rest)) :
    ∃ n, Numeral n i ∧ s = n ++ rest := by
  rw [scanInt] at h
  obtain ⟨hsplit, hsign⟩ := splitSign_spec (s.dropWhile isspace)
  dsimp only at h
  split_ifs at h with hd
  obtain ⟨rfl, rfl⟩ := Prod.mk.inj (Option.some.inj h)
  refine ⟨_, ⟨s.takeWhile isspace, _, _, rfl, fun c => List.mem_takeWhile_imp, hsign, hd,
    fun c => List.mem_takeWhile_imp, rfl⟩, ?_⟩
  rw [List.append_assoc, List.append_assoc, List.takeWhile_append_dropWhile, ← hsplit,
    List.takeWhile_append_dropWhile]

theorem separated_cons {d : Directive} {f : List Directive} (h : Separated (d :: f)) :
    Separated f ∧ d ≠ .str := by
  cases d with
  | char c => exact ⟨h, nofun⟩
  | int =>
    match f, h with
    | .char c :: f, h =>
      rw [Separated, Bool.and_eq_true] at h
      exact ⟨h.2, nofun⟩
  | str => cases h

/-- **A text that matches is scanned**, and then what follows it. -/
theorem scan_matches {f : List Directive} {t : List UInt8} {is : List (BitVec 32)} (h : Matches f t is)
    (hf : Separated f) (g : List Directive) (u : List UInt8) :
    scan (f ++ g) (t ++ u) = (is ++ (scan g u).1, (scan g u).2) := by
  induction h with
  | nil => rfl
  | char _ ih =>
    rw [List.cons_append, List.cons_append, scan, if_pos rfl, ih (separated_cons hf).1]
  | @int n i f t is hn ht ih =>
    have hnext : ∀ c ∈ (t ++ u).head?, isDigit 10 c = false := by
      cases ht with
      | nil => cases hf
      | @char c f t _ _ =>
        rintro _ ⟨⟩
        rw [Separated, Bool.and_eq_true] at hf
        simpa using hf.1
      | int _ _ => cases hf
    rw [List.cons_append, List.append_assoc, scan, scanInt_numeral hn hnext]
    dsimp only
    rw [ih (separated_cons hf).1]
    rfl

/-- **A scan that comes to a word** has read a text that matches before. -/
theorem scan_sound {f g : List Directive} (hf : Separated f) {s : List UInt8}
    (h : (scan (f ++ g) s).2 ≠ []) : ∃ t u is, Matches f t is ∧ s = t ++ u ∧ (scan (f ++ g) s).2 = (scan g u).2 := by
  induction f generalizing s with
  | nil => exact ⟨[], s, [], .nil, rfl, rfl⟩
  | cons d f ih =>
    obtain ⟨htail, hstr⟩ := separated_cons hf
    cases d with
    | char c =>
      cases s with
      | nil => exact absurd rfl h
      | cons b s =>
        rw [List.cons_append, scan] at h ⊢
        split_ifs at h ⊢ with hb
        · obtain ⟨t, u, is, ht, rfl, hscan⟩ := ih htail h
          exact ⟨c :: t, u, is, .char ht, by rw [hb, List.cons_append], hscan⟩
        · exact absurd rfl h
    | int =>
      rw [List.cons_append, scan] at h ⊢
      cases hint : scanInt s with
      | none =>
        rw [hint] at h
        exact absurd rfl h
      | some p =>
        rw [hint] at h
        obtain ⟨n, hn, rfl⟩ := numeral_of_scanInt hint
        obtain ⟨t, u, is, ht, hs, hscan⟩ := ih htail h
        exact ⟨n ++ t, u, p.1 :: is, .int hn ht, by rw [hs, List.append_assoc], hscan⟩
    | str => exact absurd rfl hstr

/-! ## What is printed -/

theorem strtol_minus (d : List UInt8) : strtol 10 (45 :: d) = max (-(digits 10 d 0 : ℤ)) (-(2 ^ 63)) := by
  rw [strtol, List.dropWhile_cons_of_neg (by decide), ← Http.unsignedVal_ten]
  rfl

theorem numeral_printInt (i : BitVec 32) : Numeral (printInt i) i := by
  have hlower : -(2 ^ 31) ≤ i.toInt := BitVec.le_toInt i
  have hupper : i.toInt < 2 ^ 31 := BitVec.toInt_lt
  have hdigits := Http.isDigit_of_decimal (n := i.toInt.natAbs)
  rw [printInt]
  split_ifs with hneg
  · refine ⟨[], [45], decimal i.toInt.natAbs, rfl, nofun, .inr (.inr rfl), Http.decimal_ne_nil,
      hdigits, ?_⟩
    rw [List.singleton_append, strtol_minus, Http.digits_decimal, max_eq_left (by omega),
      show -(i.toInt.natAbs : ℤ) = i.toInt by omega, BitVec.ofInt_toInt]
  · refine ⟨[], [], decimal i.toInt.natAbs, rfl, nofun, .inl rfl, Http.decimal_ne_nil, hdigits, ?_⟩
    have hvalue := Http.strtol_ten Http.decimal_ne_nil hdigits (t := []) nofun
    rw [List.append_nil, Http.digits_decimal, min_eq_left (by omega)] at hvalue
    rw [List.nil_append, hvalue, show (i.toInt.natAbs : ℤ) = i.toInt by omega, BitVec.ofInt_toInt]

/-- The arguments are those of the `%d`s. -/
def Takes (f : List Directive) (is : List (BitVec 32)) : Prop := f.count .int = is.length

/-- **What is printed matches**, and stores the arguments. -/
theorem matches_print {f : List Directive} {is : List (BitVec 32)} (hf : Separated f) (his : Takes f is) :
    Matches f (print f is []) is := by
  induction f generalizing is with
  | nil =>
    cases is with
    | nil => exact .nil
    | cons i is => cases his
  | cons d f ih =>
    obtain ⟨htail, hstr⟩ := separated_cons hf
    cases d with
    | char c => exact .char (ih htail (by simpa [Takes] using his))
    | int =>
      cases is with
      | nil => simp [Takes] at his
      | cons i is => exact .int (numeral_printInt i) (ih htail (by simpa [Takes] using his))
    | str => exact absurd rfl hstr

theorem print_append {f g : List Directive} {is : List (BitVec 32)} (hf : Separated f) (his : Takes f is)
    (ss : List (List UInt8)) : print (f ++ g) is ss = print f is [] ++ print g [] ss := by
  induction f generalizing is with
  | nil =>
    cases is with
    | nil => rfl
    | cons i is => cases his
  | cons d f ih =>
    obtain ⟨htail, hstr⟩ := separated_cons hf
    cases d with
    | char c =>
      rw [List.cons_append, print, print, ih htail (by simpa [Takes] using his), List.cons_append]
    | int =>
      cases is with
      | nil => simp [Takes] at his
      | cons i is =>
        rw [List.cons_append, print, print, ih htail (by simpa [Takes] using his), List.append_assoc]
    | str => exact absurd rfl hstr

theorem cStr_eq_self {s : List UInt8} (h : ∀ c ∈ s, c ≠ 0) : cStr s = s :=
  List.takeWhile_eq_self_iff.2 fun c hc => by simpa using h c hc

theorem ne_zero_of_cStr {s : List UInt8} : ∀ c ∈ cStr s, c ≠ 0 := fun c hc => by
  simpa using List.mem_takeWhile_imp hc

theorem ne_zero_of_printInt {i : BitVec 32} : ∀ c ∈ printInt i, c ≠ 0 := by
  have hdigits : ∀ c ∈ decimal i.toInt.natAbs, c ≠ 0 := by
    rintro _ hc rfl
    exact absurd (Http.isDigit_of_decimal 0 hc) (by decide)
  intro c hc
  rw [printInt] at hc
  split_ifs at hc
  · rcases List.mem_cons.1 hc with rfl | hc
    · decide
    · exact hdigits c hc
  · exact hdigits c hc

/-- No NUL is printed that is not in the format. -/
theorem ne_zero_of_print {f : List Directive} (hf : .char 0 ∉ f) (is : List (BitVec 32))
    (ss : List (List UInt8)) : ∀ c ∈ print f is ss, c ≠ 0 := by
  fun_induction print f is ss with
  | case1 is ss b f ih =>
    rintro c hc
    rcases List.mem_cons.1 hc with rfl | hc
    · rintro rfl
      exact hf List.mem_cons_self
    · exact ih (fun h => hf (List.mem_cons_of_mem _ h)) c hc
  | case2 f i is ss ih =>
    intro c hc
    rcases List.mem_append.1 hc with hc | hc
    · exact ne_zero_of_printInt c hc
    · exact ih (fun h => hf (List.mem_cons_of_mem _ h)) c hc
  | case3 is f s ss ih =>
    intro c hc
    rcases List.mem_append.1 hc with hc | hc
    · exact ne_zero_of_cStr c hc
    · exact ih (fun h => hf (List.mem_cons_of_mem _ h)) c hc
  | case4 => exact nofun

/-! ## The last word -/

/-- The characters up to white space, after white space. -/
def word (s : List UInt8) : List UInt8 := (s.dropWhile isspace).takeWhile fun c => !isspace c

theorem scan_str (s : List UInt8) : (scan [.str] s).1 = [] ∧ (scan [.str] s).2.headD [] = word s := by
  rw [scan, scanStr]
  split_ifs with h
  · exact ⟨rfl, h.symm⟩
  · exact ⟨rfl, rfl⟩

/-- **What is printed is read back**, but for the last word. -/
theorem sscanf_print {f : List Directive} {is : List (BitVec 32)} (hf : Separated f) (his : Takes f is)
    (h0 : .char 0 ∉ f) (s : List UInt8) :
    (sscanf (print (f ++ [.str]) is [s]) (f ++ [.str])).1 = is ∧
      (sscanf (print (f ++ [.str]) is [s]) (f ++ [.str])).2.headD [] = word (cStr s) := by
  have hstr : print [.str] [] [s] = cStr s := List.append_nil _
  have hnul : (.char 0 : Directive) ∉ f ++ [.str] := by simpa using h0
  rw [sscanf, cStr_eq_self (ne_zero_of_print hnul _ _), print_append hf his, hstr,
    scan_matches (matches_print hf his) hf]
  obtain ⟨hnone, hword⟩ := scan_str (cStr s)
  exact ⟨by rw [hnone, List.append_nil], hword⟩

/-- A word is read back exactly if it has neither white space nor a NUL. -/
theorem word_cStr_eq_iff {s : List UInt8} :
    word (cStr s) = s ↔ ∀ c ∈ s, isspace c = false ∧ c ≠ 0 := by
  constructor
  · intro h c hc
    rw [← h] at hc
    have hmem : c ∈ cStr s := (List.dropWhile_sublist _).mem ((List.takeWhile_sublist _).mem hc)
    exact ⟨by simpa using List.mem_takeWhile_imp hc, ne_zero_of_cStr c hmem⟩
  · intro h
    rw [cStr_eq_self fun c hc => (h c hc).2, word]
    have hhead : ∀ c ∈ s.head?, isspace c = false := fun c hc => (h c (List.mem_of_mem_head? hc)).1
    have hdrop := dropWhile_append_of_boundary (w := []) nofun hhead
    rw [List.nil_append] at hdrop
    rw [hdrop, List.takeWhile_eq_self_iff]
    exact fun c hc => by simp [h c hc]

/-- The text matches the format, and `n` characters without white space follow, perhaps after some. -/
def Overruns (n : ℕ) (f : List Directive) (s : List UInt8) : Prop :=
  ∃ t is ws w rest, Matches f t is ∧ (∀ c ∈ ws, isspace c) ∧ (∀ c ∈ w, isspace c = false) ∧
    w.length = n ∧ s = t ++ (ws ++ (w ++ rest))

theorem le_word_iff {n : ℕ} (hn : 0 < n) {s : List UInt8} : n ≤ (word s).length ↔
    ∃ ws w rest, (∀ c ∈ ws, isspace c) ∧ (∀ c ∈ w, isspace c = false) ∧ w.length = n ∧
      s = ws ++ (w ++ rest) := by
  constructor
  · intro h
    refine ⟨s.takeWhile isspace, (word s).take n, (word s).drop n ++
      (s.dropWhile isspace).dropWhile (fun c => !isspace c), fun c hc => List.mem_takeWhile_imp hc,
      fun c hc => ?_, List.length_take_of_le h, ?_⟩
    · simpa using List.mem_takeWhile_imp (List.mem_of_mem_take hc)
    · rw [← List.append_assoc (List.take n _), List.take_append_drop, word,
        List.takeWhile_append_dropWhile, List.takeWhile_append_dropWhile]
  · rintro ⟨ws, w, rest, hws, hw, hlength, rfl⟩
    obtain ⟨c, w, rfl⟩ : ∃ c w', w = c :: w' := List.exists_cons_of_length_pos (by omega)
    rw [word, dropWhile_append_of_boundary hws (by rintro _ ⟨⟩; exact hw c List.mem_cons_self),
      List.takeWhile_append_of_pos (by simpa using hw), List.length_append]
    omega

/-- **A word of `n` characters or more is stored** exactly from these texts. -/
theorem le_scan_iff {n : ℕ} (hn : 0 < n) {f : List Directive} (hf : Separated f) {s : List UInt8} :
    n ≤ ((scan (f ++ [.str]) s).2.headD []).length ↔ Overruns n f s := by
  constructor
  · intro h
    have hne : (scan (f ++ [.str]) s).2 ≠ [] := by
      intro hnil
      rw [hnil] at h
      exact absurd h (by simpa using hn.ne')
    obtain ⟨t, u, is, ht, rfl, hscan⟩ := scan_sound hf hne
    rw [hscan, (scan_str u).2] at h
    obtain ⟨ws, w, rest, hws, hw, hlength, rfl⟩ := (le_word_iff hn).1 h
    exact ⟨t, is, ws, w, rest, ht, hws, hw, hlength, rfl⟩
  · rintro ⟨t, is, ws, w, rest, ht, hws, hw, hlength, rfl⟩
    rw [scan_matches ht hf, (scan_str _).2]
    exact (le_word_iff hn).2 ⟨ws, w, rest, hws, hw, hlength, rfl⟩

end Ancfl.Stdio
