/-
  Patterns of log lines (`LogFormatter`).

  * `scan` is the loop of `init` that cuts a pattern into triples, with `nameLoop`
    and `formatLoop` for the inner loop; `LogFormatter.init` makes the items;
  * `Token`: literal texts, escapes and items, and `text` the pattern that they
    are written as. `ReadsAs` says that the pattern is read as its tokens;
  * after an escape the loop goes on with the second `%`, which begins an item
    or another escape; `readsAs_iff`: a pattern is read right iff it has no
    escape.
-/
import Ancfl.Http.Decimal
import Ancfl.Log.Initer

namespace Ancfl.Log

open Http (ascii decimal)

/-! ## Items -/

def LogLevel.ToString : LogLevel → List UInt8
  | .DEBUG => ascii "DEBUG"
  | .INFO => ascii "INFO"
  | .WARN => ascii "WARN"
  | .ERROR => ascii "ERROR"
  | .FATAL => ascii "FATAL"
  | .UNKNOW => ascii "UNKNOW"

structure LogEvent where
  m_file : List UInt8
  m_line : ℤ
  m_elapse : ℕ
  m_threadId : ℕ
  m_fiberId : ℕ
  m_time : ℕ
  m_threadName : List UInt8
  content : List UInt8
  /-- the name of `m_logger` -/
  loggerName : List UInt8

/-- The classes that derive from `FormatItem`. -/
inductive FormatItem
  | MessageFormatItem
  | LevelFormatItem
  | ElapseFormatItem
  | NameFormatItem
  | ThreadIdFormatItem
  | FiberIdFormatItem
  | ThreadNameFormatItem
  | DateTimeFormatItem (m_format : List UInt8)
  | FilenameFormatItem
  | LineFormatItem
  | NewLineFormatItem
  | StringFormatItem (m_string : List UInt8)
  | TabFormatItem
deriving DecidableEq

namespace FormatItem

/-- The constructor of `DateTimeFormatItem`. -/
def dateTime (format : List UInt8) : FormatItem :=
  .DateTimeFormatItem (if format.isEmpty then ascii "%Y-%m-%d %H:%M:%S" else format)

/-- `format` of an item. `strftime` is what `buf` has after `localtime_r` and `strftime`. -/
def format (strftime : List UInt8 → ℕ → List UInt8) (level : LogLevel) (event : LogEvent) :
    FormatItem → List UInt8
  | .MessageFormatItem => event.content
  | .LevelFormatItem => level.ToString
  | .ElapseFormatItem => decimal event.m_elapse
  | .NameFormatItem => event.loggerName
  | .ThreadIdFormatItem => decimal event.m_threadId
  | .FiberIdFormatItem => decimal event.m_fiberId
  | .ThreadNameFormatItem => event.m_threadName
  | .DateTimeFormatItem m_format => strftime m_format event.m_time
  | .FilenameFormatItem => event.m_file
  | .LineFormatItem => ascii (toString event.m_line)
  | .NewLineFormatItem => ascii "\n"
  | .StringFormatItem m_string => m_string
  | .TabFormatItem => ascii "\t"

end FormatItem

def s_format_items : List (List UInt8 × (List UInt8 → FormatItem)) := [
  (ascii "m", fun _ => .MessageFormatItem), (ascii "p", fun _ => .LevelFormatItem),
  (ascii "r", fun _ => .ElapseFormatItem), (ascii "c", fun _ => .NameFormatItem),
  (ascii "t", fun _ => .ThreadIdFormatItem), (ascii "n", fun _ => .NewLineFormatItem),
  (ascii "d", .dateTime), (ascii "f", fun _ => .FilenameFormatItem),
  (ascii "l", fun _ => .LineFormatItem), (ascii "T", fun _ => .TabFormatItem),
  (ascii "F", fun _ => .FiberIdFormatItem), (ascii "N", fun _ => .ThreadNameFormatItem)]

/-! ## The loops of `init` -/

def isalpha (c : UInt8) : Bool := (65 ≤ c && c ≤ 90) || (97 ≤ c && c ≤ 122)

/-- The inner loop behind a `{`: the format up to the next `}`, and what is behind it. -/
def formatLoop (fmt : List UInt8) : List UInt8 → Option (List UInt8 × List UInt8)
  | [] => none
  | c :: rest => if c = 125 then some (fmt, rest) else formatLoop (fmt ++ [c]) rest

/-- The inner loop from the character at `n` on, `str` being those from the `%` on: the name, the
    format and what is behind them, `none` for a `{` without a `}`. -/
def nameLoop (str : List UInt8) : List UInt8 → Option (List UInt8 × List UInt8 × List UInt8)
  | [] => some (str, [], [])
  | c :: rest =>
    if !isalpha c && c != 123 && c != 125 then some (str, [], c :: rest)
    else if c = 123 then (formatLoop [] rest).map fun r => (str, r)
    else nameLoop (str ++ [c]) rest

theorem formatLoop_length : ∀ {rest fmt : List UInt8} {r : List UInt8 × List UInt8},
    formatLoop fmt rest = some r → r.2.length ≤ rest.length
  | [], _, _, h => by cases h
  | c :: rest, fmt, r, h => by
    rw [formatLoop] at h
    split_ifs at h
    · cases h
      exact Nat.le_succ _
    · exact Nat.le_succ_of_le (formatLoop_length h)

theorem nameLoop_length : ∀ {rest str : List UInt8} {r : List UInt8 × List UInt8 × List UInt8},
    nameLoop str rest = some r → r.2.2.length ≤ rest.length
  | [], _, _, h => by cases h; exact le_rfl
  | c :: rest, str, r, h => by
    rw [nameLoop] at h
    split_ifs at h
    · cases h
      exact le_rfl
    · obtain ⟨s, hs, rfl⟩ := Option.map_eq_some_iff.1 h
      exact Nat.le_succ_of_le (formatLoop_length hs)
    · exact Nat.le_succ_of_le (nameLoop_length h)

/-- `str`, `format` and `type` of the triples in `vec`. -/
structure Triple where
  str : List UInt8
  fmt : List UInt8
  type : ℕ
deriving DecidableEq

/-- `nstr` as a triple, if it is not empty. -/
def flush (nstr : List UInt8) : List Triple := if nstr.isEmpty then [] else [⟨nstr, [], 0⟩]

/-- The loop over the pattern from the character at `i` on: the triples it pushes, and `m_error`. -/
def scan (nstr : List UInt8) : List UInt8 → List Triple × Bool
  | [] => (flush nstr, false)
  | c :: rest =>
    if c ≠ 37 then scan (nstr ++ [c]) rest
    -- only `i` is left at the first `%` of two: the second one comes next
    else if rest.head? = some 37 then scan (nstr ++ [37]) rest
    else
      match _h : nameLoop [] rest with
      | some (str, fmt, rest') =>
        let r := scan [] rest'
        (flush nstr ++ ⟨str, fmt, 1⟩ :: r.1, r.2)
      | none =>
        let r := scan nstr rest
        (⟨ascii "<<pattern_error>>", [], 0⟩ :: r.1, true)
termination_by pattern => pattern.length
decreasing_by
  all_goals simp_wf
  have hle := nameLoop_length _h
  dsimp only at hle
  omega

/-- The item of a triple, and whether it is an error. -/
def Triple.item (t : Triple) : FormatItem × Bool :=
  if t.type = 0 then (.StringFormatItem t.str, false)
  else
    match s_format_items.lookup t.str with
    | none => (.StringFormatItem (ascii "<<error_format %" ++ t.str ++ ascii ">>"), true)
    | some new => (new t.fmt, false)

structure LogFormatter where
  m_pattern : List UInt8
  m_items : List FormatItem
  m_error : Bool

namespace LogFormatter

def init (m_pattern : List UInt8) : LogFormatter :=
  let (vec, error) := scan [] m_pattern
  ⟨m_pattern, vec.map fun t => t.item.1, error || vec.any fun t => t.item.2⟩

def format (strftime : List UInt8 → ℕ → List UInt8) (level : LogLevel) (event : LogEvent)
    (f : LogFormatter) : List UInt8 :=
  f.m_items.flatMap (FormatItem.format strftime level event)

end LogFormatter

/-! ## Patterns as they are documented -/

/-- The letters of the documentation. -/
inductive Letter
  | m | p | r | c | t | n | d | f | l | T | F | N
deriving DecidableEq

def Letter.char : Letter → UInt8
  | .m => 109 | .p => 112 | .r => 114 | .c => 99 | .t => 116 | .n => 110
  | .d => 100 | .f => 102 | .l => 108 | .T => 84 | .F => 70 | .N => 78

/-- What a letter stands for. -/
def Letter.item (fmt : List UInt8) : Letter → FormatItem
  | .m => .MessageFormatItem
  | .p => .LevelFormatItem
  | .r => .ElapseFormatItem
  | .c => .NameFormatItem
  | .t => .ThreadIdFormatItem
  | .n => .NewLineFormatItem
  | .d => .dateTime fmt
  | .f => .FilenameFormatItem
  | .l => .LineFormatItem
  | .T => .TabFormatItem
  | .F => .FiberIdFormatItem
  | .N => .ThreadNameFormatItem

inductive Token
  | literal (s : List UInt8)
  | escape
  | item (x : Letter) (fmt : Option (List UInt8))
deriving DecidableEq

namespace Token

def text : Token → List UInt8
  | .literal s => s
  | .escape => [37, 37]
  | .item x none => [37, x.char]
  | .item x (some fmt) => 37 :: x.char :: 123 :: (fmt ++ [125])

def format (strftime : List UInt8 → ℕ → List UInt8) (level : LogLevel) (event : LogEvent) :
    Token → List UInt8
  | .literal s => s
  | .escape => [37]
  | .item x fmt => (x.item (fmt.getD [])).format strftime level event

end Token

/-- The pattern that tokens are written as. -/
def text (ts : List Token) : List UInt8 := ts.flatMap Token.text

/-- A text that does not go on with a letter or a brace. -/
def Ends : List UInt8 → Prop
  | [] => True
  | c :: _ => !isalpha c && c != 123 && c != 125

/-- Literals without `%`, formats without `}`, and no letter or brace behind an item without a
    format. -/
def Wellformed : List Token → Prop
  | [] => True
  | .literal s :: ts => 37 ∉ s ∧ Wellformed ts
  | .escape :: ts => Wellformed ts
  | .item _ none :: ts => Ends (text ts) ∧ Wellformed ts
  | .item _ (some fmt) :: ts => 125 ∉ fmt ∧ Wellformed ts

instance decidableEnds : ∀ s, Decidable (Ends s)
  | [] => isTrue trivial
  | _ :: _ => inferInstanceAs (Decidable (_ = true))

instance decidableWellformed : ∀ ts, Decidable (Wellformed ts)
  | [] => isTrue trivial
  | .literal _ :: ts => @instDecidableAnd _ _ _ (decidableWellformed ts)
  | .escape :: ts => decidableWellformed ts
  | .item _ none :: ts => @instDecidableAnd _ _ _ (decidableWellformed ts)
  | .item _ (some _) :: ts => @instDecidableAnd _ _ _ (decidableWellformed ts)

/-- What an item gives: characters, or the item itself. -/
def FormatItem.symbols : FormatItem → List (UInt8 ⊕ FormatItem)
  | .StringFormatItem s => s.map .inl
  | i => [.inr i]

def Token.symbols : Token → List (UInt8 ⊕ FormatItem)
  | .literal s => s.map .inl
  | .escape => [.inl 37]
  | .item x fmt => [.inr (x.item (fmt.getD []))]

/-- The pattern of the tokens has no error, and its items are the literals, a `%` for each escape and
    the items of the letters, and so every event is written as the tokens say. -/
structure ReadsAs (ts : List Token) : Prop where
  error_eq : (LogFormatter.init (text ts)).m_error = false
  symbols_eq : (LogFormatter.init (text ts)).m_items.flatMap FormatItem.symbols = ts.flatMap Token.symbols
  format_eq : ∀ strftime level event, (LogFormatter.init (text ts)).format strftime level event =
    ts.flatMap (Token.format strftime level event)

/-! ## The loops on tokens -/

/-- What the items of a pattern give, from a character on, and whether there is an error. -/
def outcome (nstr pattern : List UInt8) : List (UInt8 ⊕ FormatItem) × Bool :=
  let r := scan nstr pattern
  (r.1.flatMap fun t => t.item.1.symbols, r.2 || r.1.any fun t => t.item.2)

section
variable {nstr str fmt rest rest' s a : List UInt8} {ts : List Token} {x : Letter}

theorem flush_symbols : ((flush nstr).flatMap fun t => t.item.1.symbols) = nstr.map .inl := by
  cases nstr <;> simp [flush, Triple.item, FormatItem.symbols]

theorem flush_item : ((flush nstr).any fun t => t.item.2) = false := by
  cases nstr <;> simp [flush, Triple.item]

theorem outcome_nil : outcome nstr [] = (nstr.map .inl, false) := by
  rw [outcome, scan, flush_symbols, flush_item]
  rfl

theorem outcome_char {c : UInt8} (hc : c ≠ 37) : outcome nstr (c :: rest) = outcome (nstr ++ [c]) rest := by
  rw [outcome, scan, if_pos hc]
  rfl

theorem outcome_literal (hs : 37 ∉ s) : outcome nstr (s ++ rest) = outcome (nstr ++ s) rest := by
  induction s generalizing nstr with
  | nil => rw [List.nil_append, List.append_nil]
  | cons c s ih =>
    rw [List.mem_cons, not_or] at hs
    rw [List.cons_append, outcome_char (Ne.symm hs.1), ih hs.2, List.append_assoc]
    rfl

theorem outcome_escape : outcome nstr (37 :: 37 :: rest) = outcome (nstr ++ [37]) (37 :: rest) := by
  rw [outcome, scan, if_neg (by simp), if_pos List.head?_cons]
  rfl

/-- An item: its name is looked up. -/
theorem outcome_item (hhead : rest.head? ≠ some 37) (hname : nameLoop [] rest = some (str, fmt, rest')) :
    outcome nstr (37 :: rest) = match s_format_items.lookup str with
      | none => (nstr.map .inl ++ (FormatItem.StringFormatItem (ascii "<<error_format %" ++ str ++
          ascii ">>")).symbols ++ (outcome [] rest').1, true)
      | some new => (nstr.map .inl ++ (new fmt).symbols ++ (outcome [] rest').1, (outcome [] rest').2) := by
  rw [outcome, scan, if_neg (by simp), if_neg hhead]
  split
  · next str' fmt' rest'' heq =>
    obtain ⟨rfl, rfl, rfl⟩ : str = str' ∧ fmt = fmt' ∧ rest' = rest'' := by
      rw [hname] at heq
      cases heq
      exact ⟨rfl, rfl, rfl⟩
    have hitem : (⟨str, fmt, 1⟩ : Triple).item = match s_format_items.lookup str with
        | none => (.StringFormatItem (ascii "<<error_format %" ++ str ++ ascii ">>"), true)
        | some new => (new fmt, false) := if_neg Nat.one_ne_zero
    simp only [List.flatMap_append, flush_symbols, List.any_append, flush_item, Bool.false_or,
      List.flatMap_cons, List.any_cons, hitem, outcome]
    cases s_format_items.lookup str <;> simp
  · next heq =>
    rw [hname] at heq
    cases heq

/-- A brace that is not closed is an error. -/
theorem outcome_error (hhead : rest.head? ≠ some 37) (hname : nameLoop [] rest = none) :
    (outcome nstr (37 :: rest)).2 = true := by
  rw [outcome, scan, if_neg (by simp), if_neg hhead]
  split
  · next heq =>
    rw [hname] at heq
    cases heq
  · simp

theorem lookup_char (x : Letter) : s_format_items.lookup [x.char] = some fun fmt => x.item fmt := by
  cases x <;> rfl

/-- Only the texts are characters. -/
theorem lookup_symbols {new : List UInt8 → FormatItem} (h : s_format_items.lookup str = some new)
    (fmt : List UInt8) : (new fmt).symbols = [.inr (new fmt)] := by
  have hall : ∀ e ∈ s_format_items, ∀ fmt, (e.2 fmt).symbols = [.inr (e.2 fmt)] := by
    simp [s_format_items, FormatItem.symbols, FormatItem.dateTime]
  obtain ⟨l₁, l₂, hsplit, -⟩ := List.lookup_eq_some_iff.1 h
  exact hall (str, new) (by simp [hsplit]) fmt

theorem item_symbols (x : Letter) (fmt : List UInt8) : (x.item fmt).symbols = [.inr (x.item fmt)] :=
  lookup_symbols (lookup_char x) fmt

theorem isalpha_char (x : Letter) : isalpha x.char := by
  cases x <;> decide

theorem formatLoop_text : ∀ {fmt a : List UInt8}, 125 ∉ fmt →
    formatLoop a (fmt ++ 125 :: rest) = some (a ++ fmt, rest)
  | [], a, _ => by rw [List.nil_append, formatLoop, if_pos rfl, List.append_nil]
  | c :: fmt, a, h => by
    rw [List.mem_cons, not_or] at h
    rw [List.cons_append, formatLoop, if_neg (Ne.symm h.1), formatLoop_text h.2, List.append_assoc]
    rfl

theorem nameLoop_char (x : Letter) : nameLoop str (x.char :: rest) = nameLoop (str ++ [x.char]) rest := by
  have hbrace : x.char ≠ 123 := by cases x <;> decide
  rw [nameLoop, isalpha_char, if_neg (by simp), if_neg hbrace]

theorem nameLoop_ends (h : Ends rest) : nameLoop str rest = some (str, [], rest) := by
  cases rest with
  | nil => rfl
  | cons c rest => exact if_pos h

/-- **An item is read** with its format. -/
theorem outcome_token (x : Letter) {fmt : Option (List UInt8)} (h : Wellformed (.item x fmt :: ts)) :
    outcome nstr ((Token.item x fmt).text ++ text ts) =
      (nstr.map .inl ++ .inr (x.item (fmt.getD [])) :: (outcome [] (text ts)).1, (outcome [] (text ts)).2) := by
  have hchar : x.char ≠ 37 := by cases x <;> decide
  cases fmt with
  | none =>
    have hname : nameLoop [] (x.char :: text ts) = some ([x.char], [], text ts) := by
      rw [nameLoop_char, nameLoop_ends h.1]
      rfl
    rw [Token.text, List.cons_append, List.singleton_append, outcome_item (by simpa using hchar) hname,
      lookup_char]
    simp [item_symbols]
  | some fmt =>
    have hname : nameLoop [] (x.char :: 123 :: (fmt ++ 125 :: text ts)) = some ([x.char], fmt, text ts) := by
      rw [nameLoop_char, nameLoop, if_neg (by simp), if_pos rfl, formatLoop_text h.1]
      rfl
    have htext : (Token.item x (some fmt)).text ++ text ts =
        37 :: x.char :: 123 :: (fmt ++ 125 :: text ts) := by
      simp [Token.text]
    rw [htext, outcome_item (by simpa using hchar) hname, lookup_char]
    simp [item_symbols]

theorem item_text (x : Letter) (fmt : Option (List UInt8)) :
    ∃ s, (Token.item x fmt).text = 37 :: s := by
  cases fmt <;> exact ⟨_, rfl⟩

/-- **Behind an escape** the second `%` does not give what the tokens behind it stand for, whatever
    number of `%` is written already. -/
theorem outcome_second : ∀ (ts : List Token) (a : List UInt8) (j : ℕ), Wellformed ts →
    outcome (a ++ List.replicate j 37) (37 :: text ts) ≠ (a.map .inl ++ ts.flatMap Token.symbols, false)
  | [], a, j, _ => by
    intro h
    rw [show text [] = [] from rfl, outcome_item (by simp) rfl,
      show s_format_items.lookup [] = none from rfl] at h
    cases congrArg Prod.snd h
  | .literal [] :: ts, a, j, ⟨_, hts⟩ => outcome_second ts a j hts
  | .literal (c :: s) :: ts, a, j, ⟨hs, _⟩ => by
    intro h
    rw [List.mem_cons, not_or] at hs
    have hhead : (text (.literal (c :: s) :: ts)).head? ≠ some 37 := fun heq => hs.1 (Option.some.inj heq).symm
    cases hname : nameLoop [] (text (.literal (c :: s) :: ts)) with
    | none =>
      have herror : (outcome (a ++ List.replicate j 37) (37 :: text (.literal (c :: s) :: ts))).2 = true :=
        outcome_error hhead hname
      rw [h] at herror
      cases herror
    | some r =>
      obtain ⟨str, fmt, rest'⟩ := r
      rw [outcome_item hhead hname] at h
      cases hlookup : s_format_items.lookup str with
      | none =>
        rw [hlookup] at h
        cases congrArg Prod.snd h
      | some new =>
        rw [hlookup] at h
        have hfst := congrArg Prod.fst h
        simp only [lookup_symbols hlookup, List.map_append, List.append_assoc, List.append_cancel_left_eq,
          List.flatMap_cons, Token.symbols, List.map_cons, List.cons_append] at hfst
        -- the item, or one of the `%`, against the first character
        cases j with
        | zero => cases (List.cons.inj hfst).1
        | succ j => exact hs.1 (Sum.inl.inj (List.cons.inj hfst).1)
  | .escape :: ts, a, j, hts => by
    have ih := outcome_second ts (a ++ [37]) (j + 1) hts
    have htext : text (.escape :: ts) = 37 :: 37 :: text ts := rfl
    have hwritten : a ++ List.replicate j 37 ++ [37] ++ [37] = a ++ [37] ++ List.replicate (j + 1) 37 := by
      rw [List.append_assoc, List.append_assoc, ← List.append_assoc _ [37] [37], ← List.replicate_succ',
        ← List.replicate_succ', List.append_assoc, List.replicate_succ]
      rfl
    rw [htext, outcome_escape, outcome_escape, hwritten, List.flatMap_cons, ← List.append_assoc]
    rwa [List.map_append] at ih
  | .item x fmt :: ts, a, j, hts => by
    intro h
    obtain ⟨s, hs⟩ := item_text x fmt
    have htext : text (.item x fmt :: ts) = 37 :: (s ++ text ts) := by
      rw [text, List.flatMap_cons, hs]
      rfl
    have htoken : text (.item x fmt :: ts) = (Token.item x fmt).text ++ text ts := rfl
    rw [htext, outcome_escape, ← htext, htoken, outcome_token x hts] at h
    have hfst := congrArg Prod.fst h
    simp only [List.map_append, List.append_assoc, List.append_cancel_left_eq,
      List.flatMap_cons, Token.symbols] at hfst
    cases j with
    | zero => cases (List.cons.inj hfst).1
    | succ j => cases (List.cons.inj hfst).1

theorem outcome_iff : ∀ {ts : List Token} (nstr : List UInt8), Wellformed ts →
    (outcome nstr (text ts) = (nstr.map .inl ++ ts.flatMap Token.symbols, false) ↔ .escape ∉ ts)
  | [], nstr, _ => by
    rw [show text [] = [] from rfl, outcome_nil]
    simp
  | .literal s :: ts, nstr, ⟨hs, hts⟩ => by
    have htext : text (.literal s :: ts) = s ++ text ts := rfl
    rw [htext, outcome_literal hs, List.flatMap_cons, Token.symbols, ← List.append_assoc, ← List.map_append,
      outcome_iff _ hts]
    simp
  | .escape :: ts, nstr, hts => by
    have hsecond := outcome_second ts (nstr ++ [37]) 0 hts
    have htext : text (.escape :: ts) = 37 :: 37 :: text ts := rfl
    rw [htext, outcome_escape]
    simpa [Token.symbols] using hsecond
  | .item x fmt :: ts, nstr, hts => by
    have htext : text (.item x fmt :: ts) = (Token.item x fmt).text ++ text ts := rfl
    have hrest : Wellformed ts := by
      cases fmt with
      | none => exact hts.2
      | some fmt => exact hts.2
    have ih := outcome_iff [] hrest
    rw [htext, outcome_token x hts]
    simp [Token.symbols, Prod.ext_iff] at ih ⊢
    exact ih

end

section
variable (strftime : List UInt8 → ℕ → List UInt8) (level : LogLevel) (event : LogEvent)

/-- What a symbol is written as. -/
def written : UInt8 ⊕ FormatItem → List UInt8
  | .inl c => [c]
  | .inr i => i.format strftime level event

theorem flatMap_written (s : List UInt8) : (s.map .inl).flatMap (written strftime level event) = s := by
  induction s with
  | nil => rfl
  | cons c s ih => rw [List.map_cons, List.flatMap_cons, ih]; rfl

theorem FormatItem.format_eq (i : FormatItem) :
    i.format strftime level event = i.symbols.flatMap (written strftime level event) := by
  cases i with
  | StringFormatItem s => exact (flatMap_written strftime level event s).symm
  | _ => exact (List.append_nil _).symm

theorem Token.format_eq (t : Token) :
    t.format strftime level event = t.symbols.flatMap (written strftime level event) := by
  cases t with
  | literal s => exact (flatMap_written strftime level event s).symm
  | escape => rfl
  | item x fmt => exact (List.append_nil _).symm

end

theorem outcome_init (pattern : List UInt8) : outcome [] pattern =
    ((LogFormatter.init pattern).m_items.flatMap FormatItem.symbols, (LogFormatter.init pattern).m_error) := by
  rw [outcome, LogFormatter.init, List.flatMap_map]

theorem ReadsAs.outcome {ts : List Token} (h : ReadsAs ts) :
    outcome [] (text ts) = (([] : List UInt8).map .inl ++ ts.flatMap Token.symbols, false) := by
  rw [outcome_init, h.error_eq, h.symbols_eq]
  rfl

/-- **A pattern is read as it is documented** iff it has no escape. -/
theorem readsAs_iff {ts : List Token} (h : Wellformed ts) : ReadsAs ts ↔ .escape ∉ ts := by
  rw [← outcome_iff [] h]
  constructor
  · exact ReadsAs.outcome
  · intro heq
    rw [outcome_init] at heq
    obtain ⟨hsymbols, herror⟩ := Prod.ext_iff.1 heq
    refine ⟨herror, hsymbols, fun strftime level event => ?_⟩
    have hitems : FormatItem.format strftime level event =
        fun i => i.symbols.flatMap (written strftime level event) :=
      funext (FormatItem.format_eq strftime level event)
    have htokens : Token.format strftime level event =
        fun t => t.symbols.flatMap (written strftime level event) :=
      funext (Token.format_eq strftime level event)
    rw [LogFormatter.format, hitems, htokens, ← List.flatMap_assoc, ← List.flatMap_assoc]
    exact congrArg _ hsymbols

/-- A date, a tab, the thread and the level in brackets. -/
theorem readsAs_date : ReadsAs [.item .d (some (ascii "%Y-%m-%d %H:%M:%S")), .item .T none, .item .t none,
    .literal (ascii " ["), .item .p none, .literal (ascii "]")] := by
  exact (readsAs_iff (by decide)).2 (by simp)

/-- `100%%` is an error: the second `%` begins an item. -/
theorem not_readsAs : ¬ ∀ ts, Wellformed ts → ReadsAs ts := by
  intro h
  have hwell : Wellformed [.literal (ascii "100"), .escape] := ⟨by decide, trivial⟩
  have hescape := (outcome_iff [] hwell).1 (h _ hwell).outcome
  revert hescape
  decide

end Ancfl.Log
