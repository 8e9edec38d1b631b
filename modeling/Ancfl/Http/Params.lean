/-
  Query, form and cookie parameters (`HttpRequest::initQueryParam`,
  `initBodyParam`, `initCookies`).

  * `PARSE_PARAM` is the macro that the three share, as the pairs that it
    inserts; each of the three calls returns the request and these pairs;
  * `pairsOf`: the pairs of a string piece by piece, and `Splits` that a call
    inserts these and nothing else, so that the first of each key wins;
  * a piece without `=` before one that has it becomes a part of its key
    (`parseParam_pieces`), and so a string is split right iff no piece without
    `=` comes before one with it (`Orderly`, `init_iff`).
-/
import Ancfl.Http.Message
import Ancfl.Util.Url

namespace Ancfl.Util.StringUtil

def Trim (str delimit : List UInt8) : List UInt8 :=
  ((str.dropWhile delimit.contains).reverse.dropWhile delimit.contains).reverse

end Ancfl.Util.StringUtil

namespace Ancfl.Http

open Lib
open Util.StringUtil (UrlDecode Trim)

/-! ## The calls -/

/-- The keys are compared without case. -/
theorem strcasecmp_eq_iff : ∀ {a b : List UInt8},
    (strcasecmp a b ≠ .lt ∧ strcasecmp b a ≠ .lt) ↔ a.map tolower = b.map tolower
  | [], [] => by simp [strcasecmp]
  | [], b :: t => by simp [strcasecmp]
  | a :: s, [] => by simp [strcasecmp]
  | a :: s, b :: t => by
    have ih := strcasecmp_eq_iff (a := s) (b := t)
    rw [List.map_cons, List.map_cons, List.cons.injEq, ← ih, strcasecmp, strcasecmp, ← UInt8.toNat_inj]
    simp only [UInt8.lt_iff_toNat_lt]
    rcases Nat.lt_trichotomy (tolower a).toNat (tolower b).toNat with h | h | h
    · simp [h, h.ne]
    · simp [h]
    · simp [h, h.ne']

theorem CaseInsensitiveLess_same (a b c : List UInt8) (hab : OrderedMap.same CaseInsensitiveLess a b)
    (hbc : OrderedMap.same CaseInsensitiveLess b c) : OrderedMap.same CaseInsensitiveLess a c := by
  have hsame (x y : List UInt8) : OrderedMap.same CaseInsensitiveLess x y ↔
      (cStr x).map tolower = (cStr y).map tolower := by
    rw [← strcasecmp_eq_iff]
    simp [OrderedMap.same, CaseInsensitiveLess]
  rw [hsame] at *
  exact hab.trans hbc

/-- `Trim` with the `delimit` that it has if none is given. -/
def trimBlanks (str : List UInt8) : List UInt8 := Trim str (ascii " \t\r\n")

/-- Inserting pairs into the parameters. -/
def insertParams (m : MapType) (inserted : List (List UInt8 × List UInt8)) : MapType :=
  m.insertAll CaseInsensitiveLess_trans inserted

/-- The loop of `PARSE_PARAM`, at the characters from `pos` on: the pairs that it inserts. -/
def PARSE_PARAM (flag : UInt8) (trim : List UInt8 → List UInt8) (str : List UInt8) :
    List (List UInt8 × List UInt8) :=
  match _h : str.dropWhile (· != 61) with
  | [] => []
  | _ :: value =>
    (trim (str.takeWhile (· != 61)), UrlDecode (value.takeWhile (· != flag)) true) ::
      match _h' : value.dropWhile (· != flag) with
      | [] => []
      | _ :: rest => PARSE_PARAM flag trim rest
termination_by str.length
decreasing_by
  have h₁ := (List.dropWhile_sublist (l := str) (· != 61)).length_le
  have h₂ := (List.dropWhile_sublist (l := value) (· != flag)).length_le
  rw [_h, List.length_cons] at h₁
  rw [_h', List.length_cons] at h₂
  omega

/-- `strcasestr(haystack.c_str(), needle) != nullptr`. -/
def strcasestr (haystack needle : List UInt8) : Bool :=
  ((cStr haystack).map tolower).tails.any fun t => (needle.map tolower).isPrefixOf t

namespace HttpRequest

def initQueryParam (r : HttpRequest) : HttpRequest × List (List UInt8 × List UInt8) :=
  if r.parserParamFlag &&& 1 ≠ 0 then (r, [])
  else
    let inserted := PARSE_PARAM 38 id r.query
    ({ r with params := insertParams r.params inserted, parserParamFlag := r.parserParamFlag ||| 1 }, inserted)

def initBodyParam (r : HttpRequest) : HttpRequest × List (List UInt8 × List UInt8) :=
  if r.parserParamFlag &&& 2 ≠ 0 then (r, [])
  else
    let content_type := r.getHeader (ascii "content-type")
    if !strcasestr content_type (ascii "application/x-www-form-urlencoded") then
      ({ r with parserParamFlag := r.parserParamFlag ||| 2 }, [])
    else
      let inserted := PARSE_PARAM 38 id r.body
      ({ r with params := insertParams r.params inserted, parserParamFlag := r.parserParamFlag ||| 2 },
        inserted)

def initCookies (r : HttpRequest) : HttpRequest × List (List UInt8 × List UInt8) :=
  if r.parserParamFlag &&& 4 ≠ 0 then (r, [])
  else
    let cookie := r.getHeader (ascii "cookie")
    if cookie.isEmpty then ({ r with parserParamFlag := r.parserParamFlag ||| 4 }, [])
    else
      let inserted := PARSE_PARAM 59 trimBlanks cookie
      ({ r with cookies := insertParams r.cookies inserted, parserParamFlag := r.parserParamFlag ||| 4 },
        inserted)

end HttpRequest

/-! ## Pieces -/

/-- The pair of a piece: what is before its first `=`, and what is after it. -/
def pairOf (trim : List UInt8 → List UInt8) (piece : List UInt8) : List UInt8 × List UInt8 :=
  (trim (piece.takeWhile (· != 61)), UrlDecode (piece.dropWhile (· != 61)).tail true)

/-- The pairs of the pieces that have a `=`. -/
def pairsOf (flag : UInt8) (trim : List UInt8 → List UInt8) (str : List UInt8) :
    List (List UInt8 × List UInt8) :=
  ((str.splitOn flag).filter (61 ∈ ·)).map (pairOf trim)

/-- No piece without `=` comes before one that has it. -/
def Orderly (flag : UInt8) (str : List UInt8) : Prop :=
  (str.splitOn flag).Pairwise fun p q => 61 ∈ q → 61 ∈ p

/-- A call inserts the pairs of the pieces, so that the map has its old entries and the first pair of
    each other key. -/
structure Splits (flag : UInt8) (trim : List UInt8 → List UInt8) (str : List UInt8) (before after : MapType)
    (inserted : List (List UInt8 × List UInt8)) : Prop where
  inserted_eq : inserted = pairsOf flag trim str
  find_eq : ∀ key, after.find key = (before.find key).or
    (((pairsOf flag trim str).find? fun x => OrderedMap.same CaseInsensitiveLess x.1 key).map Prod.snd)

/-- What the loop does, piece by piece: pieces without `=` are kept for the next key. -/
def scanPieces (flag : UInt8) (trim : List UInt8 → List UInt8) :
    List UInt8 → List (List UInt8) → List (List UInt8 × List UInt8)
  | _, [] => []
  | kept, p :: ps =>
    if 61 ∈ p then (trim (kept ++ p.takeWhile (· != 61)), (pairOf trim p).2) :: scanPieces flag trim [] ps
    else scanPieces flag trim (kept ++ p ++ [flag]) ps

section
variable {flag : UInt8} {trim : List UInt8 → List UInt8} {c : UInt8} {l r : List UInt8}
  {kept key value : List UInt8} {ps : List (List UInt8)}

theorem all_ne (h : c ∉ l) : ∀ x ∈ l, x != c := by
  intro x hx
  rw [bne_iff_ne]
  rintro rfl
  exact h hx

theorem takeWhile_ne (h : c ∉ l) : (l ++ c :: r).takeWhile (· != c) = l := by
  rw [List.takeWhile_append_of_pos (all_ne h), List.takeWhile_cons, if_neg (by simp), List.append_nil]

theorem dropWhile_ne (h : c ∉ l) : (l ++ c :: r).dropWhile (· != c) = c :: r := by
  rw [List.dropWhile_append_of_pos (all_ne h), List.dropWhile_cons, if_neg (by simp)]

theorem takeWhile_ne_self (h : c ∉ l) : l.takeWhile (· != c) = l := by
  have happend : (l ++ []).takeWhile (· != c) = l ++ [].takeWhile (· != c) :=
    List.takeWhile_append_of_pos (all_ne h)
  simpa using happend

theorem dropWhile_ne_self (h : c ∉ l) : l.dropWhile (· != c) = [] := by
  have happend : (l ++ []).dropWhile (· != c) = [].dropWhile (· != c) :=
    List.dropWhile_append_of_pos (all_ne h)
  simpa using happend

theorem pairOf_eq (hkey : 61 ∉ key) : pairOf trim (key ++ 61 :: value) = (trim key, UrlDecode value true) := by
  rw [pairOf, takeWhile_ne hkey, dropWhile_ne hkey, List.tail_cons]

/-! ## The loop -/

theorem parseParam_none (h : 61 ∉ l) : PARSE_PARAM flag trim l = [] := by
  rw [PARSE_PARAM]
  split
  · rfl
  · next heq =>
    rw [dropWhile_ne_self h] at heq
    cases heq

theorem parseParam_last (hkey : 61 ∉ key) (hvalue : flag ∉ value) :
    PARSE_PARAM flag trim (key ++ 61 :: value) = [(trim key, UrlDecode value true)] := by
  rw [PARSE_PARAM]
  split
  · next heq =>
    rw [dropWhile_ne hkey] at heq
    cases heq
  · next c value' heq =>
    rw [dropWhile_ne hkey] at heq
    obtain ⟨rfl, rfl⟩ := List.cons.inj heq
    rw [takeWhile_ne hkey, takeWhile_ne_self hvalue]
    split
    · rfl
    · next heq' =>
      rw [dropWhile_ne_self hvalue] at heq'
      cases heq'

theorem parseParam_next (hkey : 61 ∉ key) (hvalue : flag ∉ value) :
    PARSE_PARAM flag trim (key ++ 61 :: (value ++ flag :: r)) =
      (trim key, UrlDecode value true) :: PARSE_PARAM flag trim r := by
  rw [PARSE_PARAM]
  split
  · next heq =>
    rw [dropWhile_ne hkey] at heq
    cases heq
  · next c value' heq =>
    rw [dropWhile_ne hkey] at heq
    obtain ⟨rfl, rfl⟩ := List.cons.inj heq
    rw [takeWhile_ne hkey, takeWhile_ne hvalue]
    split
    · next heq' =>
      rw [dropWhile_ne hvalue] at heq'
      cases heq'
    · next heq' =>
      rw [dropWhile_ne hvalue] at heq'
      obtain ⟨rfl, rfl⟩ := List.cons.inj heq'
      rfl

/-- **The loop goes from `=` to `=`**, over the pieces without one. -/
theorem parseParam_pieces (hflag : flag ≠ 61) : ∀ (ps : List (List UInt8)) (kept : List UInt8), ps ≠ [] →
    (∀ p ∈ ps, flag ∉ p) → 61 ∉ kept →
    PARSE_PARAM flag trim (kept ++ [flag].intercalate ps) = scanPieces flag trim kept ps
  | [], _, h, _, _ => absurd rfl h
  | [p], kept, _, hps, hkept => by
    have hp : flag ∉ p := hps p (by simp)
    rw [List.intercalate_singleton, scanPieces, scanPieces, scanPieces]
    split_ifs with heq
    · obtain ⟨key, value, rfl, hkey⟩ := List.eq_append_cons_of_mem heq
      rw [pairOf_eq hkey, takeWhile_ne hkey, ← List.append_assoc]
      exact parseParam_last (by simp [hkept, hkey]) fun hv => hp (by simp [hv])
    · exact parseParam_none (by simp [hkept, heq])
  | p :: q :: ps, kept, _, hps, hkept => by
    have hp : flag ∉ p := hps p (by simp)
    have ih (kept) := parseParam_pieces hflag (q :: ps) kept (by simp) fun p hp => hps p (List.mem_cons_of_mem _ hp)
    rw [List.intercalate_cons_cons, scanPieces]
    split_ifs with heq
    · obtain ⟨key, value, rfl, hkey⟩ := List.eq_append_cons_of_mem heq
      have hnext : PARSE_PARAM flag trim (kept ++ key ++ 61 :: (value ++ flag :: [flag].intercalate (q :: ps))) =
          (trim (kept ++ key), UrlDecode value true) :: PARSE_PARAM flag trim ([flag].intercalate (q :: ps)) :=
        parseParam_next (by simp [hkept, hkey]) fun hv => hp (by simp [hv])
      rw [pairOf_eq hkey, takeWhile_ne hkey, ← ih [] (by simp), List.nil_append, ← hnext]
      simp
    · rw [← ih (kept ++ p ++ [flag]) (by simp [hkept, heq, Ne.symm hflag])]
      simp

theorem scanPieces_none : ∀ {kept : List UInt8} {ps : List (List UInt8)}, (∀ p ∈ ps, 61 ∉ p) →
    scanPieces flag trim kept ps = []
  | _, [], _ => rfl
  | kept, p :: ps, h => by
    rw [scanPieces, if_neg (h p (by simp))]
    exact scanPieces_none fun q hq => h q (List.mem_cons_of_mem _ hq)

/-- What is kept goes into the next key. -/
theorem scanPieces_kept (htrim : ∀ s, flag ∈ trim s ↔ flag ∈ s) : ∀ {kept : List UInt8}
    {ps : List (List UInt8)}, flag ∈ kept → (∃ p ∈ ps, 61 ∈ p) →
    ∃ x rest, scanPieces flag trim kept ps = x :: rest ∧ flag ∈ x.1
  | _, [], _, h => by simp at h
  | kept, p :: ps, hkept, ⟨q, hq, heq⟩ => by
    rw [scanPieces]
    split_ifs with hp
    · exact ⟨_, _, rfl, (htrim _).2 (List.mem_append_left _ hkept)⟩
    · rcases List.mem_cons.1 hq with rfl | hq
      · exact absurd heq hp
      · exact scanPieces_kept htrim (by simp) ⟨q, hq, heq⟩

theorem scanPieces_eq_iff (htrim : ∀ s, flag ∈ trim s ↔ flag ∈ s) : ∀ {ps : List (List UInt8)},
    (∀ p ∈ ps, flag ∉ p) → (scanPieces flag trim [] ps = (ps.filter (61 ∈ ·)).map (pairOf trim) ↔
      ps.Pairwise fun p q => 61 ∈ q → 61 ∈ p)
  | [], _ => by simp [scanPieces]
  | p :: ps, hps => by
    have hrest : ∀ q ∈ ps, flag ∉ q := fun q hq => hps q (List.mem_cons_of_mem _ hq)
    rw [scanPieces, List.pairwise_cons]
    split_ifs with hp
    · rw [List.filter_cons_of_pos (by simpa using hp), List.map_cons, List.nil_append]
      have ih := scanPieces_eq_iff htrim hrest
      rw [pairOf, List.cons_eq_cons, ih]
      simp [hp]
    · rw [List.filter_cons_of_neg (by simpa using hp)]
      constructor
      · intro heq
        have hnone : ∀ q ∈ ps, 61 ∉ q := by
          by_contra hcon
          push Not at hcon
          obtain ⟨x, rest, hx, hflag⟩ : ∃ x rest, scanPieces flag trim ([] ++ p ++ [flag]) ps = x :: rest ∧
              flag ∈ x.1 := scanPieces_kept htrim (by simp) hcon
          rw [hx] at heq
          have hmem : x ∈ (ps.filter (61 ∈ ·)).map (pairOf trim) := heq ▸ List.mem_cons_self
          obtain ⟨q, hq, rfl⟩ := List.mem_map.1 hmem
          have hflag' := (htrim _).1 hflag
          exact hrest q (List.mem_filter.1 hq).1 ((List.takeWhile_sublist _).subset hflag')
        exact ⟨fun q hq heq => absurd heq (hnone q hq),
          List.pairwise_of_forall_mem_list fun q _ q' hq' heq => absurd heq (hnone q' hq')⟩
      · rintro ⟨hnone, -⟩
        have hnone' : ∀ q ∈ ps, 61 ∉ q := fun q hq heq => hp (hnone q hq heq)
        rw [scanPieces_none hnone', List.filter_eq_nil_iff.2 fun q hq => by simpa using hnone' q hq]
        rfl

theorem not_mem_piece : ∀ {s p : List UInt8}, p ∈ s.splitOn c → c ∉ p
  | [], p, h => by
    rw [List.splitOn_nil, List.mem_singleton] at h
    rw [h]
    exact List.not_mem_nil
  | x :: s, p, h => by
    rw [List.splitOn_cons_eq_if_modifyHead] at h
    split_ifs at h with hx
    · rcases List.mem_cons.1 h with rfl | h
      · exact List.not_mem_nil
      · exact not_mem_piece h
    · obtain ⟨q, ps, hps⟩ := List.exists_cons_of_ne_nil (List.splitOn_ne_nil c s)
      rw [hps, List.modifyHead_cons] at h
      rcases List.mem_cons.1 h with rfl | h
      · rintro hc
        rcases List.mem_cons.1 hc with rfl | hc
        · exact hx (BEq.refl _)
        · exact not_mem_piece (hps ▸ List.mem_cons_self) hc
      · exact not_mem_piece (hps ▸ List.mem_cons_of_mem _ h)

/-- **A string is split into its pieces** iff no piece without `=` comes before one with it. -/
theorem parseParam_iff (hflag : flag ≠ 61) (htrim : ∀ s, flag ∈ trim s ↔ flag ∈ s) (str : List UInt8) :
    PARSE_PARAM flag trim str = pairsOf flag trim str ↔ Orderly flag str := by
  have hpieces : ∀ p ∈ str.splitOn flag, flag ∉ p := fun p hp => not_mem_piece hp
  have hloop : PARSE_PARAM flag trim str = scanPieces flag trim [] (str.splitOn flag) := by
    rw [← parseParam_pieces hflag _ _ (List.splitOn_ne_nil flag str) hpieces List.not_mem_nil,
      List.intercalate_splitOn, List.nil_append]
  rw [hloop, pairsOf, Orderly, scanPieces_eq_iff htrim hpieces]

theorem mem_dropWhile_of_neg {f : UInt8 → Bool} (hc : f c = false) : ∀ {s : List UInt8},
    c ∈ s.dropWhile f ↔ c ∈ s
  | [] => by simp
  | x :: s => by
    rw [List.dropWhile_cons]
    split_ifs with hx
    · rw [mem_dropWhile_of_neg hc, List.mem_cons, or_iff_right]
      rintro rfl
      rw [hc] at hx
      cases hx
    · rfl

/-- A `;` is not trimmed. -/
theorem mem_trimBlanks (s : List UInt8) : 59 ∈ trimBlanks s ↔ 59 ∈ s := by
  have hblank : (ascii " \t\r\n").contains 59 = false := by decide
  rw [trimBlanks, Trim, List.mem_reverse, mem_dropWhile_of_neg hblank, List.mem_reverse,
    mem_dropWhile_of_neg hblank]

theorem splits_iff (hflag : flag ≠ 61) (htrim : ∀ s, flag ∈ trim s ↔ flag ∈ s) (str : List UInt8) (m : MapType) :
    Splits flag trim str m (insertParams m (PARSE_PARAM flag trim str)) (PARSE_PARAM flag trim str) ↔
      Orderly flag str := by
  rw [← parseParam_iff hflag htrim]
  constructor
  · exact Splits.inserted_eq
  · intro heq
    refine ⟨heq, fun key => ?_⟩
    rw [heq, insertParams, OrderedMap.find_insertAll CaseInsensitiveLess_same]

end

/-- **Query, form and cookie strings** are split right by the call that parses them iff no piece of
    them without `=` comes before one with it. -/
theorem init_iff (r : HttpRequest) :
    (r.parserParamFlag &&& 1 = 0 →
      (Splits 38 id r.query r.params r.initQueryParam.1.params r.initQueryParam.2 ↔ Orderly 38 r.query)) ∧
    (r.parserParamFlag &&& 2 = 0 →
      strcasestr (r.getHeader (ascii "content-type")) (ascii "application/x-www-form-urlencoded") →
      (Splits 38 id r.body r.params r.initBodyParam.1.params r.initBodyParam.2 ↔ Orderly 38 r.body)) ∧
    (r.parserParamFlag &&& 4 = 0 →
      (Splits 59 trimBlanks (r.getHeader (ascii "cookie")) r.cookies r.initCookies.1.cookies r.initCookies.2 ↔
        Orderly 59 (r.getHeader (ascii "cookie")))) := by
  refine ⟨fun hflag => ?_, fun hflag hform => ?_, fun hflag => ?_⟩
  · rw [HttpRequest.initQueryParam, if_neg (by simpa using hflag)]
    exact splits_iff (by decide) (fun _ => Iff.rfl) r.query r.params
  · rw [HttpRequest.initBodyParam, if_neg (by simpa using hflag)]
    simp only [hform, Bool.not_true, Bool.false_eq_true, if_false]
    exact splits_iff (by decide) (fun _ => Iff.rfl) r.body r.params
  · rw [HttpRequest.initCookies, if_neg (by simpa using hflag)]
    have hsplits := splits_iff (by decide) mem_trimBlanks (r.getHeader (ascii "cookie")) r.cookies
    dsimp only
    split_ifs with hempty
    · rw [List.isEmpty_iff.1 hempty] at hsplits ⊢
      rwa [parseParam_none List.not_mem_nil] at hsplits
    · exact hsplits

/-- Several `=`, a key that comes again, and pieces without `=` at the end. -/
theorem init_query : Splits 38 id (ascii "a=1&b==2&a=3&&c") .empty
    (HttpRequest.initQueryParam { query := ascii "a=1&b==2&a=3&&c" }).1.params
    (HttpRequest.initQueryParam { query := ascii "a=1&b==2&a=3&&c" }).2 := by
  refine ((init_iff { query := ascii "a=1&b==2&a=3&&c" }).1 rfl).2 ?_
  unfold Orderly
  decide

/-- In `a&b=1` the key of the pair is `a&b`. -/
theorem not_init : ¬ ∀ r : HttpRequest, r.parserParamFlag &&& 1 = 0 →
    Splits 38 id r.query r.params r.initQueryParam.1.params r.initQueryParam.2 := by
  intro h
  have hsplits := (h { query := ascii "a&b=1" } rfl).inserted_eq
  have horder : Orderly 38 (ascii "a&b=1") := (parseParam_iff (by decide) (fun _ => Iff.rfl) _).1 hsplits
  revert horder
  unfold Orderly
  decide

end Ancfl.Http
