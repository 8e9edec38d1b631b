/-
  HTTP messages.

  * C strings: `cStr`, `strcasecmp`, `strncmp`, `strtol`;
  * `HttpMethod` with `CharsToHttpMethod`, which compares the names of the
    methods with the first characters of a buffer;
  * `MapType`: the headers, in the order of `CaseInsensitiveLess`;
  * `HttpRequest` and `HttpResponse`.
-/
import Ancfl.Lib.Int32
import Ancfl.Lib.OrderedMap

namespace Ancfl.Http

open Lib

/-- The characters of a string literal. -/
def ascii (s : String) : List UInt8 := s.toList.map fun c => UInt8.ofNat c.toNat

/-! ## C strings -/

/-- The characters before the first NUL. -/
def cStr (s : List UInt8) : List UInt8 := s.takeWhile fun c => c != 0

def tolower (c : UInt8) : UInt8 := if 65 ≤ c ∧ c ≤ 90 then c + 32 else c

/-- `strcasecmp` on the characters before the NUL. -/
def strcasecmp : List UInt8 → List UInt8 → Ordering
  | [], [] => .eq
  | [], _ :: _ => .lt
  | _ :: _, [] => .gt
  | a :: s, b :: t =>
    if tolower a < tolower b then .lt
    else if tolower b < tolower a then .gt
    else strcasecmp s t

/-- `strncmp(s, m, n) == 0`. -/
def strncmpEq : ℕ → List UInt8 → List UInt8 → Bool
  | 0, _, _ => true
  | _ + 1, [], [] => true
  | _ + 1, [], b :: _ => b == 0
  | _ + 1, a :: _, [] => a == 0
  | n + 1, a :: s, b :: t => a == b && (a == 0 || strncmpEq n s t)

def isspace (c : UInt8) : Bool := c == 32 || (9 ≤ c && c ≤ 13)

/-- The value of a digit in a base up to 16. -/
def digitVal (base : ℕ) (c : UInt8) : Option ℕ :=
  let v :=
    if 48 ≤ c ∧ c ≤ 57 then c.toNat - 48
    else if 65 ≤ c ∧ c ≤ 70 then c.toNat - 55
    else if 97 ≤ c ∧ c ≤ 102 then c.toNat - 87
    else base
  if v < base then some v else none

/-- The number whose digits come first in the string. -/
def digits (base : ℕ) : List UInt8 → ℕ → ℕ
  | [], v => v
  | c :: s, v =>
    match digitVal base c with
    | none => v
    | some d => digits base s (v * base + d)

/-- The digits of `strtol`, after an optional prefix `0x` in base 16. -/
def unsignedVal (base : ℕ) : List UInt8 → ℕ
  | 48 :: x :: c :: s =>
    if base = 16 ∧ tolower x = 120 ∧ (digitVal 16 c).isSome then digits 16 (c :: s) 0
    else digits base (48 :: x :: c :: s) 0
  | s => digits base s 0

/-- `strtol(s, NULL, base)` for the bases 10 and 16; a `long` that is out of range is the nearest. -/
def strtol (base : ℕ) (s : List UInt8) : ℤ :=
  match s.dropWhile isspace with
  | 43 :: s => min (unsignedVal base s) (2 ^ 63 - 1)
  | 45 :: s => max (-(unsignedVal base s)) (-(2 ^ 63))
  | s => min (unsignedVal base s) (2 ^ 63 - 1)

/-! ## Methods -/

inductive HttpMethod where
  | DELETE | GET | HEAD | POST | PUT | CONNECT | OPTIONS | TRACE | COPY | LOCK | MKCOL | MOVE
  | PROPFIND | PROPPATCH | SEARCH | UNLOCK | BIND | REBIND | UNBIND | ACL | REPORT | MKACTIVITY
  | CHECKOUT | MERGE | MSEARCH | NOTIFY | SUBSCRIBE | UNSUBSCRIBE | PATCH | PURGE | MKCALENDAR
  | LINK | UNLINK | SOURCE | INVALID_METHOD
deriving DecidableEq

/-- The methods and their names, in the order of `HTTP_METHOD_MAP`. -/
def HTTP_METHOD_MAP : List (HttpMethod × List UInt8) := [
  (.DELETE, ascii "DELETE"), (.GET, ascii "GET"), (.HEAD, ascii "HEAD"), (.POST, ascii "POST"),
  (.PUT, ascii "PUT"), (.CONNECT, ascii "CONNECT"), (.OPTIONS, ascii "OPTIONS"),
  (.TRACE, ascii "TRACE"), (.COPY, ascii "COPY"), (.LOCK, ascii "LOCK"), (.MKCOL, ascii "MKCOL"),
  (.MOVE, ascii "MOVE"), (.PROPFIND, ascii "PROPFIND"), (.PROPPATCH, ascii "PROPPATCH"),
  (.SEARCH, ascii "SEARCH"), (.UNLOCK, ascii "UNLOCK"), (.BIND, ascii "BIND"),
  (.REBIND, ascii "REBIND"), (.UNBIND, ascii "UNBIND"), (.ACL, ascii "ACL"),
  (.REPORT, ascii "REPORT"), (.MKACTIVITY, ascii "MKACTIVITY"), (.CHECKOUT, ascii "CHECKOUT"),
  (.MERGE, ascii "MERGE"), (.MSEARCH, ascii "M - SEARCH"), (.NOTIFY, ascii "NOTIFY"),
  (.SUBSCRIBE, ascii "SUBSCRIBE"), (.UNSUBSCRIBE, ascii "UNSUBSCRIBE"), (.PATCH, ascii "PATCH"),
  (.PURGE, ascii "PURGE"), (.MKCALENDAR, ascii "MKCALENDAR"), (.LINK, ascii "LINK"),
  (.UNLINK, ascii "UNLINK"), (.SOURCE, ascii "SOURCE")]

/-- The first method whose name the characters begin with. -/
def CharsToHttpMethod (m : List UInt8) : HttpMethod :=
  ((HTTP_METHOD_MAP.find? fun x => strncmpEq x.2.length x.2 m).map Prod.fst).getD .INVALID_METHOD

/-! ## Headers -/

def CaseInsensitiveLess (lhs rhs : List UInt8) : Bool := strcasecmp (cStr lhs) (cStr rhs) == .lt

theorem strcasecmp_trans : ∀ {a b c : List UInt8}, strcasecmp a b = .lt → strcasecmp b c = .lt →
    strcasecmp a c = .lt
  | [], [], _, h, _ => by cases h
  | [], _ :: _, [], _, h => by cases h
  | [], _ :: _, _ :: _, _, _ => rfl
  | _ :: _, [], _, h, _ => by cases h
  | _ :: _, _ :: _, [], _, h => by cases h
  | a :: s, b :: t, c :: u, hab, hbc => by
    rw [strcasecmp] at hab hbc ⊢
    simp only [UInt8.lt_iff_toNat_lt] at hab hbc ⊢
    split_ifs at hab hbc ⊢ with h₁ h₂ h₃ h₄ h₅ h₆
    all_goals first | rfl | (exfalso; omega) | skip
    exact strcasecmp_trans hab hbc

theorem CaseInsensitiveLess_trans (a b c : List UInt8) (hab : CaseInsensitiveLess a b)
    (hbc : CaseInsensitiveLess b c) : CaseInsensitiveLess a c :=
  beq_iff_eq.2 (strcasecmp_trans (beq_iff_eq.1 hab) (beq_iff_eq.1 hbc))

/-- Strings with values, their names compared without case. -/
abbrev MapType := OrderedMap (List UInt8) (List UInt8) CaseInsensitiveLess

/-! ## Requests -/

structure HttpRequest where
  method : HttpMethod := .GET
  version : UInt8 := 0x11
  close : Bool := true
  websocket : Bool := false
  parserParamFlag : UInt8 := 0
  path : List UInt8 := ascii "/"
  query : List UInt8 := []
  fragment : List UInt8 := []
  body : List UInt8 := []
  headers : MapType := .empty
  params : MapType := .empty
  cookies : MapType := .empty
deriving DecidableEq

namespace HttpRequest

def setHeader (r : HttpRequest) (key val : List UInt8) : HttpRequest :=
  { r with headers := r.headers.set CaseInsensitiveLess_trans key val }

def getHeader (r : HttpRequest) (key : List UInt8) : List UInt8 := (r.headers.find key).getD []

end HttpRequest

/-! ## Responses -/

structure HttpResponse where
  /-- an `HttpStatus`, which is an `int` -/
  status : ℤ := 200
  version : UInt8 := 0x11
  close : Bool := true
  websocket : Bool := false
  body : List UInt8 := []
  reason : List UInt8 := []
  headers : MapType := .empty
  cookies : List (List UInt8) := []
deriving DecidableEq

namespace HttpResponse

def setHeader (r : HttpResponse) (key val : List UInt8) : HttpResponse :=
  { r with headers := r.headers.set CaseInsensitiveLess_trans key val }

def getHeader (r : HttpResponse) (key : List UInt8) : List UInt8 := (r.headers.find key).getD []

end HttpResponse

/-- `getHeaderAs<uint64_t>(key, 0)`; `lexical_cast` is `boost::lexical_cast<uint64_t>`, `none` where
    it throws. -/
def getHeaderAs (lexical_cast : List UInt8 → Option UInt64) (headers : MapType) (key : List UInt8) :
    UInt64 :=
  ((headers.find key).bind lexical_cast).getD 0

end Ancfl.Http
