/-
  The productions of the grammar of the machine `uri_parser`.

  The names are those of the grammar. An alternative is a sum, a sequence a
  product, `opt` is `?` and `some1` is `+`.
-/
import Mathlib.Computability.RegularExpressions

namespace Ancfl.UriParser

/-- Regular expressions over bytes. -/
abbrev Regex := RegularExpression UInt8

/-! ## Operators -/

def byte (c : Char) : Regex := .char (UInt8.ofNat c.toNat)

/-- One of the bytes from `a` to `b`. -/
def range (a b : ℕ) : Regex :=
  (List.range' a (b + 1 - a)).foldr (fun n r => .char (UInt8.ofNat n) + r) 0

/-- One of the characters. -/
def oneOf (s : List Char) : Regex := s.foldr (fun c r => byte c + r) 0

def opt (r : Regex) : Regex := 1 + r

def some1 (r : Regex) : Regex := r * r.star

/-- At most `n` times. -/
def upTo (r : Regex) : ℕ → Regex
  | 0 => 1
  | n + 1 => opt (r * upTo r n)

/-! ## Characters -/

def digit : Regex := range 48 57

def alpha : Regex := range 65 90 + range 97 122

def xdigit : Regex := digit + range 65 70 + range 97 102

def sub_delims : Regex := oneOf ['!', '$', '&', '\'', '(', ')', '*', '+', ',', ';', '=']

/-- `unreserved` without the digits -/
def unreserved_nd : Regex := alpha + oneOf ['-', '.', '_', '~']

def unreserved : Regex := digit + unreserved_nd

def pct_encoded : Regex := byte '%' * xdigit * xdigit

/-! ## Authority -/

def scheme : Regex := alpha * (alpha + digit + oneOf ['+', '-', '.']).star

def userinfo : Regex := (unreserved + pct_encoded + sub_delims + byte ':').star

/-- The `2` of the third alternative from the right stands without quotes in the grammar, which makes
    it the byte with this number. -/
def dec_octet : Regex :=
  digit + range 49 57 * digit + byte '1' * digit ^ 2 + .char 2 * range 48 52 * digit +
    byte '2' * byte '5' * range 48 53

def IPv4address : Regex :=
  dec_octet * byte '.' * dec_octet * byte '.' * dec_octet * byte '.' * dec_octet

def h16 : Regex := xdigit * upTo xdigit 3

def ls32 : Regex := h16 * byte ':' * h16 + IPv4address

/-- `(h16 ":"){n}` -/
def groups (n : ℕ) : Regex := (h16 * byte ':') ^ n

/-- `"::"` after `n + 1` groups or none -/
def elided (n : ℕ) : Regex := opt (groups n * h16) * byte ':' * byte ':'

def IPv6address : Regex :=
  groups 6 * ls32 +
  byte ':' * byte ':' * groups 5 * ls32 +
  elided 0 * groups 4 * ls32 +
  elided 1 * groups 3 * ls32 +
  elided 2 * groups 2 * ls32 +
  elided 3 * groups 1 * ls32 +
  elided 4 * ls32 +
  elided 5 * h16 +
  elided 6

def IPvFuture : Regex :=
  byte 'v' * some1 xdigit * byte '.' * some1 (unreserved + sub_delims + byte ':')

def IP_literal : Regex := byte '[' * (IPv6address + IPvFuture) * byte ']'

def reg_name : Regex := (unreserved + pct_encoded + sub_delims).star

def host : Regex := IP_literal + IPv4address + reg_name

def port : Regex := digit.star

/-! ## Path, query and fragment -/

/-- With the bytes that are not ASCII. -/
def pchar : Regex := range 128 255 + unreserved + pct_encoded + sub_delims + byte ':' + byte '@'

def segment : Regex := pchar.star

def path_abempty : Regex := opt (byte '/' * segment) * (byte '/' * segment).star

def query : Regex := (pchar + byte '/' + byte '?').star

def fragment : Regex := (pchar + byte '/' + byte '?').star

end Ancfl.UriParser
