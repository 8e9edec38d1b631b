/-
  `Uri::Create` and the other functions of `Uri`.

  * `act`: the actions of the machine; one `mark` serves all of them;
  * `parse` is the loop of the machine from some position on, with what is
    done at the end of the string; `Create` is all of it;
  * `toString`, which leaves out the default port and puts in a path.
-/
import Ancfl.Http.Message
import Ancfl.Lib.Int32
import Ancfl.Uri.Table

namespace Ancfl

open Lib Http

/-- A null pointer where a string is read: `std::string` throws a `logic_error`, `atoi` crashes. -/
inductive NullString
  | null
deriving DecidableEq

structure Uri where
  scheme : List UInt8 := []
  userinfo : List UInt8 := []
  host : List UInt8 := []
  path : List UInt8 := []
  query : List UInt8 := []
  fragment : List UInt8 := []
  port : ℤ := 0
deriving DecidableEq

/-- An `int` is what is left of the `long` that `strtol` returns. -/
def atoi (s : List UInt8) : ℤ := toInt32 (strtol 10 s)

namespace UriParser

structure State where
  uri : Uri := {}
  mark : Option ℕ := none
deriving DecidableEq

section
variable (uristr : List UInt8)

/-- `std::string(mark, fpc - mark)` -/
def marked (m p : ℕ) : List UInt8 := (uristr.drop m).take (p - m)

/-- The actions that save what is marked, whether or not there is a mark. -/
def save (set : Uri → List UInt8 → Uri) (p : ℕ) (s : State) : Except NullString State :=
  match s.mark with
  | none => .error .null
  | some m => .ok ⟨set s.uri (marked uristr m p), none⟩

def act (a : Action) (p : ℕ) (s : State) : Except NullString State :=
  match a with
  | .marku | .markh => .ok { s with mark := some p }
  | .save_scheme => save uristr (fun uri v => { uri with scheme := v }) p s
  | .save_port =>
    if s.mark = some p then .ok { s with mark := none }
    else
      match s.mark with
      | none => .error .null
      | some m => .ok ⟨{ s.uri with port := atoi (uristr.drop m) }, none⟩
  | .save_userinfo =>
    match s.mark with
    | none => .ok s
    | some m => .ok ⟨{ s.uri with userinfo := marked uristr m p }, none⟩
  | .save_host =>
    match s.mark with
    | none => .ok s
    | some m => .ok { s with uri.host := marked uristr m p }
  | .save_path => save uristr (fun uri v => { uri with path := v }) p s
  | .save_query => save uristr (fun uri v => { uri with query := v }) p s
  | .save_fragment => save uristr (fun uri v => { uri with fragment := v }) p s

/-- What is returned once the machine has stopped. -/
def finish : Scan State → Except NullString (Option Uri)
  | .goesOn cs s =>
    match Scanner.perform (act uristr) uristr.length (eofActions cs) s with
    | .error e => .error e
    | .ok s => .ok (if cs = error then none else if first_final ≤ cs then some s.uri else none)
  | .stops _ _ _ | .fails _ _ => .ok none

/-- The machine on the characters from position `p` on, and what is returned then. -/
def parse (w : List UInt8) (p cs : ℕ) (s : State) : Except NullString (Option Uri) :=
  match machine.scan (act uristr) w p cs s with
  | .error e => .error e
  | .ok r => finish uristr r

end
end UriParser

namespace Uri

open UriParser

/-- `none` is `nullptr`. -/
def Create (uristr : List UInt8) : Except NullString (Option Uri) := parse uristr uristr 0 start {}

def isDefaultPort (uri : Uri) : Bool :=
  if uri.port = 0 then true
  else if uri.scheme = ascii "http" ∨ uri.scheme = ascii "ws" then uri.port = 80
  else if uri.scheme = ascii "https" ∨ uri.scheme = ascii "wss" then uri.port = 443
  else false

def getPath (uri : Uri) : List UInt8 := if uri.path = [] then ascii "/" else uri.path

def getPort (uri : Uri) : ℤ :=
  if uri.port ≠ 0 then uri.port
  else if uri.scheme = ascii "http" ∨ uri.scheme = ascii "ws" then 80
  else if uri.scheme = ascii "https" ∨ uri.scheme = ascii "wss" then 443
  else uri.port

def toString (uri : Uri) : List UInt8 :=
  uri.scheme ++ ascii "://" ++
    uri.userinfo ++ (if uri.userinfo = [] then [] else ascii "@") ++
    uri.host ++
    (if uri.isDefaultPort then [] else ascii ":" ++ ascii (ToString.toString uri.port)) ++
    uri.getPath ++
    (if uri.query = [] then [] else ascii "?") ++ uri.query ++
    (if uri.fragment = [] then [] else ascii "#") ++ uri.fragment

end Uri

end Ancfl
