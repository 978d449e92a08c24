import CodeReview.Address.Authority
import CodeReview.Text.Blank
import CodeReview.Text.Search

/-!
# Addresses of the web

The address of a service is read as browsers read it, who forgive a lot, and is kept in one normal
form: blanks around it go, the scheme and the host are in lower case, a port that goes without
saying is left out, dot segments of the path are resolved, and characters that may not stand where
they do are percent-encoded.  Only the schemes `http` and `https` are wanted.
-/

set_option autoImplicit false

namespace CodeReview

/-- An address for the web; every part is in its normal form. -/
structure Address where
  scheme : String
  user : Option String
  host : String
  port : Option Nat
  path : List String
  query : Option String
  fragment : Option String
  deriving Repr, DecidableEq, Inhabited

namespace Address

open CodeReview.Text

/-- The text of an address. -/
def text (a : Address) : String :=
  a.scheme ++ "://" ++ a.user.elim "" (· ++ "@") ++ a.host
    ++ a.port.elim "" (fun n => ":" ++ toString n)
    ++ "/" ++ String.intercalate "/" a.path
    ++ a.query.elim "" ("?" ++ ·) ++ a.fragment.elim "" ("#" ++ ·)

/-- Why a text is no address. -/
inductive Flaw where
  | tooLong
  | malformed
  | unwantedScheme
  deriving Repr, DecidableEq, Inhabited

/-! ## The scheme -/

/-- The text without blanks and control characters around it and without line ends and tabs. -/
def clean (s : String) : List Char :=
  (trimBy (fun c => c.toNat ≤ 0x20) s.toList).filter fun c => c != '\t' && c != '\n' && c != '\r'

/-- A character of a scheme behind its first. -/
def isSchemeChar (c : Char) : Bool := c.isAlphanum || c == '+' || c == '-' || c == '.'

/-- The scheme in lower case, and what stands behind the colon. -/
def scheme? (cs : List Char) : Option (String × List Char) :=
  match cs.dropWhile isSchemeChar with
  | ':' :: rest =>
    let scheme := cs.takeWhile isSchemeChar
    if scheme.head?.any Char.isAlpha then some (String.ofList (scheme.map Char.toLower), rest)
    else none
  | _ => none

/-- The port that goes without saying, for schemes whose addresses always have a host. -/
def hostSchemes : List (String × Nat) :=
  [("http", 80), ("https", 443), ("ws", 80), ("wss", 443), ("ftp", 21)]

/-! ## Path, query and fragment -/

/-- The segment stands for the directory itself. -/
def isHere (s : List Char) : Bool := [".", "%2e"].contains (String.ofList (s.map Char.toLower))

/-- The segment stands for the directory around it. -/
def isParent (s : List Char) : Bool :=
  ["..", ".%2e", "%2e.", "%2e%2e"].contains (String.ofList (s.map Char.toLower))

/-- The segments of a path, dots resolved; `taken` holds the segments so far, the last one first. -/
def segments (taken : List (List Char)) : List (List Char) → List (List Char)
  | [] => taken.reverse
  | [s] =>
    if isParent s then ([] :: taken.tail).reverse
    else if isHere s then ([] :: taken).reverse
    else (s :: taken).reverse
  | s :: ss =>
    if isParent s then segments taken.tail ss
    else if isHere s then segments taken ss
    else segments (s :: taken) ss

/-- The path behind a host. -/
def pathOf (cs : List Char) : List String :=
  let cs := (cs.takeWhile fun c => c != '?' && c != '#').map fun c => if c = '\\' then '/' else c
  let cs := match cs with
    | '/' :: r => r
    | r => r
  ((segments [] (cs.splitOn '/')).map fun s => String.ofList (encode pathReserved s))

/-- The query behind a path. -/
def queryOf (cs : List Char) : Option String :=
  match (cs.takeWhile (· != '#')).dropWhile (· != '?') with
  | _ :: q => some (String.ofList (encode queryReserved q))
  | [] => none

/-- The fragment at the end. -/
def fragmentOf (cs : List Char) : Option String :=
  match cs.dropWhile (· != '#') with
  | _ :: f => some (String.ofList (encode fragmentReserved f))
  | [] => none

/-! ## Addresses -/

/-- An address whose scheme asks for a host, from behind the colon. -/
def withHost? (scheme : String) (defaultPort : Nat) (cs : List Char) : Option Address := do
  let cs := cs.dropWhile fun c => c == '/' || c == '\\'
  let (user, host, port) ← authority? (cs.takeWhile fun c => !endsAuthority true c)
  let rest := cs.dropWhile fun c => !endsAuthority true c
  some
    { scheme, user, host
      port := port.filter (· ≠ defaultPort)
      path := pathOf rest
      query := queryOf rest
      fragment := fragmentOf rest }

/-- The longest address, in bytes. -/
def maxBytes : Nat := 2083

/-- The address that a text stands for. -/
def parse (s : String) : Except Flaw Address :=
  if maxBytes < s.utf8ByteSize then .error .tooLong
  else match scheme? (clean s) with
    | none => .error .malformed
    | some (scheme, rest) =>
      match hostSchemes.lookup scheme with
      | none => .error (if isSound scheme rest then .unwantedScheme else .malformed)
      | some port =>
        match withHost? scheme port rest with
        | none => .error .malformed
        | some a =>
          if scheme = "http" || scheme = "https" then .ok a else .error .unwantedScheme

/-- Where the chat interface of a service is: its address ends in `/v1`, which is added if need
be. -/
def chatBase (url : String) : String :=
  let base := String.ofList (dropEndWhile (· == '/') url.toList)
  if endsWith "/v1".toList base.toList then base else base ++ "/v1"

end Address
end CodeReview
