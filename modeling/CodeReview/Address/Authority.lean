import CodeReview.Address.Host

/-!
# Authorities

The part of an address behind `//` names the host, perhaps with a user before it and a port behind
it.  In an address for the web there has to be a host (`authority?`).  The addresses of other
schemes are not taken apart, but what stands there has to make sense all the same: `isSoundFile` for
files and `isSoundElsewhere` for all schemes whose hosts mean nothing to a browser.
-/

set_option autoImplicit false

namespace CodeReview.Address

/-- The character ends the authority; in addresses for the web a backslash does as well. -/
def endsAuthority (web : Bool) (c : Char) : Bool :=
  c == '/' || c == '?' || c == '#' || (web && c == '\\')

/-! ## User, host and port -/

/-- The text before the last `@`, if there is one, and the text behind it. -/
def splitUser (authority : List Char) : Option (List Char) × List Char :=
  let behind := (authority.reverse.takeWhile (· != '@')).reverse
  if behind.length = authority.length then (none, authority)
  else (some (authority.take (authority.length - behind.length - 1)), behind)

/-- User name and password: a colon and a password, if one is there, behind the name. -/
def userText (cs : List Char) : Option String :=
  let name := encode userReserved (cs.takeWhile (· != ':'))
  let word := encode userReserved ((cs.dropWhile (· != ':')).drop 1)
  if name.isEmpty && word.isEmpty then none
  else some (String.ofList (name ++ if word.isEmpty then [] else ':' :: word))

/-- The host, up to a colon outside brackets, and what stands behind it. -/
def splitHost : (bracketed : Bool) → List Char → List Char × List Char
  | _, [] => ([], [])
  | bracketed, c :: cs =>
    if c = ':' ∧ bracketed = false then ([], c :: cs)
    else
      let inside := c = '[' || (bracketed && c != ']')
      let (host, rest) := splitHost inside cs
      (c :: host, rest)

/-- The port behind a host: a number below 2^16, or nothing behind the colon. -/
def port? : List Char → Option (Option Nat)
  | [] => some none
  | _ :: [] => some none
  | _ :: ds =>
    if ds.all Char.isDigit then
      ((number? 10 ds).filter (· < 65536)).map some
    else none

/-- The parts of an authority of the web: user, host and port. -/
def authority? (cs : List Char) : Option (Option String × String × Option Nat) := do
  let (user, cs) := splitUser cs
  let (host, rest) := splitHost false cs
  let port ← port? rest
  some (user.bind userText, ← host? host, port)

/-! ## Other schemes -/

/-- The host is taken as it stands, if it stands for something. -/
def isSoundHost : List Char → Bool
  | '[' :: cs => (bracketedHost? cs).isSome
  | cs => !cs.any fun c =>
    [' ', '\t', '\n', '\r', '\x00'].contains c || (c != '%' && forbiddenInNames.contains c)

/-- The address makes sense from behind `//` on, for a scheme whose hosts mean nothing.  Where a
user is named a host has to be, and a path does not follow an `@` alone. -/
def isSoundElsewhere (cs : List Char) : Bool :=
  let authority := cs.takeWhile fun c => !endsAuthority false c
  let (user, behind) := splitUser authority
  let (host, rest) := splitHost false behind
  let atEnd := authority.length == cs.length
  let mayLackHost := match user with
    | none => true
    | some [] => atEnd
    | some user => user == [':']
  isSoundHost host && (port? (rest.takeWhile (· != '\\'))).isSome
    && (!host.isEmpty || (rest.isEmpty && mayLackHost))

/-- A letter and a colon, as some systems name their disks. -/
def isDrive : List Char → Bool
  | [c, d] => c.isAlpha && (d == ':' || d == '|')
  | _ => false

/-- The address of a file makes sense from behind `//` on. -/
def isSoundFile (cs : List Char) : Bool :=
  let host := cs.takeWhile fun c => !endsAuthority true c
  host.isEmpty || isDrive host || (host? host).isSome

/-- The address makes sense behind the colon of such a scheme. -/
def isSound (scheme : String) (cs : List Char) : Bool :=
  let slashes := cs.take 2
  if scheme = "file" then
    !(slashes.length == 2 && slashes.all fun c => c == '/' || c == '\\') || isSoundFile (cs.drop 2)
  else slashes != ['/', '/'] || isSoundElsewhere (cs.drop 2)

end CodeReview.Address
