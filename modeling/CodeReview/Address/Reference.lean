import CodeReview.Address.Basic
import CodeReview.Address.Registry
import CodeReview.Number.Numeral
import CodeReview.Text.Encoding

/-!
# References

A client splits the text that it is given into scheme, authority, path, query and fragment wherever
the signs between them stand (`Parts.ofText`), and each part may be absent.  What is sent has every
part in its own normal form (`Reference.ofParts`): the scheme in lower case, the host as it is
registered, a port only where it does not go without saying, no dot segments, and characters that
may not stand where they do percent-encoded.

Unlike an address, a reference may have no host, and then only leads somewhere from another
(`Reference.resolved`).  Where it leads, a host has to be one that can be asked
(`Reference.checkHost`).
-/

set_option autoImplicit false

namespace CodeReview

/-- A reference; every part is in its normal form. -/
structure Reference where
  scheme : String
  user : String
  host : String
  port : Option Int
  path : String
  query : Option String
  fragment : Option String
  deriving Repr, DecidableEq, Inhabited

namespace Reference

open CodeReview.Text (cutAt)
open CodeReview.Address (Reserved)

/-- Why a text is no reference. -/
inductive Flaw where
  | tooLong
  /-- this part is too long -/
  | partTooLong (part : String)
  /-- this control character stands at this position -/
  | control (c : Char) (position : Nat)
  | ipv4 (host : String)
  | ipv6 (host : String)
  | name (host : String)
  | port (text : String)
  /-- a path behind an authority starts with no slash -/
  | pathWithoutSlash
  /-- a path without an authority starts with two slashes -/
  | pathOfSlashes
  /-- a path without a scheme starts with a colon -/
  | pathOfColon
  deriving Repr, DecidableEq, Inhabited

/-- The wording. -/
def Flaw.message : Flaw → String
  | tooLong => "URL too long"
  | partTooLong part => s!"URL component '{part}' too long"
  | control c position =>
    "Invalid non-printable ASCII character in URL, " ++ Text.quoted (String.singleton c)
      ++ s!" at position {position}."
  | ipv4 host => "Invalid IPv4 address: " ++ Text.quoted host
  | ipv6 host => "Invalid IPv6 address: " ++ Text.quoted host
  | name host => "Invalid IDNA hostname: " ++ Text.quoted host
  | port text => "Invalid port: " ++ Text.quoted text
  | pathWithoutSlash => "For absolute URLs, path must be empty or begin with '/'"
  | pathOfSlashes => "Relative URLs cannot have a path starting with '//'"
  | pathOfColon => "Relative URLs cannot have a path starting with ':'"

/-! ## Parts -/

/-- The parts of a text, as they are written. -/
structure Parts where
  scheme : List Char
  authority : List Char
  path : List Char
  query : Option (List Char)
  fragment : Option (List Char)
  deriving Repr, DecidableEq, Inhabited

namespace Parts

/-- The scheme, and what stands behind the colon; a text with no scheme may start with a colon. -/
def splitScheme (cs : List Char) : List Char × List Char :=
  let scheme := cs.takeWhile Address.isSchemeChar
  match cs.dropWhile Address.isSchemeChar with
  | ':' :: rest => if scheme.head?.all Char.isAlpha then (scheme, rest) else ([], cs)
  | _ => ([], cs)

/-- The authority behind two slashes, and what stands behind it. -/
def splitAuthority : List Char → List Char × List Char
  | '/' :: '/' :: cs =>
    (cs.takeWhile fun c => !Address.endsAuthority false c,
      cs.dropWhile fun c => !Address.endsAuthority false c)
  | cs => ([], cs)

/-- The parts of a text. -/
def ofText (cs : List Char) : Parts :=
  let (scheme, cs) := splitScheme cs
  let (authority, cs) := splitAuthority cs
  let (cs, fragment) := cutAt '#' cs
  let (path, query) := cutAt '?' cs
  ⟨scheme, authority, path, query, fragment⟩

/-- The parts and their names. -/
def named (p : Parts) : List (String × List Char) :=
  [("scheme", p.scheme), ("authority", p.authority), ("path", p.path),
    ("query", p.query.getD []), ("fragment", p.fragment.getD [])]

end Parts

/-! ## Normal forms -/

/-- The longest reference and the longest part. -/
def maxLength : Nat := 65536

/-- What is encoded in a user name and a password with a colon between. -/
def userReserved : Reserved := Address.userReserved.filter (· != ':')

/-- What is encoded in a query. -/
def queryReserved : Reserved := Address.queryReserved.filter (· != '\'')

/-- What is encoded in a host. -/
def hostReserved : Reserved := [' ', '#', '/', ':', '<', '>', '?', '@', '[', ']', '^']

/-- A part with the characters encoded that may not stand there. -/
def encoded (reserved : Reserved) (cs : List Char) : String :=
  String.ofList (Address.encode reserved cs)

/-! ## Hosts -/

/-- The text is four numbers with a point between each two. -/
def isFourNumbers (cs : List Char) : Bool :=
  let parts := cs.splitOn '.'
  parts.length == 4 && parts.all fun p => !p.isEmpty && p.all Char.isDigit

/-- The text is an IPv4 address in four plain parts. -/
def isIpv4 (cs : List Char) : Bool :=
  let parts := cs.splitOn '.'
  parts.length == 4 && parts.all fun p => (Address.plainByte? p).isSome

/-- The text is an IPv6 address, perhaps with a zone behind a percent sign. -/
def isIpv6 (cs : List Char) : Bool :=
  let (address, zone) := cutAt '%' cs
  (Address.ipv6? address).isSome
    && zone.all fun z => !z.isEmpty && !z.contains '%' && !z.contains '/'

/-- The host in the form in which it is looked up; brackets go. -/
def hostOf (cs : List Char) : Except Flaw String :=
  let text := String.ofList cs
  if cs.isEmpty then .ok ""
  else if isFourNumbers cs then if isIpv4 cs then .ok text else .error (.ipv4 text)
  else if 1 < cs.length && cs.head? == some '[' && cs.getLast? == some ']' then
    let inside := cs.tail.dropLast
    if isIpv6 inside then .ok (String.ofList inside) else .error (.ipv6 text)
  else if Address.isAscii cs then .ok (encoded hostReserved (cs.map Char.toLower))
  else
    match Address.Registry.encode (Text.lower cs) with
    | .ok name => .ok (String.ofList name)
    | .error _ => .error (.name text)

/-! ## Authority and path -/

/-- The port; one that goes without saying is none. -/
def portOf (scheme : String) (cs : List Char) : Except Flaw (Option Int) :=
  let text := String.ofList cs
  if cs.isEmpty then .ok none
  else
    match Numeral.readInt? text with
    | none => .error (.port text)
    | some n =>
      .ok (if (Address.hostSchemes.lookup scheme).any fun (m : Nat) => n == m then none else some n)

/-- The end of the last bracketed part, if the text starts with a bracket. -/
def splitBracketed? (cs : List Char) : Option (List Char × List Char) :=
  let behind := cs.reverse.takeWhile (· != ']')
  let count := cs.length - behind.length
  if cs.head? == some '[' && 0 < count then some (cs.take count, behind.reverse) else none

/-- Host and port as they are written, from behind the user on. -/
def splitPort (cs : List Char) : List Char × List Char :=
  let (host, rest) := (splitBracketed? cs).getD
    (cs.takeWhile (· != ':'), cs.dropWhile (· != ':'))
  (host, if rest.head? == some ':' then rest.tail else rest)

/-- The segments of a path without those that stand for a directory or the one around it. -/
def withoutDots (segments : List (List Char)) : List (List Char) :=
  (segments.foldl (fun (taken : List (List Char)) s =>
    if s = ['.'] then taken
    else if s = ['.', '.'] then if taken = [[]] then taken else taken.tail
    else s :: taken) []).reverse

/-- A path without dot segments. -/
def plainPath (cs : List Char) : List Char :=
  let segments := cs.splitOn '/'
  if segments.contains ['.'] || segments.contains ['.', '.'] then
    ['/'].intercalate (withoutDots segments)
  else cs

example : plainPath "/a/./b/../c".toList = "/a/c".toList := by decide +kernel
example : isFourNumbers "1.2.3.400".toList = true := by decide +kernel
example : isFourNumbers "1.2.3".toList = false := by decide +kernel

/-- A path may start like this behind what is before it. -/
def checkPath (hasScheme hasAuthority : Bool) (path : List Char) : Except Flaw Unit :=
  if hasAuthority then
    if path.isEmpty || path.head? == some '/' then .ok () else .error .pathWithoutSlash
  else if hasScheme then .ok ()
  else if path.take 2 == ['/', '/'] then .error .pathOfSlashes
  else if path.head? == some ':' then .error .pathOfColon
  else .ok ()

/-! ## References -/

/-- The reference that parts make. -/
def ofParts (p : Parts) : Except Flaw Reference := do
  let (user, rest) := Address.splitUser p.authority
  let (host, port) := splitPort rest
  let user := encoded userReserved (user.getD [])
  let host ← hostOf host
  let port ← portOf (String.ofList p.scheme) port
  let hasScheme := !p.scheme.isEmpty
  let hasAuthority := user != "" || host != "" || port.isSome
  checkPath hasScheme hasAuthority p.path
  let path := if hasScheme || hasAuthority then plainPath p.path else p.path
  .ok
    { scheme := String.ofList (p.scheme.map Char.toLower)
      user := user
      host := host
      port := port
      path := encoded Address.pathReserved path
      query := p.query.map (encoded queryReserved)
      fragment := p.fragment.map (encoded Address.fragmentReserved) }

/-- An ASCII control character. -/
def isControl (c : Char) : Bool := c.toNat < 0x20 || c.toNat == 0x7F

/-- The first control character, `position` characters being passed. -/
def control? (position : Nat) : List Char → Option Flaw
  | [] => none
  | c :: cs => if isControl c then some (.control c position) else control? (position + 1) cs

theorem control?_eq_none_iff {position : Nat} {cs : List Char} :
    control? position cs = none ↔ ∀ c ∈ cs, isControl c = false := by
  induction cs generalizing position with
  | nil => simp [control?]
  | cons c cs ih =>
    rw [control?, List.forall_mem_cons]
    by_cases h : isControl c = true
    · simp [h]
    · simp [h, ih]

/-- The reference that a text stands for. -/
def parse (text : String) : Except Flaw Reference :=
  if maxLength < text.length then .error .tooLong
  else
    match control? 0 text.toList with
    | some flaw => .error flaw
    | none => ofParts (Parts.ofText text.toList)

/-- The reference that the empty text stands for. -/
def empty : Reference := ⟨"", "", "", none, "", none, none⟩

example : (parse "").toOption = some empty := by decide +kernel

/-- Host and port, the host in brackets if it holds a colon. -/
def hostAndPort (r : Reference) : String :=
  (if r.host.toList.contains ':' then "[" ++ r.host ++ "]" else r.host)
    ++ r.port.elim "" fun n => ":" ++ toString n

/-- User, host and port. -/
def authority (r : Reference) : String :=
  (if r.user = "" then "" else r.user ++ "@") ++ r.hostAndPort

/-- The text of a reference. -/
def text (r : Reference) : String :=
  (if r.scheme = "" then "" else r.scheme ++ ":")
    ++ (if r.authority = "" then "" else "//" ++ r.authority)
    ++ r.path ++ r.query.elim "" ("?" ++ ·) ++ r.fragment.elim "" ("#" ++ ·)

/-- What is asked of the host: path and query; an empty path is a slash. -/
def target (r : Reference) : String :=
  (if r.path = "" then "/" else r.path) ++ r.query.elim "" ("?" ++ ·)

/-- The reference leads somewhere by itself. -/
def isAbsolute (r : Reference) : Bool := r.scheme != "" && r.host != ""

/-- The reference with another path and query. -/
def withTarget (r : Reference) (target : String) : Except Flaw Reference := do
  let (path, query) := cutAt '?' target.toList
  let parts : Parts :=
    ⟨r.scheme.toList, r.authority.toList, path, query, r.fragment.map String.toList⟩
  match parts.named.find? fun (_, cs) => maxLength < cs.length with
  | some (part, _) => .error (.partTooLong part)
  | none => ofParts parts

/-- The reference that the text of this one stands for.  A path that starts with two slashes, or
with a word and a colon, is more than a path there. -/
def reread (r : Reference) : Except Flaw Reference := parse r.text

/-- A path and query without slashes in front. -/
def withoutSlashes (target : String) : String :=
  String.ofList (target.toList.dropWhile (· == '/'))

/-- Where a reference leads from another one: an absolute one stays what it is, and of any other
only path and query count. -/
def resolved (base r : Reference) : Except Flaw Reference :=
  if r.isAbsolute then .ok r
  else
    let start := if base.target.toList.getLast? == some '/' then base.target else base.target ++ "/"
    base.withTarget (start ++ withoutSlashes r.target)

/-! ## Asking the host -/

/-- Why a host cannot be asked. -/
inductive HostFlaw where
  /-- it is written in Punycode and is no registered name -/
  | unregistered (f : Address.Registry.Flaw)
  /-- it is not in ASCII -/
  | unencodable (u : Text.Unencodable)
  /-- something stands beside the brackets -/
  | brackets
  /-- what stands between the brackets is no address -/
  | notBracketed (text : String)
  deriving Repr, DecidableEq, Inhabited

/-- The wording. -/
def HostFlaw.message : HostFlaw → String
  | unregistered f => f.message
  | unencodable u => u.message
  | brackets => "Invalid IPv6 URL"
  | notBracketed text => Text.quoted text ++ " does not appear to be an IPv4 or IPv6 address"

/-- A host that is written in Punycode stands for characters that may be registered, and any host
is in ASCII. -/
def checkHost (r : Reference) : Except HostFlaw Unit := do
  let host := r.host.toList
  if Text.startsWith Address.Punycode.mark host then
    discard ((Address.Registry.decode host).mapError .unregistered)
  match Text.notAscii? r.hostAndPort with
  | some u => .error (.unencodable u)
  | none => .ok ()

/-- Who looks at an answer reads the host of the reference once more, and takes the first closing
bracket for the end of its address. -/
def checkBrackets (r : Reference) : Except HostFlaw Unit :=
  match cutAt ']' r.host.toList with
  | (_, none) => .ok ()
  | (inside, some behind) =>
    if behind.head? != some ':' then .error .brackets
    else if isIpv6 inside then .ok ()
    else .error (.notBracketed (String.ofList inside))

end Reference
end CodeReview
