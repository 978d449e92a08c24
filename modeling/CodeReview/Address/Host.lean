import CodeReview.Address.Domain
import CodeReview.Address.Percent

/-!
# Hosts

The host of an address is a name, an IPv4 address, or an IPv6 address between brackets.  A name is
brought into ASCII.  A name whose last label is a number is an IPv4 address, which may be written
with fewer than four parts and in octal or hexadecimal; an IPv6 address is written anew with its
longest run of zeros left out.
-/

set_option autoImplicit false

namespace CodeReview.Address

/-! ## IPv4 -/

/-- The number that digits of a base spell. -/
def number? (base : Nat) (ds : List Char) : Option Nat :=
  ds.foldlM (fun n d => (digit? d).bind fun v => if v < base then some (base * n + v) else none) 0

/-- A part of an IPv4 address: decimal, octal behind a zero, hexadecimal behind `0x`. -/
def ipv4Part? : List Char → Option Nat
  | [] => none
  | '0' :: 'x' :: ds => number? 16 ds
  | '0' :: 'X' :: ds => number? 16 ds
  | '0' :: d :: ds => number? 8 (d :: ds)
  | ds => number? 10 ds

/-- The labels of a name, without an empty one at the end. -/
def labels (name : List Char) : List (List Char) :=
  let ls := name.splitOn '.'
  if 1 < ls.length ∧ ls.getLast? = some [] then ls.dropLast else ls

/-- The last label of a name is a number. -/
def endsInNumber (name : List Char) : Bool :=
  match (labels name).getLast? with
  | none => false
  | some l => (!l.isEmpty && l.all Char.isDigit) || (ipv4Part? l).isSome

/-- The number of an IPv4 address with these parts: the last one fills what the others leave. -/
def ipv4Value? (parts : List Nat) : Option Nat :=
  match parts.reverse with
  | [] => none
  | last :: front =>
    if 3 < front.length || front.any (255 < ·) || Nat.pow 256 (4 - front.length) ≤ last then none
    else some (front.reverse.foldr (fun p n => p * 0x1000000 + n / 0x100) 0 + last)

/-- The number of an IPv4 address. -/
def ipv4? (name : List Char) : Option Nat := do
  ipv4Value? (← (labels name).mapM ipv4Part?)

/-- An IPv4 address. -/
def ipv4Text (n : Nat) : String :=
  String.intercalate "." ([n / 0x1000000, n / 0x10000 % 256, n / 0x100 % 256, n % 256].map toString)

/-! ## IPv6 -/

/-- A group of an IPv6 address: one to four hexadecimal digits. -/
def group? (ds : List Char) : Option Nat :=
  if ds.isEmpty || 4 < ds.length then none else number? 16 ds

/-- A part of an IPv4 address at the end of an IPv6 address: decimal, with no zero in front. -/
def plainByte? (ds : List Char) : Option Nat :=
  if ds.isEmpty || (ds.head? = some '0' && 1 < ds.length) then none
  else (number? 10 ds).filter (· ≤ 255)

/-- The groups that a part of an IPv6 address without `::` stands for; its last group may be an
IPv4 address if it ends the address. -/
def groups? (atEnd : Bool) (cs : List Char) : Option (List Nat) :=
  if cs.isEmpty then some []
  else
    let parts := cs.splitOn ':'
    match parts.getLast? with
    | some last =>
      if atEnd && last.contains '.' then do
        let front ← parts.dropLast.mapM group?
        match ← (last.splitOn '.').mapM plainByte? with
        | [a, b, c, d] => some (front ++ [256 * a + b, 256 * c + d])
        | _ => none
      else parts.mapM group?
    | none => none

/-- The eight groups of an IPv6 address: `::` stands for the missing ones, at least one. -/
def ipv6? (cs : List Char) : Option (List Nat) :=
  match splitAtGap cs with
  | none => (groups? true cs).filter (·.length == 8)
  | some (front, back) => do
    let front ← groups? false front
    let back ← groups? true back
    if 7 < front.length + back.length then none
    else some (front ++ List.replicate (8 - front.length - back.length) 0 ++ back)
where
  /-- What stands before and behind the first `::`. -/
  splitAtGap : List Char → Option (List Char × List Char)
    | [] => none
    | ':' :: ':' :: cs => some ([], cs)
    | c :: cs => (splitAtGap cs).map fun (front, back) => (c :: front, back)

/-- A number in hexadecimal, in lower case. -/
def hexText (n : Nat) : String := String.ofList (Nat.toDigits 16 n)

/-- The number of zeros a list starts with. -/
def leadingZeros (ns : List Nat) : Nat := (ns.takeWhile (· == 0)).length

/-- Where the longest run of zeros starts and how long it is, the first of several. -/
def longestZeros (ns : List Nat) : Nat × Nat :=
  (List.range ns.length).foldl (fun best i =>
    let n := leadingZeros (ns.drop i)
    if best.2 < n then (i, n) else best) (0, 0)

/-- An IPv6 address, its longest run of at least two zeros left out. -/
def ipv6Text (groups : List Nat) : String :=
  let (start, count) := longestZeros groups
  let join (ns : List Nat) := String.intercalate ":" (ns.map hexText)
  if count < 2 then join groups
  else join (groups.take start) ++ "::" ++ join (groups.drop (start + count))

/-! ## Names -/

/-- The characters that no name may hold, besides blanks and control characters. -/
def forbiddenInNames : List Char :=
  ['%', '#', '/', ':', '<', '>', '?', '@', '[', '\\', ']', '^', '|']

/-- The character may not stand in a name. -/
def isForbidden (c : Char) : Bool :=
  c.toNat ≤ 0x20 || c.toNat = 0x7F || forbiddenInNames.contains c

/-- The host that a name or number stands for. -/
def namedHost? (cs : List Char) : Option String := do
  let name ← Domain.toAscii? (← decode? cs)
  if name.isEmpty || name.any isForbidden then none
  else if endsInNumber name then (ipv4? name).map ipv4Text
  else some (String.ofList name)

/-- The host between brackets. -/
def bracketedHost? (cs : List Char) : Option String :=
  if cs.getLast? = some ']' then
    (ipv6? cs.dropLast).map fun groups => "[" ++ ipv6Text groups ++ "]"
  else none

/-- The host of an address for the web. -/
def host? : List Char → Option String
  | [] => none
  | '[' :: cs => bracketedHost? cs
  | cs => namedHost? cs

end CodeReview.Address
