import ServiceGroups.Text.Hexadecimal
import ServiceGroups.Text.Numeral

/-!
# Socket addresses

A listener is bound to an internet address and a port.  The written form of an
IPv4 address has four octets without leading zeros; an IPv6 address stands in
brackets, may leave out one run of zero groups, may end in an embedded IPv4
address, and may carry a numeric scope.  Writing leaves out the first longest
run of at least two zero groups.
-/

namespace ServiceGroups

/-- An IPv4 address. -/
structure Ipv4 where
  first : UInt8
  second : UInt8
  third : UInt8
  fourth : UInt8
deriving DecidableEq, Repr

/-- An IPv6 address: eight groups of sixteen bits. -/
structure Ipv6 where
  groups : List UInt16
  eight : groups.length = 8
deriving DecidableEq

/-- An address with a port; an IPv6 address also has a scope. -/
inductive SocketAddress where
  | v4 (host : Ipv4) (port : UInt16)
  | v6 (host : Ipv6) (scope : UInt32) (port : UInt16)
deriving DecidableEq

namespace SocketAddress

/-- A step of reading: a value and the characters after it. -/
abbrev Step (α : Type) :=
  List Char → Option (α × List Char)

/-- All digits at the front, as a number: in the given base, with at most
`width` digits where a width is given, and below `limit`. -/
def number (base : Nat) (width : Option Nat) (zeroPrefix : Bool) (limit : Nat) :
    Step Nat := fun chars =>
  let isDigit char := ((Text.hexValue? char).any (· < base) : Bool)
  let digits := chars.takeWhile isDigit
  let fitsWidth := (width.all (digits.length ≤ ·) : Bool)
  let zeroFree := zeroPrefix || digits.head? != some '0' || digits.length ≤ 1
  if digits.isEmpty || !fitsWidth || !zeroFree then none
  else
    let value := digits.foldl (fun sum char => base * sum + (Text.hexValue? char).getD 0) 0
    if value < limit then some (value, chars.drop digits.length) else none

def given (char : Char) (chars : List Char) : Option (List Char) :=
  match chars with
  | [] => none
  | head :: rest => if head = char then some rest else none

def octet : Step UInt8 := fun chars =>
  (number 10 (some 3) false 256 chars).map fun read => (UInt8.ofNat read.1, read.2)

def ipv4 : Step Ipv4 := fun chars => do
  let (first, chars) ← octet chars
  let chars ← given '.' chars
  let (second, chars) ← octet chars
  let chars ← given '.' chars
  let (third, chars) ← octet chars
  let chars ← given '.' chars
  let (fourth, chars) ← octet chars
  some (⟨first, second, third, fourth⟩, chars)

def port : Step UInt16 := fun chars =>
  (number 10 none true 65536 chars).map fun read => (UInt16.ofNat read.1, read.2)

def group : Step UInt16 := fun chars =>
  (number 16 (some 4) true 65536 chars).map fun read => (UInt16.ofNat read.1, read.2)

/-- The two groups of an embedded IPv4 address. -/
def embedded (host : Ipv4) : List UInt16 :=
  [host.first.toUInt16 * 256 + host.second.toUInt16,
    host.third.toUInt16 * 256 + host.fourth.toUInt16]

/-- What a run of groups gave: the groups, whether an embedded IPv4 address
ended it, and the characters after it. -/
structure Groups where
  read : List UInt16
  endsEmbedded : Bool
  rest : List Char

/-- At most `room` groups separated by colons; an embedded IPv4 address takes
the place of two and ends the run. -/
def groupRun : (room : Nat) → (isFirst : Bool) → List Char → Groups
  | 0, _, chars => ⟨[], false, chars⟩
  | room + 1, isFirst, chars =>
    let start := if isFirst then some chars else given ':' chars
    match start with
    | none => ⟨[], false, chars⟩
    | some start =>
      match (if room = 0 then none else ipv4 start) with
      | some (host, rest) => ⟨embedded host, true, rest⟩
      | none =>
        match group start with
        | none => ⟨[], false, chars⟩
        | some (value, rest) =>
          let following := groupRun room false rest
          ⟨value :: following.read, following.endsEmbedded, following.rest⟩

/-- Groups with the missing ones filled in as zeros. -/
def ofGroups? (groups : List UInt16) : Option Ipv6 :=
  if eight : groups.length = 8 then some ⟨groups, eight⟩ else none

def ipv6 : Step Ipv6 := fun chars => do
  let front := groupRun 8 true chars
  if front.read.length = 8 then
    (ofGroups? front.read).map (·, front.rest)
  else if front.endsEmbedded then none
  else
    let rest ← given ':' front.rest
    let rest ← given ':' rest
    let back := groupRun (7 - front.read.length) true rest
    let zeros := List.replicate (8 - front.read.length - back.read.length) 0
    (ofGroups? (front.read ++ zeros ++ back.read)).map (·, back.rest)

def scope : Step UInt32 := fun chars =>
  match chars with
  | '%' :: rest =>
    (number 10 none true (Nat.pow 2 32) rest).map fun read => (UInt32.ofNat read.1, read.2)
  | plain => some (0, plain)

def readV4? (chars : List Char) : Option SocketAddress := do
  let (host, chars) ← ipv4 chars
  let chars ← given ':' chars
  let (port, chars) ← port chars
  if chars.isEmpty then some (.v4 host port) else none

def readV6? (chars : List Char) : Option SocketAddress := do
  let chars ← given '[' chars
  let (host, chars) ← ipv6 chars
  let (scope, chars) ← scope chars
  let chars ← given ']' chars
  let chars ← given ':' chars
  let (port, chars) ← port chars
  if chars.isEmpty then some (.v6 host scope port) else none

def read? (text : String) : Option SocketAddress :=
  (readV4? text.toList).or (readV6? text.toList)

/-- What is said about text that is no socket address. -/
def readFailure : String :=
  "invalid socket address syntax"

def ipv4Text (host : Ipv4) : List Char :=
  let octet (value : UInt8) := Nat.toDigits 10 value.toNat
  octet host.first ++ '.' :: octet host.second ++ '.' :: octet host.third ++
    '.' :: octet host.fourth

/-- The IPv4 address that an IPv6 address maps, if it does. -/
def mapped? (host : Ipv6) : Option Ipv4 :=
  match host.groups with
  | [0, 0, 0, 0, 0, 0xffff, upper, lower] =>
    some ⟨(upper / 256).toUInt8, (upper % 256).toUInt8, (lower / 256).toUInt8,
      (lower % 256).toUInt8⟩
  | _ => none

/-- The number of zero groups at the front. -/
def zeroRun (groups : List UInt16) : Nat :=
  (groups.takeWhile (· == 0)).length

/-- Start and length of the first longest run of zero groups. -/
def longestZeroRun (groups : List UInt16) : Nat × Nat :=
  (List.range groups.length).foldl
    (fun best start =>
      let length := zeroRun (groups.drop start)
      if best.2 < length then (start, length) else best) (0, 0)

def groupsText (groups : List UInt16) : List Char :=
  List.intercalate [':'] (groups.map fun value => Nat.toDigits 16 value.toNat)

/-- An IPv6 address in groups alone, the first longest run of zeros left out. -/
def compressedText (host : Ipv6) : List Char :=
  let (start, length) := longestZeroRun host.groups
  if 2 ≤ length then
    groupsText (host.groups.take start) ++ ':' :: ':' ::
      groupsText (host.groups.drop (start + length))
  else groupsText host.groups

/-- The written form of an IPv6 address; a mapped IPv4 address keeps its own. -/
def ipv6Text (host : Ipv6) : List Char :=
  match mapped? host with
  | some inner => "::ffff:".toList ++ ipv4Text inner
  | none => compressedText host

def text : SocketAddress → String
  | .v4 host port => String.ofList (ipv4Text host ++ ':' :: Nat.toDigits 10 port.toNat)
  | .v6 host scope port =>
    let scopeText := if scope = 0 then [] else '%' :: Nat.toDigits 10 scope.toNat
    String.ofList ('[' :: ipv6Text host ++ scopeText ++ ']' :: ':' ::
      Nat.toDigits 10 port.toNat)

end SocketAddress

end ServiceGroups
