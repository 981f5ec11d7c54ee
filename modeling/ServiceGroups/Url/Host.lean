import ServiceGroups.SocketAddress
import ServiceGroups.Text.Form

/-!
# Hosts of web addresses

A host in brackets is an IPv6 address.  Any other host is decoded and then
written in ASCII; if the last label of that is a number the whole host has to be
an IPv4 address, which may be written with fewer parts and in other bases.  How
a domain is written in ASCII is left open: it takes tables of characters, and
little of it matters to the addresses here.
-/

namespace ServiceGroups

namespace Host

/-- A way to write domains in ASCII, which may refuse a domain. -/
class Domains where
  toAscii? : List Char → Option (List Char)

/-- What does not depend on tables of characters. -/
class LawfulDomains [Domains] : Prop where
  /-- No control character or blank is mapped away. -/
  keeps_controls {domain written : List Char} {char : Char} :
    Domains.toAscii? domain = some written → char ∈ domain → char.toNat ≤ 0x20 →
      char ∈ written
  /-- Letters in lower case and digits stand for themselves. -/
  fixes_plain {domain : List Char} :
    (∀ char ∈ domain, char.isLower ∨ char.isDigit) → Domains.toAscii? domain = some domain

def isForbidden (char : Char) : Bool :=
  char.toNat ≤ 0x20 || char.toNat == 0x7f || "#/:<>?@[\\]^|%".toList.contains char

def numberIn? (base : Nat) (digits : List Char) : Option Nat :=
  digits.foldlM
    (fun value char =>
      ((Text.hexValue? char).filter (· < base)).map fun digit => base * value + digit) 0

/-- A part of an IPv4 address: decimal, or octal after `0`, or hexadecimal after
`0x`. -/
def ipv4Part? (part : List Char) : Option Nat :=
  match part with
  | [] => none
  | '0' :: 'x' :: rest => numberIn? 16 rest
  | ['0'] => some 0
  | '0' :: rest => numberIn? 8 rest
  | plain => numberIn? 10 plain

/-- Labels without the empty one after a final point. -/
def dropFinalEmpty (labels : List (List Char)) : List (List Char) :=
  if 1 < labels.length && labels.getLast? == some [] then labels.dropLast else labels

/-- Does a domain end in a number, so that it has to be an IPv4 address? -/
def endsInNumber (labels : List (List Char)) : Bool :=
  match (dropFinalEmpty labels).getLast? with
  | none => false
  | some last =>
    (!last.isEmpty && last.all Char.isDigit) ||
      ("0x".toList.isPrefixOf last && (ipv4Part? last).isSome)

/-- The IPv4 address of one to four parts; the last part fills what is left. -/
def ipv4OfParts? (parts : List Nat) : Option Ipv4 :=
  match parts.reverse with
  | [] => none
  | last :: others =>
    let count := others.length
    if count ≤ 3 ∧ others.all (· < 256) ∧ last < Nat.pow 256 (4 - count) then
      let leading := others.reverse.foldl (fun value part => 256 * value + part) 0
      let value := leading * Nat.pow 256 (4 - count) + last
      let octet (place : Nat) := UInt8.ofNat (value / Nat.pow 256 place % 256)
      some ⟨octet 3, octet 2, octet 1, octet 0⟩
    else none

def ipv4? (labels : List (List Char)) : Option Ipv4 :=
  ((dropFinalEmpty labels).mapM ipv4Part?).bind ipv4OfParts?

/-- The written form of a host in brackets: groups alone, also when it was read
with an IPv4 address at its end. -/
def bracketed? (inside : List Char) : Option (List Char) :=
  match SocketAddress.ipv6 inside with
  | some (address, []) => some ('[' :: SocketAddress.compressedText address ++ [']'])
  | _ => none

variable [Domains]

def domain? (host : List Char) : Option (List Char) := do
  let decoded ← Text.percentDecode? (String.ofList host)
  let written ← Domains.toAscii? decoded.toList
  let labels := Text.splitAtEach '.' written
  if written.isEmpty || written.any isForbidden then none
  else if endsInNumber labels then (ipv4? labels).map SocketAddress.ipv4Text
  else some written

def read? (host : List Char) : Option String :=
  match host with
  | '[' :: rest =>
    if rest.getLast? = some ']' then (bracketed? rest.dropLast).map String.ofList else none
  | plain => (domain? plain).map String.ofList

end Host

end ServiceGroups
