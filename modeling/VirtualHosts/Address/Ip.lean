import VirtualHosts.Text.Cut
import VirtualHosts.Text.Number

/-!
Internet addresses, their written forms and the readers of those forms.  A
reader takes the longest address at the start of a text and returns the rest.
-/

namespace VirtualHosts.Address

open VirtualHosts.Text

structure V4 where
  octets : UInt8 × UInt8 × UInt8 × UInt8
  deriving DecidableEq, Repr

/-- Eight groups of sixteen bits. -/
structure V6 where
  groups : List UInt16
  length_groups : groups.length = 8
  deriving DecidableEq

inductive Ip where
  | v4 (address : V4)
  | v6 (address : V6)
  deriving DecidableEq

namespace V4

/-- The two groups that an address of this kind fills at the end of a longer
one. -/
def groups (address : V4) : List UInt16 :=
  let (a, b, c, d) := address.octets
  [UInt16.ofNat (256 * a.toNat + b.toNat),
    UInt16.ofNat (256 * c.toNat + d.toNat)]

def text (address : V4) : String :=
  let (a, b, c, d) := address.octets
  String.intercalate "." ([a, b, c, d].map fun octet => decimal octet.toNat)

/-- One to three digits, at most 255, without a leading zero. -/
def readOctet? (s : List Char) : Option (UInt8 × List Char) :=
  let digits := s.takeWhile Char.isDigit
  let rest := s.dropWhile Char.isDigit
  if digits.isEmpty || 3 < digits.length then none
  else if digits.head? = some '0' && 1 < digits.length then none
  else
    let value := Nat.ofDigitChars 10 digits 0
    if value < 256 then some (UInt8.ofNat value, rest) else none

def read? (s : List Char) : Option (V4 × List Char) := do
  let (a, s) ← readOctet? s
  let s ← dropLead? ['.'] s
  let (b, s) ← readOctet? s
  let s ← dropLead? ['.'] s
  let (c, s) ← readOctet? s
  let s ← dropLead? ['.'] s
  let (d, s) ← readOctet? s
  return (⟨a, b, c, d⟩, s)

end V4

namespace V6

/-- One to four hexadecimal digits. -/
def readGroup? (s : List Char) : Option (UInt16 × List Char) :=
  let digits := s.takeWhile isHexDigit
  if digits.isEmpty || 4 < digits.length then none
  else some (UInt16.ofNat (ofHexDigits digits), s.dropWhile isHexDigit)

/-- At most `limit` groups with colons between them.  An address of the
shorter kind may stand for the last two; the flag tells whether one does. -/
def readGroups : Nat → Bool → List Char → List UInt16 × Bool × List Char
  | 0, _, s => ([], false, s)
  | limit + 1, atStart, s =>
      match if atStart then some s else dropLead? [':'] s with
      | none => ([], false, s)
      | some body =>
          match if limit = 0 then none else V4.read? body with
          | some (address, rest) => (address.groups, true, rest)
          | none =>
              match readGroup? body with
              | none => ([], false, s)
              | some (group, rest) =>
                  let (groups, short, rest) := readGroups limit false rest
                  (group :: groups, short, rest)

def ofGroups? (groups : List UInt16) : Option V6 :=
  if eight : groups.length = 8 then some ⟨groups, eight⟩ else none

/-- A double colon stands for the zero groups that are not written, at least
one. -/
def read? (s : List Char) : Option (V6 × List Char) :=
  let (head, short, rest) := readGroups 8 true s
  if head.length = 8 then (ofGroups? head).map (·, rest)
  else if short then none
  else do
    let rest ← dropLead? [':'] rest
    let rest ← dropLead? [':'] rest
    let (tail, _, rest) := readGroups (7 - head.length) true rest
    let zeros := List.replicate (8 - head.length - tail.length) 0
    let address ← ofGroups? (head ++ zeros ++ tail)
    return (address, rest)

/-- The address of the shorter kind that this one carries, if any. -/
def carried? (address : V6) : Option V4 :=
  match address.groups with
  | [0, 0, 0, 0, 0, 0xFFFF, x, y] =>
      some ⟨UInt8.ofNat (x.toNat / 256), UInt8.ofNat (x.toNat % 256),
        UInt8.ofNat (y.toNat / 256), UInt8.ofNat (y.toNat % 256)⟩
  | _ => none

def groupText (group : UInt16) : String :=
  String.ofList (hexadecimal group.toNat)

def groupsText (groups : List UInt16) : String :=
  String.intercalate ":" (groups.map groupText)

/-- The number of zero groups at the start. -/
def zeroRun (groups : List UInt16) : Nat :=
  (groups.takeWhile (· == 0)).length

/-- The length of the longest run of zero groups. -/
def longestRun : List UInt16 → Nat
  | [] => 0
  | group :: rest => max (zeroRun (group :: rest)) (longestRun rest)

/-- The groups before and after the first run of `length` zero groups. -/
def splitRun (length : Nat) :
    List UInt16 → List UInt16 × List UInt16
  | [] => ([], [])
  | group :: rest =>
      if zeroRun (group :: rest) = length then
        ([], (group :: rest).drop length)
      else
        let (before, after) := splitRun length rest
        (group :: before, after)

/-- The first of the longest runs of two or more zero groups is written as a
double colon. -/
def text (address : V6) : String :=
  match address.carried? with
  | some short => "::ffff:" ++ short.text
  | none =>
      let run := longestRun address.groups
      if run < 2 then groupsText address.groups
      else
        let (before, after) := splitRun run address.groups
        groupsText before ++ "::" ++ groupsText after

end V6

namespace Ip

def text : Ip → String
  | .v4 address => address.text
  | .v6 address => address.text

def ofText? (s : String) : Option Ip :=
  match V4.read? s.toList with
  | some (address, []) => some (.v4 address)
  | _ =>
      match V6.read? s.toList with
      | some (address, []) => some (.v6 address)
      | _ => none

end Ip

end VirtualHosts.Address
