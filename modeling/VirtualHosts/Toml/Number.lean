import VirtualHosts.Text.Number
import VirtualHosts.Toml.Layout

/-!
Numbers.  Single underscores may stand between digits.  Integers fit in
sixty-four bits with a sign; a float that is positive and too large is
refused.
-/

namespace VirtualHosts.Toml

open VirtualHosts.Text

/-- A run of digits, without the underscores between them. -/
def digits? (isDigit : Char → Bool) : Reader (List Char) := fun s =>
  let inRun (c : Char) := isDigit c || c = '_'
  let groups := pieces '_' (s.takeWhile inRun)
  if groups.any List.isEmpty then none
  else some (groups.flatten, s.dropWhile inRun)

/-- Whether a minus sign stands at the start, and what follows the sign. -/
def sign : List Char → Bool × List Char
  | '-' :: rest => (true, rest)
  | '+' :: rest => (false, rest)
  | s => (false, s)

def isOctalDigit (c : Char) : Bool :=
  48 ≤ c.toNat && c.toNat ≤ 55

def isBinaryDigit (c : Char) : Bool :=
  c = '0' || c = '1'

def integerLimit : Nat := 0x8000000000000000

def signed? (negative : Bool) (size : Nat) : Option Int :=
  if negative then
    if size ≤ integerLimit then some (-size) else none
  else if size < integerLimit then some size
  else none

def ofDigits (base : Nat) (digits : List Char) : Nat :=
  digits.foldl (fun value c => base * value + hexValue c) 0

def based? (base : Nat) (isDigit : Char → Bool) (s : List Char) :
    Option (Value × List Char) := do
  let (digits, rest) ← digits? isDigit s
  let value ← signed? false (ofDigits base digits)
  return (.integer value, rest)

/-- The digits of the whole part: no zero stands before others. -/
def whole? : Reader (List Char) := fun s =>
  match digits? Char.isDigit s with
  | none => none
  | some (digits, rest) =>
      if digits.head? = some '0' && 1 < digits.length then none
      else some (digits, rest)

/-- The digits after a point, or none at all without one. -/
def fraction? : Reader (List Char)
  | '.' :: rest => digits? Char.isDigit rest
  | s => some ([], s)

/-- The power of ten, zero without a mark. -/
def exponent? : Reader Int
  | c :: rest =>
      if c = 'e' || c = 'E' then do
        let (negative, rest) := sign rest
        let (digits, rest) ← digits? Char.isDigit rest
        let size : Int := ofDigits 10 digits
        return (if negative then -size else size, rest)
      else some (0, c :: rest)
  | [] => some (0, [])

/-- The least whole number that is rounded to infinity. -/
def overflowBound : Nat := Nat.pow 2 1024 - Nat.pow 2 970

/-- Whether `digits` times a power of ten is too large for a float. -/
def overflows (digits : List Char) (power : Int) : Bool :=
  let significant := digits.dropWhile (· = '0')
  let places : Int := significant.length + power
  if significant.isEmpty || places < 300 then false
  else if 320 < places then true
  else
    let value := ofDigits 10 significant
    if 0 ≤ power then overflowBound ≤ value * Nat.pow 10 power.toNat
    else overflowBound * Nat.pow 10 (-power).toNat ≤ value

/-- The text that was read to get from `s` to `rest`. -/
def taken (s rest : List Char) : String :=
  String.ofList (s.take (s.length - rest.length))

def decimalNumber? : Reader Value := fun s => do
  let (negative, body) := sign s
  let (whole, afterWhole) ← whole? body
  let (fraction, afterFraction) ← fraction? afterWhole
  let (power, rest) ← exponent? afterFraction
  if rest.length = afterWhole.length then
    let value ← signed? negative (ofDigits 10 whole)
    return (.integer value, rest)
  else if !negative && overflows (whole ++ fraction)
      (power - fraction.length) then none
  else return (.float (taken s rest), rest)

def specialFloat? : Reader Value := fun s =>
  match (sign s).2 with
  | 'i' :: 'n' :: 'f' :: rest => some (.float (taken s rest), rest)
  | 'n' :: 'a' :: 'n' :: rest => some (.float (taken s rest), rest)
  | _ => none

def number? : Reader Value := fun s =>
  match s with
  | '0' :: 'x' :: rest => based? 16 isHexDigit rest
  | '0' :: 'o' :: rest => based? 8 isOctalDigit rest
  | '0' :: 'b' :: rest => based? 2 isBinaryDigit rest
  | _ =>
      match specialFloat? s with
      | some found => some found
      | none => decimalNumber? s

end VirtualHosts.Toml
