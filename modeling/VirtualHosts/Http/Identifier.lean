import VirtualHosts.Http.Message

/-!
Request identifiers.  A request that has none gets one made of random bytes:
thirty-two hexadecimal digits in five groups, with the version and the variant
of a random identifier in their places.
-/

namespace VirtualHosts.Http

open VirtualHosts.Header
open VirtualHosts.Text

structure Seed where
  bytes : List UInt8
  length_bytes : bytes.length = 16

namespace Seed

/-- The byte with its version, four, or its variant, binary one and zero, if
the place says so. -/
def mark (place : Nat) (b : UInt8) : UInt8 :=
  if place = 6 then 0x40 ||| (b &&& 0x0F)
  else if place = 8 then 0x80 ||| (b &&& 0x3F)
  else b

def marked (seed : Seed) : List UInt8 :=
  seed.bytes.mapIdx mark

/-- Whether a hyphen stands before the byte at a place. -/
def opensGroup (place : Nat) : Bool :=
  place = 4 || place = 6 || place = 8 || place = 10

def byteText (place : Nat) (b : UInt8) : List Char :=
  if opensGroup place then '-' :: hexPair b else hexPair b

def identifier (seed : Seed) : String :=
  String.ofList (seed.marked.mapIdx byteText).flatten

end Seed

/-- The signs that may stand at a place of a random identifier. -/
def isIdentifierChar (place : Nat) (c : Char) : Bool :=
  if place = 8 || place = 13 || place = 18 || place = 23 then c = '-'
  else if place = 14 then c = '4'
  else if place = 19 then c = '8' || c = '9' || c = 'a' || c = 'b'
  else c.isDigit || (97 ≤ c.toNat && c.toNat ≤ 102)

def isRandomIdentifier (s : String) : Bool :=
  s.toList.length == 36 && (s.toList.mapIdx isIdentifierChar).all id

/-- A request keeps the identifier it came with. -/
def Request.identify (request : Request) (seed : Seed) : Request :=
  if request.fields.has .requestId then request
  else
    { request with
      fields := request.fields.set .requestId (.literal seed.identifier) }

end VirtualHosts.Http
