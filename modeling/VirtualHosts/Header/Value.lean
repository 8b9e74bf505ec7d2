import VirtualHosts.Text.Utf8

/-!
Header values are bytes without controls; a tab is allowed.  A value reads as
text when all of it is visible ASCII, spaces and tabs.
-/

namespace VirtualHosts.Header

open VirtualHosts.Text

def isValueByte (b : UInt8) : Bool :=
  b == 9 || (32 ≤ b.toNat && b != 127)

def isVisibleByte (b : UInt8) : Bool :=
  b == 9 || (32 ≤ b.toNat && b.toNat < 127)

structure Value where
  bytes : List UInt8
  isValue_bytes : bytes.all isValueByte = true
  deriving DecidableEq

namespace Value

def ofBytes? (bytes : List UInt8) : Option Value :=
  if valid : bytes.all isValueByte = true then some ⟨bytes, valid⟩ else none

def ofText? (s : String) : Option Value :=
  ofBytes? (utf8 s)

def text? (value : Value) : Option String :=
  if value.bytes.all isVisibleByte then
    some (String.ofList (value.bytes.map fun b => Char.ofNat b.toNat))
  else none

/-- The bytes among `s` that a value may hold. -/
def ofPermitted (s : List UInt8) : Value :=
  ⟨s.filter isValueByte, by simp⟩

def literal (s : String) : Value :=
  ofPermitted (utf8 s)

theorem bytes_of_ofBytes? {bytes : List UInt8} {value : Value}
    (read : ofBytes? bytes = some value) : value.bytes = bytes := by
  unfold ofBytes? at read
  split at read
  · simp only [Option.some.injEq] at read
    rw [← read]
  · simp at read

end Value

end VirtualHosts.Header
