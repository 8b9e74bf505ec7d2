import Mathlib
import VirtualHosts.Header.Forwarded

/-!
What the forwarding fields say, and that no other field is touched when they
are set.
-/

namespace VirtualHosts.Header

open VirtualHosts.Address

/-- The names that tell a backend about the client. -/
def forwardedNames : List Name :=
  [.forwardedFor, .forwardedProto, .forwardedHost]

namespace Fields

variable {name : Name}

def addClient? (fields : Fields) : Option Ip → Fields
  | some client => fields.addClient client
  | none => fields

theorem addForwarded_eq (fields : Fields) (client? : Option Ip) :
    fields.addForwarded client? =
      ((fields.addClient? client?).set .forwardedProto
        (.literal "http")).addForwardedHost := by
  cases client? <;> rfl

theorem get?_eq_head? (fields : Fields) (name : Name) :
    fields.get? name = (fields.values name).head? := rfl

theorem values_addClient? (fields : Fields) (client? : Option Ip)
    (other : name ≠ .forwardedFor) :
    (fields.addClient? client?).values name = fields.values name := by
  cases client? with
  | none => rfl
  | some client =>
      rw [addClient?, addClient]
      split
      · rw [values_set, if_neg other]
      · rfl

theorem values_addForwardedHost (fields : Fields) (name : Name) :
    fields.addForwardedHost.values name =
      if name = .forwardedHost ∧ fields.has .host then
        (fields.get? .host).toList
      else fields.values name := by
  unfold addForwardedHost has
  cases fields.get? .host with
  | none => simp
  | some host => simp

/-- The chain apart, a backend is told a scheme and the host, if the message
has one. -/
theorem values_addForwarded (fields : Fields) (client? : Option Ip)
    (other : name ≠ .forwardedFor) :
    (fields.addForwarded client?).values name =
      if name = .forwardedHost ∧ fields.has .host then
        (fields.get? .host).toList
      else if name = .forwardedProto then [.literal "http"]
      else fields.values name := by
  have sameHost :
      ((fields.addClient? client?).set .forwardedProto
        (.literal "http")).get? .host = fields.get? .host := by
    rw [get?_eq_head?, values_set, if_neg (by decide)]
    rw [values_addClient? fields client? (by decide), ← get?_eq_head?]
  rw [addForwarded_eq, values_addForwardedHost, has, sameHost, values_set]
  rw [values_addClient? fields client? other, has]

theorem values_addForwarded_of_not_mem (fields : Fields) (client? : Option Ip)
    (other : name ∉ forwardedNames) :
    (fields.addForwarded client?).values name = fields.values name := by
  simp only [forwardedNames, List.mem_cons, List.not_mem_nil, or_false,
    not_or] at other
  rw [values_addForwarded fields client? other.1]
  rw [if_neg fun both => other.2.2 both.1, if_neg other.2.1]

theorem values_forwardedProto (fields : Fields) (client? : Option Ip) :
    (fields.addForwarded client?).values .forwardedProto =
      [.literal "http"] := by
  rw [values_addForwarded fields client? (by decide)]
  rw [if_neg fun both => absurd both.1 (by decide), if_pos rfl]

/-- A message without a host keeps what it says of another one. -/
theorem values_forwardedHost (fields : Fields) (client? : Option Ip) :
    (fields.addForwarded client?).values .forwardedHost =
      if fields.has .host then (fields.get? .host).toList
      else fields.values .forwardedHost := by
  rw [values_addForwarded fields client? (by decide)]
  simp only [true_and]
  rw [if_neg (show ¬Name.forwardedHost = .forwardedProto by decide)]

end Fields

end VirtualHosts.Header
