import VirtualHosts.Site.Directive

/-!
Directives read by descent.  A position moves through the tokens: a block is
read by going down into its directives, and each of those takes the token that
it begins with from its place.  What is read says how far it went, and so the
descent comes to an end.
-/

namespace VirtualHosts.Site

/-- Why a descent has no directives. -/
inductive Halt where
  | refused (error : Error)
  | pastEnd
  deriving DecidableEq

/-- What was read, and the position behind it. -/
structure Reached (α : Type) (least : Nat) where
  result : α
  next : Nat
  further : least ≤ next

abbrev Descent (α : Type) (least : Nat) := Except Halt (Reached α least)

def Reached.since {α : Type} {position : Nat} (reached : Reached α position)
    {least : Nat} (le : least ≤ position) : Reached α least :=
  ⟨reached.result, reached.next, Nat.le_trans le reached.further⟩

def refuse {α : Type} (line : Nat) (fault : Fault) : Except Halt α :=
  throw (.refused (.syntaxAt line fault))

mutual

/-- The directives up to the brace that closes a block, or up to the end
outside of any. -/
def descendBlock (tokens : List Token) (opened? : Option Nat)
    (before : List Directive) (position : Nat) :
    Descent (List Directive) position :=
  match here : tokens[position]? with
  | none =>
      match opened? with
      | none => return ⟨before, position, Nat.le_refl position⟩
      | some line => refuse line .blockNeverClosed
  | some token =>
      have := (List.getElem?_eq_some_iff.mp here).1
      if token.is "\x7d" then
        match opened? with
        | none => refuse token.line .unexpectedClose
        | some _ => return ⟨before, position + 1, Nat.le_succ position⟩
      else do
        let ⟨directive, next, further⟩ ← descendDirective tokens position
        let rest ←
          descendBlock tokens opened? (before ++ [directive]) next
        return rest.since (Nat.le_of_lt further)
termination_by 2 * (tokens.length - position) + 1

def descendDirective (tokens : List Token) (position : Nat) :
    Descent Directive (position + 1) :=
  match here : tokens[position]? with
  | none => throw .pastEnd
  | some name =>
      have := (List.getElem?_eq_some_iff.mp here).1
      if name.is "\x7b" then do
        let ⟨block, next, further⟩ ←
          descendBlock tokens (some name.line) [] (position + 1)
        return ⟨.mk name [] (some block), next, further⟩
      else descendLine tokens name [] name.endLine (position + 1)
termination_by 2 * (tokens.length - position)

/-- The rest of a directive whose last token so far ended on a line. -/
def descendLine (tokens : List Token) (name : Token)
    (arguments : List Token) (endLine position : Nat) :
    Descent Directive position :=
  match here : tokens[position]? with
  | none => return ⟨.mk name arguments none, position, Nat.le_refl position⟩
  | some token =>
      have := (List.getElem?_eq_some_iff.mp here).1
      if token.line ≠ endLine || token.is "\x7d" then
        return ⟨.mk name arguments none, position, Nat.le_refl position⟩
      else if token.is "\x7b" then do
        let ⟨block, next, further⟩ ←
          descendBlock tokens (some name.line) [] (position + 1)
        return ⟨.mk name arguments (some block), next, Nat.le_of_lt further⟩
      else do
        let rest ← descendLine tokens name (arguments ++ [token])
          token.endLine (position + 1)
        return rest.since (Nat.le_succ position)
termination_by 2 * (tokens.length - position)

end

def descend (tokens : List Token) : Except Halt (List Directive) := do
  let reached ← descendBlock tokens none [] 0
  return reached.result

end VirtualHosts.Site
