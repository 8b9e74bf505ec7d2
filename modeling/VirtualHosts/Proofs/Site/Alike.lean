import Mathlib
import VirtualHosts.Proofs.Bind
import VirtualHosts.Site.Directive

/-!
Two readings side by side.  Errors, tokens and directives are alike when they
differ in nothing but their lines, and a given relation holds between those.
Two steps agree when both succeed, with related results, or both fail, with
alike errors.
-/

namespace VirtualHosts.Site

variable {lines : Nat → Nat → Prop}

inductive Error.Alike (lines : Nat → Nat → Prop) : Error → Error → Prop
  | syntaxAt {line other : Nat} (related : lines line other) (fault : Fault) :
      Alike lines (.syntaxAt line fault) (.syntaxAt other fault)
  | unknownDirective {line other : Nat} (related : lines line other)
      (name : String) :
      Alike lines (.unknownDirective line name) (.unknownDirective other name)
  | invalidHost (host : String) :
      Alike lines (.invalidHost host) (.invalidHost host)
  | duplicateHost (host : String) :
      Alike lines (.duplicateHost host) (.duplicateHost host)
  | invalidPort {line other : Nat} (related : lines line other)
      (value : String) :
      Alike lines (.invalidPort line value) (.invalidPort other value)
  | invalidHeader {line other : Nat} (related : lines line other)
      (fault : HeaderFault) :
      Alike lines (.invalidHeader line fault) (.invalidHeader other fault)

structure Token.Alike (lines : Nat → Nat → Prop) (token other : Token) :
    Prop where
  text : other.text = token.text
  quoted : other.quoted = token.quoted
  line : lines token.line other.line

inductive Directive.Alike (lines : Nat → Nat → Prop) :
    Directive → Directive → Prop
  | line {name name' : Token} {arguments arguments' : List Token}
      (names : name.Alike lines name')
      (values : List.Forall₂ (Token.Alike lines) arguments arguments') :
      Alike lines (.mk name arguments none) (.mk name' arguments' none)
  | block {name name' : Token} {arguments arguments' : List Token}
      {inside inside' : List Directive}
      (names : name.Alike lines name')
      (values : List.Forall₂ (Token.Alike lines) arguments arguments')
      (entries : List.Forall₂ (Directive.Alike lines) inside inside') :
      Alike lines (.mk name arguments (some inside))
        (.mk name' arguments' (some inside'))

theorem Token.Alike.is_eq {token other : Token}
    (alike : token.Alike lines other) (word : String) :
    other.is word = token.is word := by
  rw [Token.is, Token.is, alike.text, alike.quoted]

theorem Directive.Alike.name {directive other : Directive}
    (alike : directive.Alike lines other) :
    directive.name.Alike lines other.name := by
  cases alike with
  | line names _ => exact names
  | block names _ _ => exact names

theorem Directive.Alike.arguments {directive other : Directive}
    (alike : directive.Alike lines other) :
    List.Forall₂ (Token.Alike lines) directive.arguments
      other.arguments := by
  cases alike with
  | line _ values => exact values
  | block _ values _ => exact values

theorem isEmpty_eq {α β : Type} {alike : α → β → Prop} {s : List α}
    {t : List β} (lists : List.Forall₂ alike s t) : t.isEmpty = s.isEmpty := by
  cases lists <;> rfl

/-! Steps that agree. -/

inductive Agree (lines : Nat → Nat → Prop) {α β : Type}
    (same : α → β → Prop) : Except Error α → Except Error β → Prop
  | ok {a : α} {b : β} (related : same a b) :
      Agree lines same (.ok a) (.ok b)
  | error {fault other : Error} (alike : fault.Alike lines other) :
      Agree lines same (.error fault) (.error other)

namespace Agree

variable {α β γ δ : Type} {same : α → β → Prop}

/-- The results that are related are those of the two steps. -/
theorem named {first : Except Error α} {second : Except Error β}
    (agree : Agree lines same first second) :
    Agree lines
      (fun a b => first = .ok a ∧ second = .ok b ∧ same a b)
      first second := by
  cases agree with
  | ok related => exact .ok ⟨rfl, rfl, related⟩
  | error alike => exact .error alike

theorem bind {later : γ → δ → Prop} {first : Except Error α}
    {second : Except Error β} {next : α → Except Error γ}
    {next' : β → Except Error δ} (agree : Agree lines same first second)
    (follow : ∀ a b, same a b → Agree lines later (next a) (next' b)) :
    Agree lines later (first >>= next) (second >>= next') := by
  cases agree with
  | ok related => exact follow _ _ related
  | error alike => exact .error alike

/-- Steps with equal results go on from the same value. -/
theorem andThen {later : γ → δ → Prop} {first second : Except Error α}
    {next : α → Except Error γ} {next' : α → Except Error δ}
    (agree : Agree lines Eq first second)
    (follow : ∀ a, Agree lines later (next a) (next' a)) :
    Agree lines later (first >>= next) (second >>= next') := by
  refine agree.bind ?_
  rintro a _ rfl
  exact follow a

theorem ite {holds : Prop} [Decidable holds] {first other : Except Error α}
    {second other' : Except Error β}
    (yes : holds → Agree lines same first second)
    (no : ¬holds → Agree lines same other other') :
    Agree lines same (if holds then first else other)
      (if holds then second else other') := by
  split
  · rename_i yesHolds
    exact yes yesHolds
  · rename_i notHolds
    exact no notHolds

/-- Both refuse for the same reason, or both go on. -/
theorem guarded {holds : Prop} [Decidable holds] {fault other : Error}
    {first : Except Error α} {second : Except Error β}
    (alike : fault.Alike lines other)
    (next : Agree lines same first second) :
    Agree lines same (if holds then .error fault else first)
      (if holds then .error other else second) :=
  ite (fun _ => .error alike) fun _ => next

/-! Loops over lists in step with each other. -/

variable {alike : α → β → Prop} {s : List α} {t : List β}

theorem foldlM {related : γ → δ → Prop} {step : γ → α → Except Error γ}
    {step' : δ → β → Except Error δ} (lists : List.Forall₂ alike s t)
    (each : ∀ c d a b, related c d → alike a b →
      Agree lines related (step c a) (step' d b))
    {c : γ} {d : δ} (start : related c d) :
    Agree lines related (s.foldlM step c) (t.foldlM step' d) := by
  induction lists generalizing c d with
  | nil => exact .ok start
  | cons first _ ih =>
      rw [List.foldlM_cons, List.foldlM_cons]
      refine (each c d _ _ start first).bind ?_
      intro middle middle' between
      exact ih between

theorem mapM {read : α → Except Error γ} {read' : β → Except Error γ}
    (lists : List.Forall₂ alike s t)
    (each : ∀ a b, alike a b → Agree lines Eq (read a) (read' b)) :
    Agree lines Eq (s.mapM read) (t.mapM read') := by
  induction lists with
  | nil => exact .ok rfl
  | cons first _ ih =>
      rw [List.mapM_cons, List.mapM_cons]
      refine (each _ _ first).andThen ?_
      intro c
      refine ih.andThen ?_
      intro more
      exact .ok rfl

theorem forM {check : α → Except Error Unit}
    {check' : β → Except Error Unit} (lists : List.Forall₂ alike s t)
    (each : ∀ a b, alike a b → Agree lines Eq (check a) (check' b)) :
    Agree lines Eq (s.forM check) (t.forM check') := by
  induction lists with
  | nil => exact .ok rfl
  | cons first _ ih =>
      refine (each _ _ first).andThen ?_
      intro checked
      exact ih

end Agree

end VirtualHosts.Site
