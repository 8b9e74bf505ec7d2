import Mathlib
import VirtualHosts.Proofs.Site.Alike
import VirtualHosts.Proofs.Site.Lines

/-!
Two readings of tokens that are alike and break into lines at the same places.
They pass through alike states, also when the second one goes on from
directives that were read before.
-/

namespace VirtualHosts.Site

variable {lines : Nat → Nat → Prop} {earlier : List Directive}

structure OpenLine.Alike (lines : Nat → Nat → Prop) (line other : OpenLine) :
    Prop where
  name : line.name.Alike lines other.name
  arguments :
    List.Forall₂ (Token.Alike lines) line.arguments other.arguments

/-- The open blocks and what is complete in the innermost one.  The second
reading has the earlier directives before everything else. -/
inductive Levels (lines : Nat → Nat → Prop) (earlier : List Directive) :
    List OpenBlock → List Directive → List OpenBlock → List Directive → Prop
  | outermost {done done' : List Directive}
      (entries : List.Forall₂ (Directive.Alike lines) done done') :
      Levels lines earlier [] done [] (earlier ++ done')
  | inside {name name' : Token} {arguments arguments' : List Token}
      {blocks blocks' : List OpenBlock}
      {before before' done done' : List Directive}
      (names : name.Alike lines name')
      (values : List.Forall₂ (Token.Alike lines) arguments arguments')
      (outer : Levels lines earlier blocks before blocks' before')
      (entries : List.Forall₂ (Directive.Alike lines) done done') :
      Levels lines earlier (⟨name, arguments, before⟩ :: blocks) done
        (⟨name', arguments', before'⟩ :: blocks') done'

theorem Levels.concat {blocks blocks' : List OpenBlock}
    {done done' : List Directive} {directive other : Directive}
    (levels : Levels lines earlier blocks done blocks' done')
    (alike : directive.Alike lines other) :
    Levels lines earlier blocks (done ++ [directive]) blocks'
      (done' ++ [other]) := by
  have single := List.Forall₂.cons alike .nil
  cases levels with
  | outermost entries =>
      rw [List.append_assoc]
      exact .outermost (List.rel_append entries single)
  | inside names values outer entries =>
      exact .inside names values outer (List.rel_append entries single)

namespace Reading

structure Alike (lines : Nat → Nat → Prop) (earlier : List Directive)
    (reading other : Reading) : Prop where
  levels : Levels lines earlier reading.blocks reading.done other.blocks
    other.done
  line : Option.Rel (OpenLine.Alike lines) reading.line? other.line?

/-- Whether the line being read, if any, has ended on this one so far. -/
def EndsAt (reading : Reading) (last : Nat) : Prop :=
  ∀ unfinished ∈ reading.line?, unfinished.endLine = last

variable {reading other : Reading}

theorem Alike.endLine (alike : reading.Alike lines earlier other) :
    reading.endLine.Alike lines earlier other.endLine := by
  obtain ⟨blocks, done, line?⟩ := reading
  obtain ⟨blocks', done', line?'⟩ := other
  obtain ⟨levels, line⟩ := alike
  cases line with
  | none => exact ⟨levels, .none⟩
  | some related =>
      exact ⟨levels.concat (.line related.name related.arguments), .none⟩

theorem Alike.openBlock (alike : reading.Alike lines earlier other)
    {name name' : Token} {arguments arguments' : List Token}
    (names : name.Alike lines name')
    (values : List.Forall₂ (Token.Alike lines) arguments arguments') :
    (reading.openBlock name arguments).Alike lines earlier
      (other.openBlock name' arguments') :=
  ⟨.inside names values alike.levels .nil, .none⟩

variable {token token' : Token}

theorem agree_begin (alike : reading.Alike lines earlier other)
    (tokens : token.Alike lines token') :
    Agree lines (Alike lines earlier) (reading.begin token)
      (other.begin token') := by
  obtain ⟨blocks, done, line?⟩ := reading
  obtain ⟨blocks', done', line?'⟩ := other
  unfold begin
  rw [tokens.is_eq, tokens.is_eq]
  refine .ite (fun _ => ?_) fun _ => .ite (fun _ => ?_) fun _ => ?_
  · cases alike.levels with
    | outermost _ => exact .error (.syntaxAt tokens.line _)
    | inside names values outer entries =>
        exact .ok ⟨outer.concat (.block names values entries), .none⟩
  · exact .ok (alike.openBlock tokens .nil)
  · exact .ok ⟨alike.levels, .some ⟨tokens, .nil⟩⟩

theorem agree_step (alike : reading.Alike lines earlier other)
    (tokens : token.Alike lines token') {last last' : Nat}
    (ends : reading.EndsAt last) (ends' : other.EndsAt last')
    (breaks : token.line = last ↔ token'.line = last') :
    Agree lines (Alike lines earlier) (reading.step token)
      (other.step token') := by
  have line := alike.line
  have ended := alike.endLine
  obtain ⟨blocks, done, line?⟩ := reading
  obtain ⟨blocks', done', line?'⟩ := other
  cases line with
  | none => exact agree_begin alike tokens
  | @some open' other' related =>
      have sameBreak : (token'.line ≠ other'.endLine) =
          (token.line ≠ open'.endLine) := by
        rw [ends open' rfl, ends' other' rfl, ne_eq, ne_eq, breaks]
      unfold step
      simp only [tokens.is_eq, sameBreak]
      refine .ite (fun _ => agree_begin ended tokens) fun _ => ?_
      refine .ite (fun _ => ?_) fun _ => ?_
      · exact .ok (Alike.openBlock ⟨alike.levels, alike.line⟩ related.name
          related.arguments)
      · exact .ok ⟨alike.levels, .some ⟨related.name,
          List.rel_append related.arguments (.cons tokens .nil)⟩⟩

/-! What has been read of a line ends with the token read last. -/

theorem endsAt_begin {next : Reading}
    (begun : reading.begin token = .ok next) :
    next.EndsAt token.endLine := by
  intro unfinished current
  unfold begin at begun
  split at begun
  · split at begun
    · contradiction
    · cases begun
      contradiction
  · split at begun
    · cases begun
      contradiction
    · cases begun
      cases current
      rfl

theorem endsAt_step {next : Reading}
    (taken : reading.step token = .ok next) : next.EndsAt token.endLine := by
  unfold step at taken
  split at taken
  · exact endsAt_begin taken
  · split at taken
    · exact endsAt_begin taken
    · intro unfinished current
      split at taken
      · cases taken
        contradiction
      · cases taken
        cases current
        rfl

end Reading

/-- Tokens that are alike one by one and begin a line at the same places; the
tokens before them ended on the lines `last` and `last'`. -/
inductive Parallel (lines : Nat → Nat → Prop) :
    Nat → Nat → List Token → List Token → Prop
  | nil (last last' : Nat) : Parallel lines last last' [] []
  | cons {token token' : Token} {rest rest' : List Token} {last last' : Nat}
      (tokens : token.Alike lines token')
      (breaks : token.line = last ↔ token'.line = last')
      (more : Parallel lines token.endLine token'.endLine rest rest') :
      Parallel lines last last' (token :: rest) (token' :: rest')

namespace Reading

theorem agree_foldlM_step {last last' : Nat} {given given' : List Token}
    (parallel : Parallel lines last last' given given')
    {reading other : Reading} (alike : reading.Alike lines earlier other)
    (ends : reading.EndsAt last) (ends' : other.EndsAt last') :
    Agree lines (Alike lines earlier) (given.foldlM step reading)
      (given'.foldlM step other) := by
  induction parallel generalizing reading other with
  | nil last last' => exact .ok alike
  | cons tokens breaks _ ih =>
      rw [List.foldlM_cons, List.foldlM_cons]
      refine (agree_step alike tokens ends ends' breaks).named.bind ?_
      intro middle middle' both
      obtain ⟨taken, taken', alike⟩ := both
      exact ih alike (endsAt_step taken) (endsAt_step taken')

/-- The second reading has the earlier directives, and after them what is
alike. -/
theorem agree_finish {reading other : Reading}
    (alike : reading.Alike lines earlier other) :
    Agree lines
      (fun directives all => ∃ others, all = earlier ++ others ∧
        List.Forall₂ (Directive.Alike lines) directives others)
      reading.finish other.finish := by
  have levels := alike.endLine.levels
  unfold finish
  rw [← blocks_endLine reading, ← blocks_endLine other]
  generalize reading.endLine = ended at levels ⊢
  generalize other.endLine = ended' at levels ⊢
  obtain ⟨blocks, done, line?⟩ := ended
  obtain ⟨blocks', done', line?'⟩ := ended'
  cases levels with
  | outermost entries => exact .ok ⟨_, rfl, entries⟩
  | inside names _ _ _ => exact .error (.syntaxAt names.line _)

end Reading

end VirtualHosts.Site
