import Mathlib
import VirtualHosts.Proofs.Site.Lines
import VirtualHosts.Site.Descent

/-!
The descent never takes a token behind the last one, and reads the same
directives as one token after another does, or refuses them with the same
error.
-/

namespace VirtualHosts.Site

/-- What a descent comes to, against a reading of the same tokens: the reading
goes on behind the position it reached, or both are refused. -/
inductive Goes {α : Type} {least : Nat} (tokens given : List Token)
    (reading : Reading) (after : α → Reading) : Descent α least → Prop
  | on {reached : Reached α least}
      (same : reading.conclude given =
        (after reached.result).conclude (tokens.drop reached.next)) :
      Goes tokens given reading after (pure reached)
  | refused {error : Error} (fails : reading.conclude given = .error error) :
      Goes tokens given reading after (throw (.refused error))

namespace Goes

variable {α β : Type} {least least' : Nat} {tokens given : List Token}
  {reading : Reading} {after : α → Reading} {outcome : Descent α least}

/-- A reading that concludes the same goes on in the same way. -/
theorem start {other : Reading} {given' : List Token}
    (goes : Goes tokens given reading after outcome)
    (same : other.conclude given' = reading.conclude given) :
    Goes tokens given' other after outcome := by
  cases goes with
  | on reached => exact .on (same.trans reached)
  | refused fails => exact .refused (same.trans fails)

theorem bind {after' : β → Reading}
    {follow : Reached α least → Descent β least'}
    (goes : Goes tokens given reading after outcome)
    (later : ∀ reached, Goes tokens (tokens.drop reached.next)
      (after reached.result) after' (follow reached)) :
    Goes tokens given reading after' (outcome >>= follow) := by
  cases goes with
  | on same => exact (later _).start same
  | refused fails => exact .refused fails

theorem since {position : Nat} {outcome : Descent α position}
    (goes : Goes tokens given reading after outcome)
    (le : least ≤ position) :
    Goes tokens given reading after
      (outcome >>= fun reached => pure (reached.since le)) :=
  goes.bind fun _ => .on rfl

end Goes

variable {tokens : List Token}

def DirectiveGoes (tokens : List Token) (position : Nat) : Prop :=
  ∀ blocks done, Goes tokens (tokens.drop position) ⟨blocks, done, none⟩
    (fun directive => ⟨blocks, done ++ [directive], none⟩)
    (descendDirective tokens position)

def LineGoes (tokens : List Token) (position : Nat) : Prop :=
  ∀ name arguments last blocks done, Goes tokens (tokens.drop position)
    ⟨blocks, done, some ⟨name, arguments, last⟩⟩
    (fun directive => ⟨blocks, done ++ [directive], none⟩)
    (descendLine tokens name arguments last position)

def BlockGoes (tokens : List Token) (position : Nat) : Prop :=
  ∀ (block : OpenBlock) outer done, Goes tokens (tokens.drop position)
    ⟨block :: outer, done, none⟩
    (fun inside => ⟨outer, block.before ++
      [.mk block.name block.arguments (some inside)], none⟩)
    (descendBlock tokens (some block.name.line) done position)

theorem drop_of_getElem? {position : Nat} {token : Token}
    (here : tokens[position]? = some token) :
    tokens.drop position = token :: tokens.drop (position + 1) := by
  rw [List.drop_eq_getElem?_toList_append, here]
  rfl

theorem drop_of_getElem?_none {position : Nat}
    (here : tokens[position]? = none) : tokens.drop position = [] :=
  List.drop_eq_nil_iff.mpr (List.getElem?_eq_none_iff.mp here)

/-- A block that is opened goes on behind its brace. -/
theorem goes_open {least position : Nat} (le : least ≤ position)
    (blockGoes : BlockGoes tokens position) (name : Token)
    (arguments : List Token) (blocks : List OpenBlock)
    (done : List Directive) :
    Goes tokens (tokens.drop position)
      ⟨⟨name, arguments, done⟩ :: blocks, [], none⟩
      (fun directive => ⟨blocks, done ++ [directive], none⟩)
      (do
        let ⟨block, next, further⟩ ←
          descendBlock tokens (some name.line) [] position
        return ⟨.mk name arguments (some block), next, le.trans further⟩ :
        Descent Directive least) :=
  (blockGoes ⟨name, arguments, done⟩ blocks []).bind fun _ => .on rfl

theorem goes_directive {position : Nat} {name : Token}
    (here : tokens[position]? = some name) (bare : name.is "\x7d" = false)
    (blockGoes : BlockGoes tokens (position + 1))
    (lineGoes : LineGoes tokens (position + 1)) :
    DirectiveGoes tokens position := by
  intro blocks done
  rw [descendDirective, drop_of_getElem? here]
  split
  · rename_i absent
    rw [here] at absent
    contradiction
  · rename_i name' here'
    obtain rfl : name = name' := Option.some.inj (here.symm.trans here')
    simp only
    split
    · rename_i brace
      refine (goes_open le_rfl blockGoes name [] blocks done).start ?_
      simp [Reading.conclude_cons, Reading.step, Reading.begin, bare, brace,
        Reading.openBlock]
    · rename_i plain
      refine (lineGoes name [] name.endLine blocks done).start ?_
      simp [Reading.conclude_cons, Reading.step, Reading.begin, bare, plain]

/-- Whether a descent goes on behind a token that stands here. -/
def GoesBehind (tokens : List Token) (position : Nat) : Prop :=
  ∀ token, tokens[position]? = some token → ∀ next, position < next →
    BlockGoes tokens next ∧ LineGoes tokens next

theorem goes_line {position : Nat} (behind : GoesBehind tokens position) :
    LineGoes tokens position := by
  intro name arguments last blocks done
  have stops (ended : ∀ token ∈ tokens[position]?,
      token.line ≠ last ∨ token.is "\x7d" = true) :
      Goes tokens (tokens.drop position)
        ⟨blocks, done, some ⟨name, arguments, last⟩⟩
        (fun directive => ⟨blocks, done ++ [directive], none⟩)
        (pure ⟨.mk name arguments none, position, le_rfl⟩) := by
    refine .on (Reading.conclude_endLine ?_).symm
    rintro token first unfinished ⟨⟩
    rw [List.head?_drop] at first
    exact ended token first
  rw [descendLine]
  split
  · rename_i here
    refine stops ?_
    simp [here]
  · rename_i token here
    simp only
    split
    · rename_i ended
      refine stops ?_
      simpa [here] using ended
    · rename_i goesOn
      obtain ⟨blockGoes, lineGoes⟩ :=
        behind token here _ position.lt_succ_self
      simp only [ne_eq, Bool.or_eq_true, decide_eq_true_eq, not_or,
        not_not, Bool.not_eq_true] at goesOn
      obtain ⟨sameLine, bare⟩ := goesOn
      rw [drop_of_getElem? here]
      split
      · rename_i brace
        refine (goes_open (Nat.le_succ position) blockGoes name arguments
          blocks done).start ?_
        simp [Reading.conclude_cons, Reading.step, sameLine, bare, brace,
          Reading.openBlock]
      · rename_i plain
        refine ((lineGoes name (arguments ++ [token]) token.endLine blocks
          done).since (Nat.le_succ position)).start ?_
        simp [Reading.conclude_cons, Reading.step, sameLine, bare, plain]

theorem goes_block {position : Nat} (behind : GoesBehind tokens position) :
    BlockGoes tokens position := by
  intro block outer done
  rw [descendBlock]
  split
  · rename_i here
    refine .refused ?_
    rw [drop_of_getElem?_none here]
    rfl
  · rename_i token here
    simp only
    split
    · rename_i close
      refine .on ?_
      rw [drop_of_getElem? here, Reading.conclude_cons,
        Reading.step_close close]
      simp [Reading.begin, close, Reading.endLine]
    · rename_i bare
      obtain ⟨blockGoes, lineGoes⟩ :=
        behind token here _ position.lt_succ_self
      have goes := goes_directive here (by simpa using bare) blockGoes
        lineGoes (block :: outer) done
      refine goes.bind ?_
      rintro ⟨directive, next, further⟩
      exact ((behind token here next further).1 block outer
        (done ++ [directive])).since _

/-- Wherever it starts, a descent into a block or along a line goes on as the
reading does. -/
theorem goes (tokens : List Token) (position : Nat) :
    BlockGoes tokens position ∧ LineGoes tokens position := by
  induction left : tokens.length - position using Nat.strong_induction_on
    generalizing position with
  | _ n ih =>
      subst left
      have behind : GoesBehind tokens position := by
        intro token here next later
        have inside := (List.getElem?_eq_some_iff.mp here).1
        exact ih (tokens.length - next) (by omega) next rfl
      exact ⟨goes_block behind, goes_line behind⟩

/-- Outside of any block the end of the tokens ends the directives. -/
theorem descendBlock_top (tokens : List Token) (position : Nat)
    (done : List Directive) :
    (descendBlock tokens none done position).map Reached.result =
      (Reading.conclude ⟨[], done, none⟩ (tokens.drop position)).mapError
        .refused := by
  induction left : tokens.length - position using Nat.strong_induction_on
    generalizing position done with
  | _ n ih =>
      subst left
      rw [descendBlock]
      split
      · rename_i here
        rw [drop_of_getElem?_none here]
        rfl
      · rename_i token here
        simp only
        split
        · rename_i close
          rw [drop_of_getElem? here, Reading.conclude_cons,
            Reading.step_close close, Reading.begin, if_pos close]
          rfl
        · rename_i bare
          have inside := (List.getElem?_eq_some_iff.mp here).1
          have goes := goes_directive here (by simpa using bare)
            (goes tokens _).1 (goes tokens _).2 [] done
          generalize descendDirective tokens position = first at goes
          cases goes with
          | @on reached same =>
              rw [same]
              have further := reached.further
              rw [← ih (tokens.length - reached.next) (by omega) _ _ rfl,
                pure_bind]
              cases descendBlock tokens none (done ++ [reached.result])
                  reached.next with
              | error halt => rfl
              | ok rest => rfl
          | refused fails =>
              rw [fails]
              rfl

/-- The descent takes no token behind the last one, and gives what reading one
token after another gives. -/
theorem descend_eq (tokens : List Token) :
    descend tokens = (directives tokens).mapError .refused := by
  have start : directives tokens =
      Reading.conclude ⟨[], [], none⟩ (tokens.drop 0) := rfl
  rw [start, ← descendBlock_top, descend]
  cases descendBlock tokens none [] 0 with
  | error halt => rfl
  | ok reached => rfl

end VirtualHosts.Site
