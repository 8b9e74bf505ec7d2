import Mathlib
import VirtualHosts.Proofs.Site.Lines

/-!
How directives lie in their tokens.  A directive takes its name and the longest
run of tokens that goes on with its line, and a block takes everything between
its braces.  Reading accepts exactly the tokens that some directives lie in, and
gives back those.
-/

namespace VirtualHosts.Site

/-- What opens a block: a name with its line up to a brace, or a brace that no
line goes before. -/
inductive OpensBlock (name : Token) : List Token → List Token → Prop
  | line {arguments : List Token} {last : Nat} {opening : Token}
      (part : name.IsPart) (onLine : OnLine name.endLine arguments last)
      (sameLine : opening.line = last) (brace : opening.is "\x7b" = true) :
      OpensBlock name arguments (name :: arguments ++ [opening])
  | alone (brace : name.is "\x7b" = true) : OpensBlock name [] [name]

/-- Directives, the tokens they lie in, and the token that follows, if any.  A
line is as long as it can be: what follows it starts elsewhere or closes a
block. -/
inductive Laid : List Directive → List Token → Option Token → Prop
  | nil (next? : Option Token) : Laid [] [] next?
  | line {earlier : List Directive} {front arguments : List Token}
      {name : Token} {last : Nat} {next? : Option Token}
      (before : Laid earlier front (some name)) (part : name.IsPart)
      (onLine : OnLine name.endLine arguments last)
      (longest : ∀ next ∈ next?, next.line ≠ last ∨ next.is "\x7d" = true) :
      Laid (earlier ++ [.mk name arguments none]) (front ++ name :: arguments)
        next?
  | block {earlier inside : List Directive}
      {front arguments head body : List Token} {name closing : Token}
      {next? : Option Token} (before : Laid earlier front (some name))
      (opens : OpensBlock name arguments head)
      (inner : Laid inside body (some closing))
      (close : closing.is "\x7d" = true) :
      Laid (earlier ++ [.mk name arguments (some inside)])
        (front ++ (head ++ (body ++ [closing]))) next?

/-! What lies in tokens is read from them. -/

theorem OpensBlock.head?_eq {name : Token} {arguments head : List Token}
    (opens : OpensBlock name arguments head) : head.head? = some name := by
  cases opens <;> rfl

theorem OpensBlock.foldlM_step {name : Token} {arguments head : List Token}
    (opens : OpensBlock name arguments head) (blocks : List OpenBlock)
    (done : List Directive) :
    head.foldlM Reading.step ⟨blocks, done, none⟩ =
      .ok ⟨⟨name, arguments, done⟩ :: blocks, [], none⟩ := by
  cases opens with
  | @line _ last opening part onLine sameLine brace =>
      have settled : Reading.Settled ⟨blocks, done, none⟩ name.line := by
        rintro _ ⟨⟩
      have read := foldlM_step_line settled part onLine
      rw [List.foldlM_append, read, ok_bind, List.foldlM_cons]
      simp [Reading.step, Reading.endLine, sameLine, brace,
        not_close_of_open brace, Reading.openBlock]
  | alone brace =>
      rw [List.foldlM_cons]
      simp [Reading.step, Reading.begin, brace, not_close_of_open brace,
        Reading.openBlock]

theorem Laid.conclude_append {added : List Directive} {given : List Token}
    {next? : Option Token} (laid : Laid added given next?)
    (blocks : List OpenBlock) (done : List Directive) {rest : List Token}
    (follows : rest.head? = next?) :
    Reading.conclude ⟨blocks, done, none⟩ (given ++ rest) =
      Reading.conclude ⟨blocks, done ++ added, none⟩ rest := by
  induction laid generalizing blocks done rest with
  | nil => rw [List.nil_append, List.append_nil]
  | @line earlier front arguments name last next? _ part onLine longest ih =>
      have settled : Reading.Settled ⟨blocks, done ++ earlier, none⟩
          name.line := by
        rintro _ ⟨⟩
      have read := foldlM_step_line settled part onLine
      rw [List.append_assoc, ih blocks done rfl, Reading.conclude_append read,
        ← Reading.conclude_endLine, ← List.append_assoc]
      · rfl
      · rintro next first unfinished ⟨⟩
        rw [follows] at first
        exact longest next first
  | @block earlier inside front arguments head body name closing next? _
      opens _ close ih inner =>
      have shape : front ++ (head ++ (body ++ [closing])) ++ rest =
          front ++ (head ++ (body ++ closing :: rest)) := by
        simp
      have first : (head ++ (body ++ closing :: rest)).head? = some name := by
        rw [List.head?_append, opens.head?_eq]
        rfl
      rw [shape, ih blocks done first,
        Reading.conclude_append (opens.foldlM_step blocks _),
        inner _ [] rfl, Reading.conclude_cons, Reading.step_close close]
      simp [Reading.endLine, Reading.begin, close]

/-! What is read lies in the tokens. -/

theorem OnLine.concat {line last : Nat} {given : List Token} {token : Token}
    (onLine : OnLine line given last) (part : token.IsPart)
    (sameLine : token.line = last) :
    OnLine line (given ++ [token]) token.endLine := by
  induction onLine with
  | nil line =>
      subst sameLine
      exact .cons part (.nil token.endLine)
  | cons part' _ ih => exact .cons part' (ih sameLine)

/-- The tokens of open blocks, innermost first, and of what is complete in the
innermost one. -/
inductive Nested :
    List OpenBlock → List Directive → List Token → Option Token → Prop
  | outermost {done : List Directive} {given : List Token}
      {next? : Option Token} (laid : Laid done given next?) :
      Nested [] done given next?
  | inside {blocks : List OpenBlock} {before done : List Directive}
      {front arguments head body : List Token} {name : Token}
      {next? : Option Token} (outer : Nested blocks before front (some name))
      (opens : OpensBlock name arguments head)
      (laid : Laid done body next?) :
      Nested (⟨name, arguments, before⟩ :: blocks) done
        (front ++ (head ++ body)) next?

theorem Nested.line {blocks : List OpenBlock} {done : List Directive}
    {front arguments : List Token} {name : Token} {last : Nat}
    {next? : Option Token} (nested : Nested blocks done front (some name))
    (part : name.IsPart) (onLine : OnLine name.endLine arguments last)
    (longest : ∀ next ∈ next?, next.line ≠ last ∨ next.is "\x7d" = true) :
    Nested blocks (done ++ [.mk name arguments none])
      (front ++ name :: arguments) next? := by
  cases nested with
  | outermost laid => exact .outermost (.line laid part onLine longest)
  | inside outer opens laid =>
      rw [List.append_assoc, List.append_assoc]
      exact .inside outer opens (.line laid part onLine longest)

theorem Nested.close {block : OpenBlock} {blocks : List OpenBlock}
    {done : List Directive} {given : List Token} {closing : Token}
    (nested : Nested (block :: blocks) done given (some closing))
    (close : closing.is "\x7d" = true) (next? : Option Token) :
    Nested blocks
      (block.before ++ [.mk block.name block.arguments (some done)])
      (given ++ [closing]) next? := by
  cases nested with
  | inside outer opens laid =>
      rw [List.append_assoc, List.append_assoc]
      cases outer with
      | outermost laid' => exact .outermost (.block laid' opens laid close)
      | inside outer' opens' laid' =>
          rw [List.append_assoc, List.append_assoc]
          exact .inside outer' opens' (.block laid' opens laid close)

namespace Reading

/-- What a reading knows of the tokens it has taken. -/
inductive Reads : Reading → List Token → Prop
  | between {blocks : List OpenBlock} {done : List Directive}
      {given : List Token}
      (nested : ∀ next?, Nested blocks done given next?) :
      Reads ⟨blocks, done, none⟩ given
  | onLine {blocks : List OpenBlock} {done : List Directive}
      {front arguments : List Token} {name : Token} {last : Nat}
      (nested : Nested blocks done front (some name)) (part : name.IsPart)
      (onLine : OnLine name.endLine arguments last) :
      Reads ⟨blocks, done, some ⟨name, arguments, last⟩⟩
        (front ++ name :: arguments)

variable {reading next : Reading} {given : List Token} {token : Token}

theorem Reads.nested_endLine (reads : reading.Reads given)
    {next? : Option Token}
    (ended : ∀ token ∈ next?, reading.EndsBefore token) :
    Nested reading.endLine.blocks reading.endLine.done given next? := by
  cases reads with
  | between nested => exact nested next?
  | onLine nested part onLine =>
      exact nested.line part onLine fun token follows =>
        ended token follows _ rfl

theorem reads_begin (idle : reading.line? = none)
    (nested : Nested reading.blocks reading.done given (some token))
    (begun : reading.begin token = .ok next) :
    next.Reads (given ++ [token]) := by
  obtain ⟨blocks, done, line?⟩ := reading
  cases idle
  unfold begin at begun
  split at begun
  · rename_i close
    cases blocks with
    | nil => contradiction
    | cons block outer =>
        cases begun
        exact .between (nested.close close)
  · rename_i notClose
    split at begun
    · rename_i brace
      cases begun
      have opened (next? : Option Token) :=
        Nested.inside nested (.alone brace) (.nil next?)
      exact .between opened
    · rename_i notOpen
      cases begun
      have part : token.IsPart := by
        simpa [Token.IsPart] using And.intro notOpen notClose
      exact .onLine nested part (.nil token.endLine)

theorem reads_step (reads : reading.Reads given)
    (taken : reading.step token = .ok next) :
    next.Reads (given ++ [token]) := by
  by_cases ended : reading.EndsBefore token
  · rw [step_ended ended] at taken
    refine reads_begin reading.line?_endLine ?_ taken
    exact reads.nested_endLine (by rintro _ ⟨⟩; exact ended)
  · cases reads with
    | between nested => exact absurd (by rintro _ ⟨⟩) ended
    | onLine nested part onLine =>
        obtain ⟨_, ⟨⟩, sameLine, bare, goesOn⟩ := step_goesOn ended
        rw [goesOn] at taken
        rw [List.append_assoc]
        split at taken
        · rename_i brace
          cases taken
          have opened (next? : Option Token) :=
            Nested.inside nested (.line part onLine sameLine brace)
              (.nil next?)
          refine .between ?_
          simpa using opened
        · rename_i notOpen
          cases taken
          have isPart : token.IsPart := ⟨by simpa using notOpen, bare⟩
          exact .onLine nested part (onLine.concat isPart sameLine)

theorem reads_foldlM_step {taken : List Token} (reads : reading.Reads taken)
    (read : given.foldlM step reading = .ok next) :
    next.Reads (taken ++ given) := by
  induction given generalizing reading taken with
  | nil =>
      cases read
      rwa [List.append_nil]
  | cons token rest ih =>
      rw [List.foldlM_cons] at read
      obtain ⟨middle, first, read⟩ := bind_eq_ok_iff.mp read
      have later := ih (reads_step reads first) read
      rwa [List.append_assoc] at later

theorem reads_of_start (read : given.foldlM step start = .ok next) :
    next.Reads given :=
  reads_foldlM_step (.between fun next? => .outermost (.nil next?)) read

end Reading

/-- Reading gives the directives that the tokens lie in, and no others. -/
theorem directives_eq_ok_iff {given : List Token} {all : List Directive} :
    directives given = .ok all ↔ Laid all given none := by
  constructor
  · intro read
    obtain ⟨reading, taken, finished⟩ := bind_eq_ok_iff.mp read
    have nested : Nested reading.endLine.blocks reading.endLine.done given
        none :=
      (Reading.reads_of_start taken).nested_endLine (by rintro _ ⟨⟩)
    rw [Reading.finish_eq_ok finished] at nested
    cases nested with
    | outermost laid => exact laid
  · intro laid
    have last : ([] : List Token).head? = none := rfl
    have concluded := laid.conclude_append [] [] last
    rw [List.append_nil] at concluded
    exact concluded

/-! Nothing is lost. -/

/-- A token, or a brace wherever it stands. -/
inductive Piece where
  | token (token : Token)
  | opening
  | closing
  deriving DecidableEq

def Token.piece (token : Token) : Piece :=
  if token.is "\x7b" then .opening
  else if token.is "\x7d" then .closing
  else .token token

mutual

/-- A directive written out again; the brace of a block without a name is its
name. -/
def Directive.flatten : Directive → List Piece
  | .mk name arguments none => name.piece :: arguments.map Token.piece
  | .mk name arguments (some block) =>
      let opening := if name.is "\x7b" then [] else [Piece.opening]
      name.piece :: arguments.map Token.piece ++ opening ++
        flattenAll block ++ [.closing]

def flattenAll : List Directive → List Piece
  | [] => []
  | directive :: rest => directive.flatten ++ flattenAll rest

end

theorem flattenAll_append (directives more : List Directive) :
    flattenAll (directives ++ more) =
      flattenAll directives ++ flattenAll more := by
  induction directives with
  | nil => rfl
  | cons directive rest ih => simp [flattenAll, ih]

theorem piece_of_open {token : Token} (brace : token.is "\x7b" = true) :
    token.piece = .opening := by
  rw [Token.piece, if_pos brace]

theorem piece_of_close {token : Token} (brace : token.is "\x7d" = true) :
    token.piece = .closing := by
  simp [Token.piece, brace, not_open_of_close brace]

theorem OpensBlock.flatten_eq {name : Token} {arguments head : List Token}
    (opens : OpensBlock name arguments head) (block : List Directive) :
    (Directive.mk name arguments (some block)).flatten =
      head.map Token.piece ++ (flattenAll block ++ [.closing]) := by
  cases opens with
  | line part _ _ brace =>
      simp [Directive.flatten, part.1, piece_of_open brace]
  | alone brace => simp [Directive.flatten, brace]

theorem Laid.flattenAll_eq {all : List Directive} {given : List Token}
    {next? : Option Token} (laid : Laid all given next?) :
    flattenAll all = given.map Token.piece := by
  induction laid with
  | nil => rfl
  | line _ _ _ _ ih =>
      rw [flattenAll_append, ih]
      simp [flattenAll, Directive.flatten]
  | block _ opens _ close ih inner =>
      rw [flattenAll_append, ih]
      simp [flattenAll, opens.flatten_eq, inner, piece_of_close close]

end VirtualHosts.Site
