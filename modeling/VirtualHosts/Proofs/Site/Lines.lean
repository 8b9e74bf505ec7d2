import Mathlib
import VirtualHosts.Proofs.Site.Scanning

/-!
Texts that are read as whole directives.  Between two of them no line goes on,
so what was read before does not matter: the directives are added to the
innermost open block.
-/

namespace VirtualHosts.Site

namespace Reading

/-- Whether the line being read, if any, ended before this one. -/
def Settled (reading : Reading) (line : Nat) : Prop :=
  ∀ unfinished ∈ reading.line?, unfinished.endLine < line

def extend (reading : Reading) (added : List Directive) : Reading :=
  { reading with done := reading.done ++ added }

@[simp] theorem extend_nil (reading : Reading) : reading.extend [] = reading := by
  simp [extend]

@[simp] theorem extend_extend (reading : Reading)
    (added more : List Directive) :
    (reading.extend added).extend more = reading.extend (added ++ more) := by
  simp [extend]

@[simp] theorem line?_endLine (reading : Reading) :
    reading.endLine.line? = none := by
  rw [endLine]
  split
  · assumption
  · rfl

@[simp] theorem blocks_endLine (reading : Reading) :
    reading.endLine.blocks = reading.blocks := by
  rw [endLine]
  split <;> rfl

theorem endLine_eq_self {reading : Reading} (idle : reading.line? = none) :
    reading.endLine = reading := by
  simp [endLine, idle]

theorem endLine_of_idle {reading : Reading} (idle : reading.line? = none)
    (line : OpenLine) :
    endLine { reading with line? := some line } =
      reading.extend [.mk line.name line.arguments none] := by
  simp [endLine, extend, idle]

/-- A reading that is finished has no open block. -/
theorem finish_eq_ok {reading : Reading} {all : List Directive}
    (finished : reading.finish = .ok all) :
    reading.endLine = ⟨[], all, none⟩ := by
  obtain ⟨blocks, done, line?⟩ := reading
  cases blocks with
  | cons block outer => contradiction
  | nil =>
      cases finished
      cases line? with
      | none => rfl
      | some line => rfl

theorem finish_endLine (reading : Reading) :
    reading.endLine.finish = reading.finish := by
  rw [finish, finish, blocks_endLine, endLine_eq_self reading.line?_endLine]

/-- Whether the line being read, if any, ends before this token. -/
def EndsBefore (reading : Reading) (token : Token) : Prop :=
  ∀ unfinished ∈ reading.line?,
    token.line ≠ unfinished.endLine ∨ token.is "\x7d" = true

theorem step_ended {reading : Reading} {token : Token}
    (ended : reading.EndsBefore token) :
    reading.step token = reading.endLine.begin token := by
  rw [step]
  split
  · rename_i idle
    rw [endLine_eq_self idle]
  · rename_i unfinished current
    rcases ended unfinished current with apart | close
    · simp [apart]
    · simp [close]

/-- Any other token goes on with the line, or opens its block. -/
theorem step_goesOn {reading : Reading} {token : Token}
    (goesOn : ¬reading.EndsBefore token) :
    ∃ line, reading.line? = some line ∧ token.line = line.endLine ∧
      token.is "\x7d" = false ∧
      reading.step token =
        if token.is "\x7b" then
          .ok (reading.openBlock line.name line.arguments)
        else .ok { reading with
          line? := some
            ⟨line.name, line.arguments ++ [token], token.endLine⟩ } := by
  rw [EndsBefore] at goesOn
  push Not at goesOn
  obtain ⟨line, current, sameLine, bare⟩ := goesOn
  rw [ne_eq, Bool.not_eq_true] at bare
  refine ⟨line, current, sameLine, bare, ?_⟩
  simp [step, show reading.line? = some line from current, sameLine, bare]

/-- The next line begins a directive. -/
theorem step_settled {reading : Reading} {token : Token}
    (settled : reading.Settled token.line) :
    reading.step token = reading.endLine.begin token := by
  refine step_ended fun unfinished current => .inl ?_
  have := settled unfinished current
  omega

theorem step_close {reading : Reading} {token : Token}
    (close : token.is "\x7d" = true) :
    reading.step token = reading.endLine.begin token :=
  step_ended fun _ _ => .inr close

/-- What is read of these tokens when they are the last ones. -/
def conclude (reading : Reading) (given : List Token) :
    Except Error (List Directive) :=
  given.foldlM step reading >>= finish

theorem conclude_cons (reading : Reading) (token : Token)
    (rest : List Token) :
    reading.conclude (token :: rest) =
      reading.step token >>= fun next => next.conclude rest := by
  rw [conclude, List.foldlM_cons, bind_assoc]
  rfl

theorem conclude_append {reading next : Reading} {given : List Token}
    (read : given.foldlM step reading = .ok next) (rest : List Token) :
    reading.conclude (given ++ rest) = next.conclude rest := by
  rw [conclude, List.foldlM_append, read, ok_bind, conclude]

/-- It does not matter whether a line that ends there was ended before. -/
theorem conclude_endLine {reading : Reading} {rest : List Token}
    (ended : ∀ token ∈ rest.head?, reading.EndsBefore token) :
    reading.endLine.conclude rest = reading.conclude rest := by
  cases rest with
  | nil => exact finish_endLine reading
  | cons token rest =>
      have idle : reading.endLine.EndsBefore token := by
        intro unfinished current
        simp at current
      rw [conclude_cons, conclude_cons, step_ended idle,
        step_ended (ended token rfl),
        endLine_eq_self reading.line?_endLine]

end Reading

def Token.IsPart (token : Token) : Prop :=
  token.is "\x7b" = false ∧ token.is "\x7d" = false

theorem not_close_of_open {token : Token} (brace : token.is "\x7b" = true) :
    token.is "\x7d" = false := by
  simp only [Token.is, Bool.and_eq_true, Bool.not_eq_true',
    decide_eq_true_eq] at brace
  simp [Token.is, brace]

theorem not_open_of_close {token : Token} (brace : token.is "\x7d" = true) :
    token.is "\x7b" = false := by
  rw [Bool.eq_false_iff]
  intro opening
  simp [not_close_of_open opening] at brace

/-- Tokens that go on with a line, each where the one before it ended. -/
inductive OnLine : Nat → List Token → Nat → Prop
  | nil (line : Nat) : OnLine line [] line
  | cons {token : Token} {rest : List Token} {last : Nat}
      (part : token.IsPart) (onLine : OnLine token.endLine rest last) :
      OnLine token.line (token :: rest) last

theorem OnLine.foldlM_step {line last : Nat} {given : List Token}
    (onLine : OnLine line given last) (blocks : List OpenBlock)
    (done : List Directive) (name : Token) (before : List Token) :
    given.foldlM Reading.step ⟨blocks, done, some ⟨name, before, line⟩⟩ =
      .ok ⟨blocks, done, some ⟨name, before ++ given, last⟩⟩ := by
  induction onLine generalizing before with
  | nil line =>
      rw [List.append_nil]
      rfl
  | @cons token rest last part _ ih =>
      have taken : Reading.step
          ⟨blocks, done, some ⟨name, before, token.line⟩⟩ token =
          .ok ⟨blocks, done,
            some ⟨name, before ++ [token], token.endLine⟩⟩ := by
        simp [Reading.step, part.1, part.2]
      rw [List.foldlM_cons, taken, ok_bind, ih]
      simp

/-- Reading `s` from the beginning of `line` adds these directives and stops at
the beginning of `next`. -/
def Adds (line : Nat) (s : List Char) (added : List Directive) (next : Nat) :
    Prop :=
  ∃ given, Yields line s given next ∧
    ∀ reading : Reading, reading.Settled line →
      ∃ after, given.foldlM Reading.step reading = .ok after ∧
        after.Settled next ∧ after.endLine = reading.endLine.extend added

namespace Adds

theorem nil (line : Nat) : Adds line [] [] line := by
  refine ⟨[], .nil line, ?_⟩
  intro reading settled
  exact ⟨reading, rfl, settled, by simp⟩

theorem append {line middle next : Nat} {s t : List Char}
    {added more : List Directive} (first : Adds line s added middle)
    (second : Adds middle t more next) :
    Adds line (s ++ t) (added ++ more) next := by
  obtain ⟨given, yields, steps⟩ := first
  obtain ⟨given', yields', steps'⟩ := second
  refine ⟨given ++ given', yields.append yields', ?_⟩
  intro reading settled
  obtain ⟨between, read, settled, extended⟩ := steps reading settled
  obtain ⟨after, read', settled', extended'⟩ := steps' between settled
  refine ⟨after, ?_, settled', ?_⟩
  · rw [List.foldlM_append, read]
    exact read'
  · rw [extended', extended, Reading.extend_extend]

end Adds

theorem foldlM_step_line {reading : Reading} {name : Token}
    {given : List Token} {last : Nat}
    (settled : reading.Settled name.line) (part : name.IsPart)
    (onLine : OnLine name.endLine given last) :
    (name :: given).foldlM Reading.step reading =
      .ok { reading.endLine with line? := some ⟨name, given, last⟩ } := by
  have begun : reading.endLine.begin name =
      .ok { reading.endLine with line? := some ⟨name, [], name.endLine⟩ } := by
    simp [Reading.begin, part.1, part.2]
  rw [List.foldlM_cons, Reading.step_settled settled, begun, ok_bind,
    onLine.foldlM_step]
  rfl

theorem adds_line {next last : Nat} {s : List Char} {name : Token}
    {given : List Token} (yields : Yields name.line s (name :: given) next)
    (part : name.IsPart) (onLine : OnLine name.endLine given last)
    (ends : last < next) :
    Adds name.line s [.mk name given none] next := by
  refine ⟨name :: given, yields, ?_⟩
  intro reading settled
  refine ⟨_, foldlM_step_line settled part onLine, ?_, ?_⟩
  · intro unfinished current
    cases current
    exact ends
  · exact Reading.endLine_of_idle reading.line?_endLine _

/-- A directive with a block: the line that opens it, the directives inside,
and the brace that closes it. -/
theorem adds_block {last middle bottom next : Nat}
    {head inside tail : List Char} {name opening closing : Token}
    {given : List Token} {block : List Directive}
    (opens : Yields name.line head (name :: given ++ [opening]) middle)
    (part : name.IsPart) (onLine : OnLine name.endLine given last)
    (brace : opening.is "\x7b" = true) (sameLine : opening.line = last)
    (inner : Adds middle inside block bottom)
    (closes : Yields bottom tail [closing] next)
    (closed : closing.is "\x7d" = true) :
    Adds name.line (head ++ (inside ++ tail)) [.mk name given (some block)]
      next := by
  obtain ⟨body, yields, steps⟩ := inner
  refine ⟨name :: given ++ [opening] ++ (body ++ [closing]),
    opens.append (yields.append closes), ?_⟩
  intro reading settled
  -- A block begins with nothing read, so what comes before it is untouched.
  have opened : Reading.step
      { reading.endLine with line? := some ⟨name, given, last⟩ } opening =
      .ok (reading.endLine.openBlock name given) := by
    simp [Reading.step, sameLine, not_close_of_open brace, brace,
      Reading.openBlock]
  obtain ⟨full, read, _, extended⟩ :=
    steps (reading.endLine.openBlock name given) (by
      intro unfinished current
      contradiction)
  have shape : full.endLine =
      ⟨⟨name, given, reading.endLine.done⟩ :: reading.endLine.blocks,
        block, none⟩ := extended
  have finished : full.step closing =
      .ok (reading.endLine.extend [.mk name given (some block)]) := by
    rw [Reading.step_close closed, shape, Reading.begin, if_pos closed]
    simp [Reading.extend]
  refine ⟨reading.endLine.extend [.mk name given (some block)], ?_, ?_, ?_⟩
  · rw [List.foldlM_append, List.foldlM_append, foldlM_step_line settled part
      onLine, ok_bind, List.foldlM_cons, opened]
    simp only [List.foldlM_nil, ok_bind, pure_bind, List.foldlM_append, read,
      List.foldlM_cons, finished]
    rfl
  · intro unfinished current
    simp [Reading.extend] at current
  · apply Reading.endLine_eq_self
    simp [Reading.extend]

end VirtualHosts.Site
