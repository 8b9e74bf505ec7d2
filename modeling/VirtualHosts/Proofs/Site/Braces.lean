import Mathlib
import VirtualHosts.Proofs.Site.Descent
import VirtualHosts.Proofs.Site.Grammar

/-!
Balanced braces.  Tokens have directives exactly if every closing brace has an
opening one before it and none is left over.  Otherwise the first closing brace
without an opening one is to blame, or else the directive whose block is the
innermost one that is never closed.
-/

namespace VirtualHosts.Site

def opens (given : List Token) : Nat :=
  given.countP (·.is "\x7b")

def closes (given : List Token) : Nat :=
  given.countP (·.is "\x7d")

/-- Whether every closing brace has an opening one before it. -/
def NeverDips (given : List Token) : Prop :=
  ∀ front, front <+: given → closes front ≤ opens front

structure Balanced (given : List Token) : Prop where
  neverDips : NeverDips given
  even : closes given = opens given

/-- Whether a token after these begins a directive: the one before it, if any,
is a brace or ended on another line. -/
def Starts (front : List Token) (token : Token) : Prop :=
  ∀ last ∈ front.getLast?, last.IsPart → token.line ≠ last.endLine

/-- The first closing brace that closes nothing. -/
def FirstUnmatched (given : List Token) (closing : Token) : Prop :=
  closing.is "\x7d" = true ∧
    ∃ front rest, given = front ++ closing :: rest ∧ Balanced front

/-- The name of the directive whose block is the innermost one left open. -/
def InnermostOpen (given : List Token) (name : Token) : Prop :=
  ∃ front arguments head body, given = front ++ (head ++ body) ∧
    NeverDips front ∧ Starts front name ∧ OpensBlock name arguments head ∧
    Balanced body

@[simp] theorem opens_append (given more : List Token) :
    opens (given ++ more) = opens given + opens more :=
  List.countP_append

@[simp] theorem closes_append (given more : List Token) :
    closes (given ++ more) = closes given + closes more :=
  List.countP_append

/-! What a token does to the open blocks. -/

inductive Moves (token : Token) (blocks : List OpenBlock) :
    List OpenBlock → Prop
  | stays (part : token.IsPart) : Moves token blocks blocks
  | opens (brace : token.is "\x7b" = true) (block : OpenBlock) :
      Moves token blocks (block :: blocks)
  | closes {outer : List OpenBlock} {block : OpenBlock}
      (brace : token.is "\x7d" = true) (shape : blocks = block :: outer) :
      Moves token blocks outer

namespace Reading

variable {reading next : Reading} {given : List Token} {token : Token}

theorem moves_begin (begun : reading.begin token = .ok next) :
    Moves token reading.blocks next.blocks := by
  unfold begin at begun
  split at begun
  · rename_i close
    split at begun
    · contradiction
    · rename_i shape
      cases begun
      exact .closes close shape
  · rename_i notClose
    split at begun
    · rename_i brace
      cases begun
      exact .opens brace _
    · rename_i notOpen
      cases begun
      exact .stays ⟨by simpa using notOpen, by simpa using notClose⟩

theorem moves_step (taken : reading.step token = .ok next) :
    Moves token reading.blocks next.blocks := by
  by_cases ended : reading.EndsBefore token
  · rw [step_ended ended] at taken
    have moves := moves_begin taken
    rwa [blocks_endLine] at moves
  · obtain ⟨line, _, _, bare, goesOn⟩ := step_goesOn ended
    rw [goesOn] at taken
    split at taken
    · rename_i brace
      cases taken
      exact .opens brace _
    · rename_i notOpen
      cases taken
      exact .stays ⟨by simpa using notOpen, bare⟩

/-- Only a closing brace outside of any block is refused. -/
theorem step_eq_error_iff {error : Error} :
    reading.step token = .error error ↔
      token.is "\x7d" = true ∧ reading.blocks = [] ∧
        error = .syntaxAt token.line .unexpectedClose := by
  by_cases ended : reading.EndsBefore token
  · rw [step_ended ended, begin, blocks_endLine]
    split
    · rename_i close
      cases shape : reading.blocks with
      | nil => simp [close, eq_comm]
      | cons block outer => simp
    · rename_i notClose
      split <;> simp [notClose]
  · obtain ⟨line, _, _, bare, goesOn⟩ := step_goesOn ended
    rw [goesOn]
    split <;> simp [bare]

theorem depth_step (taken : reading.step token = .ok next) :
    next.blocks.length + closes [token] =
      reading.blocks.length + opens [token] := by
  have moves := moves_step taken
  generalize next.blocks = after at moves ⊢
  cases moves with
  | stays part => simp [opens, closes, part.1, part.2]
  | opens brace block =>
      simp [opens, closes, brace, not_close_of_open brace]
  | closes brace shape =>
      simp [opens, closes, brace, shape, not_open_of_close brace]

theorem depth_foldlM_step (read : given.foldlM step reading = .ok next) :
    next.blocks.length + closes given =
      reading.blocks.length + opens given := by
  induction given generalizing reading with
  | nil =>
      cases read
      rfl
  | cons token rest ih =>
      rw [List.foldlM_cons] at read
      obtain ⟨middle, first, read⟩ := bind_eq_ok_iff.mp read
      have here := depth_step first
      have later := ih read
      rw [← List.singleton_append, closes_append, opens_append]
      omega

theorem dips_foldlM_step (read : given.foldlM step reading = .ok next)
    {front : List Token} (isPrefix : front <+: given) :
    closes front ≤ reading.blocks.length + opens front := by
  obtain ⟨rest, rfl⟩ := isPrefix
  rw [List.foldlM_append] at read
  obtain ⟨middle, first, _⟩ := bind_eq_ok_iff.mp read
  have depth := depth_foldlM_step first
  omega

/-- As long as no more is closed than was open, nothing is refused. -/
theorem exists_foldlM_step
    (never : ∀ front, front <+: given →
      closes front ≤ reading.blocks.length + opens front) :
    ∃ next, given.foldlM step reading = .ok next := by
  induction given generalizing reading with
  | nil => exact ⟨reading, rfl⟩
  | cons token rest ih =>
      rw [List.foldlM_cons]
      cases taken : reading.step token with
      | error error =>
          obtain ⟨close, outside, _⟩ := step_eq_error_iff.mp taken
          have dips := never [token] (by simp)
          simp [closes, opens, close, outside, not_open_of_close close] at dips
      | ok middle =>
          refine ih ?_
          intro front isPrefix
          have dips := never (token :: front) (by simpa using isPrefix)
          have depth := depth_step taken
          rw [← List.singleton_append, closes_append, opens_append] at dips
          omega

/-- What was open before stays open as long as no more is closed than
opened. -/
theorem suffix_foldlM_step (read : given.foldlM step reading = .ok next)
    (never : NeverDips given) : reading.blocks <:+ next.blocks := by
  induction given using List.reverseRecOn generalizing next with
  | nil =>
      cases read
      exact List.suffix_rfl
  | append_singleton front token ih =>
      have depth := depth_foldlM_step read
      have dips := never _ List.prefix_rfl
      rw [List.foldlM_append] at read
      obtain ⟨middle, first, read⟩ := bind_eq_ok_iff.mp read
      rw [List.foldlM_cons] at read
      obtain ⟨last, taken, read⟩ := bind_eq_ok_iff.mp read
      cases read
      have kept := ih first fun part isPrefix =>
        never part (isPrefix.trans (List.prefix_append front [token]))
      have moves := moves_step taken
      generalize next.blocks = after at moves depth ⊢
      cases moves with
      | stays _ => exact kept
      | opens _ block => exact kept.trans (List.suffix_cons block _)
      | closes _ shape =>
          rw [shape] at kept
          refine (List.suffix_cons_iff.mp kept).resolve_left fun whole => ?_
          have length := congrArg List.length whole
          simp only [List.length_cons] at length
          omega

theorem blocks_of_balanced (read : given.foldlM step reading = .ok next)
    (balanced : Balanced given) : next.blocks = reading.blocks := by
  have depth := depth_foldlM_step read
  have even := balanced.even
  have kept := suffix_foldlM_step read balanced.neverDips
  exact (kept.eq_of_length (by omega)).symm

theorem exists_of_neverDips (never : NeverDips given) (reading : Reading) :
    ∃ next, given.foldlM step reading = .ok next := by
  refine exists_foldlM_step fun front isPrefix => ?_
  have dips := never front isPrefix
  omega

/-- Braces are balanced exactly if reading them closes whatever it opens. -/
theorem balanced_iff :
    Balanced given ↔
      ∃ next, given.foldlM step start = .ok next ∧ next.blocks = [] := by
  constructor
  · intro balanced
    obtain ⟨next, read⟩ := exists_of_neverDips balanced.neverDips start
    exact ⟨next, read, blocks_of_balanced read balanced⟩
  · rintro ⟨next, read, outside⟩
    have depth := depth_foldlM_step read
    refine ⟨fun front isPrefix => ?_, ?_⟩
    · simpa [start] using dips_foldlM_step read isPrefix
    · simpa [outside, start] using depth

theorem finish_eq_error_iff {error : Error} :
    reading.finish = .error error ↔
      ∃ block outer, reading.blocks = block :: outer ∧
        error = .syntaxAt block.name.line .blockNeverClosed := by
  rw [finish]
  cases reading.blocks with
  | nil => simp
  | cons block outer => simp [eq_comm]

end Reading

theorem exists_directives_iff {given : List Token} :
    (∃ all, directives given = .ok all) ↔ Balanced given := by
  rw [Reading.balanced_iff]
  constructor
  · rintro ⟨all, read⟩
    obtain ⟨next, taken, finished⟩ := bind_eq_ok_iff.mp read
    refine ⟨next, taken, ?_⟩
    rw [← Reading.blocks_endLine, Reading.finish_eq_ok finished]
  · rintro ⟨next, taken, outside⟩
    refine ⟨next.endLine.done, bind_eq_ok_iff.mpr ⟨next, taken, ?_⟩⟩
    rw [Reading.finish, outside]

/-! Where a directive begins. -/

/-- The line of a directive ends with its last token. -/
theorem OnLine.starts_iff {front arguments : List Token}
    {name token : Token} {line last : Nat} (part : name.IsPart)
    (sameLine : name.endLine = line) (onLine : OnLine line arguments last) :
    Starts (front ++ name :: arguments) token ↔ token.line ≠ last := by
  induction onLine generalizing front name with
  | nil line => simp [Starts, part, sameLine]
  | cons part' _ ih =>
      rw [List.append_cons]
      exact ih part' rfl

theorem starts_of_brace {front : List Token} {brace : Token}
    (notPart : ¬brace.IsPart) (token : Token) :
    Starts (front ++ [brace]) token := by
  simp [Starts, notPart]

theorem OpensBlock.starts {name : Token} {arguments head : List Token}
    (opens : OpensBlock name arguments head) (front : List Token)
    (token : Token) : Starts (front ++ head) token := by
  cases opens with
  | line _ _ _ brace =>
      rw [← List.append_assoc]
      exact starts_of_brace (by simp [Token.IsPart, brace]) token
  | alone brace =>
      exact starts_of_brace (by simp [Token.IsPart, brace]) token

theorem Laid.starts {all : List Directive} {front given : List Token}
    {token : Token} (laid : Laid all given (some token))
    (bare : token.is "\x7d" = false) (inside : Starts front token) :
    Starts (front ++ given) token := by
  cases laid with
  | nil => rwa [List.append_nil]
  | line _ part onLine longest =>
      rw [← List.append_assoc]
      have apart := longest token rfl
      exact (onLine.starts_iff part rfl).mpr (by simpa [bare] using apart)
  | block _ _ _ close =>
      simp only [← List.append_assoc]
      exact starts_of_brace (by simp [Token.IsPart, close]) token

theorem Nested.starts {blocks : List OpenBlock} {done : List Directive}
    {given : List Token} {token : Token}
    (nested : Nested blocks done given (some token))
    (bare : token.is "\x7d" = false) : Starts given token := by
  cases nested with
  | outermost laid =>
      have inside : Starts [] token := by simp [Starts]
      exact laid.starts bare inside
  | inside _ opens laid =>
      rw [← List.append_assoc]
      exact laid.starts bare (opens.starts _ token)

theorem Reading.Reads.endsBefore {reading : Reading} {given : List Token}
    {token : Token} (reads : reading.Reads given)
    (starts : Starts given token) : reading.EndsBefore token := by
  cases reads with
  | between _ =>
      rintro _ ⟨⟩
  | onLine _ part onLine =>
      rintro _ ⟨⟩
      exact .inl ((onLine.starts_iff part rfl).mp starts)

theorem OpensBlock.not_close {name : Token} {arguments head : List Token}
    (opens : OpensBlock name arguments head) : name.is "\x7d" = false := by
  cases opens with
  | line part _ _ _ => exact part.2
  | alone brace => exact not_close_of_open brace

/-! What is to blame. -/

theorem foldlM_step_eq_error_iff {given : List Token} {error : Error} :
    given.foldlM Reading.step Reading.start = .error error ↔
      ∃ closing, FirstUnmatched given closing ∧
        error = .syntaxAt closing.line .unexpectedClose := by
  rw [foldlM_eq_error_iff]
  constructor
  · rintro ⟨front, closing, rest, middle, rfl, read, refused⟩
    obtain ⟨close, outside, rfl⟩ := Reading.step_eq_error_iff.mp refused
    exact ⟨closing, ⟨close, front, rest, rfl,
      Reading.balanced_iff.mpr ⟨middle, read, outside⟩⟩, rfl⟩
  · rintro ⟨closing, ⟨close, front, rest, rfl, balanced⟩, rfl⟩
    obtain ⟨middle, read, outside⟩ := Reading.balanced_iff.mp balanced
    exact ⟨front, closing, rest, middle, rfl, read,
      Reading.step_eq_error_iff.mpr ⟨close, outside, rfl⟩⟩

theorem innermostOpen_of_blocks {given : List Token} {next : Reading}
    {block : OpenBlock} {outer : List OpenBlock}
    (read : given.foldlM Reading.step Reading.start = .ok next)
    (shape : next.blocks = block :: outer) :
    InnermostOpen given block.name := by
  have nested : Nested next.endLine.blocks next.endLine.done given none :=
    (Reading.reads_of_start read).nested_endLine (by rintro _ ⟨⟩)
  rw [Reading.blocks_endLine, shape] at nested
  cases nested with
  | @inside _ _ _ front arguments head body name _ outer opens laid =>
      have balanced : Balanced body :=
        exists_directives_iff.mp ⟨_, directives_eq_ok_iff.mpr laid⟩
      have never : NeverDips front := by
        intro part isPrefix
        have dips := Reading.dips_foldlM_step read
          (isPrefix.trans (List.prefix_append front _))
        simpa [Reading.start] using dips
      exact ⟨front, arguments, head, body, rfl, never,
        outer.starts opens.not_close, opens, balanced⟩

theorem directives_of_innermostOpen {given : List Token} {name : Token}
    (isOpen : InnermostOpen given name) :
    directives given = .error (.syntaxAt name.line .blockNeverClosed) := by
  obtain ⟨front, arguments, head, body, rfl, never, starts, opens, balanced⟩ :=
    isOpen
  obtain ⟨before, read⟩ := Reading.exists_of_neverDips never Reading.start
  have ended := (Reading.reads_of_start read).endsBefore starts
  have first : (head ++ body).head? = some name := by
    rw [List.head?_append, opens.head?_eq]
    rfl
  have opened := opens.foldlM_step before.endLine.blocks before.endLine.done
  obtain ⟨next, inner⟩ := Reading.exists_of_neverDips balanced.neverDips
    ⟨⟨name, arguments, before.endLine.done⟩ :: before.endLine.blocks, [], none⟩
  have blocks := Reading.blocks_of_balanced inner balanced
  have idle : before.endLine =
      ⟨before.endLine.blocks, before.endLine.done, none⟩ := by
    rw [← before.line?_endLine]
  calc directives (front ++ (head ++ body))
    _ = before.conclude (head ++ body) := Reading.conclude_append read _
    _ = before.endLine.conclude (head ++ body) := by
      rw [Reading.conclude_endLine]
      rw [first]
      rintro _ ⟨⟩
      exact ended
    _ = next.finish := by
      rw [idle, Reading.conclude_append opened, Reading.conclude, inner,
        ok_bind]
    _ = .error (.syntaxAt name.line .blockNeverClosed) :=
      Reading.finish_eq_error_iff.mpr ⟨_, _, blocks, rfl⟩

theorem directives_eq_error_iff {given : List Token} {error : Error} :
    directives given = .error error ↔
      (∃ closing, FirstUnmatched given closing ∧
        error = .syntaxAt closing.line .unexpectedClose) ∨
      (∃ name, InnermostOpen given name ∧
        error = .syntaxAt name.line .blockNeverClosed) := by
  constructor
  · intro failed
    cases read : given.foldlM Reading.step Reading.start with
    | error refused =>
        rw [directives, read] at failed
        cases failed
        exact .inl (foldlM_step_eq_error_iff.mp read)
    | ok next =>
        rw [directives, read] at failed
        obtain ⟨block, outer, shape, rfl⟩ :=
          Reading.finish_eq_error_iff.mp failed
        exact .inr ⟨block.name, innermostOpen_of_blocks read shape, rfl⟩
  · rintro (unmatched | ⟨name, isOpen, rfl⟩)
    · rw [directives, foldlM_step_eq_error_iff.mpr unmatched]
      rfl
    · exact directives_of_innermostOpen isOpen

/-- Descending into blocks, which always comes to an end, never takes a token
behind the last one.  It accepts the tokens with balanced braces, gives the
directives that lie in them with nothing lost or added, and otherwise blames
the first brace that closes nothing or the innermost block left open. -/
theorem descend_exact (given : List Token) :
    descend given = (directives given).mapError .refused ∧
    ((∃ all, directives given = .ok all) ↔ Balanced given) ∧
    (∀ all, directives given = .ok all ↔ Laid all given none) ∧
    (∀ all, directives given = .ok all →
      flattenAll all = given.map Token.piece) ∧
    (∀ error, directives given = .error error ↔
      (∃ closing, FirstUnmatched given closing ∧
        error = .syntaxAt closing.line .unexpectedClose) ∨
      (∃ name, InnermostOpen given name ∧
        error = .syntaxAt name.line .blockNeverClosed)) := by
  refine ⟨descend_eq given, exists_directives_iff,
    fun _ => directives_eq_ok_iff, fun all read => ?_,
    fun _ => directives_eq_error_iff⟩
  exact (directives_eq_ok_iff.mp read).flattenAll_eq

end VirtualHosts.Site
