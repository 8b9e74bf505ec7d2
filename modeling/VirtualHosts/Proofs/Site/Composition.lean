import Mathlib
import VirtualHosts.Proofs.Site.Checking
import VirtualHosts.Proofs.Site.Continuation

/-!
Site files one after another.  What is read of the first file does not change
how the second one is read, so a file that is accepted may stand before any
other that has no options.
-/

namespace VirtualHosts

namespace Site

/-! The first directive has the first token for its name. -/

def blockNames : List OpenBlock → List Token
  | [] => []
  | block :: outer =>
      blockNames outer ++ block.before.map Directive.name ++ [block.name]

namespace Reading

/-- The names of what has been read, in the order in which it began. -/
def names (reading : Reading) : List Token :=
  blockNames reading.blocks ++ reading.done.map Directive.name ++
    reading.line?.toList.map OpenLine.name

theorem names_endLine (reading : Reading) :
    reading.endLine.names = reading.names := by
  obtain ⟨blocks, done, line?⟩ := reading
  cases line? with
  | none => rfl
  | some line => simp [endLine, names]

/-- The names go on, or fewer of them are left. -/
theorem names_begin {reading next : Reading} {token : Token}
    (idle : reading.line? = none) (begun : reading.begin token = .ok next) :
    next.names = reading.names ++ [token] ∨
      (next.names ≠ [] ∧ next.names <+: reading.names) := by
  unfold begin at begun
  split at begun
  · split at begun
    · contradiction
    · rename_i block outer shape
      cases begun
      right
      refine ⟨by simp [names], ?_⟩
      simp [names, shape, blockNames, idle]
  · left
    split at begun
    · cases begun
      simp [names, openBlock, blockNames, idle]
    · cases begun
      simp [names, idle]

theorem head?_names_begin {reading next : Reading} {token first : Token}
    (idle : reading.line? = none) (begun : reading.begin token = .ok next)
    (leads : reading.names.head? = some first) :
    next.names.head? = some first := by
  rcases names_begin idle begun with more | ⟨nonempty, fewer⟩
  · rw [more, List.head?_append, leads]
    rfl
  · obtain ⟨others, whole⟩ := fewer
    rw [← leads, ← whole, List.head?_append_of_ne_nil _ nonempty]

theorem head?_names_step {reading next : Reading} {token first : Token}
    (taken : reading.step token = .ok next)
    (leads : reading.names.head? = some first) :
    next.names.head? = some first := by
  unfold step at taken
  split at taken
  · rename_i idle
    exact head?_names_begin idle taken leads
  · rename_i line current
    split at taken
    · apply head?_names_begin reading.line?_endLine taken
      rwa [names_endLine]
    · -- The name of the line stays, whether it opens a block or goes on.
      rw [← leads]
      split at taken
      · cases taken
        simp [names, openBlock, blockNames, current]
      · cases taken
        simp [names, current]

theorem head?_names_foldlM_step {given : List Token} {reading last : Reading}
    {first : Token} (leads : reading.names.head? = some first)
    (read : given.foldlM step reading = .ok last) :
    last.names.head? = some first := by
  have kept : ∀ (reading : Reading) token next,
      reading.names.head? = some first → reading.step token = .ok next →
        next.names.head? = some first := by
    intro reading token next leads taken
    exact head?_names_step taken leads
  exact foldlM_invariant kept leads read

theorem head?_names_start {next : Reading} {token : Token}
    (taken : start.step token = .ok next) :
    next.names.head? = some token := by
  rcases names_begin rfl taken with more | ⟨nonempty, fewer⟩
  · rw [more]
    rfl
  · exact absurd (List.prefix_nil.mp fewer) nonempty

end Reading

theorem name_head?_directives {token : Token} {rest : List Token}
    {all : List Directive} (read : directives (token :: rest) = .ok all) :
    all.head?.map Directive.name = some token := by
  obtain ⟨last, taken, finished⟩ := bind_eq_ok_iff.mp read
  rw [List.foldlM_cons] at taken
  obtain ⟨next, first, taken⟩ := bind_eq_ok_iff.mp taken
  have leads := Reading.head?_names_foldlM_step
    (Reading.head?_names_start first) taken
  rw [← Reading.names_endLine, Reading.finish_eq_ok finished] at leads
  simpa [Reading.names, blockNames] using leads

/-! Directives. -/

theorem Reading.settled_of_endsAt {reading : Reading} {last next : Nat}
    (ends : reading.EndsAt last) (before : last < next) :
    reading.Settled next := by
  intro unfinished current
  rw [ends unfinished current]
  exact before

theorem Reading.settled_foldlM_step {given : List Token}
    {reading last : Reading} {next : Nat}
    (before : ∀ token ∈ given, token.endLine < next)
    (settled : reading.Settled next)
    (read : given.foldlM step reading = .ok last) : last.Settled next := by
  induction given generalizing reading with
  | nil =>
      cases read
      exact settled
  | cons token rest ih =>
      rw [List.foldlM_cons] at read
      obtain ⟨middle, taken, read⟩ := bind_eq_ok_iff.mp read
      refine ih (fun other member => before other (by simp [member])) ?_ read
      exact settled_of_endsAt (endsAt_step taken) (before token (by simp))

/-- On a later line it does not matter whether the line before was ended. -/
theorem Reading.foldlM_step_endLine {reading : Reading} {next : Nat}
    {given : List Token} (settled : reading.Settled next)
    (after : ∀ token ∈ given, next ≤ token.line) :
    (given.foldlM step reading.endLine >>= finish) =
      given.foldlM step reading >>= finish := by
  refine conclude_endLine fun token first unfinished current => .inl ?_
  have late := after token (List.mem_of_mem_head? first)
  have earlier := settled unfinished current
  omega

variable {lines : Nat → Nat → Prop}

/-- Tokens on later lines are read as they are alone. -/
theorem agree_directives_append {given tail tail' : List Token}
    {earlier : List Directive} {next last last' : Nat}
    (read : directives given = .ok earlier)
    (before : ∀ token ∈ given, token.endLine < next)
    (after : ∀ token ∈ tail', next ≤ token.line)
    (parallel : Parallel lines last last' tail tail') :
    Agree lines
      (fun all whole => ∃ others, whole = earlier ++ others ∧
        List.Forall₂ (Directive.Alike lines) all others)
      (directives tail) (directives (given ++ tail')) := by
  obtain ⟨reading, taken, finished⟩ := bind_eq_ok_iff.mp read
  have settled : reading.Settled next := by
    refine Reading.settled_foldlM_step before ?_ taken
    intro unfinished current
    contradiction
  have whole : directives (given ++ tail') =
      tail'.foldlM Reading.step ⟨[], earlier, none⟩ >>= Reading.finish := by
    rw [directives, List.foldlM_append, taken, ok_bind,
      ← Reading.foldlM_step_endLine settled after,
      Reading.finish_eq_ok finished]
  have start : Reading.start.Alike lines earlier ⟨[], earlier, none⟩ := by
    refine ⟨?_, .none⟩
    conv_rhs => rw [← List.append_nil earlier]
    exact .outermost .nil
  rw [whole]
  refine (Reading.agree_foldlM_step parallel start ?_ ?_).bind ?_
  · intro unfinished current
    contradiction
  · intro unfinished current
    contradiction
  · intro reading other alike
    exact Reading.agree_finish alike

/-! Sites. -/

/-- Where options are refused matters only to a file that begins with them. -/
theorem sitesOf_atStart {directives : List Directive}
    (plain : ∀ first ∈ directives.head?, first.name.is "\x7b" = false)
    (atStart : Bool) :
    sitesOf atStart directives = sitesOf true directives := by
  cases directives with
  | nil => rfl
  | cons first rest => simp [sitesOf, plain first rfl]

theorem sitesOf_append {atStart : Bool} {earlier : List Directive}
    {sites : List Site} (read : sitesOf atStart earlier = .ok sites)
    (later : List Directive) :
    ∃ stillStart, sitesOf atStart (earlier ++ later) = do
      let more ← sitesOf stillStart later
      return sites ++ more := by
  induction earlier generalizing atStart sites with
  | nil =>
      cases read
      exact ⟨atStart, by simp⟩
  | cons first rest ih =>
      rw [sitesOf] at read
      rw [List.cons_append, sitesOf]
      split at read
      · rename_i options
        split at read
        · rename_i leads
          obtain ⟨checked, accepted, read⟩ := bind_eq_ok_iff.mp read
          obtain ⟨stillStart, shape⟩ := ih read
          refine ⟨stillStart, ?_⟩
          rw [if_pos options, if_pos leads, accepted, ok_bind, shape]
        · contradiction
      · rename_i named
        obtain ⟨site, described, read⟩ := bind_eq_ok_iff.mp read
        obtain ⟨others, rest_sites, read⟩ := bind_eq_ok_iff.mp read
        cases read
        obtain ⟨stillStart, shape⟩ := ih rest_sites
        refine ⟨stillStart, ?_⟩
        rw [if_neg named, described, ok_bind, shape]
        simp

/-! Texts. -/

theorem agree_tokens_append {a b : String} {given : List Token}
    (scanned : tokens a = .ok given) :
    Agree (Below (newlines a.toList + 1))
      (fun tail whole => ∃ tail', whole = given ++ tail' ∧
        (∀ token ∈ tail', 1 + newlines a.toList + 1 ≤ token.line) ∧
          Parallel (Below (newlines a.toList + 1)) 0
            (newlines a.toList + 1) tail tail')
      (tokens b) (tokens (a ++ "\n" ++ b)) := by
  have whole : tokens (a ++ "\n" ++ b) = do
      let tail' ← scan (1 + (newlines a.toList + 1)) b.toList
      return given ++ tail' := by
    rw [tokens, String.toList_append, String.toList_append,
      List.append_assoc]
    exact scan_append_newline 1 a.toList b.toList given scanned
  rw [whole, ← bind_pure (tokens b)]
  refine (agree_scan_below _ 1 b.toList).named.bind ?_
  intro tail tail' both
  obtain ⟨_, below, parallel⟩ := both
  have bounds := bounds_of_scan _ b.toList tail' below
  refine .ok ⟨tail', rfl, fun token member => (bounds token member).1, ?_⟩
  have := parallel 0
  rwa [Nat.zero_add] at this

theorem plain_head_of_directives {given : List Token}
    {all : List Directive} (read : directives given = .ok all)
    (plain : ∀ first ∈ given.head?, first.is "\x7b" = false) :
    ∀ first ∈ all.head?, first.name.is "\x7b" = false := by
  intro first leads
  cases given with
  | nil =>
      cases read
      contradiction
  | cons token rest =>
      have named := name_head?_directives read
      rw [leads] at named
      cases named
      exact plain first.name rfl

end Site

namespace SiteFile

open VirtualHosts.Site

/-- Whether a text that can be scanned begins with an opening brace. -/
def beginsWithOptions (s : String) : Bool :=
  match tokens s with
  | .ok (token :: _) => token.is "\x7b"
  | _ => false

theorem agree_read_append {a b : String} {first : SiteFile}
    (accepted : SiteFile.read a = .ok first)
    (plain : beginsWithOptions b = false) :
    Agree (Below (newlines a.toList + 1))
      (fun second whole => whole = ⟨first.sites ++ second.sites⟩)
      (SiteFile.read b) (SiteFile.read (a ++ "\n" ++ b)) := by
  obtain ⟨given, tokenized, accepted⟩ := bind_eq_ok_iff.mp accepted
  obtain ⟨earlier, structured, accepted⟩ := bind_eq_ok_iff.mp accepted
  obtain ⟨sites, described, accepted⟩ := bind_eq_ok_iff.mp accepted
  cases accepted
  have before : ∀ token ∈ given,
      token.endLine < 1 + newlines a.toList + 1 := by
    intro token member
    have bounds := bounds_of_scan 1 a.toList given tokenized token member
    omega
  refine (agree_tokens_append tokenized).named.bind ?_
  rintro tail _ ⟨scanned, _, tail', rfl, after, parallel⟩
  refine (agree_directives_append structured before after parallel).named.bind
    ?_
  rintro all _ ⟨read, _, others, rfl, alike⟩
  have plainAll := plain_head_of_directives read (by
    intro first leads
    obtain ⟨rest, rfl⟩ := List.head?_eq_some_iff.mp leads
    rwa [beginsWithOptions, scanned] at plain)
  obtain ⟨stillStart, shape⟩ := sitesOf_append described others
  rw [ofDirectives, ofDirectives, shape, ← sitesOf_atStart plainAll stillStart,
    bind_assoc]
  refine (agree_sitesOf stillStart alike).andThen ?_
  intro more
  exact .ok rfl

/-- An accepted file may stand before any file that does not begin with
options: its sites come first, and it only moves the lines of the other. -/
theorem read_append {a b : String} {first : SiteFile}
    (accepted : SiteFile.read a = .ok first)
    (plain : beginsWithOptions b = false) :
    SiteFile.read (a ++ "\n" ++ b) =
      match SiteFile.read b with
      | .ok second => .ok ⟨first.sites ++ second.sites⟩
      | .error error =>
          .error (error.mapLine (· + (newlines a.toList + 1))) := by
  have agree := agree_read_append accepted plain
  generalize SiteFile.read b = alone at agree ⊢
  generalize SiteFile.read (a ++ "\n" ++ b) = joined at agree ⊢
  cases agree with
  | ok related => rw [related]
  | error alike => rw [mapLine_of_alike alike]

/-- Options, comments, a quoted line break and a comment at the end. -/
def openingText : String :=
  "\x7b # plain\n admin off\n\x7d\na.example \x7b\n root \"d\n e\"\n" ++
    " file_server\n\x7d # end"

def laterText : String :=
  "b.example, c.example:80 \x7b\n root f\n file_server\n\x7d"

/-- The name on the third line is not known. -/
def brokenText : String :=
  "b.example \x7b\n root f # here\n gzip\n\x7d"

theorem read_append_openingText :
    SiteFile.read openingText =
        .ok ⟨[⟨["a.example"], .files ⟨"d\n e"⟩, []⟩]⟩ ∧
      beginsWithOptions laterText = false ∧
      beginsWithOptions brokenText = false ∧
      SiteFile.read (openingText ++ "\n" ++ laterText) =
        .ok ⟨[⟨["a.example"], .files ⟨"d\n e"⟩, []⟩,
          ⟨["b.example", "c.example"], .files ⟨"f"⟩, []⟩]⟩ ∧
      SiteFile.read (openingText ++ "\n" ++ brokenText) =
        .error (.unknownDirective 11 "gzip") := by
  have accepted : SiteFile.read openingText =
      .ok ⟨[⟨["a.example"], .files ⟨"d\n e"⟩, []⟩]⟩ := by
    decide +kernel
  have later : SiteFile.read laterText =
      .ok ⟨[⟨["b.example", "c.example"], .files ⟨"f"⟩, []⟩]⟩ := by
    decide +kernel
  have broken : SiteFile.read brokenText =
      .error (.unknownDirective 3 "gzip") := by
    decide +kernel
  have plain : beginsWithOptions laterText = false := by
    decide +kernel
  have plainBroken : beginsWithOptions brokenText = false := by
    decide +kernel
  have count : newlines openingText.toList = 7 := by
    decide +kernel
  refine ⟨accepted, plain, plainBroken, ?_, ?_⟩
  · rw [read_append accepted plain, later]
    rfl
  · rw [read_append accepted plainBroken, broken, count]
    rfl

end SiteFile

end VirtualHosts
