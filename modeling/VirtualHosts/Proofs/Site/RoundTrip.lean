import Mathlib
import VirtualHosts.Proofs.Site.Image
import VirtualHosts.Proofs.Site.Lines

/-!
Reading a printed site file.  Each printed rule, target and site is the text of
directives that mean it, so the file that is read is the one that was printed.
-/

namespace VirtualHosts

namespace Site

open VirtualHosts.Header
open VirtualHosts.Text

theorem isPart_quotedToken (line : Nat) (s : List Char) :
    (quotedToken line s).IsPart :=
  ⟨rfl, rfl⟩

theorem isPart_wordToken (line : Nat) {c : Char} {rest : List Char}
    (noOpen : c ≠ '\x7b') (noClose : c ≠ '\x7d') :
    (wordToken line (c :: rest)).IsPart := by
  have differs : ∀ brace : Char, c ≠ brace →
      String.ofList (c :: rest) ≠ String.ofList [brace] := by
    intro brace other same
    rw [String.ofList_inj] at same
    cases same
    exact other rfl
  constructor
  · simpa [Token.is, wordToken] using differs _ noOpen
  · simpa [Token.is, wordToken] using differs _ noClose

/-! Rules. -/

/-- The signs that a printed rule may begin with. -/
def ruleSigns : List Char :=
  ['>', '+', '-']

theorem isWord_field {sign : Char} (known : sign ∈ ruleSigns) (name : Name) :
    IsWord (sign :: name.text.toList) := by
  have signs : ∀ sign ∈ ruleSigns,
      isWordChar sign = true ∧ sign ≠ '#' ∧ sign ≠ '"' := by
    simp [ruleSigns, isWordChar, isBlank]
  obtain ⟨visible, noHash, noQuote⟩ := signs sign known
  refine ⟨?_, by simp, by simpa using noHash, by simpa using noQuote⟩
  rw [List.all_cons, visible, Bool.true_and, List.all_eq_true]
  intro c member
  simp [isWordChar, isBlank_of_isNameChar (Name.isNameChar_of_mem member)]

theorem isPart_field (line : Nat) {sign : Char} (known : sign ∈ ruleSigns)
    (name : Name) : (wordToken line (sign :: name.text.toList)).IsPart := by
  have signs : ∀ sign ∈ ruleSigns, sign ≠ '\x7b' ∧ sign ≠ '\x7d' := by
    simp [ruleSigns]
  exact isPart_wordToken line (signs sign known).1 (signs sign known).2

/-- Whether a directive is a header directive with this rule alone. -/
structure Directive.IsHeader (directive : Directive) (rule : Rule) : Prop where
  name : directive.name.text = "header"
  rules : headerRules directive = .ok [rule]

theorem adds_valued (line : Nat) {sign : Char} (known : sign ∈ ruleSigns)
    (name : Name) (value : List Char) {rule : Rule}
    (read : Rule.read (String.ofList (sign :: name.text.toList))
      (some (String.ofList value)) = .ok rule) :
    ∃ directive next,
      Adds line
        (' ' :: ("header".toList ++ ' ' ::
          ((sign :: name.text.toList) ++ ' ' :: (quote value ++ ['\n']))))
        [directive] next ∧
      directive.IsHeader rule := by
  let header := wordToken line "header".toList
  let field := wordToken line (sign :: name.text.toList)
  have yields : Yields header.line
      (' ' :: ("header".toList ++ ' ' ::
        ((sign :: name.text.toList) ++ ' ' :: (quote value ++ ['\n']))))
      [header, field, quotedToken line value] (line + newlines value + 1) :=
    .space <| .word (by decide) rfl <| .space <|
      .word (isWord_field known name) rfl <| .space <|
        .quoted value <| .newline <| .nil _
  have onLine : OnLine header.endLine [field, quotedToken line value]
      (line + newlines value) :=
    .cons (isPart_field line known name) <|
      .cons (isPart_quotedToken line value) <| .nil _
  refine ⟨.mk header [field, quotedToken line value] none, _,
    adds_line yields (isPart_wordToken line (by decide) (by decide)) onLine
      (Nat.lt_succ_self _), String.ofList_toList, ?_⟩
  have fieldText : field.text = String.ofList (sign :: name.text.toList) := rfl
  have valueText : (quotedToken line value).text = String.ofList value := rfl
  simp only [headerRules, Directive.block?_mk, Directive.arguments_mk, ruleOf,
    fieldText, valueText, read, ok_bind]
  rfl

theorem adds_delete (line : Nat) (name : Name) :
    ∃ directive next,
      Adds line
        (' ' :: ("header".toList ++ ' ' ::
          (('-' :: name.text.toList) ++ ['\n']))) [directive] next ∧
      directive.IsHeader (.delete name) := by
  let header := wordToken line "header".toList
  let field := wordToken line ('-' :: name.text.toList)
  have known : '-' ∈ ruleSigns := by decide
  have yields : Yields header.line
      (' ' :: ("header".toList ++ ' ' ::
        (('-' :: name.text.toList) ++ ['\n']))) [header, field] (line + 1) :=
    .space <| .word (by decide) rfl <| .space <|
      .word (isWord_field known name) rfl <| .newline <| .nil _
  have onLine : OnLine header.endLine [field] line :=
    .cons (isPart_field line known name) <| .nil _
  refine ⟨.mk header [field] none, _,
    adds_line yields (isPart_wordToken line (by decide) (by decide)) onLine
      (Nat.lt_succ_self _), String.ofList_toList, ?_⟩
  have fieldText : field.text = String.ofList ('-' :: name.text.toList) := rfl
  simp only [headerRules, Directive.block?_mk, Directive.arguments_mk, ruleOf,
    fieldText, Rule.read_delete, ok_bind]
  rfl

theorem adds_rule (line : Nat) {rule : Rule}
    (wellFormed : WellFormedRule rule) :
    ∃ directive next, Adds line (writtenRule rule) [directive] next ∧
      directive.IsHeader rule := by
  cases rule with
  | set name value =>
      obtain ⟨text, written⟩ := Option.isSome_iff_exists.mp wellFormed
      have shape : writtenRule (.set name value) =
          ' ' :: ("header".toList ++ ' ' :: (('>' :: name.text.toList) ++
            ' ' :: (quote (valueText value) ++ ['\n']))) := by
        unfold writtenRule
        simp
      rw [shape]
      apply adds_valued line (by decide)
      rw [valueText, written, Option.getD_some, String.ofList_toList]
      exact Rule.read_set name written
  | add name value =>
      obtain ⟨text, written⟩ := Option.isSome_iff_exists.mp wellFormed
      have shape : writtenRule (.add name value) =
          ' ' :: ("header".toList ++ ' ' :: (('+' :: name.text.toList) ++
            ' ' :: (quote (valueText value) ++ ['\n']))) := by
        unfold writtenRule
        simp
      rw [shape]
      apply adds_valued line (by decide)
      rw [valueText, written, Option.getD_some, String.ofList_toList]
      exact Rule.read_add name written
  | delete name =>
      have shape : writtenRule (.delete name) =
          ' ' :: ("header".toList ++ ' ' ::
            (('-' :: name.text.toList) ++ ['\n'])) := by
        unfold writtenRule
        simp
      rw [shape]
      exact adds_delete line name

namespace Draft

theorem entry_header {draft : Draft} {directive : Directive} {rule : Rule}
    (isHeader : directive.IsHeader rule) :
    draft.entry directive =
      .ok { draft with rules := draft.rules ++ [rule] } := by
  rw [entry]
  rw [isHeader.name]
  simp only [addRules, isHeader.rules, ok_bind]
  rfl

end Draft

theorem adds_rules (line : Nat) {rules : List Rule}
    (wellFormed : ∀ rule ∈ rules, WellFormedRule rule) :
    ∃ block next, Adds line (rules.flatMap writtenRule) block next ∧
      ∀ draft : Draft, block.foldlM Draft.entry draft =
        .ok { draft with rules := draft.rules ++ rules } := by
  induction rules generalizing line with
  | nil =>
      refine ⟨[], line, .nil line, ?_⟩
      intro draft
      simp [pure, Except.pure]
  | cons rule rest ih =>
      obtain ⟨first, middle, addsFirst, isHeader⟩ :=
        adds_rule line (wellFormed rule List.mem_cons_self)
      obtain ⟨block, next, addsRest, entries⟩ := ih middle
        fun other member => wellFormed other (List.mem_cons_of_mem rule member)
      refine ⟨[first] ++ block, next, addsFirst.append addsRest, ?_⟩
      intro draft
      rw [List.singleton_append, List.foldlM_cons,
        Draft.entry_header isHeader, ok_bind, entries]
      simp

/-! Targets. -/

theorem adds_backend (line : Nat) {backend : Backend}
    (wellFormed : WellFormedBackend backend) :
    ∃ entry next, Adds line (writtenTarget (.backend backend)) [entry] next ∧
      Draft.empty.entry entry =
        .ok { Draft.empty with backend? := some backend } := by
  let name := wordToken line "reverse_proxy".toList
  let address := quotedToken line (writtenBackend backend)
  have shape : writtenTarget (.backend backend) =
      ' ' :: ("reverse_proxy".toList ++ ' ' ::
        (quote (writtenBackend backend) ++ ['\n'])) := by
    unfold writtenTarget
    simp
  have yields : Yields name.line (writtenTarget (.backend backend))
      [name, address] (line + newlines (writtenBackend backend) + 1) := by
    rw [shape]
    exact .space <| .word (by decide) rfl <| .space <| .quoted _ <|
      .newline <| .nil _
  have onLine : OnLine name.endLine [address]
      (line + newlines (writtenBackend backend)) :=
    .cons (isPart_quotedToken line _) <| .nil _
  refine ⟨.mk name [address] none, _,
    adds_line yields (isPart_wordToken line (by decide) (by decide)) onLine
      (Nat.lt_succ_self _), ?_⟩
  have named : (Directive.mk name [address] none).name.text =
      "reverse_proxy" := String.ofList_toList
  have read : backendOf address.line address.text = .ok backend :=
    backendOf_writtenBackend line wellFormed
  unfold Draft.entry
  rw [named]
  simp only [Draft.addBackend, noBlock, Directive.block?_mk,
    Directive.arguments_mk, Draft.empty, Option.isSome_none, ok_bind, read]
  rfl

theorem adds_root (line : Nat) (root : Files.Path) :
    ∃ entry next,
      Adds line
        (' ' :: ("root".toList ++ ' ' :: ("*".toList ++ ' ' ::
          (quote root.text.toList ++ ['\n'])))) [entry] next ∧
      Draft.empty.entry entry =
        .ok { Draft.empty with root? := some root } := by
  let name := wordToken line "root".toList
  let matcher := wordToken line "*".toList
  let path := quotedToken line root.text.toList
  have yields : Yields name.line
      (' ' :: ("root".toList ++ ' ' :: ("*".toList ++ ' ' ::
        (quote root.text.toList ++ ['\n']))))
      [name, matcher, path] (line + newlines root.text.toList + 1) :=
    .space <| .word (by decide) rfl <| .space <| .word (by decide) rfl <|
      .space <| .quoted _ <| .newline <| .nil _
  have onLine : OnLine name.endLine [matcher, path]
      (line + newlines root.text.toList) :=
    .cons (isPart_wordToken line (by decide) (by decide)) <|
      .cons (isPart_quotedToken line _) <| .nil _
  refine ⟨.mk name [matcher, path] none, _,
    adds_line yields (isPart_wordToken line (by decide) (by decide)) onLine
      (Nat.lt_succ_self _), ?_⟩
  have named : (Directive.mk name [matcher, path] none).name.text =
      "root" := String.ofList_toList
  have everything : matcher.is "*" = true := by
    simp [matcher, wordToken, Token.is]
  have pathText : path.text = root.text := String.ofList_toList
  rw [Draft.entry]
  rw [named]
  simp only [Draft.addRoot, noBlock, Directive.block?_mk,
    Directive.arguments_mk, Draft.empty, Option.isSome_none, ok_bind,
    everything, pathText]
  rfl

theorem adds_fileServer (line : Nat) :
    ∃ entry,
      Adds line (' ' :: ("file_server".toList ++ ['\n'])) [entry]
        (line + 1) ∧
      ∀ draft : Draft,
        draft.entry entry = .ok { draft with fileServer := true } := by
  let name := wordToken line "file_server".toList
  have yields : Yields name.line
      (' ' :: ("file_server".toList ++ ['\n'])) [name] (line + 1) :=
    .space <| .word (by decide) rfl <| .newline <| .nil _
  refine ⟨.mk name [] none,
    adds_line yields (isPart_wordToken line (by decide) (by decide)) (.nil line)
      (Nat.lt_succ_self line), ?_⟩
  intro draft
  have named : (Directive.mk name [] none).name.text = "file_server" :=
    String.ofList_toList
  rw [Draft.entry]
  rw [named]
  simp only [Draft.addFileServer, noBlock, Directive.block?_mk,
    Directive.arguments_mk, ok_bind]

theorem adds_target (line : Nat) {target : Target}
    (wellFormed : WellFormedTarget target) :
    ∃ block next draft, Adds line (writtenTarget target) block next ∧
      block.foldlM Draft.entry .empty = .ok draft ∧ draft.rules = [] ∧
      ∀ line, draft.target line = .ok target := by
  cases target with
  | backend backend =>
      obtain ⟨entry, next, adds, entered⟩ := adds_backend line wellFormed
      refine ⟨[entry], next, { Draft.empty with backend? := some backend },
        adds, ?_, rfl, fun _ => rfl⟩
      rw [List.foldlM_cons, entered]
      rfl
  | files root =>
      obtain ⟨entry, middle, adds, entered⟩ := adds_root line root
      obtain ⟨server, addsServer, served⟩ := adds_fileServer middle
      have shape : writtenTarget (.files root) =
          (' ' :: ("root".toList ++ ' ' :: ("*".toList ++ ' ' ::
            (quote root.text.toList ++ ['\n'])))) ++
          (' ' :: ("file_server".toList ++ ['\n'])) := by
        unfold writtenTarget
        simp
      refine ⟨[entry] ++ [server], middle + 1,
        { Draft.empty with root? := some root, fileServer := true },
        shape ▸ adds.append addsServer, ?_, rfl, fun _ => rfl⟩
      rw [List.singleton_append, List.foldlM_cons, entered, ok_bind,
        List.foldlM_cons, served]
      rfl

/-! Sites. -/

theorem adds_site (line : Nat) {site : Site} (wellFormed : site.WellFormed) :
    ∃ directive next, Adds line (written site) [directive] next ∧
      directive.name.is "\x7b" = false ∧ ofDirective directive = .ok site := by
  let name := quotedToken line (writtenHosts site.hosts)
  let opening := wordToken name.endLine ['\x7b']
  obtain ⟨first, middle, draft, addsTarget, entries, noRules, chosen⟩ :=
    adds_target (name.endLine + 1) wellFormed.target
  obtain ⟨more, bottom, addsRules, ruled⟩ :=
    adds_rules middle wellFormed.rules
  let closing := wordToken bottom ['\x7d']
  have opens : Yields name.line
      (quote (writtenHosts site.hosts) ++ (' ' :: (['\x7b'] ++ ['\n'])))
      ([name] ++ [opening]) (name.endLine + 1) :=
    .quoted _ <| .space <| .word (by decide) rfl <| .newline <| .nil _
  have closes : Yields bottom (['\x7d'] ++ ['\n']) [closing] (bottom + 1) :=
    .word (by decide) rfl <| .newline <| .nil _
  have shape : written site =
      (quote (writtenHosts site.hosts) ++ (' ' :: (['\x7b'] ++ ['\n']))) ++
        ((writtenTarget site.target ++ site.rules.flatMap writtenRule) ++
          (['\x7d'] ++ ['\n'])) := by
    rw [written]
    simp
  -- A quoted name is no brace, so the block is not taken for options.
  refine ⟨.mk name [] (some (first ++ more)), bottom + 1, ?_, rfl, ?_⟩
  · rw [shape]
    exact adds_block opens (isPart_quotedToken line _) (.nil _) rfl rfl
      (addsTarget.append addsRules) closes rfl
  · have names : Names
        ((addressPieces name).map fun address => (name.line, address))
        site.hosts :=
      names_writtenHosts name.line wellFormed.someHost wellFormed.hosts
        String.toList_ofList
    have hosts : siteHosts (.mk name [] (some (first ++ more))) =
        .ok site.hosts := by
      rw [siteHosts_eq_ok_iff]
      refine ⟨?_, wellFormed.distinct, wellFormed.someHost⟩
      rw [Directive.addresses]
      simpa using names
    have filled : (first ++ more).foldlM Draft.entry .empty =
        .ok { draft with rules := draft.rules ++ site.rules } := by
      rw [List.foldlM_append, entries, ok_bind, ruled]
    rw [ofDirective_eq_ok_iff]
    refine ⟨hosts, first ++ more, _, rfl, filled, chosen _, ?_⟩
    rw [noRules, List.nil_append]

theorem adds_sites (line : Nat) {sites : List Site}
    (wellFormed : ∀ site ∈ sites, site.WellFormed) :
    ∃ all next, Adds line (sites.flatMap written) all next ∧
      ∀ atStart, sitesOf atStart all = .ok sites := by
  induction sites generalizing line with
  | nil => exact ⟨[], line, .nil line, fun _ => rfl⟩
  | cons site rest ih =>
      obtain ⟨first, middle, addsFirst, named, read⟩ :=
        adds_site line (wellFormed site List.mem_cons_self)
      obtain ⟨more, next, addsRest, described⟩ := ih middle
        fun other member => wellFormed other (List.mem_cons_of_mem site member)
      refine ⟨[first] ++ more, next, addsFirst.append addsRest, ?_⟩
      intro atStart
      rw [List.singleton_append, sitesOf, if_neg (by simp [named]), read,
        ok_bind, described]
      rfl

/-- What is added to the empty reading is all that a text says. -/
theorem directives_of_adds {s : List Char} {all : List Directive} {next : Nat}
    (adds : Adds 1 s all next) :
    ∃ given, tokens (String.ofList s) = .ok given ∧
      directives given = .ok all := by
  obtain ⟨given, yields, steps⟩ := adds
  obtain ⟨after, read, _, extended⟩ := steps .start (by
    intro unfinished current
    contradiction)
  have ended : after.endLine = ⟨[], all, none⟩ := extended
  have noBlock : after.blocks = [] := by
    have blocks := congrArg Reading.blocks ended
    rwa [Reading.blocks_endLine] at blocks
  refine ⟨given, ?_, ?_⟩
  · have scanned := yields []
    rw [List.append_nil, scan] at scanned
    rw [tokens]
    rw [String.toList_ofList, scanned]
    simp
  · rw [directives]
    rw [read, ok_bind, Reading.finish, noBlock, ended]

end Site

namespace SiteFile

/-- A well-formed site file is read from its text. -/
theorem read_text_of_wellFormed {file : SiteFile}
    (wellFormed : file.WellFormed) : read file.text = .ok file := by
  obtain ⟨all, next, adds, described⟩ := Site.adds_sites 1 wellFormed
  obtain ⟨given, tokenized, structured⟩ := Site.directives_of_adds adds
  rw [read, text]
  rw [tokenized, ok_bind, structured, ok_bind, ofDirectives, described]
  rfl

/-- The files that are read are the well-formed ones, and each of them is read
from its own text. -/
theorem round_trip :
    (∀ (text : String) (file : SiteFile),
      SiteFile.read text = .ok file → file.WellFormed) ∧
    ∀ file : SiteFile, file.WellFormed → SiteFile.read file.text = .ok file :=
  ⟨fun _ _ => wellFormed_of_read, fun _ => read_text_of_wellFormed⟩

/-- Hosts that end in a dot, hold a colon or stand in brackets, a name that
begins with a sign, and texts with quotes and line breaks. -/
def thorny : SiteFile :=
  ⟨[⟨["a.", "b:c d", "[::1]"], .backend ⟨"x[1]y", 8080⟩,
      [.set ⟨"+x", by decide⟩ ⟨Text.utf8 "a \"b\" \\", by decide +kernel⟩,
        .delete ⟨"-y", by decide⟩]⟩,
    ⟨["e"], .files ⟨"f\n\"g\\"⟩, []⟩]⟩

theorem wellFormed_thorny : thorny.WellFormed := by
  intro site member
  rw [thorny] at member
  simp only [List.mem_cons, List.not_mem_nil, or_false] at member
  rcases member with rfl | rfl
  · refine ⟨by decide, by decide, ?_,
      ⟨by decide, by decide, by decide, by decide, by decide⟩, ?_⟩
    · simp only [List.forall_mem_cons]
      refine ⟨?_, ?_, ?_, by simp⟩ <;>
        exact ⟨by decide, by decide, by decide⟩
    · simp [Site.WellFormedRule]
  · refine ⟨by decide, by decide, ?_, trivial, by simp⟩
    simp only [List.forall_mem_cons]
    exact ⟨⟨by decide, by decide, by decide⟩, by simp⟩

theorem read_text_thorny :
    SiteFile.read thorny.text = .ok thorny ∧ thorny.WellFormed := by
  have read := round_trip.2 thorny wellFormed_thorny
  exact ⟨read, round_trip.1 thorny.text thorny read⟩

end SiteFile

end VirtualHosts
