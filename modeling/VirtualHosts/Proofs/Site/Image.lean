import Mathlib
import VirtualHosts.Proofs.Site.Meaning

/-!
What reading a site file gives is well formed: its hosts, its backends and the
values of its rules.  Each of them is well formed by the form in which it was
written.
-/

namespace VirtualHosts

namespace Site

open VirtualHosts.Header
open VirtualHosts.Host
open VirtualHosts.Text

/-! Hosts. -/

theorem HostPort.nonzero {s host : List Char} {port : UInt16}
    (split : HostPort s host (some port)) : port ≠ 0 := by
  cases split with
  | ported _ written => exact written.nonzero
  | bracketedPort _ written => exact written.nonzero

/-- The host of an address is its beginning, and a bracket that opens it is
closed at its end. -/
theorem HostPort.host_cases {s host : List Char} {port? : Option UInt16}
    (split : HostPort s host port?) :
    host <+: s ∧
      ((∃ inner, ']' ∉ inner ∧ host = '[' :: inner ++ [']']) ∨
        host.head? ≠ some '[') := by
  cases split with
  | plain unbracketed _ => exact ⟨List.prefix_rfl, Or.inr unbracketed⟩
  | ported unbracketed _ =>
      refine ⟨List.prefix_append _ _, Or.inr ?_⟩
      intro opening
      obtain ⟨inner, rfl⟩ := List.head?_eq_some_iff.mp opening
      exact unbracketed rfl
  | bracketed closed =>
      exact ⟨List.prefix_rfl, Or.inl ⟨_, closed, rfl⟩⟩
  | @bracketedPort inner after _ closed _ =>
      refine ⟨⟨':' :: after, ?_⟩, Or.inl ⟨inner, closed, rfl⟩⟩
      simp

theorem HostAddress.wellFormed {address : List Char} {host : String}
    (named : HostAddress address host) (noComma : ',' ∉ address) :
    WellFormedHost host := by
  obtain @⟨_, rest, front, _, _, caseless, noPath, noWildcard, split, dot,
    nonempty⟩ := named
  obtain ⟨begins, brackets⟩ := split.host_cases
  have core : host.toList <+: front := by
    rcases dot with shape | ⟨shape, _⟩
    · exact ⟨['.'], shape.symm⟩
    · rw [shape]
  have inRest {c : Char} (member : c ∈ host.toList) : c ∈ rest :=
    begins.subset (core.subset member)
  have inText {c : Char} (member : c ∈ host.toList) : c ∈ lower address := by
    rw [caseless]
    exact List.mem_append_right _ (inRest member)
  refine ⟨nonempty, ?_, ?_⟩
  · rw [List.all_eq_true]
    intro c member
    rw [isHostChar_iff]
    refine ⟨?_, ?_, ?_, ?_⟩
    · obtain ⟨d, _, rfl⟩ := List.mem_map.mp (inText member)
      simp
    · rintro rfl
      exact noComma ((sign_mem_lower_iff (by decide)).mp (inText member))
    · rintro rfl
      exact noPath (inRest member)
    · rintro rfl
      exact noWildcard (inRest member)
  · rcases brackets with ⟨inner, closed, shape⟩ | opening
    · rw [← dropFinal_eq_iff.mpr dot, shape, dropFinal_bracketed]
      simp [isBracketedOrPlain, cutFirst?_append closed]
    · unfold isBracketedOrPlain
      split
      · rename_i inner shape
        obtain ⟨after, whole⟩ := core
        rw [shape] at whole
        rw [← whole] at opening
        exact absurd rfl opening
      · rfl

/-! Backends. -/

theorem dropWhile_head?_ne (c : Char) (s : List Char) :
    (s.dropWhile (· = c)).head? ≠ some c := by
  intro first
  have stopped := List.head?_dropWhile_not (fun d => decide (d = c)) s
  rw [first] at stopped
  simp at stopped

theorem bareHost_cases (host : List Char) :
    bareHost host = "localhost".toList ∨
      (bareHost host ≠ [] ∧ bareHost host <:+: host ∧
        (bareHost host).head? ≠ some '[' ∧
        (bareHost host).getLast? ≠ some ']') := by
  unfold bareHost
  simp only
  split
  · exact Or.inl rfl
  · rename_i someHost
    right
    have opened := dropWhile_head?_ne '[' host
    have closed :=
      dropWhile_head?_ne ']' (host.dropWhile (· = '[')).reverse
    have begins : ((host.dropWhile (· = '[')).reverse.dropWhile
        (· = ']')).reverse <+: host.dropWhile (· = '[') := by
      rw [← List.reverse_suffix, List.reverse_reverse]
      exact List.dropWhile_suffix _
    refine ⟨by simpa using someHost,
      begins.isInfix.trans (List.dropWhile_suffix _).isInfix, ?_, ?_⟩
    · intro first
      obtain ⟨rest, shape⟩ := begins
      rw [← shape, List.head?_append, first] at opened
      exact opened rfl
    · rw [List.getLast?_reverse]
      exact closed

theorem BackendAddress.wellFormed {raw : List Char} {backend : Backend}
    (written : BackendAddress raw backend) : WellFormedBackend backend := by
  cases written with
  | @written _ _ _ host port _ _ _ noPath split bare =>
      have begins := split.host_cases.1
      rw [bare]
      rcases bareHost_cases host with
        local_ | ⟨nonempty, within, opened, closed⟩
      · refine ⟨split.nonzero, ?_, ?_, ?_, ?_⟩ <;>
          simp only [String.toList_ofList, local_]
        all_goals decide
      · refine ⟨split.nonzero, ?_, ?_, ?_, ?_⟩ <;>
          simp only [String.toList_ofList]
        · exact nonempty
        · intro member
          exact noPath (begins.subset (within.subset member))
        · exact opened
        · exact closed

/-! Rules. -/

theorem wellFormedRule_of_isText {rule : Rule} (isText : rule.IsText) :
    WellFormedRule rule := by
  have isSome {value : Value} (known : rule.value? = some value) :
      (ofUtf8? value.bytes).isSome = true := by
    obtain ⟨s, bytes⟩ := isText value known
    rw [ofUtf8?_eq_some_iff.mpr bytes]
    rfl
  cases rule with
  | set name value => exact isSome rfl
  | add name value => exact isSome rfl
  | delete name => trivial

theorem RuleLine.wellFormed {field : Token} {values : List Token}
    {rule : Rule} (line : RuleLine field values rule) :
    WellFormedRule rule := by
  cases line with
  | alone written =>
      exact wellFormedRule_of_isText (Rule.isText_of_writtenAs written)
  | valued written =>
      exact wellFormedRule_of_isText (Rule.isText_of_writtenAs written)

theorem Directive.GivesRules.wellFormed {directive : Directive}
    {rules : List Rule} (gives : directive.GivesRules rules) :
    ∀ rule ∈ rules, WellFormedRule rule := by
  intro rule member
  cases gives with
  | line written =>
      rw [List.mem_singleton.mp member]
      exact written.wellFormed
  | block lines =>
      obtain ⟨_, _, _, line⟩ := exists_of_mem_right lines member
      exact line.wellFormed

/-! Sites. -/

def Statement.WellFormed : Statement → Prop
  | backend address => WellFormedBackend address
  | root _ => True
  | fileServer => True
  | rules given => ∀ rule ∈ given, WellFormedRule rule

theorem Directive.States.wellFormed {directive : Directive}
    {statement : Statement} (states : directive.States statement) :
    statement.WellFormed := by
  cases states with
  | backend _ written => exact written.wellFormed
  | root => trivial
  | rootOfAll => trivial
  | fileServer => trivial
  | rules _ gives => exact gives.wellFormed

section Statements

variable {statements : List Statement}
  (each : ∀ statement ∈ statements, statement.WellFormed)

include each

theorem Chooses.wellFormed {target : Target}
    (chooses : Chooses statements target) : WellFormedTarget target := by
  cases chooses with
  | @backend address one _ _ =>
      have chosen : address ∈ statements.filterMap Statement.backend? := by
        rw [one]
        exact List.mem_singleton_self address
      obtain ⟨statement, member, shape⟩ := List.mem_filterMap.mp chosen
      have known := each statement member
      cases statement with
      | backend =>
          cases shape
          exact known
      | _ => cases shape
  | files => trivial

theorem wellFormedRule_of_mem_ruleList {rule : Rule}
    (member : rule ∈ statements.flatMap Statement.ruleList) :
    WellFormedRule rule := by
  obtain ⟨statement, stated, given⟩ := List.mem_flatMap.mp member
  have known := each statement stated
  cases statement with
  | rules => exact known rule given
  | _ => exact absurd given List.not_mem_nil

end Statements

theorem Directive.Describes.wellFormed {directive : Directive} {site : Site}
    (describes : directive.Describes site) : site.WellFormed := by
  obtain ⟨hosts, someHost, distinct, block, statements, _, states, chooses,
    rules⟩ := describes
  have each : ∀ statement ∈ statements, statement.WellFormed := by
    intro statement member
    obtain ⟨_, _, stated⟩ := exists_of_mem_right states member
    exact stated.wellFormed
  refine ⟨someHost, distinct, ?_, chooses.wellFormed each, ?_⟩
  · intro host member
    obtain ⟨⟨line, address⟩, written, named⟩ := exists_of_mem_right hosts member
    obtain ⟨_, piece, cut, rfl, _⟩ := mem_addresses written
    refine named.wellFormed ?_
    intro comma
    exact not_mem_of_mem_pieces cut ((trim_infix_self piece).subset comma)
  · rw [rules]
    exact fun _ => wellFormedRule_of_mem_ruleList each

theorem Means.wellFormed {directives : List Directive} {sites : List Site}
    (means : Means directives sites) : ∀ site ∈ sites, site.WellFormed := by
  intro site member
  have each {described : List Directive}
      (pairs : List.Forall₂ Directive.Describes described sites) :
      site.WellFormed := by
    obtain ⟨_, _, describes⟩ := exists_of_mem_right pairs member
    exact describes.wellFormed
  cases means with
  | sites _ described => exact each described
  | options _ _ described => exact each described

end Site

namespace SiteFile

/-- Every site file that is read from a text is well formed. -/
theorem wellFormed_of_read {text : String} {file : SiteFile}
    (read : SiteFile.read text = .ok file) : file.WellFormed := by
  obtain ⟨given, _, read⟩ := bind_eq_ok_iff.mp read
  obtain ⟨all, _, read⟩ := bind_eq_ok_iff.mp read
  exact (Site.ofDirectives_eq_ok_iff.mp read).wellFormed

end SiteFile

end VirtualHosts
