import Mathlib
import VirtualHosts.Proofs.Site.Grammar
import VirtualHosts.Proofs.Site.Meaning

/-!
The order of the directives in a block.  What a block means is found from all
of its statements at once, and only rules are kept in the order in which they
are written.  So the other directives may stand anywhere among them.
-/

namespace VirtualHosts

namespace Site

open VirtualHosts.Header

namespace Directive

def isHeader (directive : Directive) : Bool :=
  directive.name.text = "header"

/-- The same directive, with those of its block in another order in which the
headers among them still follow one another as they did. -/
inductive Reordered : Directive → Directive → Prop
  | line (name : Token) (arguments : List Token) :
      Reordered (.mk name arguments none) (.mk name arguments none)
  | block {name : Token} {arguments : List Token}
      {block other : List Directive} (perm : block.Perm other)
      (headers : block.filter isHeader = other.filter isHeader) :
      Reordered (.mk name arguments (some block))
        (.mk name arguments (some other))

theorem Reordered.symm {directive other : Directive}
    (reordered : directive.Reordered other) : other.Reordered directive := by
  cases reordered with
  | line name arguments => exact .line name arguments
  | block perm headers => exact .block perm.symm headers.symm

theorem Reordered.name_eq {directive other : Directive}
    (reordered : directive.Reordered other) : other.name = directive.name := by
  cases reordered <;> rfl

end Directive

/-! Statements in another order. -/

theorem Chooses.of_perm {statements others : List Statement} {target : Target}
    (chooses : Chooses statements target) (perm : others.Perm statements) :
    Chooses others target := by
  have backends := perm.filterMap Statement.backend?
  have roots := perm.filterMap Statement.root?
  have servers : others.any Statement.isFileServer =
      statements.any Statement.isFileServer := by
    rw [Bool.eq_iff_iff, List.any_eq_true, List.any_eq_true]
    simp only [perm.mem_iff]
  cases chooses with
  | backend one noRoot noServer =>
      rw [one, List.perm_singleton] at backends
      rw [noRoot, List.perm_nil] at roots
      exact .backend backends roots (servers.trans noServer)
  | files noBackend one served =>
      rw [noBackend, List.perm_nil] at backends
      rw [one, List.perm_singleton] at roots
      exact .files backends roots (servers.trans served)

theorem Directive.GivesRules.unique :
    Relator.RightUnique Directive.GivesRules := by
  intro directive rules others first second
  have same := (headerRules_eq_ok_iff.mpr first).symm.trans
    (headerRules_eq_ok_iff.mpr second)
  exact Except.ok.inj same

theorem Directive.States.isHeader_cases {directive : Directive}
    {statement : Statement} (states : directive.States statement) :
    (directive.isHeader = true ∧ directive.GivesRules statement.ruleList) ∨
      (directive.isHeader = false ∧ statement.ruleList = []) := by
  unfold Directive.isHeader
  cases states with
  | backend keyword => exact Or.inr ⟨by simp [keyword], rfl⟩
  | root keyword => exact Or.inr ⟨by simp [keyword], rfl⟩
  | rootOfAll keyword => exact Or.inr ⟨by simp [keyword], rfl⟩
  | fileServer keyword => exact Or.inr ⟨by simp [keyword], rfl⟩
  | rules keyword gives => exact Or.inl ⟨by simp [keyword], gives⟩

/-- The rules of a block are those of the headers in it. -/
theorem exists_headers_of_states {block : List Directive}
    {statements : List Statement}
    (states : List.Forall₂ Directive.States block statements) :
    ∃ parts, List.Forall₂ Directive.GivesRules
        (block.filter Directive.isHeader) parts ∧
      statements.flatMap Statement.ruleList = parts.flatten := by
  induction states with
  | nil => exact ⟨[], .nil, rfl⟩
  | @cons directive statement block statements first _ ih =>
      obtain ⟨parts, gives, same⟩ := ih
      rw [List.flatMap_cons, same]
      rcases first.isHeader_cases with ⟨header, given⟩ | ⟨other, silent⟩
      · rw [List.filter_cons_of_pos header]
        exact ⟨statement.ruleList :: parts, .cons given gives, rfl⟩
      · rw [List.filter_cons_of_neg (by simp [other]), silent]
        exact ⟨parts, gives, rfl⟩

theorem flatMap_ruleList_eq {block other : List Directive}
    {statements others : List Statement}
    (headers : block.filter Directive.isHeader =
      other.filter Directive.isHeader)
    (states : List.Forall₂ Directive.States block statements)
    (states' : List.Forall₂ Directive.States other others) :
    others.flatMap Statement.ruleList =
      statements.flatMap Statement.ruleList := by
  obtain ⟨parts, gives, same⟩ := exists_headers_of_states states
  obtain ⟨parts', gives', same'⟩ := exists_headers_of_states states'
  -- Both blocks have the same headers, and a header gives its rules alone.
  rw [← headers] at gives'
  rw [same, same',
    List.right_unique_forall₂' Directive.GivesRules.unique gives gives']

/-! Directives in another order. -/

namespace Directive

theorem Reordered.describes {directive other : Directive} {site : Site}
    (reordered : directive.Reordered other)
    (describes : directive.Describes site) : other.Describes site := by
  cases reordered with
  | line name arguments => exact describes
  | block perm headers =>
      obtain ⟨hosts, someHost, distinct, _, statements, ⟨⟩, states, chooses,
        rules⟩ := describes
      -- The statements move with the directives that make them.
      obtain ⟨others, states', perm'⟩ :=
        List.perm_comp_forall₂ perm.symm states
      refine ⟨hosts, someHost, distinct, _, others, rfl, states',
        chooses.of_perm perm', ?_⟩
      rw [rules, flatMap_ruleList_eq headers states states']

theorem Reordered.isOptions {directive other : Directive}
    (reordered : directive.Reordered other)
    (isOptions : directive.IsOptions) : other.IsOptions := by
  refine ⟨?_, ?_⟩
  · rw [reordered.name_eq]
    exact isOptions.anonymous
  · intro entry member
    refine isOptions.options entry ?_
    cases reordered with
    | line => exact member
    | block perm _ => exact perm.mem_iff.mpr member

end Directive

section Files

variable {directives others : List Directive}
  (reordered : List.Forall₂ Directive.Reordered directives others)

include reordered

theorem named_of_reordered
    (named : ∀ directive ∈ directives, directive.name.is "\x7b" = false) :
    ∀ other ∈ others, other.name.is "\x7b" = false := by
  intro other member
  obtain ⟨directive, found, same⟩ := exists_of_mem_right reordered member
  rw [same.name_eq]
  exact named directive found

theorem describes_of_reordered {sites : List Site}
    (described : List.Forall₂ Directive.Describes directives sites) :
    List.Forall₂ Directive.Describes others sites := by
  induction reordered generalizing sites with
  | nil =>
      cases described
      exact .nil
  | cons same _ ih =>
      cases described with
      | cons describes later =>
          exact .cons (same.describes describes) (ih later)

theorem means_of_reordered {sites : List Site}
    (means : Means directives sites) : Means others sites := by
  cases means with
  | sites named described =>
      exact .sites (named_of_reordered reordered named)
        (describes_of_reordered reordered described)
  | options isOptions named described =>
      cases reordered with
      | cons same later =>
          exact .options (same.isOptions isOptions)
            (named_of_reordered later named)
            (describes_of_reordered later described)

end Files

/-! Directives that are read. -/

/-- A block without a name has no line before it. -/
theorem Laid.anonymous {all : List Directive} {given : List Token}
    {next? : Option Token} (laid : Laid all given next?) :
    ∀ directive ∈ all, directive.name.is "\x7b" = true →
      directive.arguments = [] ∧ ∃ block, directive.block? = some block := by
  induction laid with
  | nil => exact nofun
  | line _ part _ _ ih =>
      rw [List.forall_mem_append]
      refine ⟨ih, ?_⟩
      rintro _ (_ | ⟨_, ⟨⟩⟩) brace
      exact absurd (part.1.symm.trans brace) (by decide)
  | block _ opens _ _ ih _ =>
      rw [List.forall_mem_append]
      refine ⟨ih, ?_⟩
      rintro _ (_ | ⟨_, ⟨⟩⟩) brace
      cases opens with
      | line part => exact absurd (part.1.symm.trans brace) (by decide)
      | alone => exact ⟨rfl, _, rfl⟩

end Site

namespace SiteFile

open VirtualHosts.Site

/-- Directives are accepted exactly if they mean the sites of the file, and they
mean the same in every order that keeps the headers of each block in theirs.  In
what is read from tokens, nothing but its block belongs to a block without a
name, so that nothing of it goes unread. -/
theorem ofDirectives_exact :
    (∀ (all : List Directive) (file : SiteFile),
      ofDirectives all = .ok file ↔ Means all file.sites) ∧
    (∀ all others : List Directive,
      List.Forall₂ Directive.Reordered all others →
        ∀ file : SiteFile,
          ofDirectives others = .ok file ↔ ofDirectives all = .ok file) ∧
    (∀ (given : List Token) (all : List Directive),
      directives given = .ok all →
        ∀ directive ∈ all, directive.name.is "\x7b" = true →
          directive.arguments = [] ∧
            ∃ block, directive.block? = some block) := by
  refine ⟨fun _ _ => ofDirectives_eq_ok_iff, ?_, ?_⟩
  · intro all others reordered file
    have back : List.Forall₂ Directive.Reordered others all :=
      reordered.flip.imp fun _ _ same => same.symm
    rw [ofDirectives_eq_ok_iff, ofDirectives_eq_ok_iff]
    exact ⟨means_of_reordered back, means_of_reordered reordered⟩
  · intro given all read
    exact (directives_eq_ok_iff.mp read).anonymous

/-- The headers themselves may not change places. -/
example :
    read "a \x7b\nheader A 1\nheader A 2\nroot d\nfile_server\n\x7d" ≠
      read "a \x7b\nheader A 2\nheader A 1\nroot d\nfile_server\n\x7d" := by
  decide +kernel

end SiteFile

end VirtualHosts
