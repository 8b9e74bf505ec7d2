import Mathlib
import VirtualHosts.Proofs.Site.Accepted
import VirtualHosts.Proofs.Site.AddressForms
import VirtualHosts.Proofs.Site.Composition

/-!
What directives mean.  Each directive of a block makes one statement, whatever
stands before it, and a site is what the statements of its block come to
together.  Directives are accepted exactly if they mean something.
-/

namespace VirtualHosts.Site

open VirtualHosts.Header

inductive Statement where
  | backend (address : Backend)
  | root (path : Files.Path)
  | fileServer
  | rules (rules : List Rule)

namespace Statement

@[simp] def backend? : Statement → Option Backend
  | backend address => some address
  | _ => none

@[simp] def root? : Statement → Option Files.Path
  | root path => some path
  | _ => none

@[simp] def isFileServer : Statement → Bool
  | fileServer => true
  | _ => false

@[simp] def ruleList : Statement → List Rule
  | rules given => given
  | _ => []

end Statement

inductive Directive.States : Directive → Statement → Prop
  | backend {name address : Token} {backend : Backend}
      (keyword : name.text = "reverse_proxy")
      (written : BackendAddress address.text.toList backend) :
      States (.mk name [address] none) (.backend backend)
  | root {name path : Token} (keyword : name.text = "root") :
      States (.mk name [path] none) (.root ⟨path.text⟩)
  | rootOfAll {name matcher path : Token} (keyword : name.text = "root")
      (all : matcher.is "*" = true) :
      States (.mk name [matcher, path] none) (.root ⟨path.text⟩)
  | fileServer {name : Token} (keyword : name.text = "file_server") :
      States (.mk name [] none) .fileServer
  | rules {directive : Directive} {rules : List Rule}
      (keyword : directive.name.text = "header")
      (gives : directive.GivesRules rules) : States directive (.rules rules)

/-- The target that statements come to, in whatever order they are made. -/
inductive Chooses (statements : List Statement) : Target → Prop
  | backend {address : Backend}
      (one : statements.filterMap Statement.backend? = [address])
      (noRoot : statements.filterMap Statement.root? = [])
      (noServer : statements.any Statement.isFileServer = false) :
      Chooses statements (.backend address)
  | files {root : Files.Path}
      (noBackend : statements.filterMap Statement.backend? = [])
      (one : statements.filterMap Statement.root? = [root])
      (served : statements.any Statement.isFileServer = true) :
      Chooses statements (.files root)

structure Directive.Describes (directive : Directive) (site : Site) :
    Prop where
  hosts : List.Forall₂ (fun written host => HostAddress written.2 host)
    directive.addresses site.hosts
  someHost : site.hosts ≠ []
  distinct : site.hosts.Nodup
  body : ∃ block statements, directive.block? = some block ∧
    List.Forall₂ Directive.States block statements ∧
    Chooses statements site.target ∧
    site.rules = statements.flatMap Statement.ruleList

/-- The sites that the directives of a file mean.  Only the first directive may
hold options. -/
inductive Means : List Directive → List Site → Prop
  | sites {directives : List Directive} {sites : List Site}
      (named : ∀ directive ∈ directives, directive.name.is "\x7b" = false)
      (described : List.Forall₂ Directive.Describes directives sites) :
      Means directives sites
  | options {first : Directive} {directives : List Directive}
      {sites : List Site} (isOptions : first.IsOptions)
      (named : ∀ directive ∈ directives, directive.name.is "\x7b" = false)
      (described : List.Forall₂ Directive.Describes directives sites) :
      Means (first :: directives) sites

/-! What may be missing. -/

theorem toList_eq_append_singleton_iff {α : Type} {o p : Option α} {a : α} :
    p.toList = o.toList ++ [a] ↔ o = none ∧ p = some a := by
  cases o <;> cases p <;> simp

theorem toList_eq_toList_iff {α : Type} {o p : Option α} :
    p.toList = o.toList ↔ p = o := by
  cases o <;> cases p <;> simp

theorem exists_toList_eq_of_append {α : Type} {o : Option α} {s t : List α}
    (whole : o.toList = s ++ t) : ∃ p : Option α, p.toList = s := by
  refine ⟨s.head?, ?_⟩
  have short : s.length ≤ 1 := by
    have lengths := congrArg List.length whole
    rw [List.length_append] at lengths
    have one := o.length_toList_le
    omega
  rcases s with _ | ⟨a, _ | ⟨_, _⟩⟩
  · rfl
  · rfl
  · simp at short

/-! One directive of a block. -/

namespace Draft

variable {draft next last : Draft}

/-- How a draft goes on to another by statements.  There is at most one backend
and one root in it. -/
@[mk_iff]
structure Takes (draft : Draft) (statements : List Statement) (next : Draft) :
    Prop where
  backend : next.backend?.toList =
    draft.backend?.toList ++ statements.filterMap Statement.backend?
  root : next.root?.toList =
    draft.root?.toList ++ statements.filterMap Statement.root?
  fileServer : next.fileServer =
    (draft.fileServer || statements.any Statement.isFileServer)
  rules : next.rules = draft.rules ++ statements.flatMap Statement.ruleList

theorem takes_backend_iff {address : Backend} :
    draft.Takes [.backend address] next ↔
      draft.backend? = none ∧
        next = { draft with backend? := some address } := by
  cases draft
  cases next
  simp [takes_iff, List.filterMap_cons, toList_eq_append_singleton_iff,
    toList_eq_toList_iff, and_assoc]

theorem takes_root_iff {path : Files.Path} :
    draft.Takes [.root path] next ↔
      draft.root? = none ∧ next = { draft with root? := some path } := by
  cases draft
  cases next
  simp [takes_iff, List.filterMap_cons, toList_eq_append_singleton_iff,
    toList_eq_toList_iff, and_assoc, and_left_comm]

theorem takes_fileServer_iff :
    draft.Takes [.fileServer] next ↔
      next = { draft with fileServer := true } := by
  cases draft
  cases next
  simp [takes_iff, List.filterMap_cons, toList_eq_toList_iff]

theorem takes_rules_iff {rules : List Rule} :
    draft.Takes [.rules rules] next ↔
      next = { draft with rules := draft.rules ++ rules } := by
  cases draft
  cases next
  simp [takes_iff, List.filterMap_cons, toList_eq_toList_iff]

section Entered

variable {directive : Directive}

theorem exists_states_of_addBackend
    (keyword : directive.name.text = "reverse_proxy")
    (added : draft.addBackend directive = .ok next) :
    ∃ statement, directive.States statement ∧ draft.Takes [statement] next := by
  obtain ⟨name, arguments, block?⟩ := directive
  rw [addBackend, check_bind_eq_ok_iff, noBlock_eq_ok_iff] at added
  obtain ⟨⟨⟩, added⟩ := added
  split at added
  · contradiction
  · rename_i free
    split at added
    · contradiction
    · rename_i address shape
      cases shape
      obtain ⟨backend, read, same⟩ := bind_eq_ok_iff.mp added
      cases same
      have written := backendOf_eq_ok_iff_backendAddress.mp read
      refine ⟨_, .backend keyword written, takes_backend_iff.mpr ⟨?_, rfl⟩⟩
      simpa using free
    · contradiction

theorem exists_states_of_addRoot (keyword : directive.name.text = "root")
    (added : draft.addRoot directive = .ok next) :
    ∃ statement, directive.States statement ∧ draft.Takes [statement] next := by
  obtain ⟨name, arguments, block?⟩ := directive
  rw [addRoot, check_bind_eq_ok_iff, noBlock_eq_ok_iff] at added
  obtain ⟨⟨⟩, added⟩ := added
  split at added
  · contradiction
  · rename_i taken
    have free : draft.root? = none := by simpa using taken
    split at added
    · rename_i path shape
      cases shape
      cases added
      exact ⟨_, .root keyword, takes_root_iff.mpr ⟨free, rfl⟩⟩
    · rename_i matcher path shape
      cases shape
      split at added
      · rename_i all
        cases added
        exact ⟨_, .rootOfAll keyword all, takes_root_iff.mpr ⟨free, rfl⟩⟩
      · contradiction
    · contradiction

theorem exists_states_of_addFileServer
    (keyword : directive.name.text = "file_server")
    (added : draft.addFileServer directive = .ok next) :
    ∃ statement, directive.States statement ∧ draft.Takes [statement] next := by
  obtain ⟨name, arguments, block?⟩ := directive
  rw [addFileServer, check_bind_eq_ok_iff, noBlock_eq_ok_iff] at added
  obtain ⟨⟨⟩, added⟩ := added
  split at added
  · rename_i shape
    cases shape
    cases added
    exact ⟨_, .fileServer keyword, takes_fileServer_iff.mpr rfl⟩
  · split at added
    · contradiction
    · contradiction

theorem exists_states_of_addRules (keyword : directive.name.text = "header")
    (added : draft.addRules directive = .ok next) :
    ∃ statement, directive.States statement ∧ draft.Takes [statement] next := by
  obtain ⟨rules, read, same⟩ := bind_eq_ok_iff.mp added
  cases same
  have gives := headerRules_eq_ok_iff.mp read
  exact ⟨_, .rules keyword gives, takes_rules_iff.mpr rfl⟩

theorem entry_of_states {statement : Statement}
    (states : directive.States statement)
    (takes : draft.Takes [statement] next) :
    draft.entry directive = .ok next := by
  unfold entry
  cases states with
  | @backend _ address backend keyword written =>
      obtain ⟨free, rfl⟩ := takes_backend_iff.mp takes
      have read : backendOf address.line address.text = .ok backend :=
        backendOf_eq_ok_iff_backendAddress.mpr written
      simp only [Directive.name_mk, keyword]
      simp [addBackend, noBlock, free, read]
  | root keyword =>
      obtain ⟨free, rfl⟩ := takes_root_iff.mp takes
      simp only [Directive.name_mk, keyword]
      simp [addRoot, noBlock, free]
  | rootOfAll keyword all =>
      obtain ⟨free, rfl⟩ := takes_root_iff.mp takes
      simp only [Directive.name_mk, keyword]
      simp [addRoot, noBlock, free, all]
  | fileServer keyword =>
      obtain rfl := takes_fileServer_iff.mp takes
      simp only [Directive.name_mk, keyword]
      rfl
  | rules keyword gives =>
      obtain rfl := takes_rules_iff.mp takes
      simp only [keyword, addRules, headerRules_eq_ok_iff.mpr gives, ok_bind]
      rfl

/-- A directive is entered exactly if it states something for which there is
room in the draft. -/
theorem entry_eq_ok_iff :
    draft.entry directive = .ok next ↔
      ∃ statement, directive.States statement ∧
        draft.Takes [statement] next := by
  constructor
  · intro entered
    unfold entry at entered
    split at entered
    · rename_i keyword
      exact exists_states_of_addBackend keyword entered
    · rename_i keyword
      exact exists_states_of_addRoot keyword entered
    · rename_i keyword
      exact exists_states_of_addFileServer keyword entered
    · rename_i keyword
      exact exists_states_of_addRules keyword entered
    · contradiction
  · rintro ⟨statement, states, takes⟩
    exact entry_of_states states takes

end Entered

/-! One after another. -/

theorem takes_nil_iff : draft.Takes [] next ↔ next = draft := by
  cases draft
  cases next
  simp [takes_iff, toList_eq_toList_iff]

theorem Takes.append {statements more : List Statement}
    (first : draft.Takes statements next) (later : next.Takes more last) :
    draft.Takes (statements ++ more) last where
  backend := by
    rw [later.backend, first.backend, List.filterMap_append, List.append_assoc]
  root := by
    rw [later.root, first.root, List.filterMap_append, List.append_assoc]
  fileServer := by
    rw [later.fileServer, first.fileServer, List.any_append, Bool.or_assoc]
  rules := by
    rw [later.rules, first.rules, List.flatMap_append, List.append_assoc]

theorem exists_takes_of_append {statements more : List Statement}
    (takes : draft.Takes (statements ++ more) last) :
    ∃ next, draft.Takes statements next ∧ next.Takes more last := by
  obtain ⟨backend, root, fileServer, rules⟩ := takes
  rw [List.filterMap_append, ← List.append_assoc] at backend root
  rw [List.any_append, ← Bool.or_assoc] at fileServer
  rw [List.flatMap_append, ← List.append_assoc] at rules
  -- What the first statements add is a part of what there is room for.
  obtain ⟨backend?, sameBackend⟩ := exists_toList_eq_of_append backend
  obtain ⟨root?, sameRoot⟩ := exists_toList_eq_of_append root
  exact ⟨⟨backend?, root?, _, _⟩, ⟨sameBackend, sameRoot, rfl, rfl⟩,
    ⟨sameBackend ▸ backend, sameRoot ▸ root, fileServer, rules⟩⟩

/-- The directives of a block are entered exactly if each of them states
something and there is room for all of it. -/
theorem foldlM_entry_eq_ok_iff {block : List Directive} :
    block.foldlM entry draft = .ok last ↔
      ∃ statements, List.Forall₂ Directive.States block statements ∧
        draft.Takes statements last := by
  -- The rest of the block is entered into whatever its first directive leaves.
  induction block generalizing draft with
  | nil =>
      constructor
      · intro read
        cases read
        exact ⟨[], .nil, takes_nil_iff.mpr rfl⟩
      · rintro ⟨_, ⟨⟩, takes⟩
        rw [takes_nil_iff.mp takes]
        rfl
  | cons directive rest ih =>
      rw [List.foldlM_cons, bind_eq_ok_iff]
      constructor
      · rintro ⟨next, entered, read⟩
        obtain ⟨statement, states, first⟩ := entry_eq_ok_iff.mp entered
        obtain ⟨statements, others, later⟩ := ih.mp read
        exact ⟨statement :: statements, .cons states others,
          first.append later⟩
      · rintro ⟨_, states, takes⟩
        cases states with
        | @cons _ statement _ statements states others =>
            have whole : draft.Takes ([statement] ++ statements) last := takes
            obtain ⟨next, first, later⟩ := exists_takes_of_append whole
            exact ⟨next, entry_eq_ok_iff.mpr ⟨statement, states, first⟩,
              ih.mpr ⟨statements, others, later⟩⟩

/-! What a block comes to. -/

theorem target_eq_ok_iff {target : Target} {line : Nat} :
    draft.target line = .ok target ↔
      (∃ address, draft.backend?.toList = [address] ∧ draft.root?.toList = [] ∧
        draft.fileServer = false ∧ target = .backend address) ∨
      (∃ root, draft.backend?.toList = [] ∧ draft.root?.toList = [root] ∧
        draft.fileServer = true ∧ target = .files root) := by
  obtain ⟨backend?, root?, fileServer, rules⟩ := draft
  cases backend? <;> cases root? <;> cases fileServer <;>
    simp [Draft.target, eq_comm]

theorem exists_target_iff {statements : List Statement} {target : Target}
    {line : Nat} {rules : List Rule} :
    (∃ draft, empty.Takes statements draft ∧ draft.target line = .ok target ∧
      rules = draft.rules) ↔
    Chooses statements target ∧
      rules = statements.flatMap Statement.ruleList := by
  constructor
  · rintro ⟨draft, takes, chosen, rfl⟩
    refine ⟨?_, takes.rules⟩
    rw [target_eq_ok_iff, takes.backend, takes.root, takes.fileServer] at chosen
    rcases chosen with ⟨address, one, noRoot, noServer, rfl⟩ |
      ⟨root, noBackend, one, served, rfl⟩
    · exact .backend one noRoot noServer
    · exact .files noBackend one served
  · rintro ⟨chooses, rfl⟩
    -- The target says what the draft has to hold.
    cases chooses with
    | @backend address one noRoot noServer =>
        refine ⟨⟨some address, none, false, _⟩, ?_, rfl, rfl⟩
        exact ⟨one.symm, noRoot.symm, noServer.symm, rfl⟩
    | @files root noBackend one served =>
        refine ⟨⟨none, some root, true, _⟩, ?_, rfl, rfl⟩
        exact ⟨noBackend.symm, one.symm, served.symm, rfl⟩

end Draft

/-! Sites. -/

theorem siteHosts_eq_ok_iff_hostAddress {directive : Directive}
    {hosts : List String} :
    siteHosts directive = .ok hosts ↔
      List.Forall₂ (fun written host => HostAddress written.2 host)
        directive.addresses hosts ∧ hosts.Nodup ∧ hosts ≠ [] := by
  rw [siteHosts_eq_ok_iff]
  simp only [Names, siteHost_eq_ok_iff_hostAddress]

theorem ofDirective_eq_ok_iff_describes {directive : Directive} {site : Site} :
    ofDirective directive = .ok site ↔ directive.Describes site := by
  rw [ofDirective_eq_ok_iff, siteHosts_eq_ok_iff_hostAddress]
  simp only [Draft.foldlM_entry_eq_ok_iff]
  constructor
  · rintro ⟨⟨hosts, distinct, someHost⟩, block, draft, shape,
      ⟨statements, states, takes⟩, chosen, rules⟩
    refine ⟨hosts, someHost, distinct, block, statements, shape, states, ?_⟩
    exact Draft.exists_target_iff.mp ⟨draft, takes, chosen, rules⟩
  · rintro ⟨hosts, someHost, distinct, block, statements, shape, states, comes⟩
    obtain ⟨draft, takes, chosen, rules⟩ := Draft.exists_target_iff.mpr comes
    exact ⟨⟨hosts, distinct, someHost⟩, block, draft, shape,
      ⟨statements, states, takes⟩, chosen, rules⟩

theorem sitesOf_false_eq_ok_iff {directives : List Directive}
    {sites : List Site} :
    sitesOf false directives = .ok sites ↔
      (∀ directive ∈ directives, directive.name.is "\x7b" = false) ∧
        List.Forall₂ Directive.Describes directives sites := by
  induction directives generalizing sites with
  | nil =>
      constructor
      · intro read
        cases read
        exact ⟨nofun, .nil⟩
      · rintro ⟨_, ⟨⟩⟩
        rfl
  | cons first rest ih =>
      rw [sitesOf, List.forall_mem_cons]
      constructor
      · intro read
        split at read
        · contradiction
        · rename_i named
          obtain ⟨site, described, read⟩ := bind_eq_ok_iff.mp read
          obtain ⟨others, later, same⟩ := bind_eq_ok_iff.mp read
          cases same
          obtain ⟨allNamed, allDescribed⟩ := ih.mp later
          refine ⟨⟨by simpa using named, allNamed⟩, .cons ?_ allDescribed⟩
          exact ofDirective_eq_ok_iff_describes.mp described
      · rintro ⟨⟨named, allNamed⟩, described⟩
        cases described with
        | cons describes others =>
            rw [if_neg (by simp [named]),
              ofDirective_eq_ok_iff_describes.mpr describes, ok_bind,
              ih.mpr ⟨allNamed, others⟩]
            rfl

theorem sitesOf_true_cons_eq_ok_iff {first : Directive}
    {rest : List Directive} {sites : List Site}
    (anonymous : first.name.is "\x7b" = true) :
    sitesOf true (first :: rest) = .ok sites ↔
      first.IsOptions ∧ sitesOf false rest = .ok sites := by
  rw [sitesOf, if_pos anonymous, if_pos rfl, check_bind_eq_ok_iff,
    checkOptions_eq_ok_iff anonymous]

theorem sitesOf_true_eq_ok_iff {directives : List Directive}
    {sites : List Site} :
    sitesOf true directives = .ok sites ↔ Means directives sites := by
  constructor
  · intro read
    cases directives with
    | nil =>
        cases read
        exact .sites nofun .nil
    | cons first rest =>
        cases anonymous : first.name.is "\x7b" with
        | true =>
            rw [sitesOf_true_cons_eq_ok_iff anonymous,
              sitesOf_false_eq_ok_iff] at read
            obtain ⟨isOptions, named, described⟩ := read
            exact .options isOptions named described
        | false =>
            have plain : ∀ other ∈ (first :: rest).head?,
                other.name.is "\x7b" = false := by
              rintro _ ⟨⟩
              exact anonymous
            rw [← sitesOf_atStart plain false, sitesOf_false_eq_ok_iff] at read
            exact .sites read.1 read.2
  · intro means
    cases means with
    | sites named described =>
        rw [← sitesOf_atStart (fun first member =>
          named first (List.mem_of_head? member)) false]
        exact sitesOf_false_eq_ok_iff.mpr ⟨named, described⟩
    | options isOptions named described =>
        rw [sitesOf_true_cons_eq_ok_iff isOptions.anonymous]
        exact ⟨isOptions, sitesOf_false_eq_ok_iff.mpr ⟨named, described⟩⟩

theorem ofDirectives_eq_ok_iff {directives : List Directive}
    {file : SiteFile} :
    SiteFile.ofDirectives directives = .ok file ↔
      Means directives file.sites := by
  rw [SiteFile.ofDirectives, bind_eq_ok_iff]
  simp only [sitesOf_true_eq_ok_iff]
  constructor
  · rintro ⟨sites, means, same⟩
    cases same
    exact means
  · intro means
    exact ⟨file.sites, means, rfl⟩

end VirtualHosts.Site
