import Mathlib
import VirtualHosts.Proofs.Site.Alike
import VirtualHosts.Site.Basic

/-!
Directives that are alike are checked alike: they give the same sites, or the
same error on lines that are related.  There is one lemma for each check.
-/

namespace VirtualHosts.Site

variable {lines : Nat → Nat → Prop}

/-! Addresses. -/

section Addresses

variable {line other : Nat} (related : lines line other)

include related

theorem agree_portAt (s : List Char) :
    Agree lines Eq (portAt line s) (portAt other s) := by
  unfold portAt
  split
  · exact .guarded (.invalidPort related _) (.ok rfl)
  · exact .error (.invalidPort related _)

theorem agree_splitPort (s : List Char) :
    Agree lines Eq (splitPort line s) (splitPort other s) := by
  unfold splitPort
  split
  · split
    · exact .error (.syntaxAt related _)
    · simp only
      split
      · exact .ok rfl
      · refine (agree_portAt related _).andThen ?_
        intro port
        exact .ok rfl
      · exact .error (.syntaxAt related _)
  · split
    · exact .ok rfl
    · refine (agree_portAt related _).andThen ?_
      intro port
      exact .ok rfl

theorem agree_withoutScheme (raw : String) (s : List Char) :
    Agree lines Eq (withoutScheme line raw s) (withoutScheme other raw s) := by
  unfold withoutScheme
  split
  · exact .ok rfl
  · refine .guarded (.syntaxAt related _) ?_
    exact .guarded (.syntaxAt related _) (.ok rfl)

theorem agree_siteHost (raw : List Char) :
    Agree lines Eq (siteHost line raw) (siteHost other raw) := by
  refine (agree_withoutScheme related _ _).andThen ?_
  intro rest
  refine .guarded (.syntaxAt related _) ?_
  refine .guarded (.syntaxAt related _) ?_
  refine (agree_splitPort related rest).andThen ?_
  intro parts
  exact .guarded (.syntaxAt related _) (.ok rfl)

theorem agree_backendOf (raw : String) :
    Agree lines Eq (backendOf line raw) (backendOf other raw) := by
  refine .guarded (.syntaxAt related _) ?_
  refine .guarded (.syntaxAt related _) ?_
  refine (agree_splitPort related _).andThen ?_
  intro parts
  obtain ⟨host, port?⟩ := parts
  cases port? with
  | none => exact .error (.invalidPort related _)
  | some port => exact .ok rfl

theorem agree_addHost (hosts : List String) (address : List Char) :
    Agree lines Eq (addHost line hosts address)
      (addHost other hosts address) := by
  refine (agree_siteHost related address).andThen ?_
  intro host
  exact .guarded (.duplicateHost host) (.ok rfl)

end Addresses

theorem agree_addHosts {token other : Token}
    (alike : token.Alike lines other) (hosts : List String) :
    Agree lines Eq (addHosts hosts token) (addHosts hosts other) := by
  unfold addHosts addressPieces
  rw [alike.text]
  refine .foldlM (List.forall₂_eq_eq_eq ▸ rfl) ?_ rfl
  rintro hosts _ address _ rfl rfl
  exact agree_addHost alike.line hosts address

/-! Directives. -/

section Directives

variable {directive other : Directive}
  (alike : directive.Alike lines other)

include alike

theorem agree_noBlock :
    Agree lines Eq (noBlock directive) (noBlock other) := by
  unfold noBlock
  cases alike with
  | line _ _ => exact .ok rfl
  | block names _ _ =>
      simp only [Directive.block?_mk, Directive.name_mk, names.text]
      exact .error (.syntaxAt names.line _)

theorem agree_siteHosts :
    Agree lines Eq (siteHosts directive) (siteHosts other) := by
  have named : List.Forall₂ (Token.Alike lines)
      (directive.name :: directive.arguments)
      (other.name :: other.arguments) :=
    .cons alike.name alike.arguments
  refine Agree.andThen (.foldlM named ?_ rfl) ?_
  · rintro hosts _ token token' rfl alike
    exact agree_addHosts alike hosts
  · intro hosts
    exact .guarded (.syntaxAt alike.name.line _) (.ok rfl)

theorem agree_checkProtocols :
    Agree lines Eq (checkProtocols directive) (checkProtocols other) := by
  refine (agree_noBlock alike).andThen ?_
  intro blockless
  have values := alike.arguments
  rw [isEmpty_eq values]
  refine .guarded (.syntaxAt alike.name.line _) (.forM values ?_)
  intro argument argument' alike
  unfold checkProtocol
  rw [alike.text]
  exact .ite (fun _ => .ok rfl) fun _ => .error (.syntaxAt alike.line _)

theorem agree_checkServersEntry :
    Agree lines Eq (checkServersEntry directive)
      (checkServersEntry other) := by
  unfold checkServersEntry
  rw [alike.name.text]
  refine .ite (fun _ => agree_checkProtocols alike) fun _ => ?_
  exact .error (.unknownDirective alike.name.line _)

theorem agree_checkServers :
    Agree lines Eq (checkServers directive) (checkServers other) := by
  unfold checkServers
  rw [isEmpty_eq alike.arguments]
  refine .ite (fun _ => ?_) fun _ => .error (.syntaxAt alike.name.line _)
  cases alike with
  | line names _ => exact .error (.syntaxAt names.line _)
  | block _ _ entries =>
      exact .forM entries fun entry entry' alike =>
        agree_checkServersEntry alike

theorem agree_checkOff :
    Agree lines Eq (checkOff directive) (checkOff other) := by
  refine (agree_noBlock alike).andThen ?_
  intro blockless
  rw [alike.name.text]
  have wrong : Agree lines (@Eq Unit)
      (.error (.syntaxAt directive.name.line (.onlyOff directive.name.text)))
      (.error (.syntaxAt other.name.line (.onlyOff directive.name.text))) :=
    .error (.syntaxAt alike.name.line _)
  have values := alike.arguments
  generalize directive.arguments = arguments at values ⊢
  generalize other.arguments = arguments' at values ⊢
  cases values with
  | nil => exact wrong
  | cons first rest =>
      cases rest with
      | nil =>
          simp only [first.text]
          exact .ite (fun _ => .ok rfl) fun _ => wrong
      | cons _ _ => exact wrong

theorem agree_checkOption :
    Agree lines Eq (checkOption directive) (checkOption other) := by
  unfold checkOption
  rw [alike.name.text]
  split
  · exact agree_checkProtocols alike
  · exact agree_checkServers alike
  · exact agree_checkOff alike
  · exact agree_checkOff alike
  · exact .error (.unknownDirective alike.name.line _)

theorem agree_checkOptions :
    Agree lines Eq (checkOptions directive) (checkOptions other) := by
  cases alike with
  | line _ _ => exact .ok rfl
  | block _ _ entries =>
      exact .forM entries fun entry entry' alike => agree_checkOption alike

end Directives

/-! Rules. -/

theorem agree_ruleOf {field field' : Token} {values values' : List Token}
    (fields : field.Alike lines field')
    (lists : List.Forall₂ (Token.Alike lines) values values') :
    Agree lines Eq (ruleOf field values) (ruleOf field' values') := by
  unfold ruleOf
  rw [fields.text]
  cases lists with
  | nil =>
      simp only
      split
      · exact .ok rfl
      · exact .error (.invalidHeader fields.line _)
  | cons first rest =>
      cases rest with
      | cons _ _ => exact .error (.invalidHeader fields.line _)
      | nil =>
          simp only [first.text]
          split
          · exact .ok rfl
          · exact .error (.invalidHeader fields.line _)

section Sites

variable {directive other : Directive}
  (alike : directive.Alike lines other)

include alike

theorem agree_blockRule :
    Agree lines Eq (blockRule directive) (blockRule other) := by
  cases alike with
  | line names values => exact agree_ruleOf names values
  | block names _ _ => exact .error (.syntaxAt names.line _)

theorem agree_headerRules :
    Agree lines Eq (headerRules directive) (headerRules other) := by
  cases alike with
  | line names values =>
      cases values with
      | nil => exact .error (.syntaxAt names.line _)
      | cons first rest =>
          refine (agree_ruleOf first rest).andThen ?_
          intro rule
          exact .ok rfl
  | block names values entries =>
      cases values with
      | nil =>
          exact .mapM entries fun entry entry' alike => agree_blockRule alike
      | cons _ _ => exact .error (.syntaxAt names.line _)

theorem agree_addBackend (draft : Draft) :
    Agree lines Eq (draft.addBackend directive)
      (draft.addBackend other) := by
  refine (agree_noBlock alike).andThen ?_
  intro blockless
  refine .guarded (.syntaxAt alike.name.line _) ?_
  have values := alike.arguments
  generalize directive.arguments = arguments at values ⊢
  generalize other.arguments = arguments' at values ⊢
  cases values with
  | nil => exact .error (.syntaxAt alike.name.line _)
  | cons first rest =>
      cases rest with
      | nil =>
          simp only [first.text]
          refine (agree_backendOf first.line _).andThen ?_
          intro backend
          exact .ok rfl
      | cons _ _ => exact .error (.syntaxAt alike.name.line _)

theorem agree_addRoot (draft : Draft) :
    Agree lines Eq (draft.addRoot directive) (draft.addRoot other) := by
  refine (agree_noBlock alike).andThen ?_
  intro blockless
  refine .guarded (.syntaxAt alike.name.line _) ?_
  have wrong : Agree lines (@Eq Draft)
      (.error (.syntaxAt directive.name.line .rootUsage))
      (.error (.syntaxAt other.name.line .rootUsage)) :=
    .error (.syntaxAt alike.name.line _)
  have values := alike.arguments
  generalize directive.arguments = arguments at values ⊢
  generalize other.arguments = arguments' at values ⊢
  rcases values with _ | ⟨first, _ | ⟨second, _ | ⟨_, _⟩⟩⟩
  · exact wrong
  · simp only [first.text]
    exact .ok rfl
  · simp only [first.is_eq, second.text]
    exact .ite (fun _ => .ok rfl) fun _ => wrong
  · exact wrong

theorem agree_addFileServer (draft : Draft) :
    Agree lines Eq (draft.addFileServer directive)
      (draft.addFileServer other) := by
  refine (agree_noBlock alike).andThen ?_
  intro blockless
  have values := alike.arguments
  generalize directive.arguments = arguments at values ⊢
  generalize other.arguments = arguments' at values ⊢
  cases values with
  | nil => exact .ok rfl
  | cons first _ =>
      simp only [first.text]
      exact .guarded (.syntaxAt alike.name.line _)
        (.error (.syntaxAt alike.name.line _))

theorem agree_entry (draft : Draft) :
    Agree lines Eq (draft.entry directive) (draft.entry other) := by
  unfold Draft.entry
  rw [alike.name.text]
  split
  · exact agree_addBackend alike draft
  · exact agree_addRoot alike draft
  · exact agree_addFileServer alike draft
  · refine (agree_headerRules alike).andThen ?_
    intro rules
    exact .ok rfl
  · exact .error (.unknownDirective alike.name.line _)

end Sites

theorem agree_target (draft : Draft) {line other : Nat}
    (related : lines line other) :
    Agree lines Eq (draft.target line) (draft.target other) := by
  unfold Draft.target
  split
  · exact .ok rfl
  · exact .ok rfl
  all_goals exact .error (.syntaxAt related _)

theorem agree_ofDirective {directive other : Directive}
    (alike : directive.Alike lines other) :
    Agree lines Eq (ofDirective directive) (ofDirective other) := by
  refine (agree_siteHosts alike).andThen ?_
  intro hosts
  cases alike with
  | line names _ => exact .error (.syntaxAt names.line _)
  | block names _ entries =>
      refine Agree.andThen (.foldlM entries ?_ rfl) ?_
      · rintro draft _ entry entry' rfl alike
        exact agree_entry alike draft
      · intro draft
        refine (agree_target draft names.line).andThen ?_
        intro target
        exact .ok rfl

theorem agree_sitesOf (atStart : Bool) {directives others : List Directive}
    (lists : List.Forall₂ (Directive.Alike lines) directives others) :
    Agree lines Eq (sitesOf atStart directives)
      (sitesOf atStart others) := by
  induction lists generalizing atStart with
  | nil => exact .ok rfl
  | cons first _ ih =>
      unfold sitesOf
      rw [first.name.is_eq]
      refine .ite (fun _ => ?_) fun _ => ?_
      · refine .ite (fun _ => ?_) fun _ => ?_
        · refine (agree_checkOptions first).andThen ?_
          intro checked
          exact ih false
        · exact .error (.syntaxAt first.name.line _)
      · refine (agree_ofDirective first).andThen ?_
        intro site
        refine (ih false).andThen ?_
        intro sites
        exact .ok rfl

end VirtualHosts.Site
