import Mathlib
import VirtualHosts.Proofs.Site.Address
import VirtualHosts.Site.Basic

/-!
The hosts of a site are the hosts of its addresses, one for each, in the order
in which they are written, and no two of them are the same.
-/

namespace VirtualHosts.Site

open VirtualHosts.Text

/-- The addresses of a site as they are written, each with its line. -/
def Directive.addresses (directive : Directive) : List (Nat × List Char) :=
  (directive.name :: directive.arguments).flatMap fun token =>
    (addressPieces token).map fun address => (token.line, address)

/-- Whether these are the hosts of the addresses. -/
def Names (addresses : List (Nat × List Char)) (hosts : List String) : Prop :=
  List.Forall₂ (fun written host => siteHost written.1 written.2 = .ok host)
    addresses hosts

theorem addHost_eq_ok_iff {line : Nat} {hosts all : List String}
    {address : List Char} :
    addHost line hosts address = .ok all ↔
      ∃ host, siteHost line address = .ok host ∧ host ∉ hosts ∧
        all = hosts ++ [host] := by
  rw [addHost]
  rw [bind_eq_ok_iff]
  constructor
  · intro holds
    obtain ⟨host, named, added⟩ := holds
    split at added
    · contradiction
    · rename_i fresh
      cases added
      exact ⟨host, named, fresh, rfl⟩
  · intro holds
    obtain ⟨host, named, fresh, rfl⟩ := holds
    exact ⟨host, named, if_neg fresh⟩

/-- Reading addresses one after another adds their hosts to those before. -/
theorem foldlM_addHost_eq_ok_iff {addresses : List (Nat × List Char)}
    {hosts all : List String} (distinct : hosts.Nodup) :
    addresses.foldlM
        (fun hosts written => addHost written.1 hosts written.2) hosts =
          .ok all ↔
      ∃ new, Names addresses new ∧ all = hosts ++ new ∧ all.Nodup := by
  induction addresses generalizing hosts with
  | nil =>
      constructor
      · intro read
        cases read
        exact ⟨[], .nil, by simp, distinct⟩
      · intro holds
        obtain ⟨new, names, rfl, _⟩ := holds
        cases names
        simp [pure, Except.pure]
  | cons first rest ih =>
      -- The hosts so far are distinct, and every new one keeps them so.
      have extended : ∀ host, host ∉ hosts → (hosts ++ [host]).Nodup := by
        intro host fresh
        exact List.nodup_append_comm.mp
          (List.nodup_cons.mpr ⟨fresh, distinct⟩)
      rw [List.foldlM_cons, bind_eq_ok_iff]
      constructor
      · intro holds
        obtain ⟨more, added, read⟩ := holds
        obtain ⟨host, named, fresh, rfl⟩ := addHost_eq_ok_iff.mp added
        obtain ⟨new, names, rfl, nodup⟩ := (ih (extended host fresh)).mp read
        exact ⟨host :: new, .cons named names, by simp, nodup⟩
      · intro holds
        obtain ⟨new, names, rfl, nodup⟩ := holds
        cases names with
        | @cons _ host _ new named names =>
            have apart := List.nodup_append_comm.mp nodup
            have fresh : host ∉ hosts := by
              intro member
              exact (List.nodup_cons.mp apart).1
                (List.mem_append_right new member)
            refine ⟨hosts ++ [host],
              addHost_eq_ok_iff.mpr ⟨host, named, fresh, rfl⟩, ?_⟩
            exact (ih (extended host fresh)).mpr ⟨new, names, by simp, nodup⟩

/-- The pieces of the tokens are read as one list of addresses. -/
theorem foldlM_addHosts (tokens : List Token) (hosts : List String) :
    tokens.foldlM addHosts hosts =
      (tokens.flatMap fun token =>
        (addressPieces token).map fun address => (token.line, address)).foldlM
          (fun hosts written => addHost written.1 hosts written.2) hosts := by
  induction tokens generalizing hosts with
  | nil => rfl
  | cons token rest ih =>
      rw [List.foldlM_cons, List.flatMap_cons, List.foldlM_append,
        List.foldlM_map]
      exact congrArg _ (funext ih)

theorem siteHosts_eq_ok_iff {directive : Directive} {hosts : List String} :
    siteHosts directive = .ok hosts ↔
      Names directive.addresses hosts ∧ hosts.Nodup ∧ hosts ≠ [] := by
  rw [siteHosts]
  rw [foldlM_addHosts, bind_eq_ok_iff]
  constructor
  · intro holds
    obtain ⟨all, read, kept⟩ := holds
    obtain ⟨new, names, rfl, nodup⟩ :=
      (foldlM_addHost_eq_ok_iff List.nodup_nil).mp read
    split at kept
    · contradiction
    · rename_i nonempty
      cases kept
      exact ⟨names, nodup, by simpa using nonempty⟩
  · intro holds
    obtain ⟨names, nodup, nonempty⟩ := holds
    refine ⟨hosts, ?_, if_neg (by simpa using nonempty)⟩
    exact (foldlM_addHost_eq_ok_iff List.nodup_nil).mpr
      ⟨hosts, names, rfl, nodup⟩

/-! Sites one after another. -/

theorem ofDirective_eq_ok_iff {directive : Directive} {site : Site} :
    ofDirective directive = .ok site ↔
      siteHosts directive = .ok site.hosts ∧
      ∃ block draft, directive.block? = some block ∧
        block.foldlM Draft.entry .empty = .ok draft ∧
        draft.target directive.name.line = .ok site.target ∧
        site.rules = draft.rules := by
  unfold ofDirective
  simp only
  rw [bind_eq_ok_iff]
  constructor
  · intro holds
    obtain ⟨hosts, named, read⟩ := holds
    split at read
    · contradiction
    · rename_i block shape
      obtain ⟨draft, entries, read⟩ := bind_eq_ok_iff.mp read
      obtain ⟨target, chosen, read⟩ := bind_eq_ok_iff.mp read
      cases read
      exact ⟨named, block, draft, shape, entries, chosen, rfl⟩
  · intro holds
    obtain ⟨named, block, draft, shape, entries, chosen, rules⟩ := holds
    refine ⟨site.hosts, named, ?_⟩
    rw [shape]
    simp only [entries, ok_bind, chosen, ← rules]
    rfl

/-- The directives that describe sites; a block without a name holds
options. -/
def siteDirectives (directives : List Directive) : List Directive :=
  directives.filter fun directive => !directive.name.is "\x7b"

theorem sitesOf_eq_ok {atStart : Bool} {directives : List Directive}
    {sites : List Site} (read : sitesOf atStart directives = .ok sites) :
    List.Forall₂ (fun directive site => ofDirective directive = .ok site)
      (siteDirectives directives) sites := by
  induction directives generalizing atStart sites with
  | nil =>
      cases read
      exact .nil
  | cons first rest ih =>
      rw [sitesOf] at read
      rw [siteDirectives]
      split at read
      · rename_i options
        rw [List.filter_cons_of_neg (by simpa using options)]
        split at read
        · obtain ⟨_, _, read⟩ := bind_eq_ok_iff.mp read
          exact ih read
        · contradiction
      · rename_i named
        rw [List.filter_cons_of_pos (by simpa using named)]
        obtain ⟨site, first_site, read⟩ := bind_eq_ok_iff.mp read
        obtain ⟨others, rest_sites, read⟩ := bind_eq_ok_iff.mp read
        cases read
        exact .cons first_site (ih rest_sites)

theorem siteFile_read_eq_ok {text : String} {file : SiteFile}
    (read : SiteFile.read text = .ok file) :
    ∃ given all, tokens text = .ok given ∧ directives given = .ok all ∧
      List.Forall₂ (fun directive site => ofDirective directive = .ok site)
        (siteDirectives all) file.sites := by
  obtain ⟨given, tokenized, read⟩ := bind_eq_ok_iff.mp read
  obtain ⟨all, structured, read⟩ := bind_eq_ok_iff.mp read
  obtain ⟨sites, described, read⟩ := bind_eq_ok_iff.mp read
  cases read
  exact ⟨given, all, tokenized, structured, sitesOf_eq_ok described⟩

theorem mem_addresses {directive : Directive} {line : Nat}
    {address : List Char} (member : (line, address) ∈ directive.addresses) :
    ∃ token : Token, ∃ piece ∈ pieces ',' token.text.toList,
      address = trim piece ∧ address ≠ [] := by
  rw [Directive.addresses] at member
  obtain ⟨token, _, inToken⟩ := List.mem_flatMap.mp member
  obtain ⟨_, kept, same⟩ := List.mem_map.mp inToken
  cases same
  obtain ⟨trimmed, nonempty⟩ := List.mem_filter.mp kept
  obtain ⟨piece, cut, rfl⟩ := List.mem_map.mp trimmed
  exact ⟨token, piece, cut, rfl, by simpa using nonempty⟩

end VirtualHosts.Site
