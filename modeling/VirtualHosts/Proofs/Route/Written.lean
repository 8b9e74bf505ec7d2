import Mathlib
import VirtualHosts.Proofs.Route.Building
import VirtualHosts.Proofs.Site.Hosts

/-!
Looking up an address as the site file writes it.  The address parser and the
look-up read a text alike where both read it, and the look-up does not read all
that the parser takes: a port with a sign, a colon in a host.  A key that ends
in a dot or a blank is reduced further when the table is built.
-/

namespace VirtualHosts

open VirtualHosts.Host
open VirtualHosts.Site
open VirtualHosts.Text

/-- The text to look up for a written address. -/
def requested (address : List Char) : String :=
  String.ofList (withoutPlainScheme address)

/-- Whether a text has a key that ends neither in a dot nor in a blank. -/
def HasFirmKey (raw : String) : Prop :=
  ∃ key, key? raw = some key ∧ ¬EndsLoose key.toList

/-- The route of a site under one of its keys. -/
def Site.routeUnder (site : Site) (key : String) : Route :=
  ⟨key, site.target, site.rules⟩

/-- Whether a look-up of the text finds a route that does what the site says. -/
def RouteTable.Serves (table : RouteTable) (site : Site) (raw : String) :
    Prop :=
  ∃ route, table.lookup raw = some route ∧
    route.target = site.target ∧ route.rules = site.rules

/-- An address of the site, its host and the key of its route, with what a
look-up of the address finds. -/
structure Routed (table : RouteTable) (site : Site) (address : List Char)
    (host key : String) : Prop where
  member : host ∈ site.hosts
  named : ∃ line, siteHost line address = .ok host
  read : key? host = some key
  held : table.find? key = some (site.routeUnder key)
  /-- The route of this address is found exactly if the key is firm. -/
  own : table.lookup (requested address) = some (site.routeUnder key) ↔
    HasFirmKey (requested address)
  /-- Otherwise only the route of another key may do the same. -/
  served : table.Serves site (requested address) ↔
    HasFirmKey (requested address) ∨
      ∃ other, other ≠ key ∧ EndsLoose other.toList ∧
        key? (requested address) = some other ∧
        ∃ route ∈ table.routes, route.host = other ∧
          route.target = site.target ∧ route.rules = site.rules

theorem lookup_requested_iff {table : RouteTable} {site : Site} {line : Nat}
    {address : List Char} {host key : String} (firm : ¬EndsBlank address)
    (named : siteHost line address = .ok host) (read : key? host = some key)
    (held : table.find? key = some (site.routeUnder key)) :
    table.lookup (requested address) = some (site.routeUnder key) ↔
      HasFirmKey (requested address) := by
  rw [RouteTable.lookup_eq_bind, Option.bind_eq_some_iff]
  -- The host was read twice on its way to the table, the address once.
  constructor
  · intro holds
    obtain ⟨other, asked, found⟩ := holds
    have same : other = key := (RouteTable.host_of_find? found).symm
    subst same
    refine ⟨other, asked, (key?_self_iff asked).mp ?_⟩
    rw [← key?_siteHost firm named asked, read]
  · intro holds
    obtain ⟨other, asked, ends⟩ := holds
    have again := (key?_self_iff asked).mpr ends
    rw [← key?_siteHost firm named asked, read] at again
    cases again
    exact ⟨key, asked, held⟩

theorem serves_requested_iff {table : RouteTable} {site : Site}
    {address : List Char} {key : String}
    (own : table.lookup (requested address) = some (site.routeUnder key) ↔
      HasFirmKey (requested address)) :
    table.Serves site (requested address) ↔
      HasFirmKey (requested address) ∨
        ∃ other, other ≠ key ∧ EndsLoose other.toList ∧
          key? (requested address) = some other ∧
          ∃ route ∈ table.routes, route.host = other ∧
            route.target = site.target ∧ route.rules = site.rules := by
  constructor
  · intro holds
    obtain ⟨route, found, target, rules⟩ := holds
    by_cases firm : HasFirmKey (requested address)
    · exact Or.inl firm
    · right
      obtain ⟨other, asked, kept⟩ := Option.bind_eq_some_iff.mp found
      obtain ⟨member, host⟩ := RouteTable.find?_eq_some_iff.mp kept
      have loose : EndsLoose other.toList := by
        by_contra ends
        exact firm ⟨other, asked, ends⟩
      refine ⟨other, ?_, loose, asked, route, member, host, target, rules⟩
      intro same
      subst same
      apply firm
      apply own.mp
      rw [found, Site.routeUnder, ← host, ← target, ← rules]
  · intro either
    rcases either with firm | ⟨other, _, _, asked, route, member, host, same⟩
    · exact ⟨_, own.mpr firm, rfl, rfl⟩
    · refine ⟨route, ?_, same⟩
      rw [RouteTable.lookup_eq_bind, asked]
      exact RouteTable.find?_eq_some_iff.mpr ⟨member, host⟩

namespace RouteTable

theorem held_of_read {text : String} {table : RouteTable}
    (loaded : RouteTable.read text = .ok table) :
    ∃ file, SiteFile.read text = .ok file ∧
      ∀ site ∈ file.sites, ∀ host ∈ site.hosts, ∃ key,
        key? host = some key ∧ table.find? key = some (site.routeUnder key) := by
  rw [RouteTable.read] at loaded
  obtain ⟨file, read, built⟩ := bind_eq_ok_iff.mp loaded
  refine ⟨file, read, ?_⟩
  intro site siteMember host hostMember
  have member : site.routeUnder host ∈ file.routes :=
    List.mem_flatMap.mpr
      ⟨site, siteMember, List.mem_map.mpr ⟨host, hostMember, rfl⟩⟩
  obtain ⟨key, keyRead, kept⟩ := find?_of_ofRoutes built member
  exact ⟨key, keyRead, kept⟩

/-- Each address of each site of a loaded file is looked up with success
exactly if the address, without its scheme, has a firm key. -/
theorem lookup_written_address {text : String} {table : RouteTable}
    (loaded : RouteTable.read text = .ok table) :
    ∃ file given all, SiteFile.read text = .ok file ∧
      tokens text = .ok given ∧ directives given = .ok all ∧
      List.Forall₂ (fun directive site =>
          ofDirective directive = .ok site ∧
          ∀ written ∈ directive.addresses,
            ∃ host key, Routed table site written.2 host key)
        (siteDirectives all) file.sites := by
  obtain ⟨file, read, held⟩ := held_of_read loaded
  obtain ⟨given, all, tokenized, structured, described⟩ :=
    siteFile_read_eq_ok read
  refine ⟨file, given, all, read, tokenized, structured, ?_⟩
  rw [List.forall₂_iff_zip] at described ⊢
  refine ⟨described.1, ?_⟩
  intro directive site pair
  have siteRead := described.2 pair
  refine ⟨siteRead, ?_⟩
  intro written isWritten
  obtain ⟨line, address⟩ := written
  have names := (siteHosts_eq_ok_iff.mp
    (ofDirective_eq_ok_iff.mp siteRead).1).1
  obtain ⟨host, hostMember, named⟩ := exists_of_mem_left names isWritten
  obtain ⟨key, keyRead, keyHeld⟩ :=
    held site (List.of_mem_zip pair).2 host hostMember
  obtain ⟨_, piece, _, rfl, _⟩ := mem_addresses isWritten
  have own := lookup_requested_iff (not_endsBlank_trim piece) named keyRead
    keyHeld
  exact ⟨host, key, hostMember, ⟨line, named⟩, keyRead, keyHeld, own,
    serves_requested_iff own⟩

end RouteTable

/-! A file with one address that its table does not know. -/

def signedText : String :=
  "b.example, a.example:+80 \x7b\n root d\n file_server\n\x7d\n"

def signedTokens : List Token :=
  [⟨"b.example,", 1, 1, false⟩, ⟨"a.example:+80", 1, 1, false⟩,
    ⟨"\x7b", 1, 1, false⟩, ⟨"root", 2, 2, false⟩, ⟨"d", 2, 2, false⟩,
    ⟨"file_server", 3, 3, false⟩, ⟨"\x7d", 4, 4, false⟩]

def signedDirective : Directive :=
  .mk ⟨"b.example,", 1, 1, false⟩ [⟨"a.example:+80", 1, 1, false⟩]
    (some
      [.mk ⟨"root", 2, 2, false⟩ [⟨"d", 2, 2, false⟩] none,
        .mk ⟨"file_server", 3, 3, false⟩ [] none])

def signedSite : Site :=
  ⟨["b.example", "a.example"], .files ⟨"d"⟩, []⟩

def signedTable : RouteTable :=
  ⟨[signedSite.routeUnder "a.example", signedSite.routeUnder "b.example"],
    by decide⟩

theorem tokens_signedText : tokens signedText = .ok signedTokens := by
  decide +kernel

theorem directives_signedTokens :
    directives signedTokens = .ok [signedDirective] := rfl

theorem ofDirective_signedDirective :
    ofDirective signedDirective = .ok signedSite := by
  decide

theorem siteFile_read_signedText :
    SiteFile.read signedText = .ok ⟨[signedSite]⟩ := by
  rw [SiteFile.read]
  rw [tokens_signedText, ok_bind, directives_signedTokens, ok_bind]
  rw [SiteFile.ofDirectives, sitesOf]
  rw [ofDirective_signedDirective]
  rfl

theorem read_signedText : RouteTable.read signedText = .ok signedTable := by
  rw [RouteTable.read]
  rw [siteFile_read_signedText, ok_bind]
  rfl

theorem RouteTable.lookup_signedText :
    RouteTable.read signedText = .ok signedTable ∧
    ∃ file given all, SiteFile.read signedText = .ok file ∧
      tokens signedText = .ok given ∧ directives given = .ok all ∧
      List.Forall₂ (fun directive site =>
          ofDirective directive = .ok site ∧
          ∀ written ∈ directive.addresses,
            ∃ host key, Routed signedTable site written.2 host key)
        (siteDirectives all) file.sites :=
  ⟨read_signedText, lookup_written_address read_signedText⟩

/-- The address is a site's own, and its table has no route for it: a look-up
does not read the sign before the port. -/
theorem RouteTable.lookup_signed_port :
    RouteTable.read signedText = .ok signedTable ∧
    tokens signedText = .ok signedTokens ∧
    directives signedTokens = .ok [signedDirective] ∧
    ofDirective signedDirective = .ok signedSite ∧
    (1, "a.example:+80".toList) ∈ signedDirective.addresses ∧
    signedTable.lookup (requested "a.example:+80".toList) = none ∧
    ¬signedTable.Serves signedSite (requested "a.example:+80".toList) := by
  have unfound :
      signedTable.lookup (requested "a.example:+80".toList) = none := by
    decide
  refine ⟨read_signedText, tokens_signedText, directives_signedTokens,
    ofDirective_signedDirective, by decide, unfound, ?_⟩
  intro holds
  obtain ⟨route, found, _⟩ := holds
  rw [unfound] at found
  contradiction

end VirtualHosts
