import Mathlib
import VirtualHosts.Proofs.Bind
import VirtualHosts.Proofs.Route.Table

/-!
Building a table from a list of routes.  It succeeds exactly if every host has
a key and no key comes twice; the table then holds each route once, whatever
their order, and a list that is refused is refused for its first bad route.
-/

namespace VirtualHosts

open VirtualHosts.Text (before before_irrefl before_trans)

/-- The route as a table keeps it, if its host has a key. -/
def Route.keyed? (route : Route) : Option Route :=
  (Host.key? route.host).map route.under

theorem Route.keyed?_eq_some_iff {route kept : Route} :
    route.keyed? = some kept ↔
      ∃ key, Host.key? route.host = some key ∧ kept = route.under key := by
  simp [keyed?, eq_comm]

namespace RouteTable

/-- Every host has a key, and no two of the hosts have the same one. -/
structure Distinct (routes : List Route) : Prop where
  keyed : ∀ route ∈ routes, ∃ key, Host.key? route.host = some key
  apart : routes.Pairwise fun first second =>
    Host.key? first.host ≠ Host.key? second.host

/-- What is wrong with the first route that cannot be put beside those before
it. -/
inductive FirstFault (routes : List Route) : Site.Error → Prop
  | invalid {front after : List Route} {route : Route}
      (shape : routes = front ++ route :: after) (fine : Distinct front)
      (keyless : Host.key? route.host = none) :
      FirstFault routes (.invalidHost route.host)
  | duplicate {front after : List Route} {route earlier : Route}
      {key : String} (shape : routes = front ++ route :: after)
      (fine : Distinct front) (keyed : Host.key? route.host = some key)
      (member : earlier ∈ front)
      (taken : Host.key? earlier.host = some key) :
      FirstFault routes (.duplicateHost key)

/-- How a table answers for the routes that it was built from. -/
structure Compiled (routes : List Route) (table : RouteTable) : Prop where
  lookup_iff : ∀ raw route, table.lookup raw = some route ↔
    ∃ given ∈ routes, ∃ key, Host.key? raw = some key ∧
      Host.key? given.host = some key ∧
      route = ⟨key, given.target, given.rules⟩
  size : table.size = routes.length
  increasing : table.hosts.Pairwise fun first second =>
    before first second = true
  mem_hosts_iff : ∀ key, key ∈ table.hosts ↔
    ∃ given ∈ routes, Host.key? given.host = some key
  hosts : table.routes.map (·.host) = table.hosts
  perm : table.routes.Perm (routes.filterMap Route.keyed?)

/-- What a table holds while the routes are put in one by one. -/
structure Holds (table : RouteTable) (routes : List Route) : Prop where
  distinct : Distinct routes
  perm : table.routes.Perm (routes.filterMap Route.keyed?)

theorem distinct_nil : Distinct [] :=
  ⟨by simp, .nil⟩

theorem Distinct.concat {routes : List Route} (distinct : Distinct routes)
    {route : Route} {key : String} (keyed : Host.key? route.host = some key)
    (fresh : ∀ earlier ∈ routes, Host.key? earlier.host ≠ some key) :
    Distinct (routes ++ [route]) := by
  constructor
  · intro other member
    rcases List.mem_append.mp member with earlier | last
    · exact distinct.keyed other earlier
    · rw [List.mem_singleton.mp last]
      exact ⟨key, keyed⟩
  · refine List.pairwise_append.mpr ⟨distinct.apart, by simp, ?_⟩
    intro earlier member last isLast
    rw [List.mem_singleton.mp isLast, keyed]
    exact fresh earlier member

theorem Distinct.perm {routes others : List Route}
    (distinct : Distinct routes) (perm : others.Perm routes) :
    Distinct others :=
  ⟨fun route member => distinct.keyed route (perm.mem_iff.mp member),
    (perm.pairwise_iff Ne.symm).mpr distinct.apart⟩

theorem not_distinct_of_firstFault {routes : List Route} {fault : Site.Error}
    (first : FirstFault routes fault) : ¬Distinct routes := by
  intro distinct
  cases first with
  | @invalid front after route shape fine keyless =>
      obtain ⟨key, keyed⟩ := distinct.keyed route (by simp [shape])
      simp [keyless] at keyed
  | @duplicate front after route earlier key shape fine keyed member taken =>
      have apart := distinct.apart
      rw [shape, List.pairwise_append] at apart
      exact apart.2.2 earlier member route List.mem_cons_self
        (taken.trans keyed.symm)

/-! What a table that holds the routes knows of them. -/

namespace Holds

variable {table : RouteTable} {routes : List Route}

theorem mem_iff (holds : table.Holds routes) {kept : Route} :
    kept ∈ table.routes ↔
      ∃ given ∈ routes, ∃ key, Host.key? given.host = some key ∧
        kept = given.under key := by
  simp [holds.perm.mem_iff, List.mem_filterMap, Route.keyed?_eq_some_iff]

theorem find?_eq_some_iff (holds : table.Holds routes) {key : String}
    {kept : Route} :
    table.find? key = some kept ↔
      ∃ given ∈ routes, Host.key? given.host = some key ∧
        kept = given.under key := by
  rw [RouteTable.find?_eq_some_iff, holds.mem_iff]
  constructor
  · rintro ⟨⟨given, member, other, keyed, rfl⟩, rfl⟩
    exact ⟨given, member, keyed, rfl⟩
  · rintro ⟨given, member, keyed, rfl⟩
    exact ⟨⟨given, member, key, keyed, rfl⟩, rfl⟩

theorem find?_eq_none_iff (holds : table.Holds routes) {key : String} :
    table.find? key = none ↔
      ∀ given ∈ routes, Host.key? given.host ≠ some key := by
  rw [Option.eq_none_iff_forall_ne_some]
  constructor
  · intro absent given member keyed
    exact absent _ (holds.find?_eq_some_iff.mpr ⟨given, member, keyed, rfl⟩)
  · intro free kept found
    obtain ⟨given, member, keyed, _⟩ := holds.find?_eq_some_iff.mp found
    exact free given member keyed

theorem compiled (holds : table.Holds routes) : Compiled routes table where
  lookup_iff := by
    intro raw route
    rw [lookup_eq_bind, Option.bind_eq_some_iff]
    simp only [holds.find?_eq_some_iff, Route.under]
    constructor
    · rintro ⟨key, read, given, member, keyed, rfl⟩
      exact ⟨given, member, key, read, keyed, rfl⟩
    · rintro ⟨given, member, key, read, keyed, rfl⟩
      exact ⟨key, read, given, member, keyed, rfl⟩
  size := by
    rw [size, holds.perm.length_eq, List.filterMap_length_eq_length]
    intro route member
    obtain ⟨key, keyed⟩ := holds.distinct.keyed route member
    simp [Route.keyed?, keyed]
  increasing := List.pairwise_map.mpr table.increasing
  mem_hosts_iff := by
    intro key
    rw [RouteTable.hosts, List.mem_map]
    constructor
    · rintro ⟨kept, member, rfl⟩
      obtain ⟨given, inside, key, keyed, rfl⟩ := holds.mem_iff.mp member
      exact ⟨given, inside, keyed⟩
    · rintro ⟨given, inside, keyed⟩
      exact ⟨given.under key, holds.mem_iff.mpr ⟨given, inside, key, keyed, rfl⟩,
        rfl⟩
  hosts := rfl
  perm := holds.perm

end Holds

/-! One more route. -/

theorem perm_insertRoute (route : Route) (routes : List Route) :
    (insertRoute route routes).Perm (route :: routes) := by
  induction routes with
  | nil => exact .rfl
  | cons first rest ih =>
      rw [insertRoute]
      split
      · exact .rfl
      · exact (ih.cons first).trans (.swap route first rest)

theorem add_of_keyless (table : RouteTable) {route : Route}
    (keyless : Host.key? route.host = none) :
    table.add route = .error (.invalidHost route.host) := by
  rw [add]
  split
  · rfl
  · rename_i key keyed
    simp [keyless] at keyed

theorem add_of_taken {table : RouteTable} {route other : Route}
    {key : String} (keyed : Host.key? route.host = some key)
    (taken : table.find? key = some other) :
    table.add route = .error (.duplicateHost key) := by
  rw [add]
  split
  · rename_i keyless
    simp [keyed] at keyless
  · rename_i found read
    cases keyed.symm.trans read
    split
    · rfl
    · rename_i free
      simp [taken] at free

theorem add_of_free {table : RouteTable} {route : Route} {key : String}
    (keyed : Host.key? route.host = some key)
    (free : table.find? key = none) :
    ∃ next, table.add route = .ok next ∧
      next.routes.Perm (route.under key :: table.routes) := by
  rw [add]
  split
  · rename_i keyless
    simp [keyed] at keyless
  · rename_i found read
    cases keyed.symm.trans read
    split
    · rename_i other taken
      simp [free] at taken
    · exact ⟨_, rfl, perm_insertRoute _ _⟩

/-- A route is put into a table, or it is the first that cannot be. -/
theorem Holds.add {table : RouteTable} {routes : List Route}
    (holds : table.Holds routes) (route : Route) :
    (∃ next, table.add route = .ok next ∧ next.Holds (routes ++ [route])) ∨
      ∃ fault, table.add route = .error fault ∧
        ∀ after, FirstFault (routes ++ route :: after) fault := by
  cases keyed : Host.key? route.host with
  | none =>
      right
      exact ⟨_, table.add_of_keyless keyed,
        fun after => .invalid rfl holds.distinct keyed⟩
  | some key =>
      cases found : table.find? key with
      | some other =>
          right
          obtain ⟨earlier, member, taken, _⟩ :=
            holds.find?_eq_some_iff.mp found
          exact ⟨_, add_of_taken keyed found,
            fun after => .duplicate rfl holds.distinct keyed member taken⟩
      | none =>
          left
          obtain ⟨next, added, perm⟩ := add_of_free keyed found
          have fresh := holds.find?_eq_none_iff.mp found
          refine ⟨next, added, holds.distinct.concat keyed fresh, ?_⟩
          have single : [route].filterMap Route.keyed? = [route.under key] := by
            simp [Route.keyed?, keyed]
          rw [List.filterMap_append, single]
          exact (perm.trans (holds.perm.cons _)).trans
            (List.perm_append_singleton _ _).symm

theorem holds_empty : empty.Holds [] :=
  ⟨distinct_nil, .rfl⟩

/-! A whole list of routes.  The induction is on the routes that are still to
come, and the table holds those before them. -/

theorem Holds.foldlM_add {table : RouteTable} {routes : List Route}
    (holds : table.Holds routes) (rest : List Route) :
    (∃ next, rest.foldlM RouteTable.add table = .ok next ∧
        next.Holds (routes ++ rest)) ∨
      ∃ fault, rest.foldlM RouteTable.add table = .error fault ∧
        FirstFault (routes ++ rest) fault := by
  induction rest generalizing table routes with
  | nil => exact Or.inl ⟨table, rfl, by rwa [List.append_nil]⟩
  | cons route rest ih =>
      rw [List.foldlM_cons]
      rcases holds.add route with ⟨next, added, more⟩ | ⟨fault, added, first⟩
      · rw [added, ok_bind]
        simpa using ih more
      · rw [added, error_bind]
        exact Or.inr ⟨fault, rfl, first rest⟩

theorem ofRoutes_cases (routes : List Route) :
    (∃ table, ofRoutes routes = .ok table ∧ table.Holds routes) ∨
      ∃ fault, ofRoutes routes = .error fault ∧ FirstFault routes fault :=
  holds_empty.foldlM_add routes

theorem holds_of_ofRoutes {routes : List Route} {table : RouteTable}
    (built : ofRoutes routes = .ok table) : table.Holds routes := by
  rcases ofRoutes_cases routes with ⟨other, built', holds⟩ | ⟨fault, refused, _⟩
  · cases built.symm.trans built'
    exact holds
  · cases built.symm.trans refused

/-- Every route of the list is found under the key of its host. -/
theorem find?_of_ofRoutes {routes : List Route} {table : RouteTable}
    (built : ofRoutes routes = .ok table) {route : Route}
    (member : route ∈ routes) :
    ∃ key, Host.key? route.host = some key ∧
      table.find? key = some (route.under key) := by
  have holds := holds_of_ofRoutes built
  obtain ⟨key, keyed⟩ := holds.distinct.keyed route member
  exact ⟨key, keyed, holds.find?_eq_some_iff.mpr ⟨route, member, keyed, rfl⟩⟩

theorem exists_ofRoutes {routes : List Route} (distinct : Distinct routes) :
    ∃ table, ofRoutes routes = .ok table ∧ table.Holds routes := by
  rcases ofRoutes_cases routes with fine | ⟨fault, _, first⟩
  · exact fine
  · -- A first fault is one of the list itself, not only of how far it was read.
    exact absurd distinct (not_distinct_of_firstFault first)

theorem ofRoutes_append_cons {front : List Route} {table : RouteTable}
    (built : ofRoutes front = .ok table) {route : Route} {fault : Site.Error}
    (refused : table.add route = .error fault) (after : List Route) :
    ofRoutes (front ++ route :: after) = .error fault := by
  rw [ofRoutes] at built ⊢
  rw [List.foldlM_append, built, ok_bind, List.foldlM_cons, refused, error_bind]

theorem ofRoutes_of_firstFault {routes : List Route} {fault : Site.Error}
    (first : FirstFault routes fault) : ofRoutes routes = .error fault := by
  cases first with
  | invalid shape fine keyless =>
      obtain ⟨table, built, holds⟩ := exists_ofRoutes fine
      rw [shape]
      exact ofRoutes_append_cons built (table.add_of_keyless keyless) _
  | duplicate shape fine keyed member taken =>
      obtain ⟨table, built, holds⟩ := exists_ofRoutes fine
      have found := holds.find?_eq_some_iff.mpr ⟨_, member, taken, rfl⟩
      rw [shape]
      exact ofRoutes_append_cons built (add_of_taken keyed found) _

/-- The order of the keys leaves one way only to arrange the same routes. -/
theorem eq_of_perm {first second : RouteTable}
    (perm : first.routes.Perm second.routes) : first = second := by
  have same : first.routes = second.routes := by
    refine perm.eq_of_pairwise ?_ first.increasing second.increasing
    intro route other _ _ earlier later
    have loop := before_trans earlier later
    rw [before_irrefl] at loop
    contradiction
  cases first
  cases second
  cases same
  rfl

theorem ofRoutes_perm {routes others : List Route}
    (perm : others.Perm routes) {table : RouteTable}
    (built : ofRoutes routes = .ok table) : ofRoutes others = .ok table := by
  have holds := holds_of_ofRoutes built
  obtain ⟨other, built', holds'⟩ := exists_ofRoutes (holds.distinct.perm perm)
  have same : other.routes.Perm table.routes :=
    (holds'.perm.trans (perm.filterMap Route.keyed?)).trans holds.perm.symm
  rw [built', eq_of_perm same]

/-- A list of routes makes a table exactly if every host has a key and the
keys are different.  The table holds each route under its key, in the order of
the keys, and in whatever order the routes were given; a list that makes no
table is refused for its first route that has no key or the key of one before
it. -/
theorem ofRoutes_compiled (routes : List Route) :
    ((∃ table, ofRoutes routes = .ok table) ↔ Distinct routes) ∧
    (∀ table, ofRoutes routes = .ok table →
      Compiled routes table ∧
        ∀ others, others.Perm routes → ofRoutes others = .ok table) ∧
    ∀ fault, ofRoutes routes = .error fault ↔ FirstFault routes fault := by
  refine ⟨⟨?_, ?_⟩, ?_, fun fault => ⟨?_, ofRoutes_of_firstFault⟩⟩
  · rintro ⟨table, built⟩
    exact (holds_of_ofRoutes built).distinct
  · intro distinct
    obtain ⟨table, built, _⟩ := exists_ofRoutes distinct
    exact ⟨table, built⟩
  · intro table built
    exact ⟨(holds_of_ofRoutes built).compiled,
      fun others perm => ofRoutes_perm perm built⟩
  · intro refused
    rcases ofRoutes_cases routes with ⟨table, built, _⟩ | ⟨other, refused', first⟩
    · cases refused.symm.trans built
    · cases refused.symm.trans refused'
      exact first

end RouteTable

end VirtualHosts
