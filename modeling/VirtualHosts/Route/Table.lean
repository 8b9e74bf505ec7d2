import VirtualHosts.Host.Key
import VirtualHosts.Site.Basic
import VirtualHosts.Text.Order

/-!
Route tables.  A table holds one route for each host key, in increasing order
of the keys; it is built once from a list of routes and then only looked up.
-/

namespace VirtualHosts

open VirtualHosts.Text (before)

structure Route where
  host : String
  target : Site.Target
  rules : List Header.Rule
  deriving DecidableEq

def Route.same (first second : Route) : Bool :=
  first.host = second.host && first.target.same second.target &&
    first.rules = second.rules

def SiteFile.routes (file : SiteFile) : List Route :=
  file.sites.flatMap fun site =>
    site.hosts.map fun host => ⟨host, site.target, site.rules⟩

structure RouteTable where
  routes : List Route
  increasing : routes.Pairwise fun first second =>
    before first.host second.host = true

namespace RouteTable

def empty : RouteTable := ⟨[], .nil⟩

def find? (table : RouteTable) (key : String) : Option Route :=
  table.routes.find? fun route => route.host = key

def lookup (table : RouteTable) (raw : String) : Option Route :=
  (Host.key? raw).bind table.find?

def size (table : RouteTable) : Nat :=
  table.routes.length

def hosts (table : RouteTable) : List String :=
  table.routes.map (·.host)

def insertRoute (route : Route) : List Route → List Route
  | [] => [route]
  | first :: rest =>
      if before route.host first.host then route :: first :: rest
      else first :: insertRoute route rest

theorem mem_insertRoute {route other : Route} {routes : List Route} :
    other ∈ insertRoute route routes ↔ other = route ∨ other ∈ routes := by
  induction routes with
  | nil => simp [insertRoute]
  | cons first rest ih =>
      unfold insertRoute
      split
      · simp
      · simp only [List.mem_cons, ih]
        exact or_left_comm

theorem increasing_insertRoute {route : Route} {routes : List Route}
    (increasing : routes.Pairwise fun first second =>
      before first.host second.host = true)
    (fresh : ∀ other ∈ routes, other.host ≠ route.host) :
    (insertRoute route routes).Pairwise fun first second =>
      before first.host second.host = true := by
  induction routes with
  | nil => simp [insertRoute]
  | cons first rest ih =>
      rw [List.pairwise_cons] at increasing
      unfold insertRoute
      split
      · rename_i earlier
        refine List.pairwise_cons.mpr ⟨?_, List.pairwise_cons.mpr increasing⟩
        intro other member
        rcases List.mem_cons.mp member with rfl | member
        · exact earlier
        · exact Text.before_trans earlier (increasing.1 other member)
      · rename_i later
        refine List.pairwise_cons.mpr ⟨?_, ih increasing.2 ?_⟩
        · intro other member
          rcases mem_insertRoute.mp member with rfl | member
          · exact Text.before_of_not_before
              (fun same => fresh first (by simp) same.symm) (by simpa using later)
          · exact increasing.1 other member
        · intro other member
          exact fresh other (by simp [member])

theorem find?_eq_none_iff {table : RouteTable} {key : String} :
    table.find? key = none ↔ ∀ route ∈ table.routes, route.host ≠ key := by
  simp [find?, List.find?_eq_none]

def add (table : RouteTable) (route : Route) :
    Except Site.Error RouteTable :=
  match Host.key? route.host with
  | none => .error (.invalidHost route.host)
  | some key =>
      match taken : table.find? key with
      | some _ => .error (.duplicateHost key)
      | none =>
          .ok ⟨insertRoute ⟨key, route.target, route.rules⟩ table.routes,
            increasing_insertRoute table.increasing
              (find?_eq_none_iff.mp taken)⟩

def ofRoutes (routes : List Route) : Except Site.Error RouteTable :=
  routes.foldlM add empty

def read (s : String) : Except Site.Error RouteTable := do
  let file ← SiteFile.read s
  ofRoutes file.routes

/-- The table with the same hosts and targets and no rules. -/
def withoutRules (table : RouteTable) : RouteTable :=
  ⟨table.routes.map fun route => { route with rules := [] },
    List.pairwise_map.mpr table.increasing⟩

def sameRoutes : List Route → List Route → Bool
  | [], [] => true
  | first :: rest, other :: others =>
      first.same other && sameRoutes rest others
  | _, _ => false

def same (first second : RouteTable) : Bool :=
  sameRoutes first.routes second.routes

end RouteTable

end VirtualHosts
