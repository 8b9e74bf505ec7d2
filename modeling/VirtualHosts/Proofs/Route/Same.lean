import Mathlib
import VirtualHosts.Route.Live

/-!
When two tables are the same: they have the same hosts, and each host the same
backend or a root that names the same place, with the same rules.  Putting the
same table in place changes nothing that can be told from outside.
-/

namespace VirtualHosts

open VirtualHosts.Files

namespace Site

/-- What a target stands for, however its root is written. -/
def Target.meaning : Target → Backend ⊕ List Component
  | .backend address => .inl address
  | .files root => .inr root.components

theorem Target.same_iff_meaning {first second : Target} :
    first.same second = true ↔ first.meaning = second.meaning := by
  cases first with
  | backend address => cases second <;> simp [same, meaning]
  | files root => cases second <;> simp [same, meaning, Path.same_iff]

end Site

def Route.meaning (route : Route) :
    String × (Site.Backend ⊕ List Component) × List Header.Rule :=
  (route.host, route.target.meaning, route.rules)

theorem Route.same_iff_meaning {first second : Route} :
    first.same second = true ↔ first.meaning = second.meaning := by
  simp [same, meaning, Site.Target.same_iff_meaning, and_assoc]

namespace RouteTable

def meaning (table : RouteTable) :
    List (String × (Site.Backend ⊕ List Component) × List Header.Rule) :=
  table.routes.map Route.meaning

theorem sameRoutes_iff_meaning {first second : List Route} :
    sameRoutes first second = true ↔
      first.map Route.meaning = second.map Route.meaning := by
  induction first generalizing second with
  | nil => cases second <;> simp [sameRoutes]
  | cons route rest ih =>
      cases second with
      | nil => simp [sameRoutes]
      | cons other others =>
          simp [sameRoutes, Route.same_iff_meaning, ih]

theorem same_iff_meaning {first second : RouteTable} :
    first.same second = true ↔ first.meaning = second.meaning :=
  sameRoutes_iff_meaning

theorem same_eq_false_iff_meaning {first second : RouteTable} :
    first.same second = false ↔ first.meaning ≠ second.meaning := by
  rw [← Bool.not_eq_true, same_iff_meaning]

end RouteTable

/-- A table that was put in place is the same as the live one, also when the
live one was kept. -/
theorem LiveTable.meaning_replace (live : LiveTable) (table : RouteTable) :
    (live.replace table).2.current.table.meaning = table.meaning := by
  rw [replace]
  split
  · rename_i same
    exact RouteTable.same_iff_meaning.mp same
  · rfl

end VirtualHosts
