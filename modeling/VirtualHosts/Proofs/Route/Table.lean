import Mathlib
import VirtualHosts.Route.Table

/-!
What a table holds.  A route is found under its host and no other key.
-/

namespace VirtualHosts

open VirtualHosts.Text (before before_irrefl)

/-- The route as a table keeps it. -/
def Route.under (route : Route) (key : String) : Route :=
  { route with host := key }

namespace RouteTable

theorem nodup_hosts (table : RouteTable) : table.hosts.Nodup := by
  rw [hosts, List.Nodup]
  rw [List.pairwise_map]
  apply table.increasing.imp
  intro first second earlier same
  rw [same, before_irrefl] at earlier
  contradiction

theorem find?_eq_some_iff {table : RouteTable} {key : String}
    {route : Route} :
    table.find? key = some route ↔ route ∈ table.routes ∧ route.host = key := by
  constructor
  · intro found
    exact ⟨List.mem_of_find?_eq_some found,
      by simpa using List.find?_some found⟩
  · intro holds
    obtain ⟨member, rfl⟩ := holds
    cases found : table.find? route.host with
    | none => exact absurd rfl (find?_eq_none_iff.mp found route member)
    | some other =>
        have otherMember := List.mem_of_find?_eq_some found
        have sameHost : other.host = route.host := by
          simpa using List.find?_some found
        rw [List.inj_on_of_nodup_map table.nodup_hosts otherMember member
          sameHost]

theorem lookup_eq_bind (table : RouteTable) (raw : String) :
    table.lookup raw = (Host.key? raw).bind table.find? := rfl

theorem host_of_find? {table : RouteTable} {key : String} {route : Route}
    (found : table.find? key = some route) : route.host = key :=
  (find?_eq_some_iff.mp found).2

end RouteTable

end VirtualHosts
