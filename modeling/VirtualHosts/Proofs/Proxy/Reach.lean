import Mathlib
import VirtualHosts.Proofs.Header.Visible
import VirtualHosts.Proofs.Host.Stability
import VirtualHosts.Proofs.Http.Authority
import VirtualHosts.Proofs.Route.Building
import VirtualHosts.Proxy.Dispatch

/-!
Which sites a request can reach.  A request names its host in visible
characters, and a site file may name one in others, so a site is out of reach
exactly if its key has a character that is not visible.
-/

namespace VirtualHosts

open VirtualHosts.Header
open VirtualHosts.Host
open VirtualHosts.Http
open VirtualHosts.Text

theorem forall_mem_key? {p : Char → Prop}
    (lowered : ∀ c, p c → p c.toLower) {raw key : String}
    (read : key? raw = some key) (all : ∀ c ∈ raw.toList, p c) :
    ∀ c ∈ key.toList, p c :=
  forall_mem_keyOf? lowered (key?_eq_some_iff.mp read) all

namespace Http.Request

theorem forall_mem_hostText? {p : Char → Prop}
    (field : ∀ c, isVisible c = true → p c) {request : Request}
    (authority : ∀ named, request.target.authority? = some named →
      ∀ c ∈ named.toList, p c)
    {raw : String} (read : request.hostText? = some raw) :
    ∀ c ∈ raw.toList, p c := by
  have ofField : request.hostField? = some raw → ∀ c ∈ raw.toList, p c := by
    intro found c member
    obtain ⟨value, _, text⟩ := Option.bind_eq_some_iff.mp found
    exact field c (Value.isVisible_of_text? text c member)
  rw [hostText?] at read
  split at read
  · rename_i named has
    split at read
    · cases read
      exact authority raw has
    · exact ofField read
  · exact ofField read

end Http.Request

namespace Proxy

/-- Whatever lower case keeps, and holds of the visible characters and of
those of the authority, holds of the characters of the host that is found. -/
theorem forall_mem_host_of_routeFor? {p : Char → Prop}
    (lowered : ∀ c, p c → p c.toLower)
    (field : ∀ c, isVisible c = true → p c) {request : Request}
    (authority : ∀ named, request.target.authority? = some named →
      ∀ c ∈ named.toList, p c)
    {table : RouteTable} {route : Route}
    (found : routeFor? table request = some route) :
    ∀ c ∈ route.host.toList, p c := by
  obtain ⟨key, read, looked⟩ := Option.bind_eq_some_iff.mp found
  obtain ⟨raw, named, once⟩ := Option.bind_eq_some_iff.mp read
  rw [RouteTable.lookup_eq_bind] at looked
  obtain ⟨host, twice, kept⟩ := Option.bind_eq_some_iff.mp looked
  rw [RouteTable.host_of_find? kept]
  apply forall_mem_key? lowered twice
  apply forall_mem_key? lowered once
  exact Request.forall_mem_hostText? field authority named

/-- A request for the path `/` with one `Host` field. -/
def requestFor (value : Value) : Request where
  method := "GET"
  target := .origin ⟨"/", none⟩
  fields := Fields.empty.add .host value
  body := []
  client? := none

theorem ofText?_requestFor (value : Value) :
    RequestTarget.ofText? "/" = some (requestFor value).target := by
  change RequestTarget.ofText? "/" = some (.origin ⟨"/", none⟩)
  decide

theorem hostText?_requestFor (value : Value) :
    (requestFor value).hostText? = value.text? := by
  change ((requestFor value).fields.get? .host).bind Value.text? = value.text?
  simp [requestFor, Fields.get?]

end Proxy

namespace RouteTable

open VirtualHosts.Proxy

/-- Every host of the table is the key of some text. -/
def IsKeyed (table : RouteTable) : Prop :=
  ∀ host ∈ table.hosts, ∃ raw, key? raw = some host

theorem isKeyed_ofRoutes {routes : List Route} {table : RouteTable}
    (built : ofRoutes routes = .ok table) : table.IsKeyed := by
  intro host member
  obtain ⟨given, _, keyed⟩ :=
    ((holds_of_ofRoutes built).compiled.mem_hosts_iff host).mp member
  exact ⟨given.host, keyed⟩

/-- A key can be written so that reading it twice gives it back: in brackets
it stands for itself, and otherwise two dots at its end are dropped. -/
theorem exists_read_twice {raw key : String} (read : key? raw = some key)
    (visible : ∀ c ∈ key.toList, isVisible c = true) :
    ∃ value : Value, ∃ text middle,
      value.text? = some text ∧ key? text = some middle ∧
        key? middle = some key := by
  simp only [key?_eq_some_iff] at read ⊢
  obtain ⟨lowercase, ⟨inner, closed, shape⟩ | ⟨isPlain, dark, nonempty⟩⟩ :=
    keyOf?_cases read
  · obtain ⟨value, written⟩ := Value.exists_text?_of_isVisible visible
    have again : keyOf? key.toList = some key.toList := by
      rw [← lowercase, shape, keyOf?_lower, keyOf?_bracketed closed,
        lower_bracketed]
    rw [String.ofList_toList] at written
    exact ⟨value, key, key, written, again, again⟩
  · have dotted : ∀ c ∈ key.toList ++ ['.'] ++ ['.'], isVisible c = true := by
      simp only [List.mem_append, List.mem_singleton]
      rintro c ((inside | rfl) | rfl)
      · exact visible c inside
      · rfl
      · rfl
    obtain ⟨value, written⟩ := Value.exists_text?_of_isVisible dotted
    have darkDot := not_startsBlank_append dark nonempty ['.']
    refine ⟨value, _, String.ofList (key.toList ++ ['.']), written, ?_, ?_⟩
    · rw [String.toList_ofList, String.toList_ofList]
      rw [keyOf?_concat_dot (isPlain.concat_dot nonempty) darkDot (by simp)]
      rw [lower_append, lowercase]
      rfl
    · rw [String.toList_ofList, keyOf?_concat_dot isPlain dark nonempty,
        lowercase]

/-- Some request whose target can be read selects the route of the host. -/
def IsReached (table : RouteTable) (host : String) : Prop :=
  ∃ request : Request,
    (∃ text, RequestTarget.ofText? text = some request.target) ∧
      ∃ route, routeFor? table request = some route ∧ route.host = host

theorem isVisible_of_isReached {table : RouteTable} {host : String}
    (reached : table.IsReached host) :
    ∀ c ∈ host.toList, isVisible c = true := by
  obtain ⟨request, ⟨text, readable⟩, route, found, rfl⟩ := reached
  refine forall_mem_host_of_routeFor? ?_ (fun c visible => visible) ?_ found
  · intro c visible
    exact isVisible_toLower visible
  · intro named has c member
    exact (RequestTarget.graphic_of_ofText? readable has c member).isVisible

theorem isReached_of_isVisible {table : RouteTable} {raw host : String}
    (read : key? raw = some host) (member : host ∈ table.hosts)
    (visible : ∀ c ∈ host.toList, isVisible c = true) :
    table.IsReached host := by
  obtain ⟨value, text, middle, written, once, twice⟩ :=
    exists_read_twice read visible
  obtain ⟨route, kept, rfl⟩ := List.mem_map.mp member
  refine ⟨requestFor value, ⟨"/", ofText?_requestFor value⟩, route, ?_, rfl⟩
  rw [routeFor?, Request.hostKey?, hostText?_requestFor, written]
  rw [Option.bind_some, once, Option.bind_some, lookup_eq_bind, twice]
  exact find?_eq_some_iff.mpr ⟨kept, rfl⟩

theorem isReached_iff {text : String} {table : RouteTable}
    (loaded : RouteTable.read text = .ok table) {host : String}
    (member : host ∈ table.hosts) :
    table.IsReached host ↔ ∀ c ∈ host.toList, isVisible c = true := by
  constructor
  · exact isVisible_of_isReached
  · intro visible
    obtain ⟨file, _, built⟩ := bind_eq_ok_iff.mp loaded
    obtain ⟨raw, read⟩ := isKeyed_ofRoutes built host member
    exact isReached_of_isVisible read member visible

/-- Two hosts, of which the first has a letter that no field can show. -/
def foreignText : String :=
  "ä.example, a.example... \x7b\n root * d\n file_server\n\x7d\n"

theorem exists_read_foreignText :
    ∃ table, RouteTable.read foreignText = .ok table ∧
      table.hosts = ["a.example.", "ä.example"] := by
  have loads : (RouteTable.read foreignText).toOption.map hosts =
      some ["a.example.", "ä.example"] := by
    decide +kernel
  cases read : RouteTable.read foreignText with
  | error error =>
      rw [read] at loads
      contradiction
  | ok table =>
      rw [read] at loads
      exact ⟨table, rfl, Option.some.inj loads⟩

theorem isReached_foreignText :
    ∃ table, RouteTable.read foreignText = .ok table ∧
      "a.example." ∈ table.hosts ∧ "ä.example" ∈ table.hosts ∧
        table.IsReached "a.example." ∧ ¬table.IsReached "ä.example" := by
  obtain ⟨table, loaded, both⟩ := exists_read_foreignText
  have dotted : "a.example." ∈ table.hosts := by simp [both]
  have foreign : "ä.example" ∈ table.hosts := by simp [both]
  refine ⟨table, loaded, dotted, foreign, ?_, ?_⟩
  · exact (isReached_iff loaded dotted).mpr (by simp [isVisible])
  · rw [isReached_iff loaded foreign]
    simp [isVisible]

/-- A site is loaded that no request with an ASCII authority selects. -/
theorem foreign_site_unreached :
    ∃ table, RouteTable.read foreignText = .ok table ∧
      "ä.example" ∈ table.hosts ∧
        ∀ request : Request,
          (∀ named, request.target.authority? = some named →
            ∀ c ∈ named.toList, c.toNat < 128) →
          ∀ route, routeFor? table request = some route →
            route.host ≠ "ä.example" := by
  obtain ⟨table, loaded, both⟩ := exists_read_foreignText
  refine ⟨table, loaded, by simp [both], ?_⟩
  intro request authority route found same
  have lowered : ∀ c : Char, c.toNat < 128 → c.toLower.toNat < 128 := by
    intro c small
    rw [toNat_toLower]
    split <;> omega
  have field : ∀ c, isVisible c = true → c.toNat < 128 := by
    intro c visible
    have bound := toNat_lt_of_isVisible visible
    omega
  have small := forall_mem_host_of_routeFor? lowered field authority found
  rw [same] at small
  exact absurd (small 'ä' (by decide)) (by decide)

end RouteTable

end VirtualHosts
