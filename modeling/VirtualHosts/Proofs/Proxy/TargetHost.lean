import Mathlib
import VirtualHosts.Proofs.Host.Grammar
import VirtualHosts.Proofs.Http.Authority
import VirtualHosts.Proxy.Dispatch

/-!
Which of the two names of a request counts.  A target with an authority that
has a key decides on its own, whatever the fields say.  An authority without a
key counts as none, and then the `Host` field decides.
-/

namespace VirtualHosts

open VirtualHosts.Header
open VirtualHosts.Http
open VirtualHosts.Text

/-- The key of the first `Host` field. -/
def Header.Fields.hostKey? (fields : Fields) : Option String :=
  ((fields.get? .host).bind Value.text?).bind Host.key?

namespace Http

theorem Request.hostKey?_eq {request : Request} {named : String}
    (names : request.target.authority? = some named) :
    request.hostKey? = (Host.key? named).or request.fields.hostKey? := by
  rw [Request.hostKey?, Request.hostText?, names]
  cases read : Host.key? named with
  | none => simp [read, Request.hostField?, Fields.hostKey?]
  | some key => simp [read]

namespace RequestTarget

variable {target : RequestTarget} {named : String}

/-- Whether the fields of a request with this target have no say in its
host. -/
def Decides (target : RequestTarget) : Prop :=
  ∀ first second : Request, first.target = target → second.target = target →
    first.hostKey? = second.hostKey?

def Routes (target : RequestTarget) : Prop :=
  ∀ (table : RouteTable) (first second : Request), first.target = target →
    second.target = target →
      Proxy.routeFor? table first = Proxy.routeFor? table second

theorem Decides.routes (decides : target.Decides) : target.Routes := by
  intro table first second atFirst atSecond
  rw [Proxy.routeFor?, Proxy.routeFor?, decides first second atFirst atSecond]

theorem decides_of_key? (names : target.authority? = some named)
    (keyed : (Host.key? named).isSome) : target.Decides := by
  obtain ⟨key, read⟩ := Option.isSome_iff_exists.mp keyed
  have eq_key : ∀ request : Request, request.target = target →
      request.hostKey? = some key := by
    rintro request rfl
    rw [Request.hostKey?_eq names, read, Option.some_or]
  intro first second atFirst atSecond
  rw [eq_key first atFirst, eq_key second atSecond]

def requestWith (target : RequestTarget) (fields : Fields) : Request :=
  ⟨"GET", target, fields, [], none⟩

def hostFields : Fields :=
  Fields.empty.add .host (.literal "b.example")

def siteTable : RouteTable :=
  ⟨[⟨"b.example", .files ⟨"/srv"⟩, []⟩], List.pairwise_singleton _ _⟩

theorem routeFor?_requestWith (names : target.authority? = some named)
    (unkeyed : Host.key? named = none) (table : RouteTable) (fields : Fields) :
    Proxy.routeFor? table (target.requestWith fields) =
      fields.hostKey?.bind table.lookup := by
  rw [Proxy.routeFor?, Request.hostKey?_eq names, unkeyed, Option.none_or]
  rfl

theorem key?_of_routes (names : target.authority? = some named)
    (routes : target.Routes) : (Host.key? named).isSome := by
  by_contra unkeyed
  rw [Option.not_isSome_iff_eq_none] at unkeyed
  -- With and without a `Host` field, the site of the table is found or not.
  have same := routes siteTable (target.requestWith hostFields)
    (target.requestWith Fields.empty) rfl rfl
  rw [routeFor?_requestWith names unkeyed,
    routeFor?_requestWith names unkeyed] at same
  exact absurd same (by decide)

theorem decides_iff_routes (names : target.authority? = some named) :
    target.Decides ↔ target.Routes :=
  ⟨Decides.routes, fun routes =>
    decides_of_key? names (key?_of_routes names routes)⟩

theorem decides_iff (names : target.authority? = some named) :
    target.Decides ↔ (Host.key? named).isSome :=
  ⟨fun decides => key?_of_routes names decides.routes,
    decides_of_key? names⟩

/-- What the authority of a target settles. -/
structure Settles (target : RequestTarget) (named : String) : Prop where
  hostKey?_eq : ∀ request : Request, request.target = target →
    request.hostKey? = (Host.key? named).or request.fields.hostKey?
  decides_iff : target.Decides ↔ Host.HasHost (trim named.toList)
  routes_iff : target.Routes ↔ Host.HasHost (trim named.toList)

/-- The authority overrides the `Host` field exactly if it reads as a host,
which user information with a colon and ports that are no digits prevent. -/
theorem authority_settles (names : target.authority? = some named) :
    Settles target named := by
  have decides_iff : target.Decides ↔ Host.HasHost (trim named.toList) := by
    rw [RequestTarget.decides_iff names, Host.isSome_key?_iff]
  refine ⟨?_, decides_iff, ?_⟩
  · rintro request rfl
    exact Request.hostKey?_eq names
  · rw [← decides_iff_routes names, decides_iff]

/-! User information. -/

theorem not_named_of_password {user rest host : List Char}
    (password : ':' ∈ user) (unbracketed : user.head? ≠ some '[') :
    ¬Host.Named (user ++ '@' :: rest) host := by
  intro named
  have nonempty : user ≠ [] := List.ne_nil_of_mem password
  cases named with
  | bracketed shape suffix closed =>
      have first := congrArg List.head? shape
      rw [List.head?_append_of_ne_nil _ nonempty, List.head?_cons] at first
      exact unbracketed first
  | @plain _ port shape suffix isPlain =>
      -- The colon of the port, if there is one, stands in the host or in the
      -- password; in the password, the at sign is among the digits.
      rcases Host.isPortSuffix_cases suffix with rfl | ⟨digits, rfl, digital⟩
      · apply isPlain.noColon
        rw [List.append_nil] at shape
        exact shape ▸ List.mem_append_left _ password
      · rcases List.append_eq_append_iff.mp shape with
          ⟨more, inHost, -⟩ | ⟨more, -, inPort⟩
        · apply isPlain.noColon
          exact inHost ▸ List.mem_append_left _ password
        · have noAt := not_mem_of_all digital '@' rfl
          cases more with
          | nil => simp at inPort
          | cons c more =>
              rw [List.cons_append, List.cons.injEq] at inPort
              exact noAt (inPort.2 ▸ by simp)

theorem not_decides_of_password {text : String} {user rest : List Char}
    (read : ofText? text = some target)
    (names : target.authority? = some named)
    (shape : named.toList = user ++ '@' :: rest) (password : ':' ∈ user)
    (unbracketed : user.head? ≠ some '[') : ¬target.Decides := by
  rw [RequestTarget.decides_iff names, Host.isSome_key?_iff,
    trim_eq_self_of_graphic (graphic_of_ofText? read names), shape]
  rintro ⟨host, reads, -⟩
  exact not_named_of_password password unbracketed reads

def passwordTarget : RequestTarget :=
  .absolute "http" "user:pw@a.example" ⟨"/", none⟩

theorem authority_settles_passwordTarget :
    passwordTarget.authority? = some "user:pw@a.example" ∧
      Settles passwordTarget "user:pw@a.example" ∧
      ¬passwordTarget.Decides ∧ ¬passwordTarget.Routes := by
  have settles : Settles passwordTarget "user:pw@a.example" :=
    authority_settles rfl
  have unread : ¬Host.HasHost (trim "user:pw@a.example".toList) := by
    rw [← Host.isSome_key?_iff]
    decide
  refine ⟨rfl, settles, ?_, ?_⟩
  · rwa [settles.decides_iff]
  · rwa [settles.routes_iff]

/-- The site that answers is the one in the field, although the target names
a host. -/
theorem password_routed_by_field :
    ofText? "http://user:pw@a.example/" = some passwordTarget ∧
      (passwordTarget.requestWith hostFields).hostKey? = some "b.example" ∧
      (passwordTarget.requestWith Fields.empty).hostKey? = none ∧
      Proxy.routeFor? siteTable (passwordTarget.requestWith hostFields) =
        some ⟨"b.example", .files ⟨"/srv"⟩, []⟩ ∧
      Proxy.routeFor? siteTable (passwordTarget.requestWith Fields.empty) =
        none := by
  decide

end RequestTarget

end Http

end VirtualHosts
