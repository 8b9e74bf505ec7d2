import Mathlib
import VirtualHosts.Proofs.Header.Forwarded
import VirtualHosts.Proofs.Header.Hop
import VirtualHosts.Proofs.Http.PathQuery
import VirtualHosts.Proxy.Exchange

/-!
What a backend gets of a request, and what the client gets of the answer.
Either is passed on as it is, less the fields of its last hop.  A client that
lists its host among those fields takes the host away from what is passed on.
-/

namespace VirtualHosts.Proxy

open VirtualHosts.Header
open VirtualHosts.Http

def outboundOf (backend : Site.Backend) (request : Request) : Outbound :=
  ⟨backend.text, request.method, request.target.pathQuery,
    request.fields.stripHop.addForwarded request.client?, request.body⟩

theorem outbound?_eq_some_iff {backend : Site.Backend} {request : Request}
    {out : Outbound} :
    outbound? backend request = some out ↔
      isAuthority backend.text.toList = true ∧
        out = outboundOf backend request := by
  rw [outbound?, ← outboundOf]
  split
  · rename_i usable
    simp [usable, eq_comm]
  · rename_i unusable
    simp [unusable]

theorem forward_of_isAuthority {backend : Site.Backend}
    (usable : isAuthority backend.text.toList = true) (network : Network)
    (limits : Limits) (request : Request) :
    forward network limits backend request =
      ⟨settle limits backend (network (outboundOf backend request)),
        if (network (outboundOf backend request)).delivered then
          [outboundOf backend request]
        else []⟩ := by
  unfold forward
  rw [outbound?_eq_some_iff.mpr ⟨usable, rfl⟩]

theorem settle_answered {limits : Limits} {backend : Site.Backend}
    {reply : Response} (fits : reply.body.length ≤ limits.maxBody) :
    settle limits backend (.answered reply) =
      .ok { reply with fields := reply.fields.stripHop } := by
  rw [settle, if_neg (Nat.not_lt.mpr fits)]

theorem result_forward_of_answered {network : Network} {limits : Limits}
    {backend : Site.Backend} {request : Request} {out : Outbound}
    {reply : Response} (made : outbound? backend request = some out)
    (answered : network out = .answered reply)
    (fits : reply.body.length ≤ limits.maxBody) :
    (forward network limits backend request).result =
      .ok { reply with fields := reply.fields.stripHop } := by
  obtain ⟨usable, rfl⟩ := outbound?_eq_some_iff.mp made
  rw [forward_of_isAuthority usable, answered]
  exact settle_answered fits

/-- What comes of a backend that does not answer, not in time, or with more
than is passed on. -/
def RefusesBackend (backend : Site.Backend) (refusal : Refusal) : Prop :=
  (∃ reason, refusal = .backendFailed backend.text reason) ∨
    ∃ seconds, refusal = .backendTimeout backend.text seconds

theorem refusesBackend_of_settle {limits : Limits} {backend : Site.Backend}
    {outcome : Outcome} {refusal : Refusal}
    (refused : settle limits backend outcome = .error refusal) :
    RefusesBackend backend refusal := by
  cases outcome with
  | unreachable reason | broken reason =>
      cases refused
      exact Or.inl ⟨reason, rfl⟩
  | silent =>
      cases refused
      exact Or.inr ⟨_, rfl⟩
  | answered response =>
      rw [settle] at refused
      split at refused
      · cases refused
        exact Or.inl ⟨_, rfl⟩
      · contradiction

theorem refusesBackend_of_forward {network : Network} {limits : Limits}
    {backend : Site.Backend} {request : Request} {refusal : Refusal}
    (refused : (forward network limits backend request).result =
      .error refusal) : RefusesBackend backend refusal := by
  unfold forward at refused
  split at refused
  · cases refused
    exact Or.inl ⟨_, rfl⟩
  · exact refusesBackend_of_settle refused

/-! Passing messages on. -/

/-- What goes out to the backend says what the client's request says. -/
structure Conveys (backend : Site.Backend) (request : Request)
    (out : Outbound) : Prop where
  authority : out.authority = backend.text
  method : out.method = request.method
  body : out.body = request.body
  pathQuery : out.pathQuery = request.target.pathQuery
  /-- Of a target that was read, the path and the query are read again. -/
  place : ∀ text, RequestTarget.ofText? text = some request.target →
    PathQuery.ofText? out.pathQuery.toList = some request.target.place
  dropped : ∀ name, request.fields.IsHop name → name ∉ forwardedNames →
    out.fields.values name = []
  kept : ∀ name, ¬request.fields.IsHop name → name ∉ forwardedNames →
    out.fields.values name = request.fields.values name

structure Returns (reply response : Response) : Prop where
  status : response.status = reply.status
  body : response.body = reply.body
  dropped : ∀ name, reply.fields.IsHop name → response.fields.values name = []
  kept : ∀ name, ¬reply.fields.IsHop name →
    response.fields.values name = reply.fields.values name

theorem conveys_outboundOf (backend : Site.Backend) (request : Request) :
    Conveys backend request (outboundOf backend request) where
  authority := rfl
  method := rfl
  body := rfl
  pathQuery := rfl
  place := fun _ read => RequestTarget.ofText?_pathQuery read
  dropped := by
    intro name isHop other
    rw [outboundOf, Fields.values_addForwarded_of_not_mem _ _ other]
    exact Fields.values_stripHop_of_isHop isHop
  kept := by
    intro name notHop other
    rw [outboundOf, Fields.values_addForwarded_of_not_mem _ _ other]
    exact Fields.values_stripHop_of_not_isHop notHop

theorem returns_stripHop (reply : Response) :
    Returns reply { reply with fields := reply.fields.stripHop } where
  status := rfl
  body := rfl
  dropped := fun _ isHop => Fields.values_stripHop_of_isHop isHop
  kept := fun _ notHop => Fields.values_stripHop_of_not_isHop notHop

/-- A backend whose address can stand in a request gets the request as it came
in, and the client gets a complete reply of a permitted length as it came
back. -/
theorem forward_passes_on {backend : Site.Backend}
    (usable : isAuthority backend.text.toList = true) (request : Request) :
    ∃ out, outbound? backend request = some out ∧
      Conveys backend request out ∧
      ∀ (network : Network) (limits : Limits) (reply : Response),
        network out = .answered reply →
        reply.body.length ≤ limits.maxBody →
        ∃ response,
          forward network limits backend request = ⟨.ok response, [out]⟩ ∧
            Returns reply response := by
  refine ⟨outboundOf backend request,
    outbound?_eq_some_iff.mpr ⟨usable, rfl⟩,
    conveys_outboundOf backend request, ?_⟩
  intro network limits reply answered fits
  refine ⟨_, ?_, returns_stripHop reply⟩
  rw [forward_of_isAuthority usable, answered, settle_answered fits]
  rfl

/-- A request that lists one of its fields as a matter of its last hop. -/
def listingRequest : Request :=
  ⟨"POST", .origin ⟨"/items", some "page=2"⟩,
    ((Fields.empty.add .host (.literal "a.example")).add .connection
      (.literal "close, TE")).add .te (.literal "trailers"),
    [112], none⟩

/-- A reply that is as long as it may be. -/
def fullReply : Response :=
  ⟨200, Fields.empty.add .connection (.literal "keep-alive"), [111, 107]⟩

theorem forward_passes_on_listingRequest :
    isAuthority (Site.Backend.text ⟨"127.0.0.1", 5857⟩).toList = true ∧
      fullReply.body.length ≤ 2 ∧
      ∃ out, outbound? ⟨"127.0.0.1", 5857⟩ listingRequest = some out ∧
        Conveys ⟨"127.0.0.1", 5857⟩ listingRequest out ∧
        ∃ response,
          forward (fun _ => .answered fullReply) ⟨30, 2⟩
              ⟨"127.0.0.1", 5857⟩ listingRequest =
            ⟨.ok response, [out]⟩ ∧ Returns fullReply response := by
  have usable :
      isAuthority (Site.Backend.text ⟨"127.0.0.1", 5857⟩).toList = true := by
    decide
  have fits : fullReply.body.length ≤ 2 := by decide
  obtain ⟨out, made, conveys, returned⟩ :=
    forward_passes_on usable listingRequest
  exact ⟨usable, fits, out, made, conveys,
    returned (fun _ => .answered fullReply) ⟨30, 2⟩ fullReply rfl fits⟩

/-! Telling the host. -/

/-- The host fields go out as they came in, the scheme is told, and the first
host is told once more, or none if there is none. -/
structure TellsHost (inbound outbound : Fields) : Prop where
  host : outbound.values .host = inbound.values .host
  scheme : outbound.values .forwardedProto = [.literal "http"]
  forwardedHost :
    outbound.values .forwardedHost = (inbound.get? .host).toList

/-- What goes out of the host and of the host claimed, whatever comes in. -/
structure Outgoing (inbound outbound : Fields) : Prop where
  host : outbound.values .host =
    if inbound.Lists .host then [] else inbound.values .host
  scheme : outbound.values .forwardedProto = [.literal "http"]
  forwardedHost : outbound.values .forwardedHost =
    if inbound.has .host ∧ ¬inbound.Lists .host then
      (inbound.get? .host).toList
    else if inbound.Lists .forwardedHost then []
    else inbound.values .forwardedHost

theorem has_host_stripHop (fields : Fields) :
    fields.stripHop.has .host = true ↔
      fields.has .host = true ∧ ¬fields.Lists .host := by
  simp only [Fields.has_iff_values_ne_nil]
  rw [Fields.values_stripHop_of_free (by decide)]
  by_cases listed : fields.Lists .host <;> simp [listed]

theorem outgoing_outboundOf (backend : Site.Backend) (request : Request) :
    Outgoing request.fields (outboundOf backend request).fields where
  host := by
    rw [outboundOf, Fields.values_addForwarded_of_not_mem _ _ (by decide)]
    exact Fields.values_stripHop_of_free (by decide)
  scheme := Fields.values_forwardedProto _ _
  forwardedHost := by
    rw [outboundOf, Fields.values_forwardedHost]
    simp only [has_host_stripHop]
    split
    · rename_i told
      rw [Fields.get?_eq_head?, Fields.values_stripHop_of_free (by decide),
        if_neg told.2]
      rfl
    · exact Fields.values_stripHop_of_free (by decide)

/-- The backend is told the client's host exactly if the client does not list
its host as a field of its last hop, and a client without a host claims no
other one, unless it lists that claim. -/
theorem Outgoing.tellsHost_iff {inbound outbound : Fields}
    (outgoing : Outgoing inbound outbound) :
    TellsHost inbound outbound ↔
      if inbound.has .host then ¬inbound.Lists .host
      else inbound.has .forwardedHost → inbound.Lists .forwardedHost := by
  cases present : inbound.has .host with
  | true =>
      simp only [if_true]
      constructor
      · intro tells listed
        have erased := tells.host
        rw [outgoing.host, if_pos listed] at erased
        exact Fields.has_iff_values_ne_nil.mp present erased.symm
      · intro unlisted
        refine ⟨?_, outgoing.scheme, ?_⟩
        · rw [outgoing.host, if_neg unlisted]
        · rw [outgoing.forwardedHost, if_pos ⟨present, unlisted⟩]
  | false =>
      -- Without a host, both sides are about what the client claims.
      have none : inbound.values .host = [] := by
        by_contra some
        rw [Fields.has_iff_values_ne_nil.mpr some] at present
        contradiction
      have first : (inbound.get? .host).toList = [] := by
        rw [Fields.get?_eq_head?, none]
        rfl
      have claimed := outgoing.forwardedHost
      rw [present] at claimed
      simp only [Bool.false_eq_true, false_and, if_false] at claimed ⊢
      rw [Fields.has_iff_values_ne_nil]
      constructor
      · intro tells some
        by_contra unlisted
        rw [tells.forwardedHost, first, if_neg unlisted] at claimed
        exact some claimed.symm
      · intro unclaimed
        refine ⟨?_, outgoing.scheme, ?_⟩
        · rw [outgoing.host, none, ite_self]
        · rw [claimed, first]
          split
          · rfl
          · rename_i unlisted
            exact not_not.mp (mt unclaimed unlisted)

/-- A host that the client lists goes out to nobody, and one that it only
claims goes out as told.  Any other client's host is told. -/
theorem outbound_tellsHost_iff {backend : Site.Backend} {request : Request}
    {out : Outbound} (made : outbound? backend request = some out) :
    Outgoing request.fields out.fields ∧
      (TellsHost request.fields out.fields ↔
        if request.fields.has .host then ¬request.fields.Lists .host
        else request.fields.has .forwardedHost →
          request.fields.Lists .forwardedHost) := by
  obtain ⟨_, rfl⟩ := outbound?_eq_some_iff.mp made
  have outgoing := outgoing_outboundOf backend request
  exact ⟨outgoing, outgoing.tellsHost_iff⟩

def hidingRequest : Request :=
  ⟨"GET", .origin ⟨"/", none⟩,
    (Fields.empty.add .host (.literal "a.example")).add .connection
      (.literal "Host"), [], none⟩

theorem outbound_tellsHost_hidingRequest :
    outbound? ⟨"127.0.0.1", 5857⟩ hidingRequest =
        some (outboundOf ⟨"127.0.0.1", 5857⟩ hidingRequest) ∧
      Outgoing hidingRequest.fields
        (outboundOf ⟨"127.0.0.1", 5857⟩ hidingRequest).fields ∧
      ¬TellsHost hidingRequest.fields
        (outboundOf ⟨"127.0.0.1", 5857⟩ hidingRequest).fields := by
  have made : outbound? ⟨"127.0.0.1", 5857⟩ hidingRequest =
      some (outboundOf ⟨"127.0.0.1", 5857⟩ hidingRequest) :=
    outbound?_eq_some_iff.mpr ⟨by decide, rfl⟩
  obtain ⟨outgoing, tellsHost_iff⟩ := outbound_tellsHost_iff made
  refine ⟨made, outgoing, ?_⟩
  rw [tellsHost_iff]
  decide

/-- A request without a host that says for which host it was sent. -/
def claimingRequest : Request :=
  ⟨"GET", .absolute "http" "a.example" ⟨"/", none⟩,
    Fields.empty.add .forwardedHost (.literal "b.example"), [], none⟩

/-- What the client claims goes out although the request has no host. -/
theorem outbound_tells_claimed_host :
    ∃ out, outbound? ⟨"127.0.0.1", 5857⟩ claimingRequest = some out ∧
      claimingRequest.fields.get? .host = none ∧
      out.fields.values .forwardedHost = [.literal "b.example"] ∧
      ¬TellsHost claimingRequest.fields out.fields := by
  have told : (outboundOf ⟨"127.0.0.1", 5857⟩ claimingRequest).fields.values
      .forwardedHost = [.literal "b.example"] := by decide
  refine ⟨_, outbound?_eq_some_iff.mpr ⟨by decide, rfl⟩, by decide, told, ?_⟩
  intro tells
  have untold := tells.forwardedHost
  rw [told] at untold
  exact absurd untold (by decide)

end VirtualHosts.Proxy
