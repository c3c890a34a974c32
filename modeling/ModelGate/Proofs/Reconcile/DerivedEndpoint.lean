import Mathlib
import ModelGate.Proofs.Net.UrlAuthority
import ModelGate.Proofs.Reconcile.SnapshotEvaluation

/-!
# Endpoints that are derived from hostnames

The endpoint of a service that publishes no URL is put together from the first hostname of its
route.  `derivesEndpoint_of_owned` says for every route of the service and every gateway which
hostnames there are and what is read back from such an endpoint.

The hostnames of routes and listeners are concrete.  The addresses of a gateway, which stand in for
them, are only known not to be empty, and go into the URL as they stand: a wildcard among them
counts as a hostname, and a version 6 address makes a URL without an authority.
-/

namespace ModelGate

open Program (Event Replies run)
open InferenceBackend (routeId)

variable {ns : String} {model : Model} {service : InferenceService} {route : HttpRoute}
  {found : Option Gateway}

/-- A hostname is an address of the gateway that stands in for others: neither the route nor a
listener has a concrete hostname. -/
def HttpRoute.FallsBackTo (route : HttpRoute) (found : Option Gateway) (hostname : String) : Prop :=
  route.hostnames.filter IsConcrete = [] ∧ ∃ gateway, found = some gateway ∧
    (gateway.listeners.filterMap id).filter IsConcrete = [] ∧ hostname ∈ gateway.addresses

theorem HttpRoute.IsReachedBy.ne_empty {hostnames : List String}
    (h : route.IsReachedBy found hostnames) {hostname : String} (hmem : hostname ∈ hostnames) :
    hostname ≠ "" ∧ (IsConcrete hostname ∨ route.FallsBackTo found hostname) := by
  cases h with
  | own h =>
      have hconcrete : IsConcrete hostname := by simpa using (List.mem_filter.1 hmem).2
      exact ⟨hconcrete.1, Or.inl hconcrete⟩
  | noGateway h => cases hmem
  | listeners h hlisteners =>
      rw [List.mem_eraseDups] at hmem
      have hconcrete : IsConcrete hostname := by simpa using (List.mem_filter.1 hmem).2
      exact ⟨hconcrete.1, Or.inl hconcrete⟩
  | addresses h hlisteners =>
      obtain ⟨haddress, hne⟩ := List.mem_filter.1 hmem
      exact ⟨by simpa using hne, Or.inr ⟨h, _, rfl, hlisteners, haddress⟩⟩

/-- What is known of the hostnames of an owned route and of the endpoint below the first of them. -/
structure DerivesEndpoint (route : HttpRoute) (found : Option Gateway) (service : InferenceService)
    (reference : RouteReference) : Prop where
  reached : route.IsReachedBy found reference.hostnames
  ne_empty : ∀ hostname ∈ reference.hostnames, hostname ≠ ""
  /-- All hostnames are concrete but for addresses of the gateway. -/
  concrete : ∀ hostname ∈ reference.hostnames,
    IsConcrete hostname ∨ route.FallsBackTo found hostname
  derived : (∀ url, ¬ service.Publishes url) → ∀ hostname rest,
    reference.hostnames = hostname :: rest → ∃ url,
      InferenceBackend.endpoint service reference = some url ∧
      url = "https://" ++ hostname ++ "/" ++ service.metadata.ns.getD "" ++ "/" ++
        service.metadata.shownName ∧
      Net.NamesHost url hostname

/-- A route that a service owns is reported with its hostnames, and the endpoint of the service is
below the first of them; it names just this host if and only if the hostname is one by the grammar
of URLs. -/
theorem derivesEndpoint_of_owned (reply : Replies) (past : List Event) (default : GatewayRef)
    (limit : Duration) (found : Option Gateway) (hns : model.IsServedIn ns)
    (hroute : reply past (.getRoute (routeId ns model)) (some limit) = .answered route)
    (howned : route.NamesOwner service)
    (hgateway : route.hostnames.filter IsConcrete = [] →
      ∀ gateway, route.AttachesTo ns default gateway → gateway.name ≠ "" ∧
        (reply (past ++ [.sent (.getRoute (routeId ns model)) (some limit)])
          (.getGateway ⟨gateway.ns, gateway.name⟩) (some limit)).found limit = .ok found) :
    ∃ reference,
      (run reply past (InferenceBackend.observeRoute default limit model service)).2 =
        .ok reference ∧
      DerivesEndpoint route found service reference := by
  obtain ⟨names, hreached, hrun⟩ := InferenceBackend.run_observeRoute_of_owned
    (Model.isServedIn_iff.1 hns) hroute howned fun hnone =>
      hgateway hnone _ (HttpRoute.attachesTo_iff.2 rfl)
  refine ⟨_, hrun, ?_⟩
  exact {
    reached := hreached
    ne_empty := fun hostname hmem => (hreached.ne_empty hmem).1
    concrete := fun hostname hmem => (hreached.ne_empty hmem).2
    derived := by
      intro hurl hostname rest hnames
      refine ⟨_, InferenceBackend.endpoint_eq_some_iff.2 (.hostname hurl hnames), rfl, ?_⟩
      have hbelow := Net.namesHost_below hostname
        (service.metadata.ns.getD "" ++ "/" ++ service.metadata.shownName)
      simpa [Net.below, String.append_assoc] using hbelow }

/-- A gateway without concrete hostnames. -/
def addressGateway : Gateway :=
  ⟨Metadata.blank, [some "*.apps.example.com"], ["fd00::1", "*.example.com"]⟩

/-- The replies to requests for the route of a service and for its gateway. -/
def addressReplies : Replies
  | _, .getRoute _, _ => .answered routeOfFirst
  | _, .getGateway _, _ => .answered addressGateway
  | _, _, _ => .timedOut

/-- Both addresses are hostnames of the route, one of them with a wildcard, and the URL below the
other one has no authority. -/
theorem addressGateway_has_no_authority :
    ∃ reference,
      (run addressReplies [] (InferenceBackend.observeRoute ⟨"gateway", "istio"⟩ 5 servedModel
        (readyService "service-1" ""))).2 = .ok reference ∧
      reference.hostnames = ["fd00::1", "*.example.com"] ∧ ¬ IsConcrete "*.example.com" ∧
      InferenceBackend.endpoint (readyService "service-1" "") reference =
        some "https://fd00::1/n/x" ∧
      ∀ a, ¬ Net.HasAuthority "https://fd00::1/n/x" a := by
  have hurl : ∀ url, ¬ (readyService "service-1" "").Publishes url := by
    rintro url ⟨hne, status, hstatus, hsome⟩
    cases hstatus
    cases hsome
    exact hne rfl
  have hversion6 : Net.IsVersion6 "fd00::1".toList := ⟨[0xfd00, 0, 0, 0, 0, 0, 0, 1], by decide⟩
  have howned : routeOfFirst.NamesOwner (readyService "service-1" "") :=
    HttpRoute.isOwnedBy_iff.1 (by decide +kernel)
  have hgateway : ∀ gateway, routeOfFirst.AttachesTo "n" ⟨"gateway", "istio"⟩ gateway →
      gateway.name ≠ "" ∧ (addressReplies [.sent (.getRoute (routeId "n" servedModel)) (some 5)]
        (.getGateway ⟨gateway.ns, gateway.name⟩) (some 5)).found 5 = .ok (some addressGateway) := by
    intro gateway hattaches
    obtain rfl := HttpRoute.attachesTo_iff.1 hattaches
    exact ⟨by decide, rfl⟩
  have hservedIn : servedModel.IsServedIn "n" := .own (Or.inl rfl) rfl
  obtain ⟨reference, hrun, hderives⟩ := derivesEndpoint_of_owned addressReplies []
    ⟨"gateway", "istio"⟩ 5 (some addressGateway) hservedIn rfl howned fun _ => hgateway
  have hhostnames : reference.hostnames = ["fd00::1", "*.example.com"] := by
    have hobserved : (run addressReplies [] (InferenceBackend.observeRoute ⟨"gateway", "istio"⟩ 5
        servedModel (readyService "service-1" ""))).2 =
          .ok ⟨"x-kserve-route", "n", "gateway", "istio", ["fd00::1", "*.example.com"]⟩ := by
      decide +kernel
    cases hrun.symm.trans hobserved
    rfl
  obtain ⟨url, hendpoint, rfl, hnames⟩ := hderives.derived hurl _ _ hhostnames
  exact ⟨reference, hrun, hhostnames, by decide +kernel, hendpoint, hnames.version6 hversion6⟩

end ModelGate
