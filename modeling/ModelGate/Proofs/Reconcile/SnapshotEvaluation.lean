import Mathlib
import ModelGate.Proofs.Cluster.RouteReading
import ModelGate.Proofs.Reconcile.ReadyService
import ModelGate.Simulation.Traffic

/-!
# What an evaluation says about a cluster

While the services, the routes and the gateways of a cluster stay as they are, the evaluation of a
model is a function of them.  `ReflectsCluster` says which: the evaluation failed if and only if
the cluster does not serve the model, and otherwise its status records the route, the gateway and
the hostnames that the cluster shows, and the phase tells whether the service is ready and can be
reached.
-/

namespace ModelGate

open Program (Event Replies run run_bind)
open InferenceBackend (serviceId routeId)

/-- The API server shows the services, the routes and the gateways of a cluster, whenever it is
asked for them. -/
structure Shows (reply : Replies) (limit : Duration) (c : Cluster) : Prop where
  services : ∀ past id,
    (reply past (.getService id) (some limit)).found limit = .ok (c.services.get? id)
  routes : ∀ past id, (reply past (.getRoute id) (some limit)).found limit = .ok (c.routes.get? id)
  gateways : ∀ past id,
    (reply past (.getGateway id) (some limit)).found limit = .ok (c.gateways.get? id)

/-- The replies of an API server whose cluster stays as it is. -/
def Cluster.replies (c : Cluster) : Replies := fun _ request _ =>
  ((Traffic.start c).arrive request .delivered).1

theorem Cluster.shows_replies (c : Cluster) (limit : Duration) : Shows c.replies limit c where
  services past id := by
    cases hget : c.services.get? id <;>
      simp [replies, Traffic.arrive, Traffic.start, answer, find, hget, Reply.found,
        ApiError.isNotFound, ApiError.notFound]
  routes past id := by
    cases hget : c.routes.get? id <;>
      simp [replies, Traffic.arrive, Traffic.start, answer, find, hget, Reply.found,
        ApiError.isNotFound, ApiError.notFound]
  gateways past id := by
    cases hget : c.gateways.get? id <;>
      simp [replies, Traffic.arrive, Traffic.start, answer, find, hget, Reply.found,
        ApiError.isNotFound, ApiError.notFound]

namespace Shows

variable {reply : Replies} {limit : Duration} {c : Cluster}

theorem run_find_service (h : Shows reply limit c) (past : List Event) (id : ObjectId)
    (hname : id.name ≠ "") :
    (run reply past (Program.find (.getService id) limit)).2 = .ok (c.services.get? id) := by
  have hnamed : (Request.getService id).target.name ≠ "" := hname
  rw [Program.run_find_of_named limit hnamed]
  exact h.services past id

theorem run_find_route (h : Shows reply limit c) (past : List Event) (id : ObjectId)
    (hname : id.name ≠ "") :
    (run reply past (Program.find (.getRoute id) limit)).2 = .ok (c.routes.get? id) := by
  have hnamed : (Request.getRoute id).target.name ≠ "" := hname
  rw [Program.run_find_of_named limit hnamed]
  exact h.routes past id

end Shows

/-! ## Which models a cluster serves -/

/-- The cluster serves a model by a service and the route that the service owns. -/
structure ServedBy (c : Cluster) (ns : String) (model : Model) (service : InferenceService)
    (route : HttpRoute) : Prop where
  service_eq : c.services.get? (serviceId ns model) = some service
  route_eq : c.routes.get? (routeId ns model) = some route
  owned : route.NamesOwner service

/-- The cluster does not serve a model: there is no service, there is no route, or the route is that
of another service. -/
inductive IsUnserved (c : Cluster) (ns : String) (model : Model) : Prop
  | noService (h : c.services.get? (serviceId ns model) = none)
  | noRoute (h : c.routes.get? (routeId ns model) = none)
  | notOwned {service : InferenceService} {route : HttpRoute}
      (hservice : c.services.get? (serviceId ns model) = some service)
      (hroute : c.routes.get? (routeId ns model) = some route) (h : ¬ route.NamesOwner service)

/-- The service of a model has a name, and so have all gateways and other objects that its route
may attach to. -/
structure NamesObjects (c : Cluster) (default : GatewayRef) (model : Model) : Prop where
  service : model.backend.name ≠ ""
  default : default.name ≠ ""
  parents : ∀ ns route, model.IsServedIn ns → c.routes.get? (routeId ns model) = some route →
    ∀ p ∈ route.parentRefs, p.name ≠ ""

/-- What there is to know about a route in a cluster: its id, the gateway that it attaches to, and
the hostnames by which it is reached. -/
structure Describes (c : Cluster) (default : GatewayRef) (id : ObjectId) (route : HttpRoute)
    (reference : RouteReference) : Prop where
  name : reference.name = id.name
  ns : reference.ns = id.ns
  attaches :
    route.AttachesTo id.ns default ⟨reference.gatewayName, reference.gatewayNamespace⟩
  reached : route.IsReachedBy
    (c.gateways.get? ⟨reference.gatewayNamespace, reference.gatewayName⟩) reference.hostnames

variable {c : Cluster} {ns : String} {model : Model} {service : InferenceService}
  {route : HttpRoute} {reply : Replies} {limit : Duration} {past : List Event}
  {gateway : GatewayRef}

theorem ServedBy.not_isUnserved (h : ServedBy c ns model service route) :
    ¬ IsUnserved c ns model := by
  obtain ⟨hservice, hroute, howned⟩ := h
  rintro (hnone | hnone | ⟨hother, hotherRoute, hnot⟩)
  · simp [hservice] at hnone
  · simp [hroute] at hnone
  · rw [hservice] at hother
    rw [hroute] at hotherRoute
    cases hother
    cases hotherRoute
    exact hnot howned

theorem NamesObjects.gateway_name_ne (h : NamesObjects c gateway model)
    (hns : model.IsServedIn ns) (hroute : c.routes.get? (routeId ns model) = some route)
    {attached : GatewayRef} (hattached : route.AttachesTo ns gateway attached) :
    attached.name ≠ "" := by
  cases hattached with
  | @parent before after p hrefs hp hfirst =>
      exact h.parents ns route hns hroute p (by simp [hrefs])
  | default hnone => exact h.default

/-! ## Calls of the backend -/

namespace InferenceBackend

theorem endpoint_eq_some_iff {reference : RouteReference} {url : String} :
    endpoint service reference = some url ↔ service.IsReachedAt reference.hostnames url := by
  unfold endpoint
  cases hurl : service.url with
  | some published =>
      have hpublished := InferenceService.url_eq_some_iff.1 hurl
      constructor
      · intro h
        cases h
        exact .published hpublished
      · intro h
        cases h with
        | published hother =>
            rw [InferenceService.url_eq_some_iff.2 hother] at hurl
            exact hurl.symm
        | hostname hnone _ => exact absurd hpublished (hnone published)
  | none =>
      have hnone : ∀ url, ¬ service.Publishes url := by
        intro url hpublished
        rw [InferenceService.url_eq_some_iff.2 hpublished] at hurl
        cases hurl
      constructor
      · intro h
        obtain ⟨hostname, hhead, rfl⟩ := Option.map_eq_some_iff.1 h
        obtain ⟨rest, hhostnames⟩ := List.head?_eq_some_iff.1 hhead
        exact .hostname hnone hhostnames
      · intro h
        cases h with
        | published hother => exact absurd hother (hnone url)
        | hostname _ hhostnames =>
            rw [hhostnames]
            rfl

/-- What a backend finds out about the route of a model: that the cluster does not serve the model,
or the description of the route. -/
inductive RouteFound (c : Cluster) (default : GatewayRef) (ns : String) (model : Model) :
    Except BackendError RouteReference → Prop
  | unserved (h : IsUnserved c ns model) (text : String) :
      RouteFound c default ns model (.error (.unavailable text))
  | served {service : InferenceService} {route : HttpRoute} {reference : RouteReference}
      (h : ServedBy c ns model service route)
      (hdescribes : Describes c default (routeId ns model) route reference) :
      RouteFound c default ns model (.ok reference)

theorem run_getService_of_shows (hshows : Shows reply limit c)
    (hns : model.backendNamespace = some ns) (hname : model.backend.name ≠ "") :
    (run reply past (getService limit model)).2 =
      match c.services.get? (serviceId ns model) with
      | some service => .ok service
      | none => .error (.unavailable ("LLMInferenceService " ++ (serviceId ns model).display ++
          " not found")) := by
  unfold getService serviceNamespace
  rw [hns]
  dsimp only
  change (run reply past (Program.find (.getService (serviceId ns model)) limit >>= _)).2 = _
  rw [run_bind, hshows.run_find_service past (serviceId ns model) hname]
  cases c.services.get? (serviceId ns model) with
  | none => rfl
  | some service => rfl

/-- Only a route without a concrete hostname is sought through its gateway. -/
theorem run_hostnames_of_found {found : Option Gateway}
    (h : route.hostnames.filter IsConcrete = [] → gateway.name ≠ "" ∧
      (reply past (.getGateway ⟨gateway.ns, gateway.name⟩) (some limit)).found limit = .ok found) :
    ∃ names, route.IsReachedBy found names ∧
      (run reply past (hostnames limit route gateway)).2 = .ok names := by
  unfold hostnames
  cases hown : route.concreteHostnames.isEmpty with
  | false => exact ⟨_, HttpRoute.isReachedBy_own hown, by rw [if_neg (by simp)]; rfl⟩
  | true =>
      obtain ⟨hname, hfound⟩ := h (by simpa [HttpRoute.concreteHostnames, filter_isConcrete] using hown)
      have htarget : (Request.getGateway ⟨gateway.ns, gateway.name⟩).target.name ≠ "" := hname
      rw [if_pos rfl, run_bind, Program.run_find_of_named limit htarget, hfound]
      cases found with
      | none => exact ⟨[], HttpRoute.isReachedBy_none hown, rfl⟩
      | some found => exact ⟨_, HttpRoute.isReachedBy_gateway found hown, rfl⟩

theorem routeId_name_ne (ns : String) (model : Model) : (routeId ns model).name ≠ "" := by
  intro h
  have hlist := congrArg String.toList h
  simp [routeId] at hlist

/-- What is reported of a route that a service owns. -/
theorem run_observeRoute_of_owned {found : Option Gateway}
    (hns : model.backendNamespace = some ns)
    (hroute : reply past (.getRoute (routeId ns model)) (some limit) = .answered route)
    (howned : route.NamesOwner service)
    (hgateway : route.hostnames.filter IsConcrete = [] →
      (route.gateway ns gateway).name ≠ "" ∧
      (reply (past ++ [.sent (.getRoute (routeId ns model)) (some limit)])
        (.getGateway ⟨(route.gateway ns gateway).ns, (route.gateway ns gateway).name⟩)
        (some limit)).found limit = .ok found) :
    ∃ names, route.IsReachedBy found names ∧
      (run reply past (observeRoute gateway limit model service)).2 =
        .ok ⟨(routeId ns model).name, ns, (route.gateway ns gateway).name,
          (route.gateway ns gateway).ns, names⟩ := by
  obtain ⟨names, hreached, hnames⟩ := run_hostnames_of_found hgateway
  refine ⟨names, hreached, ?_⟩
  have htarget : (Request.getRoute (routeId ns model)).target.name ≠ "" := routeId_name_ne ns model
  unfold observeRoute
  rw [resolve_of_namespace hns]
  dsimp only
  rw [run_bind, Program.run_find_of_named limit htarget, hroute]
  change (run reply _ (if (!route.isOwnedBy service) = true then _ else _)).2 = _
  rw [if_neg (by simpa [← HttpRoute.isOwnedBy_iff] using howned), run_bind]
  have hid : (routeId ns model).ns = ns := rfl
  simp only [hid, hnames]
  rfl

theorem run_observeRoute_of_shows (hshows : Shows reply limit c)
    (hns : model.backendNamespace = some ns) (hnamed : NamesObjects c gateway model)
    (hservice : c.services.get? (serviceId ns model) = some service) (past : List Event) :
    RouteFound c gateway ns model
      (run reply past (observeRoute gateway limit model service)).2 := by
  cases hroute : c.routes.get? (routeId ns model) with
  | none =>
      unfold observeRoute
      rw [resolve_of_namespace hns]
      dsimp only
      rw [run_bind, hshows.run_find_route past _ (routeId_name_ne ns model), hroute]
      exact .unserved (.noRoute hroute) _
  | some route =>
      by_cases howned : route.NamesOwner service
      · have hattaches := HttpRoute.attachesTo_iff.2 (Eq.refl (route.gateway ns gateway))
        have hread : reply past (.getRoute (routeId ns model)) (some limit) = .answered route :=
          Reply.found_eq_some_iff.1 ((hshows.routes past (routeId ns model)).trans (by rw [hroute]))
        obtain ⟨names, hreached, hrun⟩ := run_observeRoute_of_owned hns hread howned fun _ =>
          ⟨hnamed.gateway_name_ne (Model.isServedIn_iff.2 hns) hroute hattaches,
            hshows.gateways _ _⟩
        rw [hrun]
        exact .served ⟨hservice, hroute, howned⟩ ⟨rfl, rfl, hattaches, hreached⟩
      · unfold observeRoute
        rw [resolve_of_namespace hns]
        dsimp only
        rw [run_bind, hshows.run_find_route past _ (routeId_name_ne ns model), hroute]
        dsimp only
        rw [if_pos (by simpa [← HttpRoute.isOwnedBy_iff] using howned)]
        exact .unserved (.notOwned hservice hroute howned) _

theorem run_reconcileRoute_of_shows (hshows : Shows reply limit c)
    (hns : model.backendNamespace = some ns) (hnamed : NamesObjects c gateway model)
    (past : List Event) :
    RouteFound c gateway ns model (run reply past (reconcileRoute gateway limit model)).2 := by
  unfold reconcileRoute
  rw [run_bind, run_getService_of_shows hshows hns hnamed.service]
  cases hservice : c.services.get? (serviceId ns model) with
  | none => exact .unserved (.noService hservice) _
  | some service => exact run_observeRoute_of_shows hshows hns hnamed hservice _

/-- Whoever has got the service knows the rest. -/
theorem result_status_of_service
    (hservice : (run reply past (getService limit model)).2 = .ok service)
    (reference : RouteReference) :
    (run reply past (status limit model reference)).2 =
      .ok ⟨endpoint service reference, service.isReady⟩ := by
  unfold status
  rw [run_bind, hservice]
  rfl

theorem run_status_of_shows (hshows : Shows reply limit c)
    (hns : model.backendNamespace = some ns) (hname : model.backend.name ≠ "")
    (hservice : c.services.get? (serviceId ns model) = some service) (reference : RouteReference)
    (past : List Event) :
    (run reply past (status limit model reference)).2 =
      .ok ⟨endpoint service reference, service.isReady⟩ := by
  refine result_status_of_service ?_ reference
  rw [run_getService_of_shows hshows hns hname, hservice]

end InferenceBackend

/-! ## Evaluations -/

/-- A status says about a served model what the cluster shows. -/
structure ReflectsService (c : Cluster) (default : GatewayRef) (id : ObjectId)
    (service : InferenceService) (route : HttpRoute) (reference : RouteReference)
    (status : ModelStatus) : Prop where
  describes : Describes c default id route reference
  recorded : RecordsRoute status (some reference)
  routeName : status.routeName = some id.name
  routeNamespace : status.routeNamespace = some id.ns
  ready_iff : ∀ url, (status.phase = some .ready ∧ status.endpoint = some url) ↔
    service.ReportsReady ∧ service.IsReachedAt reference.hostnames url
  pending_iff : status.phase = some .pending ↔
    ¬ ∃ url, service.ReportsReady ∧ service.IsReachedAt reference.hostnames url

/-- A status says that there is no route to a model. -/
structure AnnouncesNoRoute (status : ModelStatus) : Prop where
  phase : status.phase = some .failed
  reason : ∃ condition, status.conditions.find? Evaluation.isReadyCondition = some condition ∧
    condition.reason = "ReconcileFailed"
  recorded : RecordsRoute status none

/-- A status says about a model what the cluster shows in the namespace of its service. -/
structure ReflectsCluster (c : Cluster) (default : GatewayRef) (ns : String) (model : Model)
    (status : ModelStatus) : Prop where
  resolved : InferenceBackend.resolve model = .ok (routeId ns model)
  failed_iff : AnnouncesNoRoute status ↔ IsUnserved c ns model
  served : ∀ service route, ServedBy c ns model service route →
    ∃ reference, ReflectsService c default (routeId ns model) service route reference status

theorem Model.exists_isServedIn {home : String} (hhome : model.metadata.ns = some home)
    (hne : home ≠ "") : ∃ ns, model.IsServedIn ns ∧ ns ≠ "" := by
  cases hbackend : model.backend.ns with
  | none => exact ⟨home, .own (Or.inl hbackend) hhome, hne⟩
  | some ns =>
      by_cases hns : ns = ""
      · subst hns
        exact ⟨home, .own (Or.inr hbackend) hhome, hne⟩
      · exact ⟨ns, .named hbackend hns, hns⟩

/-- The status of a model whose backend observed a description of the route. -/
theorem Describes.reflectsService {reference : RouteReference} {id : ObjectId}
    (h : Describes c gateway id route reference) (hname : id.name ≠ "") (hns : id.ns ≠ "")
    {kind : String} {v : Verdict} (hjudged : Judged kind
      (.observed reference ⟨InferenceBackend.endpoint service reference, service.isReady⟩) v)
    (now : String) :
    ReflectsService c gateway id service route reference (v.evaluation model now).status := by
  have hrecorded := v.recordsRoute_evaluation model now
  rw [hjudged.route_of_observed] at hrecorded
  have hready : ∀ url, (v.outcome.phase = .ready ∧ v.endpoint = some url) ↔
      service.ReportsReady ∧ service.IsReachedAt reference.hostnames url := by
    intro url
    rw [hjudged.ready_iff, ← InferenceService.isReady_iff, ← InferenceBackend.endpoint_eq_some_iff]
    simp [BackendAnswers.status?, and_comm]
  exact {
    describes := h
    recorded := hrecorded
    routeName := (hrecorded.name id.name).2 ⟨congrArg some h.name, hname⟩
    routeNamespace := (hrecorded.ns id.ns).2 ⟨congrArg some h.ns, hns⟩
    ready_iff := by
      intro url
      rw [← hready]
      simp
    pending_iff := by
      rw [Verdict.phase_evaluation, Option.some_inj]
      constructor
      · rintro hpending ⟨url, hurl⟩
        have hphase := ((hready url).2 hurl).1
        rw [hpending] at hphase
        cases hphase
      · intro hnone
        rcases hjudged.phase_of_observed with hpending | ⟨url, hurl⟩
        · exact hpending
        · exact absurd ⟨url, (hready url).1 hurl⟩ hnone }

theorem Judged.announcesNoRoute {kind text : String} {v : Verdict}
    (h : Judged kind (.routeFailed (.unavailable text)) v) (model : Model) (now : String) :
    AnnouncesNoRoute (v.evaluation model now).status := by
  have hreason : v.outcome.phase = .failed ∧ v.reason = "ReconcileFailed" ∧ v.route = none := by
    cases h with
    | routeLacking hlacking => cases hlacking -- What is unavailable is not lacking.
    | routeFailed hother => exact ⟨rfl, rfl, rfl⟩
  obtain ⟨hphase, hreason, hroute⟩ := hreason
  refine ⟨by rw [Verdict.phase_evaluation, hphase], ⟨v.condition model now, ?_, hreason⟩, ?_⟩
  · rw [Verdict.conditions_evaluation]
    exact Evaluation.find?_replaceReady (v.isReadyCondition_condition model now) _
  · rw [← hroute]
    exact v.recordsRoute_evaluation model now

theorem ServedBy.unique {service' : InferenceService} {route' : HttpRoute}
    (h : ServedBy c ns model service route) (h' : ServedBy c ns model service' route') :
    service = service' ∧ route = route' :=
  ⟨Option.some.inj (h.service_eq.symm.trans h'.service_eq),
    Option.some.inj (h.route_eq.symm.trans h'.route_eq)⟩

/-- While a cluster stays as it is, the status that an evaluation gives a model in a namespace says
what the cluster shows: why there is no route, or else which route, gateway and hostnames there are,
and whether the service is ready and can be reached. -/
theorem evaluation_reflects_cluster {home : String} (hshows : Shows reply limit c)
    (hkind : model.backendKind = InferenceBackend.kind) (hhome : model.metadata.ns = some home)
    (hne : home ≠ "") (hnamed : NamesObjects c gateway model) (past : List Event) (now : String) :
    ∃ ns, model.IsServedIn ns ∧ ReflectsCluster c gateway ns model
      (run reply past (Evaluation.evaluate (Pass.registry gateway limit) model now)).2.status := by
  obtain ⟨ns, hserved, hns⟩ := model.exists_isServedIn hhome hne
  refine ⟨ns, hserved, ?_⟩
  have hbackendNs := Model.isServedIn_iff.1 hserved
  have hget : (Pass.registry gateway limit).get? model.backendKind =
      some (InferenceBackend.backend gateway limit) := Pass.get?_registry_of_inference hkind
  obtain ⟨calls, -, hrun⟩ :=
    Evaluation.run_evaluate_eq reply (Pass.registry gateway limit) model now past
  rw [hrun]
  -- The call for the route decides whether there is anything to ask the service about.
  generalize hroute : (run reply (past ++ [.noted (.called .route)])
    (InferenceBackend.reconcileRoute gateway limit model)).2 = routed
  have hfound := InferenceBackend.run_reconcileRoute_of_shows hshows hbackendNs hnamed
    (past ++ [.noted (.called .route)])
  rw [hroute] at hfound
  cases hfound with
  | unserved hunserved text =>
      rw [Evaluation.answers_of_routeFailed hget hroute]
      exact {
        resolved := InferenceBackend.resolve_of_namespace hbackendNs
        failed_iff := iff_of_true ((judged_verdict _ _).announcesNoRoute model now) hunserved
        served := fun service route h => absurd hunserved h.not_isUnserved }
  | @served service route reference h hdescribes =>
      have hstatus := InferenceBackend.run_status_of_shows hshows hbackendNs hnamed.service
        h.service_eq reference
      rw [Evaluation.answers_of_observed hget hroute hstatus]
      have hjudged := judged_verdict model.backendKind (.observed reference
        ⟨InferenceBackend.endpoint service reference, service.isReady⟩)
      exact {
        resolved := InferenceBackend.resolve_of_namespace hbackendNs
        failed_iff := by
          refine iff_of_false ?_ h.not_isUnserved
          intro hnoRoute
          have hphase := hnoRoute.phase
          rw [Verdict.phase_evaluation] at hphase
          rcases hjudged.phase_of_observed with hother | ⟨url, hother, -⟩
          · rw [hother] at hphase
            cases hphase
          · rw [hother] at hphase
            cases hphase
        served := by
          intro service' route' h'
          -- A cluster has one service and one route of an id.
          obtain ⟨rfl, rfl⟩ := h.unique h'
          exact ⟨reference, hdescribes.reflectsService (InferenceBackend.routeId_name_ne ns model)
            hns hjudged now⟩ }

/-- A cluster whose only concrete hostname is that of a listener, and whose service has no URL. -/
def listenerCluster : Cluster :=
  { Cluster.empty with
    services := ⟨[(⟨"n", "x"⟩, readyService "service-1" "")]⟩
    routes := ⟨[(⟨"n", "x-kserve-route"⟩, { routeOfFirst with
      parentRefs := [⟨"x", none, some "Service"⟩, ⟨"public", some "infra", none⟩]
      hostnames := ["*.example.com"] })]⟩
    gateways := ⟨[(⟨"infra", "public"⟩,
      ⟨Metadata.blank, [none, some "*.example.com", some "models.example.com"], ["10.0.0.1"]⟩)]⟩ }

/-- The model is reached below the hostname of the listener. -/
theorem listenerCluster_endpoint :
    Shows listenerCluster.replies 5 listenerCluster ∧
      NamesObjects listenerCluster ⟨"g", "g"⟩ servedModel ∧
      (∃ ns, servedModel.IsServedIn ns ∧ ReflectsCluster listenerCluster ⟨"g", "g"⟩ ns servedModel
        (run listenerCluster.replies [] (Evaluation.evaluate (Pass.registry ⟨"g", "g"⟩ 5) servedModel
          "now")).2.status) ∧
      (run listenerCluster.replies [] (Evaluation.evaluate (Pass.registry ⟨"g", "g"⟩ 5) servedModel
          "now")).2.status.endpoint = some "https://models.example.com/n/x" := by
  have hshows := listenerCluster.shows_replies 5
  have hnamed : NamesObjects listenerCluster ⟨"g", "g"⟩ servedModel := by
    refine ⟨by decide, by decide, ?_⟩
    intro ns route hns hget
    change List.lookup (routeId ns servedModel) [_] = some route at hget
    rw [List.lookup_cons, List.lookup_nil] at hget
    split at hget
    · cases hget
      decide
    · cases hget
  refine ⟨hshows, hnamed, evaluation_reflects_cluster hshows rfl rfl (by decide) hnamed [] "now",
    ?_⟩
  decide +kernel

end ModelGate
