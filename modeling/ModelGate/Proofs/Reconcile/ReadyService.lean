import Mathlib
import ModelGate.Proofs.Cluster.RouteReading
import ModelGate.Proofs.Reconcile.BackendRequests
import ModelGate.Proofs.Reconcile.StatusConsistency

/-!
# Which service a ready model was found by

An evaluation gets the service of a model twice: first to check that it owns the route, and again
to report its readiness and its endpoint.  `reads_of_ready` says what an evaluation that ended
ready has read, and when.  The service that owns the route is the one that was reported ready if
both requests were answered with the same object.  Nothing else makes sure of it: a service that
is replaced between the two requests is reported ready for the route of its predecessor
(`replaced_service_is_reported`).
-/

namespace ModelGate

open Program (Event Replies run run_bind run_bind_of_ok)

variable {reply : Replies} {past : List Event} {gateway : GatewayRef} {limit : Duration}
  {model : Model} {now : String}

namespace InferenceBackend

/-- The id of the service of a model whose backend is in a namespace. -/
def serviceId (ns : String) (model : Model) : ObjectId :=
  ⟨ns, model.backend.name⟩

/-- The id of the route that comes with the service and bears its name, with an ending. -/
def routeId (ns : String) (model : Model) : ObjectId :=
  ⟨ns, model.backend.name ++ "-kserve-route"⟩

theorem resolve_of_namespace (hns : model.backendNamespace = some ns) :
    resolve model = .ok (routeId ns model) := by
  unfold resolve serviceNamespace
  rw [hns]
  rfl

/-! ## Calls that went well -/

theorem run_getService_of_ok {service : InferenceService}
    (h : (run reply past (getService limit model)).2 = .ok service) :
    ∃ ns, model.backendNamespace = some ns ∧
      run reply past (getService limit model) =
        (past ++ [.sent (.getService (serviceId ns model)) (some limit)], .ok service) ∧
      reply past (.getService (serviceId ns model)) (some limit) = .answered service := by
  unfold getService serviceNamespace at h ⊢
  cases hns : model.backendNamespace with
  | none =>
      rw [hns] at h
      cases h
  | some ns =>
      rw [hns] at h
      dsimp only at h ⊢
      obtain ⟨found, hfound, hrun⟩ := run_bind_of_ok h fun _ => rfl
      rw [hrun] at h ⊢
      cases found with
      | none => cases h
      | some answer =>
          cases h
          obtain ⟨hbehind, hreply⟩ := Program.run_find_eq_some hfound
          exact ⟨ns, rfl, by rw [hbehind]; rfl, hreply⟩

/-- Hostnames are looked up in the gateway or not at all. -/
theorem run_hostnames (reply : Replies) (limit : Duration) (route : HttpRoute)
    (gateway : GatewayRef) (past : List Event) :
    ∃ looked, (looked = [] ∨ ∃ id, looked = [.sent (.getGateway id) (some limit)]) ∧
      (run reply past (hostnames limit route gateway)).1 = past ++ looked := by
  unfold hostnames
  split
  · rw [run_bind]
    by_cases hname : (Request.getGateway ⟨gateway.ns, gateway.name⟩).target.name = ""
    · rw [Program.run_find_of_unnamed limit hname]
      exact ⟨[], Or.inl rfl, by rw [List.append_nil]; rfl⟩
    · rw [Program.run_find_of_named limit hname]
      refine ⟨_, Or.inr ⟨⟨gateway.ns, gateway.name⟩, rfl⟩, ?_⟩
      split
      · rfl
      · rfl
      · rfl
  · exact ⟨[], Or.inl rfl, by rw [List.append_nil]; rfl⟩

theorem run_observeRoute_of_ok {service : InferenceService} {reference : RouteReference}
    {ns : String} (hns : model.backendNamespace = some ns)
    (h : (run reply past (observeRoute gateway limit model service)).2 = .ok reference) :
    ∃ route looked,
      (looked = [] ∨ ∃ id, looked = [.sent (.getGateway id) (some limit)]) ∧
      (run reply past (observeRoute gateway limit model service)).1 =
        past ++ [.sent (.getRoute (routeId ns model)) (some limit)] ++ looked ∧
      reply past (.getRoute (routeId ns model)) (some limit) = .answered route ∧
      route.isOwnedBy service = true ∧
      reference.name = (routeId ns model).name ∧ reference.ns = ns := by
  unfold observeRoute at h ⊢
  rw [resolve_of_namespace hns] at h ⊢
  dsimp only at h ⊢
  obtain ⟨found, hfound, hrun⟩ := run_bind_of_ok h fun _ => rfl
  rw [hrun] at h ⊢
  cases found with
  | none => cases h
  | some route =>
      obtain ⟨hbehind, hreply⟩ := Program.run_find_eq_some hfound
      rw [hbehind] at h ⊢
      by_cases howned : route.isOwnedBy service = true
      · dsimp only at h ⊢
        rw [if_neg (by simp [howned])] at h ⊢
        obtain ⟨names, hnames, hrun⟩ := run_bind_of_ok h fun _ => rfl
        rw [hrun] at h ⊢
        obtain ⟨looked, hlooked, hbehind⟩ := run_hostnames reply limit route
          (route.gateway (routeId ns model).ns gateway)
          (past ++ [.sent (.getRoute (routeId ns model)) (some limit)])
        rw [hbehind] at h ⊢
        cases h
        exact ⟨route, looked, hlooked, rfl, hreply, howned, rfl, rfl⟩
      · dsimp only at h
        rw [if_pos (by simp [howned])] at h
        cases h

/-- A service for which an endpoint was reported was asked for once more. -/
theorem run_status_of_ok {reference : RouteReference} {found : ModelEndpoint}
    (h : (run reply past (status limit model reference)).2 = .ok found) :
    ∃ ns service, model.backendNamespace = some ns ∧
      (run reply past (status limit model reference)).1 =
        past ++ [.sent (.getService (serviceId ns model)) (some limit)] ∧
      reply past (.getService (serviceId ns model)) (some limit) = .answered service ∧
      found = ⟨endpoint service reference, service.isReady⟩ := by
  unfold status at h ⊢
  obtain ⟨service, hservice, hrun⟩ := run_bind_of_ok h fun _ => rfl
  obtain ⟨ns, hns, hget, hreply⟩ := run_getService_of_ok hservice
  rw [hrun, hget] at h ⊢
  cases h
  exact ⟨ns, service, hns, rfl, hreply, rfl⟩

theorem run_reconcileRoute_of_ok {reference : RouteReference}
    (h : (run reply past (reconcileRoute gateway limit model)).2 = .ok reference) :
    ∃ ns service route looked, model.backendNamespace = some ns ∧
      (looked = [] ∨ ∃ id, looked = [.sent (.getGateway id) (some limit)]) ∧
      (run reply past (reconcileRoute gateway limit model)).1 =
        past ++ [.sent (.getService (serviceId ns model)) (some limit),
          .sent (.getRoute (routeId ns model)) (some limit)] ++ looked ∧
      reply past (.getService (serviceId ns model)) (some limit) = .answered service ∧
      reply (past ++ [.sent (.getService (serviceId ns model)) (some limit)])
        (.getRoute (routeId ns model)) (some limit) = .answered route ∧
      route.isOwnedBy service = true ∧
      reference.name = (routeId ns model).name ∧ reference.ns = ns := by
  unfold reconcileRoute at h ⊢
  obtain ⟨service, hservice, hrun⟩ := run_bind_of_ok h fun _ => rfl
  obtain ⟨ns, hns, hget, hreply⟩ := run_getService_of_ok hservice
  rw [hrun, hget] at h ⊢
  obtain ⟨route, looked, hlooked, hbehind, hroute, howned, hname, hrouteNs⟩ :=
    run_observeRoute_of_ok hns h
  refine ⟨ns, service, route, looked, hns, hlooked, ?_, hreply, hroute, howned, hname, hrouteNs⟩
  dsimp only
  rw [hbehind]
  simp

end InferenceBackend

/-! ## Evaluations that end ready -/

open InferenceBackend (serviceId routeId)

/-- How an evaluation starts: the backend is called for the route, and gets the service and the
route. -/
def routeEvents (limit : Duration) (ns : String) (model : Model) : List Event :=
  [.noted (.called .route), .sent (.getService (serviceId ns model)) (some limit),
    .sent (.getRoute (routeId ns model)) (some limit)]

/-- What an evaluation of a model that ended ready has read, in its order: a service, its route,
perhaps a gateway, and once more the service. -/
structure ReadyReads (reply : Replies) (limit : Duration) (model : Model) (events : List Event)
    (status : ModelStatus) (ns : String) (first second : InferenceService) (route : HttpRoute)
    (looked : List Event) : Prop where
  ns_eq : model.backendNamespace = some ns
  events_eq : events = routeEvents limit ns model ++ looked ++
    [.noted (.called .status), .sent (.getService (serviceId ns model)) (some limit)]
  looked_eq : looked = [] ∨ ∃ id, looked = [.sent (.getGateway id) (some limit)]
  first_read : reply [.noted (.called .route)] (.getService (serviceId ns model)) (some limit) =
    .answered first
  route_read : reply [.noted (.called .route),
      .sent (.getService (serviceId ns model)) (some limit)] (.getRoute (routeId ns model))
      (some limit) = .answered route
  /-- The route is owned by the service that was read first. -/
  owned : route.isOwnedBy first = true
  second_read : reply (routeEvents limit ns model ++ looked ++ [.noted (.called .status)])
    (.getService (serviceId ns model)) (some limit) = .answered second
  /-- The readiness and the endpoint are those of the service that was read last. -/
  ready : second.isReady = true
  recorded : ∃ reference, RecordsRoute status (some reference) ∧
    reference.name = (routeId ns model).name ∧ reference.ns = ns ∧
    status.endpoint = InferenceBackend.endpoint second reference ∧ status.endpoint ≠ none
  /-- If both are the same object, then the service that is reported ready owns the route. -/
  same : ∀ uid, first.metadata.uid = some uid → second.metadata.uid = some uid →
    ∃ owner ∈ route.metadata.ownerReferences,
      owner.kind = InferenceService.kind ∧ second.metadata.uid = some owner.uid

/-- Only an observed endpoint of a ready backend makes a model ready. -/
theorem Judged.observed_of_ready {kind : String} {a : BackendAnswers} {v : Verdict}
    (h : Judged kind a v) (hphase : v.outcome.phase = .ready) :
    ∃ route url, a = .observed route ⟨some url, true⟩ ∧ v = .ready route url := by
  cases h with
  | ready route url => exact ⟨route, url, rfl, rfl⟩
  | _ => cases hphase

/-- Whatever other clients do to services, routes and gateways during an evaluation: if it ends
ready, then the route belongs to the service that was read first, and the endpoint is that of the
service that was read last. -/
theorem reads_of_ready (reply : Replies) (gateway : GatewayRef) (limit : Duration) (model : Model)
    (now : String) (hkind : model.backendKind = InferenceBackend.kind)
    (hready : (run reply [] (Evaluation.evaluate (Pass.registry gateway limit) model
      now)).2.status.phase = some .ready) :
    ∃ ns first second route looked, ReadyReads reply limit model
      (run reply [] (Evaluation.evaluate (Pass.registry gateway limit) model now)).1
      (run reply [] (Evaluation.evaluate (Pass.registry gateway limit) model now)).2.status
      ns first second route looked := by
  obtain ⟨calls, -, hrun⟩ :=
    Evaluation.run_evaluate_eq reply (Pass.registry gateway limit) model now []
  have hstatus := congrArg (fun outcome => outcome.2.status) hrun
  rw [hstatus, Verdict.phase_evaluation] at hready
  obtain ⟨reference, url, hanswers, hverdict⟩ :=
    (judged_verdict model.backendKind _).observed_of_ready (Option.some.inj hready)
  obtain ⟨backend, routed, hget, hroute, hlast⟩ :=
    Evaluation.run_evaluate_of_observed now hanswers
  have hbackend : backend = InferenceBackend.backend gateway limit := by
    rw [Pass.get?_registry_of_inference hkind] at hget
    exact (Option.some.inj hget).symm
  subst hbackend
  change run reply _ (InferenceBackend.reconcileRoute gateway limit model) = _ at hroute
  change run reply _ (InferenceBackend.status limit model reference) = _ at hlast
  -- The two calls, one behind the other.
  obtain ⟨ns, first, route, looked, hns, hlooked, hrouted, hfirst, hread, howned, hname,
    hrouteNs⟩ := InferenceBackend.run_reconcileRoute_of_ok (congrArg Prod.snd hroute)
  rw [hroute] at hrouted
  obtain ⟨ns', second, hns', hbehind, hsecond, hfound⟩ :=
    InferenceBackend.run_status_of_ok (congrArg Prod.snd hlast)
  obtain rfl : ns = ns' := Option.some.inj (hns.symm.trans hns')
  rw [hlast] at hbehind
  dsimp only at hrouted hbehind
  subst hrouted
  obtain ⟨hendpoint, hsecondReady⟩ := ModelEndpoint.mk.inj hfound
  refine ⟨ns, first, second, route, looked, ?_⟩
  exact {
    ns_eq := hns
    events_eq := by
      rw [hbehind]
      simp [routeEvents]
    looked_eq := hlooked
    first_read := hfirst
    route_read := hread
    owned := howned
    second_read := hsecond
    ready := hsecondReady.symm
    recorded := by
      rw [hstatus, hverdict]
      refine ⟨reference, Verdict.recordsRoute_evaluation _ _ _, hname, hrouteNs, ?_, ?_⟩
      · exact hendpoint
      · simp
    same := by
      intro uid hfirstUid hsecondUid
      obtain ⟨owner, hmem, hownerKind, -, huid⟩ := HttpRoute.isOwnedBy_iff.1 howned
      exact ⟨owner, hmem, hownerKind, by rw [hsecondUid, huid uid hfirstUid]⟩ }

/-- A model that is served by a service. -/
def servedModel : Model :=
  ⟨{ Metadata.blank with name := some "m", ns := some "n" }, ⟨"llmisvc", "x", none⟩,
    none⟩

/-- A ready service with a unique id and a URL. -/
def readyService (uid url : String) : InferenceService :=
  ⟨{ Metadata.blank with name := some "x", ns := some "n", uid := some uid }, [],
    some ⟨some url, [⟨"Ready", "True", none, none⟩]⟩⟩

/-- The route that came with the first service. -/
def routeOfFirst : HttpRoute :=
  ⟨{ Metadata.blank with
    ownerReferences :=
      [⟨"serving.kserve.io/v1alpha1", InferenceService.kind, "x", "service-1", none, none⟩] },
    [], []⟩

/-- The replies to an evaluation, while the service is deleted and created again. -/
def replacedReply : Replies
  | [_], .getService _, _ => .answered (readyService "service-1" "https://one.example.com")
  | _, .getService _, _ => .answered (readyService "service-2" "https://two.example.com")
  | _, .getRoute _, _ => .answered routeOfFirst
  | _, .getGateway _, _ => .answered ⟨Metadata.blank, [], []⟩
  | _, _, _ => .timedOut

/-- The new service is reported ready, although the route is still that of the old one. -/
theorem replaced_service_is_reported :
    (run replacedReply [] (Evaluation.evaluate (Pass.registry ⟨"g", "g"⟩ 5) servedModel
        "now")).2.status.phase = some .ready ∧
      ∃ ns first second route looked, ReadyReads replacedReply 5 servedModel
        (run replacedReply [] (Evaluation.evaluate (Pass.registry ⟨"g", "g"⟩ 5) servedModel
          "now")).1
        (run replacedReply [] (Evaluation.evaluate (Pass.registry ⟨"g", "g"⟩ 5) servedModel
          "now")).2.status ns first second route looked ∧
        first.metadata.uid = some "service-1" ∧ second.metadata.uid = some "service-2" ∧
        route.isOwnedBy second = false := by
  have hready : (run replacedReply [] (Evaluation.evaluate (Pass.registry ⟨"g", "g"⟩ 5)
      servedModel "now")).2.status.phase = some .ready := by
    rfl
  obtain ⟨ns, first, second, route, looked, hreads⟩ :=
    reads_of_ready replacedReply ⟨"g", "g"⟩ 5 servedModel "now" rfl hready
  have hfirst : readyService "service-1" "https://one.example.com" = first :=
    Reply.answered.inj hreads.first_read
  have hroute : routeOfFirst = route := Reply.answered.inj hreads.route_read
  have hsecond : readyService "service-2" "https://two.example.com" = second :=
    Reply.answered.inj hreads.second_read
  refine ⟨hready, ns, first, second, route, looked, hreads, ?_, ?_, ?_⟩
  · rw [← hfirst]
    rfl
  · rw [← hsecond]
    rfl
  · rw [← hroute, ← hsecond]
    decide

end ModelGate
