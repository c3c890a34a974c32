import Mathlib
import ModelGate.Proofs.Reconcile.BackendRequests
import ModelGate.Proofs.Reconcile.FinalizerSafety
import ModelGate.Proofs.Simulation.RouteRemoval

/-!
# No route of others is deleted

A pass sends at most one deletion, and only in the cleanup of a model whose kind owns its routes.
The route is read first, it has to name the model as its controller, and the deletion expects the
unique id of the route that was read.  Other clients may replace the route in between; then the
server refuses the deletion.  `deletes_only_own_routes` says so for all replies.
-/

namespace ModelGate

open Program (Event Replies requests run run_bind run_pure run_leave)

/-- A route has an owner reference that makes a model its controller. -/
def HttpRoute.ControlledBy (route : HttpRoute) (model : Model) : Prop :=
  ∃ owner ∈ route.metadata.ownerReferences,
    owner.controller = some true ∧ owner.kind = "MaaSModel" ∧ model.metadata.uid = some owner.uid

theorem HttpRoute.isControlledBy_iff {route : HttpRoute} {model : Model} :
    route.isControlledBy model = true ↔ route.ControlledBy model := by
  unfold isControlledBy ControlledBy Model.kind
  cases huid : model.metadata.uid with
  | none => simp
  | some uid =>
      rw [List.any_eq_true]
      refine exists_congr fun owner => and_congr_right fun _ => ?_
      simp only [Bool.and_eq_true, beq_iff_eq, Option.some.injEq]
      rw [and_assoc, and_comm (a := owner.uid = uid), eq_comm (a := owner.uid)]

variable {reply : Replies} {past : List Event} {gateway : GatewayRef} {limit : Duration}
  {now ns : String} {model : Model} {id : ObjectId}

namespace ExternalBackend

/-- What the removal of a route leaves behind: the route is read, and deleted if it is the model's.
The deletion expects the unique id of the route that was read. -/
inductive DeletionTrace (reply : Replies) (limit : Duration) (id : ObjectId) (model : Model)
    (past : List Event) : List Event → Prop
  | left : DeletionTrace reply limit id model past [.sent (.getRoute id) (some limit)]
  | deleted (route : HttpRoute)
      (hread : reply past (.getRoute id) (some limit) = .answered route)
      (hcontrolled : route.ControlledBy model) :
      DeletionTrace reply limit id model past [.sent (.getRoute id) (some limit),
        .sent (.deleteRoute id route.metadata.uid) (some limit)]

/-- What the reply to the deletion of a route makes of the cleanup. -/
def deletion (limit : Duration) (reply : Reply Unit) : Except BackendError Unit :=
  match reply.result limit with
  | .error (.request (.refused e)) =>
    if e.code = 404 then .ok () else .error (.request (.refused e))
  | other => other

theorem deleteRoute_eq_ask (route : HttpRoute) (hname : id.name ≠ "") :
    deleteRoute limit id route =
      .ask (.deleteRoute id route.metadata.uid) (some limit) fun reply =>
        .done (deletion limit reply) := by
  have htarget : (Request.deleteRoute id route.metadata.uid).target.name ≠ "" := hname
  unfold deleteRoute
  rw [Program.request_eq_ask limit htarget]
  refine congrArg (Program.ask _ (some limit)) (funext fun reply => ?_)
  cases reply with
  | answered answer => rfl
  | failed error =>
      cases error with
      | refused e =>
          change (if e.code = 404 then _ else _ : Program _) = .done (if e.code = 404 then _ else _)
          split <;> rfl
      | unreadable => rfl
      | unnamed => rfl
  | timedOut => rfl

theorem run_deleteRoute (route : HttpRoute) (hname : id.name ≠ "") :
    (run reply past (deleteRoute limit id route)).1 =
      past ++ [.sent (.deleteRoute id route.metadata.uid) (some limit)] := by
  rw [deleteRoute_eq_ask route hname]
  rfl

theorem run_deleteIfControlled (reply : Replies) (limit : Duration) (model : Model)
    (past : List Event) (hname : id.name ≠ "") :
    ∃ sent, DeletionTrace reply limit id model past sent ∧
      (run reply past (deleteIfControlled limit id model)).1 = past ++ sent := by
  have htarget : (Request.getRoute id).target.name ≠ "" := hname
  unfold deleteIfControlled
  rw [run_bind, Program.run_find_of_named limit htarget]
  split
  · exact ⟨_, .left, rfl⟩
  · exact ⟨_, .left, rfl⟩
  · next route hfound =>
      split
      · next hcontrolled =>
          refine ⟨_, .deleted route (Reply.found_eq_some_iff.1 hfound)
            (HttpRoute.isControlledBy_iff.1 hcontrolled), ?_⟩
          rw [run_deleteRoute route hname]
          simp
      · exact ⟨_, .left, rfl⟩

/-- The id of the route that would be created for a model in a namespace. -/
def ownRoute (ns : String) (model : Model) : ObjectId :=
  ⟨ns, "maas-model-" ++ model.shownName⟩

theorem ownRoute_name_ne_empty (ns : String) (model : Model) : (ownRoute ns model).name ≠ "" := by
  simp [ownRoute]

theorem cleanup_of_ns (hns : model.metadata.ns = some ns) :
    cleanup limit model = deleteIfControlled limit (ownRoute ns model) model := by
  unfold cleanup resolve
  rw [hns]
  rfl

end ExternalBackend

namespace Pass

open ExternalBackend (DeletionTrace ownRoute)

/-- The removal of routes sends nothing, except for a model whose kind owns its routes. -/
theorem run_removeRoutes_registry (reply : Replies) (gateway : GatewayRef) (limit : Duration)
    (past : List Event) (hns : model.metadata.ns = some ns) :
    (run reply past (removeRoutes (registry gateway limit) model)).1 = past ∨
      (model.backendKind = ExternalBackend.kind ∧
        ∃ sent, DeletionTrace reply limit (ownRoute ns model) model
            (past ++ [.noted (.called .cleanup)]) sent ∧
          (run reply past (removeRoutes (registry gateway limit) model)).1 =
            past ++ .noted (.called .cleanup) :: sent) := by
  by_cases hexternal : model.backendKind = ExternalBackend.kind
  · have hget : (registry gateway limit).get? model.backendKind =
        some (ExternalBackend.backend limit) := by rw [get?_registry, if_pos hexternal]
    obtain ⟨sent, hsent, hrun⟩ := ExternalBackend.run_deleteIfControlled reply limit model
      (past ++ [.noted (.called .cleanup)]) (ExternalBackend.ownRoute_name_ne_empty ns model)
    refine Or.inr ⟨hexternal, sent, hsent, ?_⟩
    rw [run_removeRoutes_of_owned hget rfl]
    change (run reply _ (ExternalBackend.cleanup limit model)).1 = _
    rw [ExternalBackend.cleanup_of_ns hns, hrun]
    simp
  · refine Or.inl (run_removeRoutes_of_unowned fun backend hget => ?_)
    rw [get?_registry, if_neg hexternal] at hget
    split_ifs at hget
    cases hget
    rfl

/-- A deletion within the trace of a pass: it is sent in the cleanup of a model whose kind owns its
routes, for the route of the model, right after this route was read and found to be controlled by
the model; and nothing else is deleted. -/
structure OwnDeletion (reply : Replies) (limit : Duration) (model : Model) (events : List Event)
    (id : ObjectId) (uid : Option String) (wait : Option Duration) : Prop where
  deleting : model.metadata.isDeleting = true
  carries : Carries model
  kind : model.backendKind = ExternalBackend.kind
  ns : model.metadata.ns = some id.ns
  name : id.name = "maas-model-" ++ model.shownName
  read : ∃ route,
    reply [.noted (.called .cleanup)] (.getRoute id) (some limit) = .answered route ∧
      route.ControlledBy model ∧ uid = route.metadata.uid
  events : ∃ rest, events = .noted (.called .cleanup) :: .sent (.getRoute id) (some limit) ::
      .sent (.deleteRoute id uid) wait :: rest ∧
    ∀ other expected time, .sent (.deleteRoute other expected) time ∉ rest

theorem deleteRoute_notMem_apply {uid : Option String} {wait : Option Duration} :
    .sent (.deleteRoute id uid) wait ∉
      (run reply [] (apply (registry gateway limit) limit now ns model)).1 := by
  intro hsent
  rcases Program.allowed_of_sent asks_apply hsent with hread | ⟨-, status, hstore⟩
  · cases hread.1
  · cases hstore

theorem deleteRoute_notMem_patchRequests {uid : Option String} {wait : Option Duration}
    (other : ObjectId) (patch : FinalizerPatch) :
    .sent (.deleteRoute id uid) wait ∉ requests (patchRequests other patch) := by
  unfold patchRequests
  split <;> simp [requests]

/-- All deletions of a removal of routes are one, which is its last request. -/
theorem ownDeletion_of_mem_removal (hns : model.metadata.ns = some ns) (hcarries : Carries model)
    (hdeleting : model.metadata.isDeleting = true) {rest : List Event}
    (hrest : ∀ id uid wait, .sent (.deleteRoute id uid) wait ∉ rest) {uid : Option String}
    {wait : Option Duration}
    (h : .sent (.deleteRoute id uid) wait ∈
      (run reply [] (removeRoutes (registry gateway limit) model)).1 ++ rest) :
    OwnDeletion reply limit model
      ((run reply [] (removeRoutes (registry gateway limit) model)).1 ++ rest) id uid wait := by
  rcases run_removeRoutes_registry reply gateway limit [] hns with
    hremove | ⟨hkind, sent, hsent, hremove⟩
  · rw [hremove] at h
    exact absurd h (hrest _ _ _)
  · rw [hremove] at h ⊢
    cases hsent with
    | left => simp [hrest] at h
    | deleted route hread hcontrolled =>
        simp only [List.nil_append, List.cons_append, List.mem_cons, reduceCtorEq,
          Event.sent.injEq, false_and, false_or, hrest, or_false, Request.deleteRoute.injEq] at h
        obtain ⟨⟨rfl, rfl⟩, rfl⟩ := h
        exact {
          deleting := hdeleting
          carries := hcarries
          kind := hkind
          ns := hns
          name := rfl
          read := ⟨route, hread, hcontrolled, rfl⟩
          events := ⟨rest, rfl, hrest⟩ }

theorem ownDeletion_of_mem_trace {uid : Option String} {wait : Option Duration}
    (h : .sent (.deleteRoute id uid) wait ∈
      trace reply (registry gateway limit) limit now model) :
    OwnDeletion reply limit model (trace reply (registry gateway limit) limit now model)
      id uid wait := by
  have htrace := passTrace_reconcile reply (registry gateway limit) limit now model
  unfold trace at h ⊢
  generalize (run reply [] (reconcile (registry gateway limit) limit now model)).1 = events
    at htrace h ⊢
  cases htrace with
  | idle => cases h
  | served hns hcarries hdeleting => exact absurd h deleteRoute_notMem_apply
  | added hns hname hcarries hdeleting => exact absurd h (deleteRoute_notMem_patchRequests _ _)
  | stuck hns hcarries hdeleting hremoval =>
      exact ownDeletion_of_mem_removal hns hcarries hdeleting (by simp) h
  | removed hns hname hcarries hdeleting hremoval =>
      exact ownDeletion_of_mem_removal hns hcarries hdeleting
        (by simp [deleteRoute_notMem_patchRequests]) h

/-- What a pass may do to routes. -/
structure RouteSafe (reply : Replies) (limit : Duration) (model : Model) (events : List Event) :
    Prop where
  /-- Every deletion is one of a route that was read as the model's. -/
  deletion : ∀ id uid wait, .sent (.deleteRoute id uid) wait ∈ events →
    OwnDeletion reply limit model events id uid wait
  /-- If routes have unique ids, a route that a request of the pass changes or removes is one that
  was read as the model's, however the cluster has changed in between. -/
  removal : (∀ past id wait route,
      reply past (.getRoute id) wait = .answered route → route.metadata.uid ≠ none) →
    ∀ r wait, .sent r wait ∈ events →
    ∀ (cluster : Cluster) (time : String) (id : ObjectId) (route : HttpRoute),
      cluster.routes.get? id = some route →
      (cluster.answer time r).2.routes.get? id ≠ some route →
      ∃ known, [.noted (.called .cleanup), .sent (.getRoute id) (some limit)] <+: events ∧
        reply [.noted (.called .cleanup)] (.getRoute id) (some limit) = .answered known ∧
        known.ControlledBy model ∧ route.metadata.uid = known.metadata.uid

/-- No pass deletes a route that it has not read as the model's, whatever is replied. -/
theorem deletes_only_own_routes (reply : Replies) (gateway : GatewayRef) (limit : Duration)
    (now : String) (model : Model) :
    RouteSafe reply limit model (trace reply (registry gateway limit) limit now model) where
  deletion := fun id uid wait h => ownDeletion_of_mem_trace h
  removal := by
    intro huids r wait hsent cluster time id route hroute hchanged
    obtain ⟨uid, rfl, hexpected⟩ := Cluster.deletes_of_route_changed hroute hchanged
    have hdeletion := ownDeletion_of_mem_trace hsent
    obtain ⟨known, hread, hcontrolled, hknown⟩ := hdeletion.read
    obtain ⟨rest, hevents, -⟩ := hdeletion.events
    refine ⟨known, ⟨_, hevents.symm⟩, hread, hcontrolled, ?_⟩
    rcases hexpected with hnone | hsame
    · rw [hnone] at hknown
      exact absurd hknown.symm (huids _ _ _ _ hread)
    · rw [hsame, hknown]

/-- A model that is being deleted while its route is still there. -/
def routedModel : Model :=
  ⟨{ Metadata.blank with
    name := some "opt"
    ns := some "llm"
    uid := some "model-1"
    finalizers := some ["maas.opendatahub.io/model-cleanup"]
    deletionTimestamp := some "2025-01-01T00:00:00Z" }, ⟨"ExternalModel", "opt", none⟩, none⟩

/-- The route, which also has an owner that is not its controller. -/
def routeOfModel : HttpRoute :=
  ⟨{ Metadata.blank with
    uid := some "route-1"
    ownerReferences := [⟨"v1", "Service", "opt", "service-1", none, none⟩,
      ⟨"maas.opendatahub.io/v1alpha1", "MaaSModel", "opt", "model-1", some true, none⟩] }, [], []⟩

/-- The reply to a request for a route, and none to other requests. -/
def routeReply : Replies
  | _, .getRoute _, _ => .answered routeOfModel
  | _, _, _ => .timedOut

/-- The route is read and then deleted as the one that was read. -/
theorem routedModel_deletes_route :
    OwnDeletion routeReply 5 routedModel
      (trace routeReply (registry ⟨"gateway", "istio"⟩ 5) 5 "" routedModel)
      ⟨"llm", "maas-model-opt"⟩ (some "route-1") (some 5) := by
  refine (deletes_only_own_routes routeReply ⟨"gateway", "istio"⟩ 5 "" routedModel).deletion
    _ _ _ ?_
  have htrace : trace routeReply (registry ⟨"gateway", "istio"⟩ 5) 5 "" routedModel =
      [.noted (.called .cleanup), .sent (.getRoute ⟨"llm", "maas-model-opt"⟩) (some 5),
        .sent (.deleteRoute ⟨"llm", "maas-model-opt"⟩ (some "route-1")) (some 5),
        .noted (.cleanedUp "ExternalModel" false)] := by
    cbv
  rw [htrace]
  simp

end Pass

end ModelGate
