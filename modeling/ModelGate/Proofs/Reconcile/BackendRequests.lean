import Mathlib
import ModelGate.Proofs.Reconcile.ProgramRun
import ModelGate.Reconcile.Pass

/-!
# What a pass asks of the API server

The backends that the controller knows only read while a model is evaluated, and they wait for each
reply no longer than their limit (`asks_evaluate`).  What they read are the service that the model
names, and routes and gateways (`asks_evaluate_of_inference`).  The pass over a served model adds the request
that stores its status (`asks_apply`), the cleanup of a model the deletion of a route, and the
controller itself the changes of finalizers.  `PassRequest` lists what there is, and
`asks_reconcile` says that no pass asks for anything else, whatever is replied.
-/

namespace ModelGate

open Program (asks_bind asks_find asks_leave asks_pure asks_request)

/-- A request that changes nothing, and whose reply is awaited for the given time at most. -/
def IsBoundedRead (limit : Duration) (r : Request) (wait : Option Duration) : Prop :=
  r.isRead = true ∧ wait = some limit

/-- What is read of a model that an inference service serves: that service, and routes and gateways. -/
inductive ServiceRead (limit : Duration) (model : Model) : Request → Option Duration → Prop
  | service {ns : String} (h : model.backendNamespace = some ns) :
      ServiceRead limit model (.getService ⟨ns, model.backend.name⟩) (some limit)
  | route (id : ObjectId) : ServiceRead limit model (.getRoute id) (some limit)
  | gateway (id : ObjectId) : ServiceRead limit model (.getGateway id) (some limit)

theorem ServiceRead.isBoundedRead {limit : Duration} {model : Model} {r : Request}
    {wait : Option Duration} (h : ServiceRead limit model r wait) : IsBoundedRead limit r wait := by
  cases h <;> exact ⟨rfl, rfl⟩

/-- The requests that a pass over a model may send, each with how long its reply is awaited. -/
inductive PassRequest (limit : Duration) (model : Model) : Request → Option Duration → Prop
  | read {r : Request} (h : r.isRead = true) : PassRequest limit model r (some limit)
  | status (s : ModelStatus) : PassRequest limit model (.applyStatus model.id s) (some limit)
  | deletion (id : ObjectId) (uid : Option String) :
      PassRequest limit model (.deleteRoute id uid) (some limit)
  /-- The reply to a change of finalizers is awaited without limit. -/
  | finalizers (patch : FinalizerPatch) :
      PassRequest limit model (.patchFinalizers model.id patch) none

variable {gateway : GatewayRef} {limit : Duration} {model : Model} {now ns : String}
  {allowed : Request → Option Duration → Prop}

theorem Model.id_of_named {name : String} (hns : model.metadata.ns = some ns)
    (hname : model.metadata.name = some name) : model.id = ⟨ns, name⟩ := by
  rw [id_of_ns hns]
  unfold shownName Metadata.shownName
  rw [hname]
  rfl

theorem PassRequest.of_isBoundedRead {r : Request} {wait : Option Duration}
    (h : IsBoundedRead limit r wait) : PassRequest limit model r wait := by
  obtain ⟨hread, rfl⟩ := h
  exact .read hread

namespace InferenceBackend

theorem asks_getService : (getService limit model).Asks (ServiceRead limit model) := by
  unfold getService serviceNamespace
  cases hns : model.backendNamespace with
  | none => exact asks_pure _
  | some ns =>
      refine asks_bind (asks_find (.service hns)) ?_
      intro found
      split <;> exact asks_pure _

theorem asks_hostnames (route : HttpRoute) :
    (hostnames limit route gateway).Asks (ServiceRead limit model) := by
  unfold hostnames
  split
  · refine asks_bind (asks_find (.gateway _)) ?_
    intro found
    split <;> exact asks_pure _
  · exact asks_pure _

theorem asks_observeRoute (service : InferenceService) :
    (observeRoute gateway limit model service).Asks (ServiceRead limit model) := by
  unfold observeRoute
  split
  · exact asks_pure _
  · refine asks_bind (asks_find (.route _)) ?_
    intro found
    split
    · exact asks_pure _
    · exact asks_pure _
    · split
      · exact asks_pure _
      · refine asks_bind (asks_hostnames _) ?_
        intro names
        split <;> exact asks_pure _

theorem asks_reconcileRoute :
    (reconcileRoute gateway limit model).Asks (ServiceRead limit model) := by
  refine asks_bind asks_getService ?_
  intro found
  split
  · exact asks_pure _
  · exact asks_observeRoute _

theorem asks_status (route : RouteReference) :
    (status limit model route).Asks (ServiceRead limit model) := by
  refine asks_bind asks_getService ?_
  intro found
  split <;> exact asks_pure _

theorem serviceReads_modelEndpoint :
    (modelEndpoint gateway limit model).Asks (ServiceRead limit model) := by
  refine asks_bind asks_getService ?_
  intro found
  split
  · exact asks_pure _
  · split
    · exact asks_pure _
    · refine asks_bind (asks_observeRoute _) ?_
      intro observed
      split <;> exact asks_pure _

theorem asks_modelEndpoint :
    (modelEndpoint gateway limit model).Asks (IsBoundedRead limit) :=
  serviceReads_modelEndpoint.mono fun _ _ h => h.isBoundedRead

end InferenceBackend

namespace ExternalBackend

theorem asks_deleteRoute (id : ObjectId) (route : HttpRoute) :
    (deleteRoute limit id route).Asks (PassRequest limit model) := by
  refine asks_bind (asks_request (.deletion id route.metadata.uid)) ?_
  intro deleted
  split
  · split <;> exact asks_pure _
  · exact asks_pure _

theorem asks_deleteIfControlled (id : ObjectId) :
    (deleteIfControlled limit id model).Asks (PassRequest limit model) := by
  refine asks_bind (asks_find (.read rfl)) ?_
  intro found
  split
  · exact asks_pure _
  · exact asks_pure _
  · split
    · exact asks_deleteRoute id _
    · exact asks_pure _

theorem asks_cleanup : (cleanup limit model).Asks (PassRequest limit model) := by
  unfold cleanup
  split
  · exact asks_pure _
  · exact asks_deleteIfControlled _

end ExternalBackend

namespace Evaluation

/-- An evaluation asks no more than the backend does. -/
theorem asks_withBackend {backend : Backend} (hroute : (backend.reconcileRoute model).Asks allowed)
    (hstatus : ∀ route, (backend.status model route).Asks allowed) :
    (withBackend backend model now).Asks allowed := by
  refine asks_bind (asks_leave _) ?_
  intro _
  refine asks_bind hroute ?_
  intro routed
  split
  · exact asks_pure _
  · refine asks_bind (asks_leave _) ?_
    intro _
    refine asks_bind (hstatus _) ?_
    intro found
    split <;> exact asks_pure _

end Evaluation

namespace Pass

theorem get?_registry (gateway : GatewayRef) (limit : Duration) (kind : String) :
    (registry gateway limit).get? kind =
      if kind = ExternalBackend.kind then some (ExternalBackend.backend limit)
      else if kind = InferenceBackend.kind then some (InferenceBackend.backend gateway limit)
      else none := by
  change List.lookup kind [(ExternalBackend.kind, ExternalBackend.backend limit),
    (InferenceBackend.kind, InferenceBackend.backend gateway limit)] = _
  rw [List.lookup_cons, List.lookup_cons, List.lookup_nil]
  by_cases hexternal : kind = ExternalBackend.kind
  · simp [hexternal]
  · have hbeq : (kind == ExternalBackend.kind) = false := by simpa using hexternal
    rw [if_neg hexternal, hbeq]
    by_cases hinference : kind = InferenceBackend.kind
    · simp [hinference]
    · have hbeq : (kind == InferenceBackend.kind) = false := by simpa using hinference
      rw [if_neg hinference, hbeq]

theorem get?_registry_of_inference (hkind : model.backendKind = InferenceBackend.kind) :
    (registry gateway limit).get? model.backendKind =
      some (InferenceBackend.backend gateway limit) := by
  have hother : InferenceBackend.kind ≠ ExternalBackend.kind := by decide
  rw [get?_registry, hkind, if_neg hother, if_pos rfl]

/-- The evaluation of a model that an inference service serves reads that service, and routes and
gateways. -/
theorem asks_evaluate_of_inference (hkind : model.backendKind = InferenceBackend.kind) :
    (Evaluation.evaluate (registry gateway limit) model now).Asks (ServiceRead limit model) := by
  unfold Evaluation.evaluate
  rw [get?_registry_of_inference hkind]
  exact Evaluation.asks_withBackend InferenceBackend.asks_reconcileRoute
    InferenceBackend.asks_status

/-- The evaluation of any other model asks nothing. -/
theorem asks_evaluate_of_ne (hkind : model.backendKind ≠ InferenceBackend.kind) :
    (Evaluation.evaluate (registry gateway limit) model now).Asks allowed := by
  unfold Evaluation.evaluate
  rw [get?_registry, if_neg hkind]
  split_ifs
  · exact Evaluation.asks_withBackend (asks_pure _) fun _ => asks_pure _
  · exact asks_pure _

/-- An evaluation reads, and does nothing else. -/
theorem asks_evaluate :
    (Evaluation.evaluate (registry gateway limit) model now).Asks (IsBoundedRead limit) := by
  by_cases hkind : model.backendKind = InferenceBackend.kind
  · exact (asks_evaluate_of_inference hkind).mono fun _ _ h => h.isBoundedRead
  · exact asks_evaluate_of_ne hkind

theorem asks_conclude (outcome : Outcome) : (conclude model outcome).Asks allowed := by
  unfold conclude
  split
  · exact asks_pure _
  · exact asks_bind (asks_leave _) fun _ => asks_pure _

/-- The pass over a served model reads, and stores the status of the model. -/
theorem asks_apply :
    (apply (registry gateway limit) limit now ns model).Asks fun r wait =>
      IsBoundedRead limit r wait ∨
        (wait = some limit ∧ ∃ status, r = .applyStatus ⟨ns, model.shownName⟩ status) := by
  refine asks_bind (asks_evaluate.mono fun _ _ => Or.inl) ?_
  intro evaluation
  refine asks_bind (asks_leave _) ?_
  intro _
  split
  · refine asks_bind (asks_request (Or.inr ⟨rfl, _, rfl⟩)) ?_
    intro stored
    split
    · exact asks_pure _
    · exact asks_bind (asks_leave _) fun _ => asks_conclude _
  · exact asks_conclude _

/-- The removal of routes only asks what the cleanup of the backend that owns them asks. -/
theorem asks_removeRoutes :
    (removeRoutes (registry gateway limit) model).Asks (PassRequest limit model) := by
  unfold removeRoutes
  rw [get?_registry]
  split_ifs
  · refine asks_bind (asks_leave _) ?_
    intro _
    refine asks_bind ExternalBackend.asks_cleanup ?_
    intro removed
    split
    · exact asks_pure _
    · split <;> exact asks_pure _
  · exact asks_pure _
  · exact asks_pure _

theorem asks_cleanup :
    (cleanup (registry gateway limit) model).Asks (PassRequest limit model) := by
  refine asks_bind asks_removeRoutes ?_
  intro removed
  split
  · exact asks_bind (asks_leave _) fun _ => asks_pure _
  · exact asks_bind (asks_leave _) fun _ => asks_bind (asks_leave _) fun _ => asks_pure _

theorem asks_patchFinalizers {id : ObjectId} {patch : FinalizerPatch}
    (h : allowed (.patchFinalizers id patch) none) : (patchFinalizers id patch).Asks allowed := by
  refine asks_bind (Program.asks_send h) ?_
  intro reply
  cases reply <;> exact asks_pure _

theorem passRequest_patchFinalizers {name : String} (hns : model.metadata.ns = some ns)
    (hname : model.metadata.name = some name) (patch : FinalizerPatch) :
    PassRequest limit model (.patchFinalizers ⟨ns, name⟩ patch) none := by
  rw [← Model.id_of_named hns hname]
  exact .finalizers patch

theorem asks_addFinalizer (hns : model.metadata.ns = some ns) :
    (addFinalizer ns model).Asks (PassRequest limit model) := by
  unfold addFinalizer
  split
  · exact asks_pure _
  · next name hname =>
      refine asks_bind (asks_patchFinalizers (passRequest_patchFinalizers hns hname _)) ?_
      intro patched
      split <;> exact asks_pure _

theorem asks_finalize (hns : model.metadata.ns = some ns) (index : Nat) :
    (finalize (registry gateway limit) ns model index).Asks (PassRequest limit model) := by
  unfold finalize
  split
  · exact asks_pure _
  · next name hname =>
      refine asks_bind asks_cleanup ?_
      intro cleaned
      split
      · exact asks_pure _
      · refine asks_bind (asks_patchFinalizers (passRequest_patchFinalizers hns hname _)) ?_
        intro patched
        split <;> exact asks_pure _

/-- No pass asks for anything else. -/
theorem asks_reconcile :
    (reconcile (registry gateway limit) limit now model).Asks (PassRequest limit model) := by
  unfold reconcile
  split
  · exact asks_pure _
  · next ns hns =>
      split
      · refine asks_apply.mono ?_
        rintro r wait (hread | ⟨rfl, s, rfl⟩)
        · exact .of_isBoundedRead hread
        · rw [← Model.id_of_ns hns]
          exact .status s
      · exact asks_finalize hns _
      · exact asks_addFinalizer hns
      · exact asks_pure _

end Pass

end ModelGate
