import Mathlib
import ModelGate.Cluster.Wire
import ModelGate.Proofs.Reconcile.RouteDeletion
import ModelGate.Proofs.Simulation.Footprint

/-!
# A pass writes nothing but its own

All that a pass sends apart from reads are changes of the finalizers and of the status of its model,
and in the cleanup of a model whose kind owns its routes the deletion of the route of the model
(`OwnWrite`).  On the side of the cluster this means that no request of a pass touches any other
object, or anything else in the model.

Inference services are only read, on all branches: the evaluation of a model that they serve and the
search for its endpoint send reads, and nothing is removed behind it.  Other kinds are evaluated
without any request.
-/

namespace ModelGate

open Program (Event Replies run)

theorem Request.method_eq_get_iff (r : Request) : r.method = "GET" ↔ r.isRead = true := by
  cases r <;> simp [method, isRead]

namespace Pass

open ExternalBackend (ownRoute)

variable {reply : Replies} {gateway : GatewayRef} {limit : Duration} {now : String} {model : Model}
  {r : Request} {wait : Option Duration}

/-- What a pass over a model may write: the finalizers and the status of the model, and its route
by a deletion that is guarded by what was read before. -/
inductive OwnWrite (reply : Replies) (limit : Duration) (model : Model) (events : List Event) :
    Request → Option Duration → Prop
  | finalizers (patch : FinalizerPatch) (wait : Option Duration) :
      OwnWrite reply limit model events (.patchFinalizers model.id patch) wait
  | status (status : ModelStatus) (wait : Option Duration) :
      OwnWrite reply limit model events (.applyStatus model.id status) wait
  | route {id : ObjectId} {uid : Option String} {wait : Option Duration}
      (h : OwnDeletion reply limit model events id uid wait) :
      OwnWrite reply limit model events (.deleteRoute id uid) wait

theorem passRequest_of_sent
    (hsent : .sent r wait ∈ trace reply (registry gateway limit) limit now model) :
    PassRequest limit model r wait :=
  Program.allowed_of_sent asks_reconcile hsent

/-- Whatever a pass sends is a read or one of its own writes. -/
theorem isRead_or_ownWrite_of_sent
    (hsent : .sent r wait ∈ trace reply (registry gateway limit) limit now model) :
    r.isRead = true ∨
      OwnWrite reply limit model (trace reply (registry gateway limit) limit now model) r wait := by
  have hrequest := passRequest_of_sent hsent
  cases hrequest with
  | read hread => exact Or.inl hread
  | status status => exact Or.inr (.status status _)
  | deletion id uid => exact Or.inr (.route (ownDeletion_of_mem_trace hsent))
  | finalizers patch => exact Or.inr (.finalizers patch _)

theorem OwnDeletion.id_eq {events : List Event} {id : ObjectId} {uid : Option String}
    (h : OwnDeletion reply limit model events id uid wait) : id = ownRoute model.id.ns model := by
  have hns : model.id.ns = id.ns := by rw [Model.id_of_ns h.ns]
  unfold ownRoute
  rw [hns, ← h.name]

/-- A write of a pass changes its model or its route, whatever the cluster has come to by then. -/
theorem OwnWrite.changesOnly {events : List Event} (h : OwnWrite reply limit model events r wait)
    (cluster : Cluster) (time : String) :
    ChangesOnly model.id (ownRoute model.id.ns model) cluster (cluster.answer time r).2 := by
  cases h with
  | finalizers patch wait => exact ChangesOnly.answer_patchFinalizers time patch
  | status status wait => exact ChangesOnly.answer_applyStatus time status
  | route hdeletion =>
      rw [hdeletion.id_eq]
      exact ChangesOnly.answer_deleteRoute time _

/-- What a pass over a model and the calls of its backend may do to a cluster. -/
structure LeastMutation (reply : Replies) (gateway : GatewayRef) (limit : Duration) (now : String)
    (model : Model) : Prop where
  /-- All that is not a read is one of the three writes. -/
  writes : ∀ r wait, .sent r wait ∈ trace reply (registry gateway limit) limit now model →
    r.method ≠ "GET" →
    OwnWrite reply limit model (trace reply (registry gateway limit) limit now model) r wait
  /-- So no other object is changed, and of the model nothing but its finalizers and its status. -/
  footprint : ∀ r wait, .sent r wait ∈ trace reply (registry gateway limit) limit now model →
    ∀ (cluster : Cluster) (time : String),
      ChangesOnly model.id (ownRoute model.id.ns model) cluster (cluster.answer time r).2
  evaluation_reads : model.backendKind = InferenceBackend.kind → ∀ r wait,
    .sent r wait ∈ (run reply [] (Evaluation.evaluate (registry gateway limit) model now)).1 →
    r.method = "GET"
  endpoint_reads : model.backendKind = InferenceBackend.kind → ∀ backend,
    (registry gateway limit).get? model.backendKind = some backend → ∀ r wait,
    .sent r wait ∈ (run reply [] (backend.modelEndpoint model)).1 → r.method = "GET"
  removal_silent : model.backendKind = InferenceBackend.kind →
    (run reply [] (removeRoutes (registry gateway limit) model)).1 = []
  evaluation_silent : (registry gateway limit).get? model.backendKind = none ∨
      model.backendKind = ExternalBackend.kind → ∀ r wait,
    .sent r wait ∉ (run reply [] (Evaluation.evaluate (registry gateway limit) model now)).1

theorem method_of_asks {α : Type} {program : Program α} (h : program.Asks (IsBoundedRead limit))
    (hsent : .sent r wait ∈ (run reply [] program).1) : r.method = "GET" := by
  have hread : IsBoundedRead limit r wait := Program.allowed_of_sent h hsent
  exact r.method_eq_get_iff.2 hread.1

/-- Passes over models of all kinds write no more than they have to, whatever is replied. -/
theorem pass_mutates_least (reply : Replies) (gateway : GatewayRef) (limit : Duration)
    (now : String) (model : Model) : LeastMutation reply gateway limit now model where
  writes := by
    intro r wait hsent hwrite
    rcases isRead_or_ownWrite_of_sent hsent with hread | hown
    · exact absurd (r.method_eq_get_iff.2 hread) hwrite
    · exact hown
  footprint := by
    intro r wait hsent cluster time
    rcases isRead_or_ownWrite_of_sent hsent with hread | hown
    · exact ChangesOnly.answer_of_isRead time hread
    · exact hown.changesOnly cluster time
  evaluation_reads := fun _ _ _ hsent => method_of_asks asks_evaluate hsent
  endpoint_reads := by
    intro hkind backend hget r wait hsent
    rw [get?_registry_of_inference hkind] at hget
    cases hget
    exact method_of_asks InferenceBackend.asks_modelEndpoint hsent
  removal_silent := by
    intro hkind
    refine run_removeRoutes_of_unowned fun backend hget => ?_
    rw [get?_registry_of_inference hkind] at hget
    cases hget
    rfl
  evaluation_silent := by
    intro hother r wait hsent
    have hkind : model.backendKind ≠ InferenceBackend.kind := by
      intro hkind
      rcases hother with hnone | hexternal
      · rw [get?_registry_of_inference hkind] at hnone
        cases hnone
      · rw [hkind] at hexternal
        exact absurd hexternal (by decide)
    have hasks : (Evaluation.evaluate (registry gateway limit) model now).Asks fun _ _ => False :=
      asks_evaluate_of_ne hkind
    exact Program.allowed_of_sent hasks hsent

end Pass

end ModelGate
