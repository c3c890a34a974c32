import Mathlib
import ModelGate.Proofs.Reconcile.RouteDeletion
import ModelGate.Proofs.Simulation.Waits
import ModelGate.Reconcile.Records

/-!
# Cleaning up behind a model

The cleanup of a model whose kind owns its routes takes two requests at most: the route is read,
and deleted if it names the model as its controller.  `removeRoutes_eq_ask` brings the program into
this form; what it does is read off there twice, for arbitrary replies (`Cleanup`) and in the
traffic of a cluster that changes for no other reason (`cleared_of_run`, `run_of_cleared`).

`cleansUp_of_model` puts the parts together: after a cleanup that succeeds no route of the model is
left, so that another one has nothing to delete, and a cleanup that fails is the end of its pass.
-/

namespace ModelGate

open Program (Event Replies run)

namespace ExternalBackend

variable {reply : Replies} {past : List Event} {gateway : GatewayRef} {limit : Duration}
  {ns : String} {id : ObjectId} {model : Model} {route : HttpRoute} {error : BackendError}

/-! ## The cleanup as a program -/

/-- A route counts as deleted if the API server says so, or that it is gone. -/
theorem deleted_of_deletion {reply : Reply Unit} (h : deletion limit reply = .ok ()) :
    reply = .answered () ∨ ∃ e, reply = .failed (.refused e) ∧ e.code = 404 := by
  unfold deletion at h
  split at h
  · next e hresult =>
      split at h
      · next hcode => exact Or.inr ⟨e, Reply.eq_failed_of_result hresult, hcode⟩
      · cases h
  · exact Or.inl (Reply.result_eq_ok_iff.1 h)

/-- Every other failure of the deletion is passed on. -/
theorem result_of_deletion {reply : Reply Unit} (h : deletion limit reply = .error error) :
    reply.result limit = .error error ∧ ∀ e, error = .request (.refused e) → e.code ≠ 404 := by
  unfold deletion at h
  split at h
  · next e hresult =>
      split at h
      · cases h
      · next hcode =>
          cases h
          refine ⟨hresult, fun other hsame => ?_⟩
          cases hsame
          exact hcode
  · next hother => exact ⟨h, fun e hsame => (hother e (hsame ▸ h)).elim⟩

/-- The removal of the routes behind the reply to the request for the route. -/
def afterRead (limit : Duration) (id : ObjectId) (model : Model) (reply : Reply HttpRoute) :
    Program (Except BackendError Removal) :=
  match reply.found limit with
  | .error error => .done (.error error)
  | .ok none => .done (.ok .deleted)
  | .ok (some route) =>
    if route.isControlledBy model then
      .ask (.deleteRoute id route.metadata.uid) (some limit) fun reply =>
        .done ((deletion limit reply).map fun _ => .deleted)
    else .done (.ok .deleted)

/-- The removal of the routes of a model is the request for one route, and what follows from the
reply to it. -/
theorem removeRoutes_eq_ask (gateway : GatewayRef) (limit : Duration)
    (hkind : model.backendKind = kind) (hns : model.metadata.ns = some ns) :
    Pass.removeRoutes (Pass.registry gateway limit) model =
      .note (.called .cleanup)
        (.ask (.getRoute (ownRoute ns model)) (some limit)
          (afterRead limit (ownRoute ns model) model)) := by
  have hname := ownRoute_name_ne_empty ns model
  have htarget : (Request.getRoute (ownRoute ns model)).target.name ≠ "" := hname
  have hget : (Pass.registry gateway limit).get? model.backendKind = some (backend limit) := by
    rw [Pass.get?_registry, if_pos hkind]
  unfold Pass.removeRoutes
  rw [hget]
  dsimp only
  rw [if_neg (by simp [backend])]
  refine congrArg (Program.note (.called .cleanup)) ?_
  change cleanup limit model >>= _ = _
  rw [cleanup_of_ns hns]
  unfold deleteIfControlled
  rw [Program.find_eq_ask limit htarget]
  refine congrArg (Program.ask _ (some limit)) (funext fun reply => ?_)
  beta_reduce
  unfold afterRead
  cases hfound : reply.found limit with
  | error error =>
      have hother := Reply.isNotImplemented_of_result (Reply.result_of_found hfound).1
      change (if error.isNotImplemented then _ else _ : Program _) = _
      rw [hother]
      rfl
  | ok found =>
      cases found with
      | none => rfl
      | some route =>
          change (if route.isControlledBy model then deleteRoute limit (ownRoute ns model) route
            else pure (.ok ())) >>= _ = _
          dsimp only
          split
          · rw [deleteRoute_eq_ask route hname]
            refine congrArg (Program.ask _ (some limit)) (funext fun reply => ?_)
            beta_reduce
            cases hdeletion : deletion limit reply with
            | ok value => rfl
            | error error =>
                have hother := Reply.isNotImplemented_of_result (result_of_deletion hdeletion).1
                change (if error.isNotImplemented then _ else _ : Program _) = _
                rw [hother]
                rfl
          · rfl

/-! ## Arbitrary replies -/

/-- Requests that were sent one after the other, each with the same limit. -/
def sentWithin (limit : Duration) (sent : List Request) : List Event :=
  sent.map fun r => .sent r (some limit)

theorem mem_sentWithin_iff {limit : Duration} {sent : List Request} {r : Request}
    {wait : Option Duration} :
    .sent r wait ∈ sentWithin limit sent ↔ r ∈ sent ∧ wait = some limit := by
  simp [sentWithin, eq_comm]

/-- What a cleanup sends, and its result, by the reply to the request for the route and that to the
deletion of the route which was read. -/
inductive Cleanup (limit : Duration) (id : ObjectId) (model : Model) (read : Reply HttpRoute)
    (delete : HttpRoute → Reply Unit) : List Request → Except BackendError Removal → Prop
  | absent (e : ApiError) (hread : read = .failed (.refused e)) (hmissing : e.isNotFound = true) :
      Cleanup limit id model read delete [.getRoute id] (.ok .deleted)
  | foreign (route : HttpRoute) (hread : read = .answered route)
      (hforeign : ¬ route.ControlledBy model) :
      Cleanup limit id model read delete [.getRoute id] (.ok .deleted)
  | unread (error : BackendError) (hread : read.result limit = .error error)
      (hother : ∀ e, error = .request (.refused e) → e.isNotFound = false) :
      Cleanup limit id model read delete [.getRoute id] (.error error)
  | deleted (route : HttpRoute) (hread : read = .answered route)
      (hcontrolled : route.ControlledBy model) (hdeleted : delete route = .answered ()) :
      Cleanup limit id model read delete [.getRoute id, .deleteRoute id route.metadata.uid]
        (.ok .deleted)
  /-- The route was there when it was read, but not any more when it was to be deleted. -/
  | gone (route : HttpRoute) (hread : read = .answered route)
      (hcontrolled : route.ControlledBy model) (e : ApiError)
      (hgone : delete route = .failed (.refused e)) (hcode : e.code = 404) :
      Cleanup limit id model read delete [.getRoute id, .deleteRoute id route.metadata.uid]
        (.ok .deleted)
  | undeleted (route : HttpRoute) (hread : read = .answered route)
      (hcontrolled : route.ControlledBy model) (error : BackendError)
      (hkept : (delete route).result limit = .error error)
      (hother : ∀ e, error = .request (.refused e) → e.code ≠ 404) :
      Cleanup limit id model read delete [.getRoute id, .deleteRoute id route.metadata.uid]
        (.error error)

/-- A cleanup behind some events, by the replies that it is given. -/
abbrev CleanupBehind (reply : Replies) (past : List Event) (limit : Duration) (id : ObjectId)
    (model : Model) : List Request → Except BackendError Removal → Prop :=
  Cleanup limit id model (reply past (.getRoute id) (some limit)) fun route =>
    reply (past ++ [.sent (.getRoute id) (some limit)]) (.deleteRoute id route.metadata.uid)
      (some limit)

theorem exists_cleanup (reply : Replies) (past : List Event) (limit : Duration) (id : ObjectId)
    (model : Model) :
    ∃ sent result, CleanupBehind reply past limit id model sent result ∧
      run reply past (.ask (.getRoute id) (some limit) (afterRead limit id model)) =
        (past ++ sentWithin limit sent, result) := by
  rw [run]
  unfold afterRead
  cases hfound : (reply past (.getRoute id) (some limit)).found limit with
  | error error =>
      obtain ⟨hread, hother⟩ := Reply.result_of_found hfound
      exact ⟨_, _, .unread error hread hother, rfl⟩
  | ok found =>
      cases found with
      | none =>
          obtain ⟨e, hread, hmissing⟩ := Reply.missing_of_found hfound
          exact ⟨_, _, .absent e hread hmissing, rfl⟩
      | some route =>
          have hread := Reply.found_eq_some_iff.1 hfound
          dsimp only
          split
          · next hcontrolled =>
              rw [HttpRoute.isControlledBy_iff] at hcontrolled
              rw [run, run, List.append_assoc]
              -- The route is the model's, so the reply to its deletion decides.
              cases hdeletion : deletion limit (reply (past ++ [.sent (.getRoute id) (some limit)])
                  (.deleteRoute id route.metadata.uid) (some limit)) with
              | error error =>
                  obtain ⟨hkept, hother⟩ := result_of_deletion hdeletion
                  exact ⟨_, _, .undeleted route hread hcontrolled error hkept hother, rfl⟩
              | ok value =>
                  rcases deleted_of_deletion hdeletion with hdeleted | ⟨e, hgone, hcode⟩
                  · exact ⟨_, _, .deleted route hread hcontrolled hdeleted, rfl⟩
                  · exact ⟨_, _, .gone route hread hcontrolled e hgone hcode, rfl⟩
          · next hforeign =>
              rw [HttpRoute.isControlledBy_iff] at hforeign
              exact ⟨_, _, .foreign route hread hforeign, rfl⟩

end ExternalBackend

/-! ## Clusters that nobody else writes to -/

/-- An object that is being deleted goes when it is put back without finalizers. -/
theorem Table.get?_update_of_deleted {α : Type} [HasMetadata α] {table : Table α} {id : ObjectId}
    {a : α} (hdeleting : (HasMetadata.metadata a).isDeleting = true)
    (hleft : (HasMetadata.metadata a).finalizerList = []) : (table.update id a).get? id = none := by
  unfold update
  dsimp only
  rw [if_pos (by simp [hdeleting, hleft]), get?_erase, if_pos rfl]

namespace Cluster

/-- No route of an id names a model as its controller. -/
def Cleared (c : Cluster) (id : ObjectId) (model : Model) : Prop :=
  ∀ route, c.routes.get? id = some route → ¬ route.ControlledBy model

/-- A deletion of the route of an id that succeeds leaves no route there. -/
def DeletesAtOnce (c : Cluster) (id : ObjectId) : Prop :=
  ∀ uid now, (c.answer now (.deleteRoute id uid)).1 = .ok () →
    (c.answer now (.deleteRoute id uid)).2.routes.get? id = none

variable {c : Cluster} {id : ObjectId} {model : Model} {route : HttpRoute}

theorem cleared_of_missing (h : c.routes.get? id = none) : c.Cleared id model := by
  intro route hroute
  rw [h] at hroute
  cases hroute

/-- The deletion of a route is not refused if it expects the unique id of the route. -/
theorem answer_deleteRoute_of_get? (h : c.routes.get? id = some route) (now : String) :
    (c.answer now (.deleteRoute id route.metadata.uid)).1 = .ok () := by
  have hdelete : c.deleteRoute id route.metadata.uid now = .ok (c.delete .route id now) := by
    unfold deleteRoute find
    rw [h]
    change (if (route.metadata.uid.isSome && route.metadata.uid != route.metadata.uid) = true
      then _ else _) = _
    rw [if_neg (by simp)]
    rfl
  change (c.commit (c.deleteRoute id route.metadata.uid now)).1 = .ok ()
  rw [hdelete]
  rfl

/-- A route that no finalizer holds back is gone once it is deleted. -/
theorem deletesAtOnce_of_no_finalizers
    (h : ∀ route, c.routes.get? id = some route → route.metadata.finalizerList = []) :
    c.DeletesAtOnce id := by
  intro uid now hok
  change (c.commit (c.deleteRoute id uid now)).1 = .ok () at hok
  change (c.commit (c.deleteRoute id uid now)).2.routes.get? id = none
  cases hdelete : c.deleteRoute id uid now with
  | error error =>
      rw [hdelete] at hok
      cases hok
  | ok changed =>
      obtain ⟨route, hroute, -, rfl⟩ := deleteRoute_eq_ok hdelete
      have hleft : (HasMetadata.metadata route).finalizerList = [] := h route hroute
      change (c.routes.delete id now).get? id = none
      unfold Table.delete
      rw [hroute]
      refine Table.get?_update_of_deleted ?_ hleft
      change (route.metadata.deletionTimestamp.or (some now)).isSome = true
      cases route.metadata.deletionTimestamp <;> rfl

end Cluster

namespace Traffic

open ExternalBackend (afterRead deletion deleted_of_deletion)

variable {t : Traffic} {id : ObjectId} {model : Model} {route : HttpRoute} {limit : Duration}
  {notes : List Note} {cluster : Cluster}

/-- No disturbance pretends that an object is missing. -/
def IsTruthful (t : Traffic) : Prop :=
  ∀ fault ∈ t.faults, ∀ e, fault.refusal = some e → e.isNotFound = false ∧ e.code ≠ 404

theorem isTruthful_start (c : Cluster) : (start c).IsTruthful := by
  intro fault hfault
  cases hfault

theorem IsTruthful.replied (h : t.IsTruthful) (r : Request) (wait : Option Duration)
    (time : Duration) : (t.replied r wait time).2.IsTruthful := by
  intro fault hfault e hrefusal
  obtain ⟨former, hformer, hsame⟩ := exists_fault_of_mem_replied hfault
  exact h former hformer e (hsame ▸ hrefusal)

theorem faults_replied_eq_nil (h : t.faults = []) (r : Request) (wait : Option Duration)
    (time : Duration) : (t.replied r wait time).2.faults = [] := by
  refine List.eq_nil_iff_forall_not_mem.2 fun fault hfault => ?_
  obtain ⟨former, hformer, -⟩ := exists_fault_of_mem_replied hfault
  rw [h] at hformer
  cases hformer

/-- What the reply to the request for a route says about the cluster. -/
structure ShowsRoute (t : Traffic) (id : ObjectId) (limit : Duration) (reply : Reply HttpRoute) :
    Prop where
  present : ∀ route, reply.found limit = .ok (some route) →
    t.cluster.routes.get? id = some route
  missing : t.IsTruthful → reply.found limit = .ok none → t.cluster.routes.get? id = none
  /-- Only a disturbance keeps the request from being answered. -/
  failed : ∀ error, reply.found limit = .error error → t.faults ≠ []

theorem showsRoute_of_found {reply : Reply HttpRoute}
    (h : reply.found limit = .ok (t.cluster.routes.get? id)) : t.ShowsRoute id limit reply where
  present := by
    intro route hroute
    rw [h] at hroute
    exact Except.ok.inj hroute
  missing := by
    intro _ hmissing
    rw [h] at hmissing
    exact Except.ok.inj hmissing
  failed := by
    intro error herror
    rw [h] at herror
    cases herror

theorem showsRoute_of_disturbed {fault : Fault} {e : ApiError} (hfault : fault ∈ t.faults)
    (hrefusal : fault.refusal = some e) : t.ShowsRoute id limit (.failed (.refused e)) where
  present := by
    intro route hroute
    cases Reply.found_eq_some_iff.1 hroute
  missing := by
    intro htruthful hmissing
    obtain ⟨other, hsame, hother⟩ := Reply.missing_of_found hmissing
    cases hsame
    rw [(htruthful fault hfault e hrefusal).1] at hother
    cases hother
  failed := fun _ _ => List.ne_nil_of_mem hfault

theorem showsRoute_of_lost (h : t.faults ≠ []) : t.ShowsRoute id limit .timedOut where
  present := by
    intro route hroute
    cases hroute
  missing := by
    intro _ hmissing
    cases hmissing
  failed := fun _ _ => h

/-- The request for a route changes nothing, and shows what is there unless it is disturbed. -/
theorem Meets.showsRoute (limit : Duration) {reply : Reply (Request.getRoute id).Answer}
    (h : t.Meets (.getRoute id) reply cluster) :
    cluster = t.cluster ∧ t.ShowsRoute id limit reply := by
  cases h with
  | answered now h =>
      cases hroute : t.cluster.routes.get? id with
      | none => simp [Cluster.answer, Cluster.find, hroute] at h
      | some route =>
          simp only [Cluster.answer, Cluster.find, hroute, Prod.mk.injEq, Except.ok.injEq] at h
          obtain ⟨rfl, rfl⟩ := h
          exact ⟨rfl, showsRoute_of_found (by rw [hroute]; rfl)⟩
  | refused now h =>
      cases hroute : t.cluster.routes.get? id with
      | none =>
          simp only [Cluster.answer, Cluster.find, hroute, Prod.mk.injEq, Except.error.injEq] at h
          obtain ⟨rfl, rfl⟩ := h
          exact ⟨rfl, showsRoute_of_found (by rw [hroute]; rfl)⟩
      | some route => simp [Cluster.answer, Cluster.find, hroute] at h
  | disturbed hfault hrefusal => exact ⟨rfl, showsRoute_of_disturbed hfault hrefusal⟩
  | lost hfault => exact ⟨rfl, showsRoute_of_lost (List.ne_nil_of_mem hfault)⟩

/-- What becomes of the deletion of a route that is there. -/
structure DeletesRoute (t : Traffic) (id : ObjectId) (limit : Duration) (reply : Reply Unit)
    (cluster : Cluster) : Prop where
  deleted : t.IsTruthful → deletion limit reply = .ok () → cluster.routes.get? id = none
  failed : ∀ error, deletion limit reply = .error error → t.faults ≠ []

theorem Meets.deletesRoute (limit : Duration) {uid : Option String}
    {reply : Reply (Request.deleteRoute id uid).Answer}
    (h : t.Meets (.deleteRoute id uid) reply cluster)
    (hroute : t.cluster.routes.get? id = some route) (huid : uid = route.metadata.uid)
    (hdeletes : t.cluster.DeletesAtOnce id) :
    t.DeletesRoute id limit reply cluster := by
  subst huid
  cases h with
  | answered now h =>
      have hgone := hdeletes route.metadata.uid now (Cluster.answer_deleteRoute_of_get? hroute now)
      rw [h] at hgone
      exact ⟨fun _ _ => hgone, nofun⟩
  | refused now h =>
      -- The request is not refused, as it expects the unique id that is there.
      have hok := Cluster.answer_deleteRoute_of_get? hroute now
      rw [h] at hok
      cases hok
  | @disturbed fault e hfault hrefusal =>
      refine ⟨fun htruthful hdeleted => ?_, fun _ _ => List.ne_nil_of_mem hfault⟩
      rcases deleted_of_deletion hdeleted with hanswered | ⟨other, hsame, hcode⟩
      · cases hanswered
      · cases hsame
        exact absurd hcode (htruthful fault hfault e hrefusal).2
  | lost hfault => exact ⟨nofun, fun _ _ => List.ne_nil_of_mem hfault⟩

/-- A cluster without a route of the model is left as it is, and nothing is deleted. -/
theorem run_of_cleared (notes : List Note) (limit : Duration) (h : t.cluster.Cleared id model) :
    ∃ result t',
      t.run notes (.ask (.getRoute id) (some limit) (afterRead limit id model)) =
        (some result, notes, t') ∧
      t'.cluster = t.cluster ∧ t'.sent = t.sent ++ [.getRoute id] ∧
      (t.faults = [] → result = .ok .deleted) := by
  obtain ⟨time, harrival, -⟩ := t.exists_arrival_le (.getRoute id) limit
  obtain ⟨hcluster, hshows⟩ := (t.meets_replied (.getRoute id) (some limit) time).showsRoute limit
  have hsent : (t.replied (.getRoute id) (some limit) time).2.sent = t.sent ++ [.getRoute id] :=
    sent_arrive _ _ _
  rw [run_ask_of_arrival harrival]
  unfold afterRead
  cases hfound : (t.replied (.getRoute id) (some limit) time).1.found limit with
  | error error =>
      exact ⟨_, _, rfl, hcluster, hsent, fun hcalm => absurd hcalm (hshows.failed error hfound)⟩
  | ok found =>
      refine ⟨.ok .deleted, (t.replied (.getRoute id) (some limit) time).2, ?_, hcluster, hsent,
        fun _ => rfl⟩
      cases found with
      | none => rfl
      | some route =>
          have hforeign : ¬ route.isControlledBy model = true := by
            rw [HttpRoute.isControlledBy_iff]
            exact h route (hshows.present route hfound)
          dsimp only
          rw [if_neg hforeign]
          rfl

/-- A deletion that succeeds leaves no route behind. -/
theorem run_deletion (notes : List Note) (limit : Duration)
    (hroute : t.cluster.routes.get? id = some route) (htruthful : t.IsTruthful)
    (hdeletes : t.cluster.DeletesAtOnce id) :
    ∃ result t',
      t.run notes (.ask (.deleteRoute id route.metadata.uid) (some limit) fun reply =>
        .done ((deletion limit reply).map fun _ => Removal.deleted)) = (some result, notes, t') ∧
      (∀ removal, result = .ok removal → t'.cluster.routes.get? id = none) ∧
      (t.faults = [] → result = .ok .deleted) := by
  obtain ⟨time, harrival, -⟩ := t.exists_arrival_le (.deleteRoute id route.metadata.uid) limit
  have hmeets := t.meets_replied (.deleteRoute id route.metadata.uid) (some limit) time
  have hdeleted := hmeets.deletesRoute limit hroute rfl hdeletes
  rw [run_ask_of_arrival harrival]
  refine ⟨_, _, rfl, ?_⟩
  cases hdeletion : deletion limit
      (t.replied (.deleteRoute id route.metadata.uid) (some limit) time).1 with
  | error error => exact ⟨nofun, fun hcalm => absurd hcalm (hdeleted.failed error hdeletion)⟩
  | ok value => exact ⟨fun _ _ => hdeleted.deleted htruthful hdeletion, fun _ => rfl⟩

/-- A removal that succeeds leaves no route of the model behind, and without disturbances it
succeeds. -/
theorem cleared_of_run (notes : List Note) (limit : Duration) (model : Model)
    (htruthful : t.IsTruthful) (hdeletes : t.cluster.DeletesAtOnce id) :
    ∃ result t',
      t.run notes (.ask (.getRoute id) (some limit) (afterRead limit id model)) =
        (some result, notes, t') ∧
      (∀ removal, result = .ok removal → t'.cluster.Cleared id model) ∧
      (t.faults = [] → result = .ok .deleted) := by
  obtain ⟨time, harrival, -⟩ := t.exists_arrival_le (.getRoute id) limit
  obtain ⟨hcluster, hshows⟩ := (t.meets_replied (.getRoute id) (some limit) time).showsRoute limit
  have htruthful' := htruthful.replied (.getRoute id) (some limit) time
  rw [run_ask_of_arrival harrival]
  unfold afterRead
  cases hfound : (t.replied (.getRoute id) (some limit) time).1.found limit with
  | error error =>
      exact ⟨_, _, rfl, nofun, fun hcalm => absurd hcalm (hshows.failed error hfound)⟩
  | ok found =>
      cases found with
      | none =>
          have hmissing := hshows.missing htruthful hfound
          rw [← hcluster] at hmissing
          exact ⟨_, _, rfl, fun _ _ => Cluster.cleared_of_missing hmissing, fun _ => rfl⟩
      | some route =>
          have hroute := hshows.present route hfound
          rw [← hcluster] at hroute hdeletes
          dsimp only
          split
          · obtain ⟨result, t', hrun, hgone, hcalm⟩ :=
              run_deletion notes limit hroute htruthful' hdeletes
            exact ⟨result, t', hrun, fun removal h => Cluster.cleared_of_missing (hgone removal h),
              fun h => hcalm (faults_replied_eq_nil h _ _ _)⟩
          · next hforeign =>
              rw [HttpRoute.isControlledBy_iff] at hforeign
              refine ⟨_, _, rfl, fun _ _ other hother => ?_, fun _ => rfl⟩
              rw [hroute] at hother
              cases hother
              exact hforeign

end Traffic

namespace Pass

open ExternalBackend (Cleanup CleanupBehind mem_sentWithin_iff ownRoute removeRoutes_eq_ask
  sentWithin)

/-- What the removal of the routes of a model does if their kind belongs to the controller. -/
structure CleansUp (gateway : GatewayRef) (limit : Duration) (ns : String) (model : Model) :
    Prop where
  /-- Whatever is replied, the removal is one of the cleanups above. -/
  answers : ∀ (reply : Replies) (past : List Event), ∃ sent result,
    CleanupBehind reply (past ++ [.noted (.called .cleanup)]) limit (ownRoute ns model) model sent
        result ∧
      run reply past (removeRoutes (registry gateway limit) model) =
        (past ++ .noted (.called .cleanup) :: sentWithin limit sent, result)
  /-- After a success no route of the model is there. -/
  cleared : ∀ (t : Traffic) (notes : List Note), t.IsTruthful →
    t.cluster.DeletesAtOnce (ownRoute ns model) → ∃ result t',
      t.run notes (removeRoutes (registry gateway limit) model) =
        (some result, notes ++ [.called .cleanup], t') ∧
      (∀ removal, result = .ok removal → t'.cluster.Cleared (ownRoute ns model) model) ∧
      (t.faults = [] → result = .ok .deleted)
  /-- Where there is none, whether it is missing or somebody else's, nothing is deleted. -/
  again : ∀ (t : Traffic) (notes : List Note), t.cluster.Cleared (ownRoute ns model) model →
    ∃ result t',
      t.run notes (removeRoutes (registry gateway limit) model) =
        (some result, notes ++ [.called .cleanup], t') ∧
      t'.cluster = t.cluster ∧ t'.sent = t.sent ++ [.getRoute (ownRoute ns model)] ∧
      (t.faults = [] → result = .ok .deleted)
  /-- A failure ends the pass over the model, which keeps its finalizers and is looked at again. -/
  blocked : ∀ (reply : Replies) (now name : String) (error : BackendError),
    model.metadata.name = some name → Carries model → model.metadata.isDeleting = true →
    (run reply [] (removeRoutes (registry gateway limit) model)).2 = .error error →
    (run reply [] (reconcile (registry gateway limit) limit now model)).2 =
        .error (.cleanup model.backendKind error) ∧
      (∀ id patch wait, .sent (.patchFinalizers id patch) wait ∉
        trace reply (registry gateway limit) limit now model) ∧
      ∀ records : Records,
        (records.conclude model (.error (.cleanup model.backendKind error))).1 =
          .requeue (records.backoff.next model.id).1

theorem patchFinalizers_notMem_cleanup {limit : Duration} {id : ObjectId} {model : Model}
    {read : Reply HttpRoute} {delete : HttpRoute → Reply Unit} {sent : List Request}
    {result : Except BackendError Removal} (h : Cleanup limit id model read delete sent result)
    (other : ObjectId) (patch : FinalizerPatch) : .patchFinalizers other patch ∉ sent := by
  cases h <;> simp

theorem exists_cleanup_of_removeRoutes (gateway : GatewayRef) (limit : Duration) {ns : String}
    {model : Model} (hkind : model.backendKind = ExternalBackend.kind)
    (hns : model.metadata.ns = some ns) (reply : Replies) (past : List Event) :
    ∃ sent result,
      CleanupBehind reply (past ++ [.noted (.called .cleanup)]) limit (ownRoute ns model) model sent
          result ∧
        run reply past (removeRoutes (registry gateway limit) model) =
          (past ++ .noted (.called .cleanup) :: sentWithin limit sent, result) := by
  obtain ⟨sent, result, hcleanup, hrun⟩ := ExternalBackend.exists_cleanup reply
    (past ++ [.noted (.called .cleanup)]) limit (ownRoute ns model) model
  refine ⟨sent, result, hcleanup, ?_⟩
  rw [removeRoutes_eq_ask gateway limit hkind hns, run, hrun, List.append_assoc]
  rfl

/-- Every model is cleaned up like this if the controller owns the routes of its kind. -/
theorem cleansUp_of_model (gateway : GatewayRef) (limit : Duration) {ns : String} {model : Model}
    (hkind : model.backendKind = ExternalBackend.kind) (hns : model.metadata.ns = some ns) :
    CleansUp gateway limit ns model where
  answers := exists_cleanup_of_removeRoutes gateway limit hkind hns
  cleared := by
    intro t notes htruthful hdeletes
    rw [removeRoutes_eq_ask gateway limit hkind hns]
    exact t.cleared_of_run _ limit model htruthful hdeletes
  again := by
    intro t notes hcleared
    rw [removeRoutes_eq_ask gateway limit hkind hns]
    exact t.run_of_cleared _ limit hcleared
  blocked := by
    intro reply now name error hname hcarries hdeleting herror
    obtain ⟨hresult, htrace⟩ :=
      trace_of_failed_removal limit now hns hname hcarries hdeleting herror
    obtain ⟨sent, result, hcleanup, hrun⟩ :=
      exists_cleanup_of_removeRoutes gateway limit hkind hns reply []
    refine ⟨hresult, fun id patch wait hsent => ?_, fun records => rfl⟩
    have hnone := patchFinalizers_notMem_cleanup hcleanup id patch
    rw [htrace, hrun] at hsent
    simp [mem_sentWithin_iff, hnone] at hsent

/-- A cluster with a model that is being deleted, and a route of the name of its route. -/
def clusterWithRoute (route : HttpRoute) : Cluster :=
  { Cluster.empty with
    models := ⟨[(⟨"llm", "opt"⟩, ⟨routedModel, .null⟩)]⟩
    routes := ⟨[(⟨"llm", "maas-model-opt"⟩, route)]⟩ }

/-- A route that somebody else has made. -/
def foreignRoute : HttpRoute :=
  ⟨{ Metadata.blank with uid := some "route-2" }, [], []⟩

/-- The route of the model is shown, but every change is refused. -/
def refusingReply : Replies
  | _, .getRoute _, _ => .answered routeOfModel
  | _, _, _ => .failed (.refused ⟨"Failure", "no", "InternalError", 500⟩)

/-- The route of the model is removed, a foreign one is left, and a removal that is refused keeps
the model. -/
theorem routedModel_is_cleaned_up :
    (∃ t', (Traffic.start (clusterWithRoute routeOfModel)).run []
        (removeRoutes (registry ⟨"gateway", "istio"⟩ 5) routedModel) =
          (some (.ok .deleted), [.called .cleanup], t') ∧
      t'.cluster.Cleared ⟨"llm", "maas-model-opt"⟩ routedModel) ∧
    (∃ t', (Traffic.start (clusterWithRoute foreignRoute)).run []
        (removeRoutes (registry ⟨"gateway", "istio"⟩ 5) routedModel) =
          (some (.ok .deleted), [.called .cleanup], t') ∧
      t'.cluster = clusterWithRoute foreignRoute ∧
      t'.sent = [.getRoute ⟨"llm", "maas-model-opt"⟩]) ∧
    (run refusingReply [] (reconcile (registry ⟨"gateway", "istio"⟩ 5) 5 "" routedModel)).2 =
        .error (.cleanup "ExternalModel"
          (.request (.refused ⟨"Failure", "no", "InternalError", 500⟩))) ∧
      ∀ id patch wait, .sent (.patchFinalizers id patch) wait ∉
        trace refusingReply (registry ⟨"gateway", "istio"⟩ 5) 5 "" routedModel := by
  have hid : ownRoute "llm" routedModel = ⟨"llm", "maas-model-opt"⟩ := by decide
  have hcleansUp := cleansUp_of_model ⟨"gateway", "istio"⟩ 5
    (rfl : routedModel.backendKind = ExternalBackend.kind)
    (rfl : routedModel.metadata.ns = some "llm")
  refine ⟨?removed, ?left, ?kept⟩
  case removed =>
    have hdeletes : (clusterWithRoute routeOfModel).DeletesAtOnce (ownRoute "llm" routedModel) := by
      rw [hid]
      refine Cluster.deletesAtOnce_of_no_finalizers fun route hroute => ?_
      cases hroute
      rfl
    obtain ⟨result, t', hrun, hcleared, hcalm⟩ :=
      hcleansUp.cleared (Traffic.start _) [] (Traffic.isTruthful_start _) hdeletes
    obtain rfl := hcalm rfl
    rw [hid] at hcleared
    exact ⟨t', hrun, hcleared _ rfl⟩
  case left =>
    have hforeign : (clusterWithRoute foreignRoute).Cleared (ownRoute "llm" routedModel)
        routedModel := by
      intro route hroute
      rw [hid] at hroute
      cases hroute
      rw [← HttpRoute.isControlledBy_iff]
      decide
    obtain ⟨result, t', hrun, hcluster, hsent, hcalm⟩ :=
      hcleansUp.again (Traffic.start _) [] hforeign
    obtain rfl := hcalm rfl
    rw [hid] at hsent
    exact ⟨t', hrun, hcluster, hsent⟩
  case kept =>
    have hrefused : (run refusingReply [] (removeRoutes (registry ⟨"gateway", "istio"⟩ 5)
        routedModel)).2 =
          .error (.request (.refused ⟨"Failure", "no", "InternalError", 500⟩)) := by
      cbv
    obtain ⟨hresult, hunpatched, -⟩ := hcleansUp.blocked refusingReply "" "opt" _ rfl
      (by decide) rfl hrefused
    exact ⟨hresult, hunpatched⟩

end Pass

end ModelGate
