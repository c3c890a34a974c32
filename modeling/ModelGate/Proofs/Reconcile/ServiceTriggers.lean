import ModelGate.Proofs.Cluster.RouteReading
import ModelGate.Proofs.Lookup
import ModelGate.Proofs.Reconcile.BackendRequests
import ModelGate.Simulation.Controller

/-!
# Which models a service triggers

When a service changes, the controller looks again at the models that reference it.  Whether a model
does is read off its fields, while the handler finds the service of a model on its own: the two agree
(`LooksUpServices`).  An evaluation of a model, and a question for its endpoint, begins with a request
for a service exactly if the model references it, and neither ever asks for a service that the model
does not reference.

So a change of a service schedules the models that would ask for it, and no others
(`services_trigger_lookups`).
-/

namespace ModelGate

/-! ## The requests of a run -/

namespace Program

variable {α β : Type} {reply : Replies} {past : List Event}

/-- The request that an event sends. -/
def Event.request? : Event → Option Request
  | .sent request _ => some request
  | .noted _ => none

/-- The requests that a program sends, in their order. -/
def sentBy (program : Program α) (reply : Replies) : List Request :=
  (run reply [] program).1.filterMap Event.request?

/-- The first request of a program, which no reply can change. -/
def first? : Program α → Option Request
  | .done _ => none
  | .ask request _ _ => some request
  | .note _ rest => rest.first?

theorem first?_bind_of_some {program : Program α} {next : α → Program β} {r : Request}
    (h : program.first? = some r) : (program >>= next).first? = some r := by
  induction program with
  | done value => cases h
  | ask request limit rest ih => exact h
  | note event rest ih => exact ih h

theorem first?_leave_bind (event : Note) (next : Unit → Program α) :
    (leave event >>= next).first? = (next ()).first? :=
  rfl

/-- What a run sends first was sent before it, or else is the first request of the program. -/
theorem head?_requests_run (program : Program α) (past : List Event) :
    ((run reply past program).1.filterMap Event.request?).head? =
      (past.filterMap Event.request?).head?.or program.first? := by
  induction program generalizing past with
  | done value => exact (Option.or_none).symm
  | ask request limit rest ih =>
      refine (ih _ _).trans ?_
      rw [List.filterMap_append, List.head?_append, Option.or_assoc]
      rfl
  | note event rest ih =>
      refine (ih _).trans ?_
      rw [List.filterMap_append]
      change (_ ++ []).head?.or _ = _
      rw [List.append_nil]
      rfl

theorem head?_sentBy (program : Program α) (reply : Replies) :
    (program.sentBy reply).head? = program.first? :=
  head?_requests_run program []

theorem exists_allowed_of_mem_sentBy {allowed : Request → Option Duration → Prop}
    {program : Program α} (h : program.Asks allowed) {r : Request} (hmem : r ∈ program.sentBy reply) :
    ∃ wait, allowed r wait := by
  obtain ⟨event, hevent, hrequest⟩ := List.mem_filterMap.1 hmem
  cases event with
  | sent request wait =>
      cases hrequest
      exact ⟨wait, allowed_of_sent h hevent⟩
  | noted event => cases hrequest

end Program

/-! ## Services that are looked up -/

namespace InferenceBackend

variable {α : Type} {gateway : GatewayRef} {limit : Duration} {model : Model} {service : ObjectId}
  {now : String}

/-- The service that a model references has its namespace, or else the model's own. -/
theorem references_iff :
    references model service = true ↔
      model.backendKind = kind ∧ model.backend.name = service.name ∧
        model.IsServedIn service.ns := by
  unfold references
  rw [Bool.and_eq_true, Bool.and_eq_true, beq_iff_eq, beq_iff_eq, beq_iff_eq, and_assoc,
    Model.isServedIn_iff]

/-- A program begins with a request for the service that the model references, if there is one, and
asks for no other service. -/
structure LooksUpServices (model : Model) (program : Program α) : Prop where
  first_iff : ∀ reply {service : ObjectId}, service.name ≠ "" →
    ((program.sentBy reply).head? = some (.getService service) ↔ references model service = true)
  references_of_sent : ∀ reply {service : ObjectId}, .getService service ∈ program.sentBy reply →
    references model service = true

theorem first?_getService (hservice : references model service = true)
    (hname : service.name ≠ "") : (getService limit model).first? = some (.getService service) := by
  obtain ⟨ns, name⟩ := service
  obtain ⟨-, rfl, hns⟩ := references_iff.1 hservice
  unfold getService serviceNamespace
  rw [Model.isServedIn_iff.1 hns]
  dsimp only
  have hnamed : (Request.getService ⟨ns, model.backend.name⟩).target.name ≠ "" := hname
  refine Program.first?_bind_of_some ?_
  rw [Program.find_eq_ask limit hnamed]
  rfl

/-- A program that starts as the lookup of the service does and only reads what an inference backend
reads looks up services. -/
theorem looksUpServices_of_inference {program : Program α} (hkind : model.backendKind = kind)
    (hasks : program.Asks (ServiceRead limit model))
    (hfirst : ∀ r, (getService limit model).first? = some r → program.first? = some r) :
    LooksUpServices model program := by
  have hothers : ∀ reply {service : ObjectId}, .getService service ∈ program.sentBy reply →
      references model service = true := by
    intro reply service hmem
    obtain ⟨wait, hread⟩ := Program.exists_allowed_of_mem_sentBy hasks hmem
    cases hread with
    | service hns => exact references_iff.2 ⟨hkind, rfl, Model.isServedIn_iff.2 hns⟩
  -- What is sent first is sent, so only the other direction needs to know where the program starts.
  refine ⟨fun reply service hname => ⟨fun hhead => ?_, fun hservice => ?_⟩, hothers⟩
  · exact hothers reply (List.mem_of_mem_head? hhead)
  · rw [Program.head?_sentBy]
    exact hfirst _ (first?_getService hservice hname)

/-- A model of another kind references no service, and a program that asks nothing looks up none. -/
theorem looksUpServices_of_ne {program : Program α} (hkind : model.backendKind ≠ kind)
    (hasks : program.Asks fun _ _ => False) : LooksUpServices model program := by
  have hsilent : ∀ reply {r : Request}, r ∉ program.sentBy reply := by
    intro reply r hmem
    obtain ⟨wait, hfalse⟩ := Program.exists_allowed_of_mem_sentBy hasks hmem
    exact hfalse
  refine ⟨fun reply service _ => ⟨fun hhead => ?_, fun hservice => ?_⟩, fun reply service hmem => ?_⟩
  · exact absurd (List.mem_of_mem_head? hhead) (hsilent reply)
  · exact absurd (references_iff.1 hservice).1 hkind
  · exact absurd hmem (hsilent reply)

theorem looksUpServices_evaluate :
    LooksUpServices model (Evaluation.evaluate (Pass.registry gateway limit) model now) := by
  by_cases hkind : model.backendKind = kind
  · refine looksUpServices_of_inference hkind (Pass.asks_evaluate_of_inference hkind) ?_
    intro r hfirst
    unfold Evaluation.evaluate
    rw [Pass.get?_registry_of_inference hkind]
    change (Evaluation.withBackend (backend gateway limit) model now).first? = some r
    unfold Evaluation.withBackend
    rw [Program.first?_leave_bind]
    exact Program.first?_bind_of_some (Program.first?_bind_of_some hfirst)
  · exact looksUpServices_of_ne hkind (Pass.asks_evaluate_of_ne hkind)

theorem looksUpServices_modelEndpoint {b : Backend}
    (hget : (Pass.registry gateway limit).get? model.backendKind = some b) :
    LooksUpServices model (b.modelEndpoint model) := by
  by_cases hkind : model.backendKind = kind
  · rw [Pass.get?_registry_of_inference hkind] at hget
    cases hget
    refine looksUpServices_of_inference hkind serviceReads_modelEndpoint ?_
    intro r hfirst
    exact Program.first?_bind_of_some hfirst
  · rw [Pass.get?_registry, if_neg hkind] at hget
    split at hget
    · cases hget
      exact looksUpServices_of_ne hkind trivial
    · cases hget

/-! ## Models that a service triggers -/

/-- Some replies lead the evaluation of a model, or the question for its endpoint, to ask for a
service. -/
def MayAskFor (gateway : GatewayRef) (limit : Duration) (model : Model) (service : ObjectId) : Prop :=
  (∃ now reply, .getService service ∈
      (Evaluation.evaluate (Pass.registry gateway limit) model now).sentBy reply) ∨
    ∃ b reply, (Pass.registry gateway limit).get? model.backendKind = some b ∧
      .getService service ∈ (b.modelEndpoint model).sentBy reply

theorem mayAskFor_iff (hname : service.name ≠ "") :
    MayAskFor gateway limit model service ↔ references model service = true := by
  constructor
  · rintro (⟨now, reply, hmem⟩ | ⟨b, reply, hget, hmem⟩)
    · exact looksUpServices_evaluate.references_of_sent reply hmem
    · exact (looksUpServices_modelEndpoint hget).references_of_sent reply hmem
  · intro hservice
    have hhead := (@looksUpServices_evaluate gateway limit model "").first_iff
      (fun _ _ _ => .timedOut) hname
    exact Or.inl ⟨"", _, List.mem_of_mem_head? (hhead.2 hservice)⟩

/-- The stored models with an id that would ask for a service. -/
def IsTriggered (gateway : GatewayRef) (limit : Duration) (models : Table StoredModel)
    (service id : ObjectId) : Prop :=
  ∃ stored, (id, stored) ∈ models.entries ∧ MayAskFor gateway limit stored.model service

theorem mem_served_iff {cluster : Cluster} {id : ObjectId} (hname : service.name ≠ "") :
    id ∈ cluster.served references service ↔
      IsTriggered gateway limit cluster.models service id := by
  have hsorted (entry : ObjectId × StoredModel) :
      entry ∈ cluster.models.sorted ↔ entry ∈ cluster.models.entries :=
    (List.mergeSort_perm _ _).mem_iff
  unfold Cluster.served IsTriggered
  simp only [List.mem_map, List.mem_filter, hsorted, mayAskFor_iff hname]
  constructor
  · rintro ⟨⟨id, stored⟩, ⟨hmem, hservice⟩, rfl⟩
    exact ⟨stored, hmem, hservice⟩
  · rintro ⟨stored, hmem, hservice⟩
    exact ⟨(id, stored), ⟨hmem, hservice⟩, rfl⟩

/-- Services trigger the models that look them up. -/
structure TriggersLookups (gateway : GatewayRef) (limit : Duration) : Prop where
  /-- A model references the service of its name in its backend's namespace, or else its own. -/
  references_iff : ∀ model service, references model service = true ↔
    model.backendKind = kind ∧ model.backend.name = service.name ∧ model.IsServedIn service.ns
  evaluation : ∀ model now,
    LooksUpServices model (Evaluation.evaluate (Pass.registry gateway limit) model now)
  endpoint : ∀ model {b}, (Pass.registry gateway limit).get? model.backendKind = some b →
    LooksUpServices model (b.modelEndpoint model)
  watched : ∀ (cluster : Cluster) {service : ObjectId}, service.name ≠ "" → ∀ id,
    id ∈ cluster.served references service ↔ IsTriggered gateway limit cluster.models service id
  /-- A controller at work that watches services looks at once at the models that would ask for a
  service that has changed or gone. -/
  scheduled : ∀ (c : Controller) {service : ObjectId}, service.name ≠ "" → c.stage = .active →
    c.settings.watchesServices = true → ∀ {id},
    IsTriggered gateway limit c.traffic.cluster.models service id →
    (c.objectChanged .service service).schedule.time? id =
      some (Schedule.sooner (c.schedule.time? id) c.clock)
  /-- All other models are looked at when they would have been. -/
  spared : ∀ (c : Controller) {service : ObjectId}, service.name ≠ "" → ∀ {id},
    ¬ IsTriggered gateway limit c.traffic.cluster.models service id →
    (c.objectChanged .service service).schedule.time? id = c.schedule.time? id

/-- A change of a service makes the controller look again at the models that would ask for it, and at
no others. -/
theorem services_trigger_lookups (gateway : GatewayRef) (limit : Duration) :
    TriggersLookups gateway limit where
  references_iff := fun _ _ => references_iff
  evaluation := fun _ _ => looksUpServices_evaluate
  endpoint := fun _ _ hget => looksUpServices_modelEndpoint hget
  watched := fun _ _ hname _ => mem_served_iff hname
  scheduled := by
    intro c service hname hactive hwatches id htriggered
    have hchanged : c.objectChanged .service service =
        { c with schedule :=
            c.schedule.requestAll (c.traffic.cluster.served references service) c.clock } := by
      simp only [Controller.objectChanged, Controller.serviceChanged, Controller.schedulePasses,
        hwatches, hactive, if_true]
    rw [hchanged]
    change (c.schedule.requestAll _ _).time? id = _
    rw [Schedule.time?_requestAll, if_pos ((mem_served_iff hname).2 htriggered)]
  spared := by
    intro c service hname id hother
    change (c.serviceChanged service).schedule.time? id = _
    unfold Controller.serviceChanged Controller.schedulePasses
    split
    · split
      · change (c.schedule.requestAll _ _).time? id = _
        rw [Schedule.time?_requestAll, if_neg (mt (mem_served_iff hname).1 hother)]
      · rfl
    · rfl

end InferenceBackend

end ModelGate
