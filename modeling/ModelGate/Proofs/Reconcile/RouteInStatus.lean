import ModelGate.Proofs.Reconcile.RecordedRoute

/-!
# Routes in a status

A route is written into a status with its empty parts left out, and read back with the missing
parts empty, where a name and a namespace must be there.  `writeTo_keepsRoute` says how the two fit
together for every route and every status.  Writing touches nothing but the route and leaves
nothing of an earlier one.  What is read back is the route, unless it lacks a name or a namespace.
And a complete route is what a status records if and only if writing it leaves the status as it is,
up to names of the gateway that are there but empty.
-/

namespace ModelGate

variable {route : RouteReference} {status : ModelStatus} {text : String}

namespace ModelStatus

/-- All of a status but its route. -/
def withoutRoute (s : ModelStatus) : ModelStatus :=
  { s with
    routeName := none
    routeNamespace := none
    routeGatewayName := none
    routeGatewayNamespace := none
    routeHostnames := [] }

/-- The status without names of the gateway that are empty. -/
def withoutEmptyGateway (s : ModelStatus) : ModelStatus :=
  { s with
    routeGatewayName := s.routeGatewayName.filter (· != "")
    routeGatewayNamespace := s.routeGatewayNamespace.filter (· != "") }

end ModelStatus

namespace RouteReference

/-- A route has a name and a namespace. -/
def IsComplete (route : RouteReference) : Prop :=
  route.name ≠ "" ∧ route.ns ≠ ""

instance : Decidable route.IsComplete :=
  inferInstanceAs (Decidable (_ ∧ _))

/-! ## Texts that may be left out -/

theorem nonEmpty_of_ne (h : text ≠ "") : nonEmpty text = some text :=
  if_neg h

theorem nonEmpty_injective : Function.Injective nonEmpty := by
  intro text other h
  rw [← getD_nonEmpty text, h, getD_nonEmpty]

theorem nonEmpty_getD (text : Option String) :
    nonEmpty (text.getD "") = text.filter (· != "") := by
  cases text with
  | none => rfl
  | some text =>
      by_cases h : text = ""
      · simp [nonEmpty, Option.filter_some, h]
      · simp [nonEmpty, Option.filter_some, h]

/-- A text is written where an empty one was left out if and only if it is what was read. -/
theorem nonEmpty_eq_filter_iff {former : Option String} :
    nonEmpty text = former.filter (· != "") ↔ former.getD "" = text := by
  rw [← nonEmpty_getD, nonEmpty_injective.eq_iff, eq_comm]

/-! ## Writing and reading -/

theorem withoutRoute_writeTo (route : RouteReference) (status : ModelStatus) :
    (route.writeTo status).withoutRoute = status.withoutRoute :=
  rfl

theorem writeTo_withoutRoute (route : RouteReference) (status : ModelStatus) :
    route.writeTo status.withoutRoute = route.writeTo status :=
  rfl

theorem ofStatus?_writeTo (route : RouteReference) (status : ModelStatus) :
    ofStatus? (route.writeTo status) = if route.IsComplete then some route else none := by
  rw [ofStatus?_of_recordsRoute (recordsRoute_writeTo route status)]
  by_cases hcomplete : route.IsComplete
  · obtain ⟨hname, hns⟩ := hcomplete
    simp [IsComplete, hname, hns]
  · have hlacks : route.name = "" ∨ route.ns = "" := by
      unfold IsComplete at hcomplete
      tauto
    rw [if_pos hlacks, if_neg hcomplete]

theorem ofStatus?_eq_some_iff :
    ofStatus? status = some route ↔
      status.routeName = some route.name ∧ status.routeNamespace = some route.ns ∧
        status.routeGatewayName.getD "" = route.gatewayName ∧
        status.routeGatewayNamespace.getD "" = route.gatewayNamespace ∧
        status.routeHostnames = route.hostnames := by
  unfold ofStatus?
  constructor
  · intro h
    simp only [bind, Option.bind_eq_some_iff] at h
    obtain ⟨name, hname, ns, hns, hroute⟩ := h
    cases hroute
    exact ⟨hname, hns, rfl, rfl, rfl⟩
  · rintro ⟨hname, hns, hgatewayName, hgatewayNamespace, hhostnames⟩
    rw [hname, hns, hgatewayName, hgatewayNamespace, hhostnames]
    rfl

/-- A complete route is what a status records if and only if writing it changes no more than names
of the gateway that are empty. -/
theorem writeTo_eq_withoutEmptyGateway_iff (h : route.IsComplete) :
    route.writeTo status = status.withoutEmptyGateway ↔ ofStatus? status = some route := by
  have hfields : route.writeTo status = status.withoutEmptyGateway ↔
      nonEmpty route.name = status.routeName ∧ nonEmpty route.ns = status.routeNamespace ∧
        nonEmpty route.gatewayName = status.routeGatewayName.filter (· != "") ∧
        nonEmpty route.gatewayNamespace = status.routeGatewayNamespace.filter (· != "") ∧
        route.hostnames = status.routeHostnames := by
    unfold writeTo ModelStatus.withoutEmptyGateway
    simp only [ModelStatus.mk.injEq, true_and, and_true]
  rw [hfields, ofStatus?_eq_some_iff, nonEmpty_of_ne h.1, nonEmpty_of_ne h.2,
    nonEmpty_eq_filter_iff, nonEmpty_eq_filter_iff]
  exact and_congr eq_comm (and_congr eq_comm (and_congr Iff.rfl (and_congr Iff.rfl eq_comm)))

/-! ## Both together -/

/-- What is known of a route that is written into a status. -/
structure KeepsRoute (route : RouteReference) (status : ModelStatus) : Prop where
  /-- Nothing else is changed. -/
  others : (route.writeTo status).withoutRoute = status.withoutRoute
  /-- Nothing is left of a route that the status carried before. -/
  forgets : ∀ earlier : ModelStatus, earlier.withoutRoute = status.withoutRoute →
    route.writeTo earlier = route.writeTo status
  reads_back : ofStatus? (route.writeTo status) = if route.IsComplete then some route else none
  /-- So it is what the model records that carries the status. -/
  recorded : ∀ model : Model, model.status = some (route.writeTo status) →
    InferenceBackend.recordedRoute model = if route.IsComplete then some route else none
  /-- What was read and is written again stays as it is. -/
  restores : route.IsComplete →
    (ofStatus? status = some route ↔ route.writeTo status = status.withoutEmptyGateway)

theorem writeTo_keepsRoute (route : RouteReference) (status : ModelStatus) :
    route.KeepsRoute status where
  others := withoutRoute_writeTo route status
  forgets := by
    intro earlier hsame
    rw [← writeTo_withoutRoute, hsame, writeTo_withoutRoute]
  reads_back := ofStatus?_writeTo route status
  recorded := by
    intro model hstatus
    unfold InferenceBackend.recordedRoute
    rw [hstatus]
    exact ofStatus?_writeTo route status
  restores := fun hcomplete => (writeTo_eq_withoutEmptyGateway_iff hcomplete).symm

/-- A route without a name hides the one that was there before. -/
example : ofStatus? ((⟨"", "models", "gateway", "", []⟩ : RouteReference).writeTo
    { ModelStatus.blank with routeName := some "old", routeNamespace := some "models" }) = none := by
  decide

end RouteReference

end ModelGate
