import Mathlib
import ModelGate.Cluster.Gateway

/-!
# What routes, gateways and services say

Who owns a route, which gateway it attaches to, by which hostnames it is reached, and where the
service behind it is reached, each as a relation on the objects.  The lemmas named `_iff` and `_eq`
say that the functions of the controller decide and compute these relations.
-/

namespace ModelGate

/-- The namespace of the service of a model: the one that the model names, unless that is empty, or
else its own. -/
inductive Model.IsServedIn (model : Model) : String → Prop
  | named {ns : String} (h : model.backend.ns = some ns) (hns : ns ≠ "") : IsServedIn model ns
  | own {ns : String} (h : model.backend.ns = none ∨ model.backend.ns = some "")
      (hns : model.metadata.ns = some ns) : IsServedIn model ns

theorem Model.isServedIn_iff {model : Model} {ns : String} :
    model.IsServedIn ns ↔ model.backendNamespace = some ns := by
  unfold backendNamespace
  constructor
  · rintro (⟨h, hns⟩ | ⟨h | h, hns⟩)
    · rw [h, Option.filter_some_pos (by simpa using hns)]
      rfl
    · rw [h, hns]
      rfl
    · rw [h, hns]
      rfl
  · intro h
    cases hbackend : model.backend.ns with
    | none =>
        rw [hbackend] at h
        exact .own (Or.inl hbackend) h
    | some named =>
        by_cases hnamed : named = ""
        · subst hnamed
          rw [hbackend] at h
          exact .own (Or.inr hbackend) h
        · rw [hbackend, Option.filter_some_pos (by simpa using hnamed)] at h
          cases h
          exact .named hbackend hnamed

/-- A hostname that stands for one host: it is not empty, and there is no wildcard in front. -/
def IsConcrete (hostname : String) : Prop :=
  hostname ≠ "" ∧ ∀ rest, hostname.toList ≠ '*' :: rest

theorem isConcrete_iff (hostname : String) : isConcrete hostname = true ↔ IsConcrete hostname := by
  unfold isConcrete IsConcrete
  rw [Bool.and_eq_true, bne_iff_ne, Bool.not_eq_true', String.startsWith_string_eq_false_iff]
  refine and_congr_right fun _ => ?_
  cases hostname.toList with
  | nil => simp
  | cons c rest => simp [eq_comm]

instance : DecidablePred IsConcrete := fun hostname =>
  decidable_of_iff _ (isConcrete_iff hostname)

theorem filter_isConcrete (hostnames : List String) :
    hostnames.filter isConcrete = hostnames.filter IsConcrete :=
  List.filter_congr fun hostname _ => by
    rw [Bool.eq_iff_iff, isConcrete_iff, decide_eq_true_iff]

/-! ## Routes -/

/-- A reference to a gateway; without a kind it is one. -/
def ParentRef.IsGateway (p : ParentRef) : Prop :=
  ∀ kind, p.kind = some kind → kind = "Gateway"

theorem ParentRef.all_kind_iff (p : ParentRef) :
    p.kind.all (· == "Gateway") = true ↔ p.IsGateway := by
  unfold IsGateway
  cases p.kind <;> simp

namespace HttpRoute

variable {route : HttpRoute} {service : InferenceService} {ns : String} {default : GatewayRef}

/-- The route names a service as its owner, by the name and, if the service has one, by the unique
id. -/
def NamesOwner (route : HttpRoute) (service : InferenceService) : Prop :=
  ∃ owner ∈ route.metadata.ownerReferences, owner.kind = InferenceService.kind ∧
    owner.name = service.metadata.shownName ∧
    ∀ uid, service.metadata.uid = some uid → owner.uid = uid

theorem isOwnedBy_iff : route.isOwnedBy service = true ↔ route.NamesOwner service := by
  unfold isOwnedBy NamesOwner
  simp only [List.any_eq_true, Bool.and_eq_true, beq_iff_eq]
  cases service.metadata.uid <;> simp [and_assoc]

/-- The gateway that a route attaches to: the first one that it names, by default in the given
namespace, or else the default one. -/
inductive AttachesTo (route : HttpRoute) (ns : String) (default : GatewayRef) : GatewayRef → Prop
  | parent {before after : List ParentRef} {p : ParentRef}
      (hrefs : route.parentRefs = before ++ p :: after) (hp : p.IsGateway)
      (hfirst : ∀ q ∈ before, ¬ q.IsGateway) : AttachesTo route ns default ⟨p.name, p.ns.getD ns⟩
  | default (h : ∀ p ∈ route.parentRefs, ¬ p.IsGateway) : AttachesTo route ns default default

theorem attachesTo_iff {gateway : GatewayRef} :
    route.AttachesTo ns default gateway ↔ route.gateway ns default = gateway := by
  unfold HttpRoute.gateway
  constructor
  · intro hattaches
    cases hattaches with
    | @parent before after p hrefs hp hfirst =>
        have hfind : route.parentRefs.find? (fun p => p.kind.all (· == "Gateway")) = some p := by
          refine List.find?_eq_some_iff_append.2
            ⟨(ParentRef.all_kind_iff p).2 hp, before, after, hrefs, ?_⟩
          simpa [← ParentRef.all_kind_iff] using hfirst
        rw [hfind]
    | default h =>
        have hfind : route.parentRefs.find? (fun p => p.kind.all (· == "Gateway")) = none := by
          refine List.find?_eq_none.2 ?_
          simpa only [ParentRef.all_kind_iff] using h
        rw [hfind]
  · rintro rfl
    split
    · next p hfind =>
        obtain ⟨hp, before, after, hrefs, hfirst⟩ := List.find?_eq_some_iff_append.1 hfind
        refine .parent hrefs ((ParentRef.all_kind_iff p).1 hp) ?_
        simpa [← ParentRef.all_kind_iff] using hfirst
    · next hfind =>
        rw [List.find?_eq_none] at hfind
        exact .default (by simpa only [ParentRef.all_kind_iff] using hfind)

end HttpRoute

/-! ## Hostnames -/

namespace Gateway

/-- Hostnames are added behind those that are there, each where it comes first. -/
theorem foldl_addHostname (hostnames known : List String) :
    hostnames.foldl addHostname known =
      known ++ (hostnames.filter fun h => !known.contains h).eraseDups := by
  induction hostnames generalizing known with
  | nil => simp
  | cons hostname rest ih =>
      rw [List.foldl_cons, ih]
      unfold addHostname
      by_cases hknown : hostname ∈ known
      · simp [hknown]
      · -- What is added is known from then on, and no longer counts in the rest.
        have hsame : (rest.filter fun h => !(known ++ [hostname]).contains h) =
            (rest.filter fun h => !known.contains h).filter fun h => !h == hostname := by
          rw [List.filter_filter]
          refine List.filter_congr fun h _ => ?_
          rw [Bool.and_comm]
          simp [beq_eq_decide]
        rw [if_neg (by simpa using hknown), List.filter_cons_of_pos (by simpa using hknown),
          List.eraseDups_cons, hsame]
        simp

theorem listenerHostnames_eq (gateway : Gateway) :
    gateway.listenerHostnames = ((gateway.listeners.filterMap id).filter IsConcrete).eraseDups := by
  unfold listenerHostnames
  rw [foldl_addHostname, filter_isConcrete]
  simp

end Gateway

/-- The hostnames by which a route is reached through a gateway, if that exists: its own concrete
ones, or else those of the listeners, or else the addresses. -/
inductive HttpRoute.IsReachedBy (route : HttpRoute) : Option Gateway → List String → Prop
  | own {gateway : Option Gateway} (h : route.hostnames.filter IsConcrete ≠ []) :
      IsReachedBy route gateway (route.hostnames.filter IsConcrete)
  | noGateway (h : route.hostnames.filter IsConcrete = []) : IsReachedBy route none []
  | listeners {gateway : Gateway} (h : route.hostnames.filter IsConcrete = [])
      (hlisteners : (gateway.listeners.filterMap id).filter IsConcrete ≠ []) :
      IsReachedBy route (some gateway)
        ((gateway.listeners.filterMap id).filter IsConcrete).eraseDups
  | addresses {gateway : Gateway} (h : route.hostnames.filter IsConcrete = [])
      (hlisteners : (gateway.listeners.filterMap id).filter IsConcrete = []) :
      IsReachedBy route (some gateway) (gateway.addresses.filter (· ≠ ""))

namespace HttpRoute

variable {route : HttpRoute}

theorem isReachedBy_own {gateway : Option Gateway} (h : route.concreteHostnames.isEmpty = false) :
    route.IsReachedBy gateway route.concreteHostnames := by
  unfold concreteHostnames at h ⊢
  rw [filter_isConcrete] at h ⊢
  exact .own (by simpa using h)

theorem isReachedBy_gateway (gateway : Gateway) (h : route.concreteHostnames.isEmpty = true) :
    route.IsReachedBy (some gateway) gateway.hostnames := by
  unfold concreteHostnames at h
  rw [filter_isConcrete, List.isEmpty_iff] at h
  have haddresses : gateway.addresses.filter (· != "") = gateway.addresses.filter (· ≠ "") :=
    List.filter_congr fun address _ => by simp [bne, beq_eq_decide]
  unfold Gateway.hostnames
  rw [gateway.listenerHostnames_eq, haddresses]
  cases hlisteners : (gateway.listeners.filterMap id).filter IsConcrete with
  | nil => exact .addresses h hlisteners
  | cons hostname rest =>
      have hsome : (gateway.listeners.filterMap id).filter IsConcrete ≠ [] := by
        rw [hlisteners]
        exact List.cons_ne_nil hostname rest
      rw [List.eraseDups_cons, if_neg (by simp), ← List.eraseDups_cons, ← hlisteners]
      exact .listeners h hsome

theorem isReachedBy_none (h : route.concreteHostnames.isEmpty = true) :
    route.IsReachedBy none [] := by
  unfold concreteHostnames at h
  rw [filter_isConcrete, List.isEmpty_iff] at h
  exact .noGateway h

end HttpRoute

/-! ## Services -/

namespace InferenceService

variable {service : InferenceService}

/-- The service publishes a URL. -/
def Publishes (service : InferenceService) (url : String) : Prop :=
  url ≠ "" ∧ ∃ status, service.status = some status ∧ status.url = some url

theorem url_eq_some_iff {url : String} : service.url = some url ↔ service.Publishes url := by
  unfold InferenceService.url Publishes
  rw [Option.filter_eq_some_iff, Option.bind_eq_some_iff, bne_iff_ne, and_comm]

/-- The service says that it is ready. -/
def ReportsReady (service : InferenceService) : Prop :=
  ∃ status, service.status = some status ∧
    ∃ c ∈ status.conditions, c.type = "Ready" ∧ c.status = "True"

theorem isReady_iff : service.isReady = true ↔ service.ReportsReady := by
  unfold isReady ReportsReady
  simp only [Option.any_eq_true, List.any_eq_true, Bool.and_eq_true, beq_iff_eq]

/-- Where a service behind some hostnames is reached: at the URL that it publishes, or else below
the first hostname. -/
inductive IsReachedAt (service : InferenceService) (hostnames : List String) : String → Prop
  | published {url : String} (h : service.Publishes url) : IsReachedAt service hostnames url
  | hostname {hostname : String} {rest : List String} (hurl : ∀ url, ¬ service.Publishes url)
      (h : hostnames = hostname :: rest) : IsReachedAt service hostnames
        ("https://" ++ hostname ++ "/" ++ service.metadata.ns.getD "" ++ "/" ++
          service.metadata.shownName)

end InferenceService

end ModelGate
