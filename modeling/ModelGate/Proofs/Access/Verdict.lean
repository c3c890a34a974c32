import ModelGate.Access.Decision
import ModelGate.Proofs.Access.AllowlistText
import ModelGate.Proofs.Access.PathShape

/-!
# What the models of one name say about a tier

The models are asked one by one.  A malformed allowlist ends the round wherever it stands, so it
outweighs every denial; a denial outweighs every permission.  Of several malformed allowlists the
first one is named, which is the one of the least namespace.
-/

namespace ModelGate.Access

namespace ModelAccess

/-- The annotation of the model is not of the form of an allowlist. -/
def IsMalformed (m : ModelAccess) : Prop :=
  ∀ tiers, ¬ Lists m.tiers tiers

/-- The model has an allowlist that is not empty and that the tier is not on. -/
def Excludes (m : ModelAccess) (tier : String) : Prop :=
  ∃ tiers, Lists m.tiers tiers ∧ tiers ≠ [] ∧ tier ∉ tiers

theorem not_isMalformed_iff (m : ModelAccess) : ¬ m.IsMalformed ↔ ∃ tiers, Lists m.tiers tiers := by
  simp [IsMalformed]

end ModelAccess

namespace Decision

variable {tier : String} {m : ModelAccess}

theorem consider_of_isMalformed (decision : Decision) (h : m.IsMalformed) :
    ∃ fault, consider tier decision m = .error (.invalidAllowlist m.ns m.name fault) := by
  obtain ⟨fault, hfault⟩ := (AllowedTiers.ofAnnotation_isError_iff m.tiers).2 h
  refine ⟨fault, ?_⟩
  unfold consider
  rw [hfault]

/-- A well-formed allowlist only counts by the tiers that it lists. -/
theorem consider_of_lists (decision : Decision) {tiers : List String} (h : Lists m.tiers tiers) :
    consider tier decision m =
      .ok (if decision.allowed && !(AllowedTiers.ofList tiers).permits tier then deny tier
        else decision) := by
  unfold consider
  rw [(AllowedTiers.ofAnnotation_eq_ok_iff m.tiers tiers).2 h]

theorem consider_allow_of_excludes (h : m.Excludes tier) :
    consider tier allow m = .ok (deny tier) := by
  obtain ⟨tiers, hlists, hne, hmem⟩ := h
  have hpermits : (AllowedTiers.ofList tiers).permits tier = false := by
    rw [← Bool.not_eq_true, AllowedTiers.permits_ofList_iff]
    rintro (hnil | htier)
    · exact hne hnil
    · exact hmem htier
  rw [consider_of_lists _ hlists, hpermits]
  rfl

theorem consider_allow_of_not_excludes (hform : ¬ m.IsMalformed) (h : ¬ m.Excludes tier) :
    consider tier allow m = .ok allow := by
  obtain ⟨tiers, hlists⟩ := m.not_isMalformed_iff.1 hform
  have hpermits : (AllowedTiers.ofList tiers).permits tier = true := by
    rw [AllowedTiers.permits_ofList_iff]
    by_cases hne : tiers = []
    · exact Or.inl hne
    · by_cases hmem : tier ∈ tiers
      · exact Or.inr hmem
      · exact absurd ⟨tiers, hlists, hne, hmem⟩ h
  rw [consider_of_lists _ hlists, hpermits]
  rfl

/-- A denial stays a denial. -/
theorem consider_deny (hform : ¬ m.IsMalformed) : consider tier (deny tier) m = .ok (deny tier) := by
  obtain ⟨tiers, hlists⟩ := m.not_isMalformed_iff.1 hform
  rw [consider_of_lists _ hlists]
  rfl

/-! ## All models of a name -/

/-- The first malformed allowlist is the outcome, whatever was decided before it. -/
theorem foldlM_consider_of_isMalformed {before : List ModelAccess}
    (hbefore : ∀ x ∈ before, ¬ x.IsMalformed) (h : m.IsMalformed) (after : List ModelAccess)
    (decision : Decision) :
    ∃ fault, (before ++ m :: after).foldlM (consider tier) decision =
      .error (.invalidAllowlist m.ns m.name fault) := by
  induction before generalizing decision with
  | nil =>
      have hconsider : ∃ fault, consider tier decision m =
          .error (.invalidAllowlist m.ns m.name fault) := consider_of_isMalformed decision h
      obtain ⟨fault, hfault⟩ := hconsider
      refine ⟨fault, ?_⟩
      rw [List.nil_append, List.foldlM_cons, hfault]
      rfl
  | cons x before ih =>
      -- What is decided here does not matter, as long as the round goes on.
      obtain ⟨tiers, hlists⟩ := x.not_isMalformed_iff.1 (hbefore x (by simp))
      rw [List.cons_append, List.foldlM_cons, consider_of_lists decision hlists]
      exact ih (fun y hy => hbefore y (by simp [hy])) _

theorem foldlM_consider_deny {models : List ModelAccess} (hform : ∀ x ∈ models, ¬ x.IsMalformed) :
    models.foldlM (consider tier) (deny tier) = .ok (deny tier) := by
  induction models with
  | nil => rfl
  | cons x rest ih =>
      rw [List.foldlM_cons, consider_deny (hform x (by simp))]
      exact ih fun y hy => hform y (by simp [hy])

/-- Without a malformed allowlist the tier is denied if some model excludes it. -/
theorem foldlM_consider_of_excludes {models : List ModelAccess}
    (hform : ∀ x ∈ models, ¬ x.IsMalformed) (hmem : m ∈ models) (h : m.Excludes tier) :
    models.foldlM (consider tier) allow = .ok (deny tier) := by
  induction models with
  | nil => cases hmem
  | cons x rest ih =>
      have hrest : ∀ y ∈ rest, ¬ y.IsMalformed := fun y hy => hform y (by simp [hy])
      rw [List.foldlM_cons]
      by_cases hx : x.Excludes tier
      · -- The first model that excludes the tier decides, and the others only have to be read.
        rw [consider_allow_of_excludes hx]
        exact foldlM_consider_deny hrest
      · rw [consider_allow_of_not_excludes (hform x (by simp)) hx]
        rcases List.mem_cons.1 hmem with rfl | hlater
        · exact absurd h hx
        · exact ih hrest hlater

/-- Without a malformed allowlist the tier is allowed if no model excludes it. -/
theorem foldlM_consider_of_not_excludes {models : List ModelAccess}
    (hform : ∀ x ∈ models, ¬ x.IsMalformed) (h : ∀ x ∈ models, ¬ x.Excludes tier) :
    models.foldlM (consider tier) allow = .ok allow := by
  induction models with
  | nil => rfl
  | cons x rest ih =>
      rw [List.foldlM_cons, consider_allow_of_not_excludes (hform x (by simp)) (h x (by simp))]
      exact ih (fun y hy => hform y (by simp [hy])) (fun y hy => h y (by simp [hy]))

end Decision

/-! ## The models that a path names -/

variable {modelsNamed : String → List ModelAccess} {path tier name : String}

theorem authorize_of_no_segment (h : ∀ segment, ¬ HasSegment path segment) :
    authorize modelsNamed path tier = .error (.path .malformed) := by
  unfold authorize
  rw [(modelName_eq_malformed_iff path).2 h]

theorem authorize_of_empty_segment (h : HasSegment path "") :
    authorize modelsNamed path tier = .error (.path .missingName) := by
  unfold authorize
  rw [(modelName_eq_missingName_iff path).2 h]

theorem authorize_of_no_models (hpath : NamesModel path name) (h : modelsNamed name = []) :
    authorize modelsNamed path tier = .error (.notFound name) := by
  unfold authorize
  rw [(modelName_eq_ok_iff path name).2 hpath]
  simp only [h]

/-- A path that names a model is decided by the models of that name. -/
theorem authorize_of_models (hpath : NamesModel path name) (h : modelsNamed name ≠ []) :
    authorize modelsNamed path tier = (modelsNamed name).foldlM (Decision.consider tier) .allow := by
  unfold authorize
  rw [(modelName_eq_ok_iff path name).2 hpath]
  cases hmodels : modelsNamed name with
  | nil => exact absurd hmodels h
  | cons m rest => simp only [hmodels]

end ModelGate.Access
