import ModelGate.Proofs.Tier.LookupTables
import ModelGate.Proofs.Tier.Resolution

/-!
# The highest tier wins

Groups *reach* the tiers that list one of them.  In a list of entries that is a mapping the levels
differ, so among the tiers that are reached there is one that all others are below (`IsHighest`),
and groups resolve to it; they resolve to nothing if and only if they reach nothing.

So a resolution depends on the reached tiers only, which is why the order of the groups and of the
entries does not matter, nor how often a group is listed, nor whether the tiers are looked up in
tables (`resolvesHighest_of_ofEntries`).
-/

namespace ModelGate

namespace TierMapping

variable {entries entries' : List TierEntry} {mapping mapping' : TierMapping} {tier : Tier}
  {tiers : List Tier} {groups groups' : List String}

/-! ## The highest of some tiers -/

/-- A tier is among those in question, and all others are below it. -/
structure IsHighest (candidate : Tier → Prop) (tier : Tier) : Prop where
  mem : candidate tier
  lower : ∀ other, candidate other → other ≠ tier → other.level < tier.level

theorem IsHighest.congr {candidate candidate' : Tier → Prop}
    (h : ∀ tier, candidate tier ↔ candidate' tier) :
    IsHighest candidate tier ↔ IsHighest candidate' tier := by
  rw [funext fun other => propext (h other)]

theorem IsHighest.level_le {candidate : Tier → Prop} (h : IsHighest candidate tier) {other : Tier}
    (hother : candidate other) : other.level ≤ tier.level := by
  by_cases heq : other = tier
  · rw [heq]
  · exact Nat.le_of_lt (h.lower other hother heq)

theorem foldl_higher_eq_none_iff : tiers.foldl higher none = none ↔ tiers = [] := by
  cases tiers using List.reverseRecOn with
  | nil => simp
  | append_singleton tiers last =>
      rw [List.foldl_append, List.foldl_cons, List.foldl_nil]
      cases tiers.foldl higher none <;> simp [higher]

/-- The fold keeps a tier of its list, and none is above it. -/
theorem of_foldl_higher (h : tiers.foldl higher none = some tier) :
    tier ∈ tiers ∧ ∀ other ∈ tiers, other.level ≤ tier.level := by
  induction tiers using List.reverseRecOn generalizing tier with
  | nil => cases h
  | append_singleton tiers last ih =>
      rw [List.foldl_append, List.foldl_cons, List.foldl_nil] at h
      cases hbest : tiers.foldl higher none with
      | none =>
          rw [hbest] at h
          cases h
          rw [foldl_higher_eq_none_iff.1 hbest]
          simp
      | some best =>
          obtain ⟨hmem, hle⟩ := ih hbest
          rw [hbest] at h
          unfold higher at h
          have htier := Option.some.inj h
          simp only [List.mem_append, List.mem_singleton]
          split at htier
          · next hlevel =>
              subst htier
              refine ⟨Or.inr rfl, ?_⟩
              rintro other (hother | rfl)
              · exact (hle other hother).trans hlevel
              · exact le_refl _
          · next hlevel =>
              subst htier
              refine ⟨Or.inl hmem, ?_⟩
              rintro other (hother | rfl)
              · exact hle other hother
              · omega

/-- Of tiers whose levels differ the fold finds the highest one. -/
theorem foldl_higher_eq_some_iff
    (hlevels : ∀ a ∈ tiers, ∀ b ∈ tiers, a.level = b.level → a = b) :
    tiers.foldl higher none = some tier ↔ IsHighest (· ∈ tiers) tier := by
  constructor
  · intro h
    obtain ⟨hmem, hle⟩ := of_foldl_higher h
    refine ⟨hmem, ?_⟩
    intro other hother hne
    exact Nat.lt_of_le_of_ne (hle other hother)
      fun hlevel => hne (hlevels other hother tier hmem hlevel)
  · intro h
    have hsome : tiers.foldl higher none ≠ none := by
      rw [ne_eq, foldl_higher_eq_none_iff]
      exact List.ne_nil_of_mem h.mem
    obtain ⟨best, hbest⟩ := Option.ne_none_iff_exists'.1 hsome
    obtain ⟨hmem, hle⟩ := of_foldl_higher hbest
    have hlevel : tier.level = best.level :=
      Nat.le_antisymm (hle tier h.mem) (h.level_le hmem)
    rw [hbest, hlevels tier h.mem best hmem hlevel]

/-! ## The tiers that groups reach -/

/-- An entry of the tier lists one of the groups. -/
def Reaches (entries : List TierEntry) (groups : List String) (tier : Tier) : Prop :=
  ∃ entry ∈ entries, entry.tier = tier ∧ ∃ g ∈ groups, g ∈ entry.groups

theorem sharesGroup_iff {entry : TierEntry} :
    sharesGroup groups entry = true ↔ ∃ g ∈ groups, g ∈ entry.groups := by
  unfold sharesGroup
  simp only [List.any_eq_true, List.contains_iff_mem]
  exact exists_congr fun g => and_comm

theorem mem_map_filter_iff :
    tier ∈ (entries.filter (sharesGroup groups)).map (·.tier) ↔ Reaches entries groups tier := by
  unfold Reaches
  simp only [List.mem_map, List.mem_filter, sharesGroup_iff]
  constructor
  · rintro ⟨entry, ⟨hmem, hshares⟩, htier⟩
    exact ⟨entry, hmem, htier, hshares⟩
  · rintro ⟨entry, hmem, htier, hshares⟩
    exact ⟨entry, ⟨hmem, hshares⟩, htier⟩

/-- Tiers of one level are one tier. -/
theorem Reaches.eq_of_level (hformed : IsWellFormed entries) {other : Tier}
    (h : Reaches entries groups tier) (hother : Reaches entries groups' other)
    (hlevel : tier.level = other.level) : tier = other := by
  obtain ⟨a, ha, rfl, -⟩ := h
  obtain ⟨b, hb, rfl, -⟩ := hother
  have hlevels : (entries.map fun entry => entry.tier.level).Nodup :=
    List.pairwise_map.2 hformed.levels
  rw [List.inj_on_of_nodup_map hlevels ha hb hlevel]

theorem resolve_eq_none_iff :
    mapping.resolve groups = none ↔
      ∀ g ∈ groups, ∀ entry ∈ mapping.entries, g ∉ entry.groups := by
  unfold resolve
  rw [foldl_higher_eq_none_iff, List.map_eq_nil_iff, List.filter_eq_nil_iff]
  simp only [sharesGroup_iff]
  constructor
  · exact fun h g hg entry hentry hlisted => h entry hentry ⟨g, hg, hlisted⟩
  · rintro h entry hentry ⟨g, hg, hlisted⟩
    exact h g hg entry hentry hlisted

theorem resolve_eq_some_iff (hformed : IsWellFormed mapping.entries) :
    mapping.resolve groups = some tier ↔ IsHighest (Reaches mapping.entries groups) tier := by
  unfold resolve
  rw [foldl_higher_eq_some_iff, IsHighest.congr fun _ => mem_map_filter_iff]
  intro a ha b hb hlevel
  exact (mem_map_filter_iff.1 ha).eq_of_level hformed (mem_map_filter_iff.1 hb) hlevel

/-- Where the same tiers are reached, the resolution is the same. -/
theorem resolve_eq_of_reaches (hformed : IsWellFormed mapping.entries)
    (hformed' : IsWellFormed mapping'.entries)
    (h : ∀ tier, Reaches mapping.entries groups tier ↔ Reaches mapping'.entries groups' tier) :
    mapping.resolve groups = mapping'.resolve groups' := by
  refine Option.ext fun tier => ?_
  rw [resolve_eq_some_iff hformed, resolve_eq_some_iff hformed', IsHighest.congr h]

/-- With more groups the resolved tier is as high or higher. -/
theorem le_resolve_of_subset (hformed : IsWellFormed mapping.entries) (hsubset : groups ⊆ groups')
    (h : mapping.resolve groups = some tier) :
    ∃ higher, mapping.resolve groups' = some higher ∧ tier.level ≤ higher.level := by
  obtain ⟨entry, hentry, htier, g, hg, hlisted⟩ := ((resolve_eq_some_iff hformed).1 h).mem
  have hreached : Reaches mapping.entries groups' tier :=
    ⟨entry, hentry, htier, g, hsubset hg, hlisted⟩
  have hsome : mapping.resolve groups' ≠ none := by
    rw [ne_eq, resolve_eq_none_iff]
    exact fun hnone => hnone g (hsubset hg) entry hentry hlisted
  obtain ⟨best, hbest⟩ := Option.ne_none_iff_exists'.1 hsome
  exact ⟨best, hbest, ((resolve_eq_some_iff hformed).1 hbest).level_le hreached⟩

/-! ## Lookups in tables -/

theorem mem_flatMap_tiersOf_iff {tables : TierTables} (h : tables.Tabulates entries) :
    tier ∈ groups.flatMap (TierTables.tiersOf tables.byGroup) ↔ Reaches entries groups tier := by
  unfold Reaches
  simp only [List.mem_flatMap, h.byGroup_eq, List.mem_map, List.mem_filter, List.contains_iff_mem]
  constructor
  · rintro ⟨g, hg, entry, ⟨hmem, hlisted⟩, htier⟩
    exact ⟨entry, hmem, htier, g, hg, hlisted⟩
  · rintro ⟨entry, hmem, htier, g, hg, hlisted⟩
    exact ⟨g, hg, entry, ⟨hmem, hlisted⟩, htier⟩

/-- A tier may be found under several of the groups, and it is found as the same one. -/
theorem resolve_of_tabulates {tables : TierTables} (h : tables.Tabulates mapping.entries)
    (hformed : IsWellFormed mapping.entries) (groups : List String) :
    tables.resolve groups = mapping.resolve groups := by
  refine Option.ext fun tier => ?_
  unfold TierTables.resolve
  rw [resolve_eq_some_iff hformed, foldl_higher_eq_some_iff,
    IsHighest.congr fun _ => mem_flatMap_tiersOf_iff h]
  intro a ha b hb hlevel
  exact ((mem_flatMap_tiersOf_iff h).1 ha).eq_of_level hformed ((mem_flatMap_tiersOf_iff h).1 hb)
    hlevel

/-! ## Other orders -/

/-- An entry of the same tier with the same groups, in whatever order and however often. -/
structure SameGrants (entry entry' : TierEntry) : Prop where
  tier_eq : entry'.tier = entry.tier
  mem_groups_iff : ∀ g, g ∈ entry'.groups ↔ g ∈ entry.groups

/-- The same entries in another order, and the groups of each in another order or repeated. -/
inductive Rearranges (entries entries' : List TierEntry) : Prop
  | rearranged {ordered : List TierEntry} (horder : entries.Perm ordered)
      (hgroups : List.Forall₂ SameGrants ordered entries') : Rearranges entries entries'

theorem map_tier_of_sameGrants (h : List.Forall₂ SameGrants entries entries') :
    entries'.map (·.tier) = entries.map (·.tier) := by
  induction h with
  | nil => rfl
  | cons hentry hrest ih => rw [List.map_cons, List.map_cons, ih, hentry.tier_eq]

theorem reaches_cons_iff {entry : TierEntry} :
    Reaches (entry :: entries) groups tier ↔
      (entry.tier = tier ∧ ∃ g ∈ groups, g ∈ entry.groups) ∨ Reaches entries groups tier := by
  unfold Reaches
  exact List.exists_mem_cons_iff ..

theorem reaches_iff_of_sameGrants (h : List.Forall₂ SameGrants entries entries') :
    Reaches entries' groups tier ↔ Reaches entries groups tier := by
  induction h with
  | nil => exact Iff.rfl
  | cons hentry hrest ih =>
      rw [reaches_cons_iff, reaches_cons_iff, ih, hentry.tier_eq]
      simp only [hentry.mem_groups_iff]

theorem reaches_iff_of_perm (h : entries.Perm entries') :
    Reaches entries' groups tier ↔ Reaches entries groups tier := by
  unfold Reaches
  simp only [h.mem_iff]

theorem pairwise_of_perm {R : Tier → Tier → Prop} (hsymm : ∀ {a b}, R a b → R b a)
    (hperm : (entries.map (·.tier)).Perm (entries'.map (·.tier)))
    (h : entries.Pairwise fun a b => R a.tier b.tier) :
    entries'.Pairwise fun a b => R a.tier b.tier :=
  List.pairwise_map.1 ((hperm.pairwise_iff hsymm).1 (List.pairwise_map.2 h))

/-- Only the tiers count for what is a mapping, and not their order. -/
theorem IsWellFormed.of_perm (h : IsWellFormed entries)
    (hperm : (entries.map (·.tier)).Perm (entries'.map (·.tier))) : IsWellFormed entries' where
  named := by
    intro entry' hentry'
    obtain ⟨entry, hentry, htier⟩ := List.mem_map.1
      (hperm.mem_iff.2 (List.mem_map_of_mem hentry'))
    rw [← htier]
    exact h.named entry hentry
  names := pairwise_of_perm (R := fun a b => a.name ≠ b.name) Ne.symm hperm h.names
  levels := pairwise_of_perm (R := fun a b => a.level ≠ b.level) Ne.symm hperm h.levels

theorem Rearranges.isWellFormed (h : Rearranges entries entries')
    (hformed : IsWellFormed entries) : IsWellFormed entries' := by
  obtain ⟨horder, hgroups⟩ := h
  refine hformed.of_perm ?_
  rw [map_tier_of_sameGrants hgroups]
  exact horder.map _

theorem Rearranges.reaches_iff (h : Rearranges entries entries') :
    Reaches entries groups tier ↔ Reaches entries' groups tier := by
  obtain ⟨horder, hgroups⟩ := h
  rw [reaches_iff_of_sameGrants hgroups, reaches_iff_of_perm horder]

/-! ## What a mapping answers -/

/-- A mapping resolves groups to the highest tier of its entries that they reach. -/
structure ResolvesHighest (entries : List TierEntry) (mapping : TierMapping) : Prop where
  none_iff : ∀ groups, mapping.resolve groups = none ↔
    ∀ g ∈ groups, ∀ entry ∈ entries, g ∉ entry.groups
  some_iff : ∀ groups tier, mapping.resolve groups = some tier ↔
    IsHighest (Reaches entries groups) tier
  /-- Neither the order of the groups counts nor how often they come. -/
  same_groups : ∀ groups groups', (∀ g, g ∈ groups ↔ g ∈ groups') →
    mapping.resolve groups = mapping.resolve groups'
  /-- The order of the entries and of their groups does not count either. -/
  same_entries : ∀ entries', Rearranges entries entries' →
    ∃ mapping', ofEntries entries' = .ok mapping' ∧
      ∀ groups, mapping'.resolve groups = mapping.resolve groups
  never_lower : ∀ groups groups' tier, groups ⊆ groups' → mapping.resolve groups = some tier →
    ∃ higher, mapping.resolve groups' = some higher ∧ tier.level ≤ higher.level
  /-- Lookup tables give the same answers. -/
  tabulated : ∃ tables, TierTables.ofEntries entries = .ok tables ∧
    ∀ groups, tables.resolve groups = mapping.resolve groups

theorem resolvesHighest_of_ofEntries (h : ofEntries entries = .ok mapping) :
    ResolvesHighest entries mapping := by
  have hagrees := TierTables.agrees_ofEntries entries
  rw [h] at hagrees
  obtain ⟨hformed, rfl⟩ := (ofEntries_eq_ok_iff entries mapping).1 h
  exact {
    none_iff := fun _ => resolve_eq_none_iff
    some_iff := fun _ _ => resolve_eq_some_iff hformed
    same_groups := fun _ _ hgroups => resolve_congr _ hgroups
    same_entries := by
      intro entries' hrearranges
      have hformed' := hrearranges.isWellFormed hformed
      refine ⟨⟨entries'⟩, (ofEntries_eq_ok_iff entries' _).2 ⟨hformed', rfl⟩, ?_⟩
      intro groups
      exact (resolve_eq_of_reaches hformed hformed' fun _ => hrearranges.reaches_iff).symm
    never_lower := fun _ _ _ hsubset hresolve => le_resolve_of_subset hformed hsubset hresolve
    tabulated := by
      generalize TierTables.ofEntries entries = filled at hagrees
      cases hagrees with
      | accepted htables =>
          exact ⟨_, rfl, fun groups => resolve_of_tabulates htables hformed groups⟩ }

/-- Two tiers that share a group, which one of them lists twice. -/
def sharedEntries : List TierEntry :=
  [⟨⟨"premium", "Premium", 5⟩, ["everyone", "paid"]⟩,
    ⟨⟨"free", "Free", 0⟩, ["trial", "everyone", "everyone"]⟩]

/-- A group of both tiers resolves to the higher one, whichever entry comes first. -/
theorem everyone_is_premium :
    ofEntries sharedEntries = .ok ⟨sharedEntries⟩ ∧
      (⟨sharedEntries⟩ : TierMapping).resolve ["trial", "everyone"] =
        some ⟨"premium", "Premium", 5⟩ ∧
      ∃ mapping, ofEntries sharedEntries.reverse = .ok mapping ∧
        ∀ groups, mapping.resolve groups = (⟨sharedEntries⟩ : TierMapping).resolve groups := by
  have haccepted : ofEntries sharedEntries = .ok ⟨sharedEntries⟩ := rfl
  have hresolves := resolvesHighest_of_ofEntries haccepted
  refine ⟨haccepted, ?_, ?_⟩
  · rw [hresolves.some_iff]
    refine ⟨⟨_, List.mem_cons_self, rfl, "everyone", by simp, by simp⟩, ?_⟩
    rintro other ⟨entry, hentry, rfl, -⟩ hne
    simp only [sharedEntries, List.mem_cons, List.not_mem_nil, or_false] at hentry
    rcases hentry with rfl | rfl
    · exact absurd rfl hne
    · decide
  · exact hresolves.same_entries _ (.rearranged (List.reverse_perm _).symm
      (List.forall₂_same.2 fun _ _ => ⟨rfl, fun _ => Iff.rfl⟩))

end TierMapping

end ModelGate
