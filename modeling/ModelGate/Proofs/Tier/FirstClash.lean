import ModelGate.Proofs.Tier.LookupTables

/-!
# What a list of tiers is refused for

A list of entries that is no mapping is refused for its first entry that does not fit behind those
before it.  An entry may clash in several ways at once: a missing name counts before a name that is
taken, and this before a level that is taken (`Clashes`).  The tier that has the level already is
the only one among the earlier entries, since these fit.

`ofEntries_isExact` states the exact answer for every list, and that lookup tables are filled or
refused with the same answer.
-/

namespace ModelGate

namespace TierMapping

variable {mapping : TierMapping} {entries : List TierEntry} {error : TierMappingError}

/-- What is wrong with a tier behind earlier entries. -/
inductive Clashes (earlier : List TierEntry) (tier : Tier) : TierMappingError → Prop
  | unnamed (hname : tier.name = "") : Clashes earlier tier .emptyName
  | sameName (hname : tier.name ≠ "") (h : ∃ entry ∈ earlier, entry.tier.name = tier.name) :
      Clashes earlier tier (.duplicateName tier.name)
  /-- One of the earlier tiers, and no other, has the level. -/
  | sameLevel {other : TierEntry} (hname : tier.name ≠ "")
      (hnames : ∀ entry ∈ earlier, entry.tier.name ≠ tier.name)
      (h : earlier.filter (·.tier.level == tier.level) = [other]) :
      Clashes earlier tier (.duplicateLevel other.tier.name tier.name tier.level)

/-- The first entry that does not fit behind those before it, and what is wrong with it. -/
inductive FirstClash : List TierEntry → TierMappingError → Prop
  | clash {before : List TierEntry} {entry : TierEntry} {error : TierMappingError}
      (hbefore : IsWellFormed before) (h : Clashes before entry.tier error)
      (after : List TierEntry) : FirstClash (before ++ entry :: after) error

/-! ## One entry -/

/-- Among tiers of different levels the first one of a level is the only one. -/
theorem filter_level_of_find? {level : Nat} {other : TierEntry}
    (hlevels : entries.Pairwise fun earlier later => earlier.tier.level ≠ later.tier.level)
    (hfind : entries.find? (·.tier.level == level) = some other) :
    entries.filter (·.tier.level == level) = [other] := by
  obtain ⟨hother, before, after, rfl, hbefore⟩ := List.find?_eq_some_iff_append.1 hfind
  have hlevel : other.tier.level = level := by simpa using hother
  obtain ⟨-, hafter, -⟩ := List.pairwise_append.1 hlevels
  have hearlier : before.filter (·.tier.level == level) = [] :=
    List.filter_eq_nil_iff.2 (by simpa using hbefore)
  have hlater : after.filter (·.tier.level == level) = [] := by
    refine List.filter_eq_nil_iff.2 ?_
    intro later hmem
    have hne := (List.pairwise_cons.1 hafter).1 later hmem
    rw [hlevel] at hne
    simpa using Ne.symm hne
  rw [List.filter_append, hearlier, List.nil_append, List.filter_cons, if_pos hother, hlater]

/-- What keeps a tier from joining a mapping is the first thing that is wrong with it. -/
theorem clashes_of_conflict? {tier : Tier} (hformed : IsWellFormed mapping.entries)
    (h : mapping.conflict? tier = some error) : Clashes mapping.entries tier error := by
  unfold conflict? tiers at h
  split at h
  · next hname =>
      cases h
      exact .unnamed hname
  · next hname =>
      split at h
      · next hany =>
          cases h
          exact .sameName hname (by simpa using hany)
      · next hany =>
          rw [List.find?_map] at h
          obtain ⟨tier', htier', rfl⟩ := Option.map_eq_some_iff.1 h
          obtain ⟨other, hfind, rfl⟩ := Option.map_eq_some_iff.1 htier'
          exact .sameLevel hname (by simpa using hany) (filter_level_of_find? hformed.levels hfind)

theorem Clashes.unique {earlier : List TierEntry} {tier : Tier} {other : TierMappingError}
    (h : Clashes earlier tier error) (hother : Clashes earlier tier other) : error = other := by
  cases h with
  | unnamed hname =>
      cases hother with
      | unnamed => rfl
      | sameName hnamed => exact absurd hname hnamed
      | sameLevel hnamed => exact absurd hname hnamed
  | sameName hnamed hshared =>
      obtain ⟨entry, hmem, hname⟩ := hshared
      cases hother with
      | unnamed hname => exact absurd hname hnamed
      | sameName => rfl
      | sameLevel _ hnames => exact absurd hname (hnames entry hmem)
  | sameLevel hnamed hnames hlevel =>
      cases hother with
      | unnamed hname => exact absurd hname hnamed
      | sameName _ hshared =>
          obtain ⟨entry, hmem, hname⟩ := hshared
          exact absurd hname (hnames entry hmem)
      | sameLevel _ _ hlevel' =>
          rw [hlevel] at hlevel'
          cases hlevel'
          rfl

theorem Clashes.conflict?_ne_none {tier : Tier} (h : Clashes mapping.entries tier error) :
    mapping.conflict? tier ≠ none := by
  rw [ne_eq, conflict?_eq_none_iff]
  rintro ⟨hnamed, hnames, hlevels⟩
  cases h with
  | unnamed hname => exact hnamed hname
  | sameName _ hshared =>
      obtain ⟨entry, hmem, hname⟩ := hshared
      exact hnames entry hmem hname
  | @sameLevel other _ _ hfilter =>
      have hmem : other ∈ mapping.entries.filter (·.tier.level == tier.level) := by simp [hfilter]
      obtain ⟨hother, hlevel⟩ := List.mem_filter.1 hmem
      exact hlevels other hother (by simpa using hlevel)

theorem conflict?_eq_some_iff {tier : Tier} (hformed : IsWellFormed mapping.entries) :
    mapping.conflict? tier = some error ↔ Clashes mapping.entries tier error := by
  constructor
  · exact clashes_of_conflict? hformed
  · intro h
    obtain ⟨found, hfound⟩ := Option.ne_none_iff_exists'.1 h.conflict?_ne_none
    rw [hfound, (clashes_of_conflict? hformed hfound).unique h]

theorem add_eq_error_iff {entry : TierEntry} :
    mapping.add entry = .error error ↔ mapping.conflict? entry.tier = some error := by
  unfold add
  cases mapping.conflict? entry.tier with
  | none => simp
  | some found => simp

/-! ## All entries -/

/-- The first clash of a list is in the entries before the last one, or these fit and it is the
last one's. -/
theorem firstClash_append_singleton_iff {entry : TierEntry} :
    FirstClash (entries ++ [entry]) error ↔
      FirstClash entries error ∨ (IsWellFormed entries ∧ Clashes entries entry.tier error) := by
  constructor
  · intro h
    generalize hlist : entries ++ [entry] = list at h
    cases h with
    | @clash before first _ hbefore h after =>
        cases after using List.reverseRecOn with
        | nil =>
            obtain ⟨rfl, hfirst⟩ := List.append_inj' hlist rfl
            cases hfirst
            exact Or.inr ⟨hbefore, h⟩
        | append_singleton after last =>
            rw [← List.cons_append, ← List.append_assoc] at hlist
            obtain ⟨rfl, -⟩ := List.append_inj' hlist rfl
            exact Or.inl (.clash hbefore h after)
  · rintro (h | ⟨hformed, h⟩)
    · cases h with
      | clash hbefore h after =>
          rw [List.append_assoc, List.cons_append]
          exact .clash hbefore h (after ++ [entry])
    · exact .clash hformed h []

/-- A list is refused for its first clash. -/
theorem ofEntries_eq_error_iff (entries : List TierEntry) (error : TierMappingError) :
    ofEntries entries = .error error ↔ FirstClash entries error := by
  -- As for accepted lists, the induction is from the last entry backwards.
  induction entries using List.reverseRecOn with
  | nil =>
      constructor
      · intro h
        cases h
      · intro h
        generalize hlist : ([] : List TierEntry) = list at h
        cases h with
        | clash hbefore h after => simp at hlist
  | append_singleton entries entry ih =>
      rw [firstClash_append_singleton_iff, ← ih]
      unfold ofEntries
      rw [foldlM_append_singleton_eq_error_iff]
      refine or_congr Iff.rfl ?_
      constructor
      · rintro ⟨mapping, hmapping, hadd⟩
        obtain ⟨hformed, rfl⟩ := (ofEntries_eq_ok_iff entries mapping).1 hmapping
        exact ⟨hformed, (conflict?_eq_some_iff hformed).1 (add_eq_error_iff.1 hadd)⟩
      · rintro ⟨hformed, hclashes⟩
        exact ⟨⟨entries⟩, (ofEntries_eq_ok_iff entries _).2 ⟨hformed, rfl⟩,
          add_eq_error_iff.2 ((conflict?_eq_some_iff hformed).2 hclashes)⟩

/-- The exact answer to a list of entries. -/
structure IsExact (entries : List TierEntry) : Prop where
  accepted_iff : (∃ mapping, ofEntries entries = .ok mapping) ↔ IsWellFormed entries
  /-- Tiers without groups count. -/
  size_eq : ∀ mapping, ofEntries entries = .ok mapping → mapping.size = entries.length
  isEmpty_iff : ∀ mapping, ofEntries entries = .ok mapping →
    (mapping.isEmpty = true ↔ entries = [])
  refused_iff : ∀ error, ofEntries entries = .error error ↔ FirstClash entries error
  /-- Whatever is not accepted is refused for one reason. -/
  accepted_or_refused : IsWellFormed entries ∨ ∃! error, FirstClash entries error
  /-- Lookup tables are filled or refused with the same answer, and hold what the entries say. -/
  tabulated : TierTables.Agrees (TierTables.ofEntries entries) (ofEntries entries)

theorem ofEntries_isExact (entries : List TierEntry) : IsExact entries where
  accepted_iff := by
    constructor
    · rintro ⟨mapping, h⟩
      exact ((ofEntries_eq_ok_iff entries mapping).1 h).1
    · exact fun h => ⟨⟨entries⟩, (ofEntries_eq_ok_iff entries _).2 ⟨h, rfl⟩⟩
  size_eq := by
    intro mapping h
    rw [((ofEntries_eq_ok_iff entries mapping).1 h).2]
    rfl
  isEmpty_iff := by
    intro mapping h
    rw [((ofEntries_eq_ok_iff entries mapping).1 h).2]
    exact List.isEmpty_iff
  refused_iff := ofEntries_eq_error_iff entries
  accepted_or_refused := by
    cases hentries : ofEntries entries with
    | ok mapping => exact Or.inl ((ofEntries_eq_ok_iff entries mapping).1 hentries).1
    | error error =>
        refine Or.inr ⟨error, (ofEntries_eq_error_iff entries error).1 hentries, ?_⟩
        intro other hother
        rw [← ofEntries_eq_error_iff, hentries] at hother
        exact (Except.error.inj hother).symm
  tabulated := TierTables.agrees_ofEntries entries

end TierMapping

end ModelGate
