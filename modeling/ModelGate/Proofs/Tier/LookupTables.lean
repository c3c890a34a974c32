import ModelGate.Proofs.Tier.Validation

/-!
# Mappings as lookup tables

A mapping is the list of its entries.  `TierTables` is the same mapping turned over for lookups: the
tiers by their names, the names by their levels, and for each group the tiers that list it, once
each.  The tables are filled in one pass over the entries, group by group.

The pass accepts the same lists as `TierMapping.ofEntries`, refuses the others with the same error,
and the tables that it leaves hold what the entries say (`agrees_ofEntries`).
-/

namespace ModelGate

/-- The tables of a mapping. -/
structure TierTables where
  byName : Std.HashMap String Tier
  nameOfLevel : Std.HashMap Nat String
  byGroup : Std.HashMap String (List Tier)

namespace TierTables

def empty : TierTables :=
  ⟨∅, ∅, ∅⟩

/-- The tiers that list a group. -/
def tiersOf (byGroup : Std.HashMap String (List Tier)) (group : String) : List Tier :=
  byGroup.getD group []

/-- Adds a tier to those of a group, unless it is one of them. -/
def grant (tier : Tier) (byGroup : Std.HashMap String (List Tier)) (group : String) :
    Std.HashMap String (List Tier) :=
  let tiers := tiersOf byGroup group
  if tiers.any (·.name == tier.name) then byGroup else byGroup.insert group (tiers ++ [tier])

/-- Fills in one entry. -/
def add (tables : TierTables) (entry : TierEntry) : Except TierMappingError TierTables :=
  if entry.tier.name = "" then .error .emptyName
  else if tables.byName.contains entry.tier.name then .error (.duplicateName entry.tier.name)
  else
    match tables.nameOfLevel[entry.tier.level]? with
    | some earlier => .error (.duplicateLevel earlier entry.tier.name entry.tier.level)
    | none => .ok {
        byName := tables.byName.insert entry.tier.name entry.tier
        nameOfLevel := tables.nameOfLevel.insert entry.tier.level entry.tier.name
        byGroup := entry.groups.foldl (grant entry.tier) tables.byGroup }

/-- Fills in a list of entries. -/
def ofEntries (entries : List TierEntry) : Except TierMappingError TierTables :=
  entries.foldlM add empty

/-- The tier of the highest level among those of the groups. -/
def resolve (tables : TierTables) (groups : List String) : Option Tier :=
  (groups.flatMap (tiersOf tables.byGroup)).foldl TierMapping.higher none

/-- The tables hold what the entries say. -/
structure Tabulates (tables : TierTables) (entries : List TierEntry) : Prop where
  size_eq : tables.byName.size = entries.length
  byName_eq : ∀ name, tables.byName.contains name = entries.any (·.tier.name == name)
  nameOfLevel_eq : ∀ level,
    tables.nameOfLevel[level]? = (entries.find? (·.tier.level == level)).map (·.tier.name)
  byGroup_eq : ∀ group,
    tiersOf tables.byGroup group = (entries.filter (·.groups.contains group)).map (·.tier)

theorem tabulates_empty : Tabulates empty [] where
  size_eq := by simp [empty]
  byName_eq := by simp [empty]
  nameOfLevel_eq := by simp [empty]
  byGroup_eq := by simp [empty, tiersOf]

/-! ## One entry -/

theorem tiersOf_grant (tier : Tier) (byGroup : Std.HashMap String (List Tier))
    (group other : String) :
    tiersOf (grant tier byGroup group) other =
      if other = group ∧ ∀ t ∈ tiersOf byGroup other, t.name ≠ tier.name then
        tiersOf byGroup other ++ [tier]
      else tiersOf byGroup other := by
  unfold grant
  by_cases hother : other = group
  · subst hother
    by_cases hknown : ∀ t ∈ tiersOf byGroup other, t.name ≠ tier.name
    · have hany : ¬ (tiersOf byGroup other).any (·.name == tier.name) = true := by
        simpa using hknown
      rw [if_neg hany, if_pos ⟨rfl, hknown⟩]
      exact Std.HashMap.getD_insert_self
    · have hany : (tiersOf byGroup other).any (·.name == tier.name) = true := by
        simpa using hknown
      rw [if_pos hany, if_neg fun h => hknown h.2]
  · have hsplit : ¬ (other = group ∧ ∀ t ∈ tiersOf byGroup other, t.name ≠ tier.name) :=
      fun h => hother h.1
    have hbeq : ¬ (group == other) = true := by simpa using Ne.symm hother
    rw [if_neg hsplit]
    dsimp only
    split
    · rfl
    · exact Std.HashMap.getD_insert.trans (if_neg hbeq)

/-- A tier that is new to a group joins it once, however often its entry lists the group. -/
theorem tiersOf_foldl_grant {tier : Tier} {byGroup : Std.HashMap String (List Tier)}
    {group : String} (hnew : ∀ t ∈ tiersOf byGroup group, t.name ≠ tier.name)
    (groups : List String) :
    tiersOf (groups.foldl (grant tier) byGroup) group =
      if groups.contains group then tiersOf byGroup group ++ [tier]
      else tiersOf byGroup group := by
  induction groups using List.reverseRecOn with
  | nil => rfl
  | append_singleton groups last ih =>
      rw [List.foldl_append, List.foldl_cons, List.foldl_nil, tiersOf_grant, ih]
      by_cases hlisted : group ∈ groups
      · -- The tier is there already, so that it is not added again.
        simp [hlisted]
      · have hcontains : ¬ groups.contains group = true := by simpa using hlisted
        rw [if_neg hcontains]
        by_cases hlast : group = last
        · rw [if_pos ⟨hlast, hnew⟩, if_pos (by simp [hlast])]
        · rw [if_neg fun h => hlast h.1, if_neg (by simp [hlisted, hlast])]

/-- What two constructions come to: the same error, or tables that hold what the mapping's entries
say. -/
inductive Agrees : Except TierMappingError TierTables → Except TierMappingError TierMapping → Prop
  | refused (error : TierMappingError) : Agrees (.error error) (.error error)
  | accepted {tables : TierTables} {mapping : TierMapping} (h : tables.Tabulates mapping.entries) :
      Agrees (.ok tables) (.ok mapping)

variable {tables : TierTables} {mapping : TierMapping}

/-- The tables of an entry that is accepted. -/
theorem Tabulates.insert {entries : List TierEntry} {entry : TierEntry}
    (h : tables.Tabulates entries)
    (hname : tables.byName.contains entry.tier.name = false)
    (hlevel : tables.nameOfLevel[entry.tier.level]? = none) :
    Tabulates ⟨tables.byName.insert entry.tier.name entry.tier,
      tables.nameOfLevel.insert entry.tier.level entry.tier.name,
      entry.groups.foldl (grant entry.tier) tables.byGroup⟩ (entries ++ [entry]) where
  size_eq := by
    have hnew : entry.tier.name ∉ tables.byName := by
      rw [← Std.HashMap.contains_iff_mem, hname]
      exact Bool.false_ne_true
    rw [Std.HashMap.size_insert, if_neg hnew, h.size_eq, List.length_append, List.length_singleton]
  byName_eq := by
    intro name
    rw [Std.HashMap.contains_insert, h.byName_eq, List.any_append, Bool.or_comm]
    simp
  nameOfLevel_eq := by
    intro level
    rw [Std.HashMap.getElem?_insert, List.find?_append, List.find?_singleton]
    by_cases hsame : entry.tier.level = level
    · subst hsame
      rw [h.nameOfLevel_eq, Option.map_eq_none_iff] at hlevel
      simp [hlevel]
    · have hbeq : ¬ (entry.tier.level == level) = true := by simpa using hsame
      rw [if_neg hbeq, if_neg hbeq, Option.or_none, h.nameOfLevel_eq]
  byGroup_eq := by
    intro group
    -- The entries before have other names, so the tier is new to every group.
    have hnew : ∀ t ∈ tiersOf tables.byGroup group, t.name ≠ entry.tier.name := by
      rw [h.byGroup_eq]
      intro t ht hsame
      obtain ⟨earlier, hmem, rfl⟩ := List.mem_map.1 ht
      rw [h.byName_eq, ← Bool.not_eq_true, List.any_eq_true] at hname
      exact hname ⟨earlier, (List.mem_filter.1 hmem).1, by simpa using hsame⟩
    rw [tiersOf_foldl_grant hnew, h.byGroup_eq, List.filter_append, List.map_append]
    by_cases hlisted : group ∈ entry.groups
    · simp [hlisted]
    · simp [hlisted]

theorem agrees_add (h : tables.Tabulates mapping.entries) (entry : TierEntry) :
    Agrees (tables.add entry) (mapping.add entry) := by
  have hnames : mapping.tiers.any (·.name == entry.tier.name) =
      tables.byName.contains entry.tier.name := by
    rw [h.byName_eq]
    unfold TierMapping.tiers
    rw [List.any_map]
    rfl
  have hlevels : (mapping.tiers.find? (·.level == entry.tier.level)).map (·.name) =
      tables.nameOfLevel[entry.tier.level]? := by
    rw [h.nameOfLevel_eq]
    unfold TierMapping.tiers
    rw [List.find?_map, Option.map_map]
    rfl
  unfold add TierMapping.add TierMapping.conflict?
  rw [hnames]
  split
  · exact .refused _
  · split
    · exact .refused _
    · next hname =>
        rw [← hlevels]
        cases hfind : mapping.tiers.find? (·.level == entry.tier.level) with
        | some earlier => exact .refused _
        | none =>
            rw [hfind] at hlevels
            exact .accepted (h.insert (by simpa using hname) hlevels.symm)

/-! ## All entries -/

theorem agrees_foldlM (h : tables.Tabulates mapping.entries) (entries : List TierEntry) :
    Agrees (entries.foldlM add tables) (entries.foldlM TierMapping.add mapping) := by
  induction entries generalizing tables mapping with
  | nil => exact .accepted h
  | cons entry rest ih =>
      rw [List.foldlM_cons, List.foldlM_cons]
      have hstep := agrees_add h entry
      generalize tables.add entry = filled at hstep
      generalize mapping.add entry = added at hstep
      cases hstep with
      | refused error => exact .refused error
      | accepted hnext => exact ih hnext

/-- Filling tables comes to the same as collecting entries. -/
theorem agrees_ofEntries (entries : List TierEntry) :
    Agrees (ofEntries entries) (TierMapping.ofEntries entries) :=
  agrees_foldlM tabulates_empty entries

end TierTables

end ModelGate
