import ModelGate.Proofs.Text.ByteOrder
import ModelGate.Proofs.Tier.Eviction

/-!
# One key for one identity

The key of an identity is the only strictly ascending list of its groups (`eq_ofGroups_groups`).
However the groups were listed, they have the same key, and other groups have another one
(`ofGroups_eq_iff`).  Sorting the groups and dropping equal neighbours gives the same list.

The cache only ever looks at the entry of the key that it is asked for.  So the answer does not depend
on the entries of other identities, and what a resolution does to those is to drop them at most
(`find?_resolve_of_ne`).  In a whole run it makes no difference how the groups of an identity are listed
(`map_onCache_eq`).
-/

namespace ModelGate

/-- The lists name the same groups, in whatever order and however often. -/
def SameGroups (groups groups' : List String) : Prop :=
  ∀ g, g ∈ groups ↔ g ∈ groups'

variable {groups groups' : List String}

/-! ## Keys -/

theorem pairwise_insertGroup (group : String) (h : groups.Pairwise (· < ·)) :
    (insertGroup group groups).Pairwise (· < ·) := by
  induction groups with
  | nil => exact List.pairwise_singleton _ _
  | cons other rest ih =>
      obtain ⟨hfirst, hrest⟩ := List.pairwise_cons.1 h
      unfold insertGroup
      by_cases hlt : group < other
      · rw [if_pos hlt]
        refine List.pairwise_cons.2 ⟨fun g hg => ?_, h⟩
        rcases List.mem_cons.1 hg with rfl | hg
        · exact hlt
        · exact hlt.trans (hfirst g hg)
      · rw [if_neg hlt]
        by_cases heq : group = other
        · rw [if_pos heq]
          exact h
        · rw [if_neg heq]
          refine List.pairwise_cons.2 ⟨fun g hg => ?_, ih hrest⟩
          rcases (mem_insertGroup_iff group g rest).1 hg with rfl | hg
          · exact lt_of_le_of_ne (not_lt.1 hlt) (Ne.symm heq)
          · exact hfirst g hg

namespace GroupKey

theorem pairwise_ofGroups (groups : List String) : (ofGroups groups).groups.Pairwise (· < ·) := by
  unfold ofGroups
  induction groups with
  | nil => exact List.Pairwise.nil
  | cons group rest ih => exact pairwise_insertGroup group ih

/-- No other ascending list has the same groups. -/
theorem eq_ofGroups_groups (hascending : groups'.Pairwise (· < ·)) (h : SameGroups groups' groups) :
    groups' = (ofGroups groups).groups :=
  hascending.eq_of_mem_iff (pairwise_ofGroups groups) fun g =>
    (h g).trans (mem_ofGroups_iff g groups).symm

theorem ofGroups_eq_iff : ofGroups groups = ofGroups groups' ↔ SameGroups groups groups' := by
  constructor
  · intro h g
    rw [← mem_ofGroups_iff g groups, h, mem_ofGroups_iff]
  · intro h
    have hgroups : (ofGroups groups).groups = (ofGroups groups').groups :=
      eq_ofGroups_groups (pairwise_ofGroups groups) fun g => (mem_ofGroups_iff g groups).trans (h g)
    exact congrArg GroupKey.mk hgroups

/-! ## Sorting and dropping repetitions -/

theorem mem_destutter'_iff (g group : String) (groups : List String) :
    g ∈ groups.destutter' (· ≠ ·) group ↔ g = group ∨ g ∈ groups := by
  induction groups generalizing group with
  | nil => simp
  | cons other rest ih =>
      rw [List.destutter'_cons]
      by_cases hne : group ≠ other
      · rw [if_pos hne, List.mem_cons, ih, List.mem_cons]
      · obtain rfl := not_not.1 hne
        rw [if_neg hne, ih, List.mem_cons, or_self_left]

theorem pairwise_destutter' {group : String} (h : (group :: groups).Pairwise (· ≤ ·)) :
    (groups.destutter' (· ≠ ·) group).Pairwise (· < ·) := by
  -- The group in hand is the last one kept, and none of those to come is below it.
  induction groups generalizing group with
  | nil => exact List.pairwise_singleton _ _
  | cons other rest ih =>
      obtain ⟨hfirst, hrest⟩ := List.pairwise_cons.1 h
      rw [List.destutter'_cons]
      by_cases hne : group ≠ other
      · rw [if_pos hne]
        refine List.pairwise_cons.2 ⟨fun g hg => ?_, ih hrest⟩
        have hlt : group < other := lt_of_le_of_ne (hfirst other List.mem_cons_self) hne
        rcases (mem_destutter'_iff g other rest).1 hg with rfl | hg
        · exact hlt
        · exact hlt.trans_le ((List.pairwise_cons.1 hrest).1 g hg)
      · rw [if_neg hne]
        refine ih (List.pairwise_cons.2 ⟨fun g hg => ?_, (List.pairwise_cons.1 hrest).2⟩)
        exact hfirst g (List.mem_cons_of_mem _ hg)

/-- The key is also found by sorting the groups and keeping the first one of equal neighbours. -/
theorem groups_ofGroups_eq_destutter (groups : List String) :
    (ofGroups groups).groups =
      (groups.mergeSort fun a b => decide (a ≤ b)).destutter (· ≠ ·) := by
  have hsorted : (groups.mergeSort fun a b => decide (a ≤ b)).Pairwise (· ≤ ·) := by
    have hpairwise := @List.pairwise_mergeSort String (fun a b => decide (a ≤ b))
      (by simpa using fun _ _ _ => le_trans) (by simpa using le_total) groups
    simpa using hpairwise
  have hmem (g : String) : g ∈ (groups.mergeSort fun a b => decide (a ≤ b)) ↔ g ∈ groups :=
    (List.mergeSort_perm _ _).mem_iff
  symm
  cases hlist : groups.mergeSort fun a b => decide (a ≤ b) with
  | nil =>
      refine eq_ofGroups_groups List.Pairwise.nil fun g => ?_
      rw [← hmem g, hlist]
      exact Iff.rfl
  | cons group rest =>
      rw [hlist] at hsorted
      refine eq_ofGroups_groups (pairwise_destutter' hsorted) fun g => ?_
      rw [← hmem g, hlist, List.mem_cons]
      exact mem_destutter'_iff g group rest

end GroupKey

/-! ## Entries of different identities -/

namespace TierCache

variable {cache cache' : TierCache} {mapping : TierMapping} {now : Duration} {key key' : GroupKey}

theorem find?_put_of_ne {entry : CachedTier} (h : entry.key ≠ key) (entries : List CachedTier) :
    (put entry entries).find? (·.key == key) = entries.find? (·.key == key) := by
  induction entries with
  | nil => simp [put, h]
  | cons other rest ih =>
      unfold put
      by_cases hkey : other.key = entry.key
      · rw [if_pos hkey, List.find?_cons_of_neg (by simpa using h),
          List.find?_cons_of_neg (by simpa [hkey] using h)]
      · rw [if_neg hkey, List.find?_cons, List.find?_cons, ih]

/-- Of what is kept of a cache, an identity has the entry that it had, or none. -/
theorem IsKept.find?_of_sublist (h : cache.IsKept) {kept : List CachedTier}
    (hsublist : kept.Sublist cache.entries) (key : GroupKey) :
    kept.find? (·.key == key) = cache.find? key ∨ kept.find? (·.key == key) = none := by
  cases hfound : kept.find? (·.key == key) with
  | none => exact Or.inr rfl
  | some entry =>
      have hkey : entry.key = key := by simpa using List.find?_some hfound
      have hmem : entry ∈ cache.entries := hsublist.subset (List.mem_of_find?_eq_some hfound)
      refine Or.inl ?_
      cases hformer : cache.find? key with
      | none => exact absurd hkey (find?_eq_none_iff.1 hformer entry hmem)
      | some former =>
          have hformerKey : former.key = key := by simpa using List.find?_some hformer
          rw [List.inj_on_of_nodup_map h.nodup (List.mem_of_find?_eq_some hformer) hmem
            (hformerKey.trans hkey.symm)]

/-- The resolution of an identity keeps the entry of another one, or drops it. -/
theorem IsKept.find?_resolve_of_ne (h : cache.IsKept) (hne : key ≠ key') :
    (cache.resolve mapping now key).2.find? key' = cache.find? key' ∨
      (cache.resolve mapping now key).2.find? key' = none := by
  cases hfresh : cache.fresh? key now with
  | some entry =>
      rw [resolve_of_fresh hfresh]
      exact Or.inl rfl
  | none =>
      have hkept := h.find?_of_sublist (h.makesRoom key now).sublist key'
      rw [resolve_of_stale hfresh]
      cases expiry? now cache.ttl with
      | none => exact hkept
      | some expiresAt =>
          change (put _ _).find? _ = _ ∨ (put _ _).find? _ = _
          rw [find?_put_of_ne hne]
          exact hkept

/-- The answer depends on no other entry than that of the identity. -/
theorem answer_resolve_congr (httl : cache'.ttl = cache.ttl)
    (hfind : cache'.find? key = cache.find? key) :
    (cache'.resolve mapping now key).1 = (cache.resolve mapping now key).1 := by
  have hsame : cache'.fresh? key now = cache.fresh? key now := by
    unfold fresh?
    rw [hfind]
  cases hfresh : cache.fresh? key now with
  | some entry => rw [resolve_of_fresh hfresh, resolve_of_fresh (hsame.trans hfresh)]
  | none =>
      rw [resolve_of_stale hfresh, resolve_of_stale (hsame.trans hfresh), httl]
      cases expiry? now cache.ttl <;> rfl

end TierCache

/-! ## Runs -/

/-- What happens to a cache that is asked for identities by lists of their groups. -/
inductive LookupEvent where
  | asked (groups : List String)
  | waited (span : Duration)
  | replaced (mapping : TierMapping)

namespace LookupEvent

/-- The event as the cache sees it. -/
def onCache : LookupEvent → CacheEvent
  | asked groups => .resolved (.ofGroups groups)
  | waited span => .waited span
  | replaced mapping => .replaced mapping

/-- The second event is the first one, or it asks for the same groups in its place. -/
inductive Regrouped : LookupEvent → LookupEvent → Prop
  | refl (e : LookupEvent) : Regrouped e e
  | asked {groups groups' : List String} (hsame : SameGroups groups groups') :
      Regrouped (.asked groups) (.asked groups')

theorem Regrouped.onCache_eq {e e' : LookupEvent} (h : Regrouped e e') : e'.onCache = e.onCache := by
  cases h with
  | refl => rfl
  | asked hsame => exact congrArg CacheEvent.resolved (GroupKey.ofGroups_eq_iff.2 hsame).symm

/-- The cache sees the same events. -/
theorem map_onCache_eq {events events' : List LookupEvent}
    (h : List.Forall₂ Regrouped events events') :
    events'.map onCache = events.map onCache := by
  induction h with
  | nil => rfl
  | cons hfirst hrest ih => rw [List.map_cons, List.map_cons, hfirst.onCache_eq, ih]

end LookupEvent

namespace CachedMapping

/-- The answer to an event, if it is a question. -/
def answer? (s : CachedMapping) : CacheEvent → Option (Except ExpiryError (Option Tier))
  | .resolved key => some (s.cache.resolve s.mapping s.now key).1
  | .waited _ | .replaced _ => none

/-- The answers to some events, each with how many identities are in the cache behind it. -/
def history (s : CachedMapping) :
    List CacheEvent → List (Option (Except ExpiryError (Option Tier)) × Nat)
  | [] => []
  | e :: rest => (s.answer? e, (s.step e).cache.size) :: (s.step e).history rest

end CachedMapping

end ModelGate
