import AwsProvider.Api.Types
import AwsProvider.Cloud.EC2
import Mathlib.Data.List.Nodup

/-!
# Tag lists

`buildTagList` compiles the tags of an instance (and, in the placement-group controller, of a
placement group) from the spec's tags and the cluster's resource tags: the reserved keys are
dropped, the ownership tag `kubernetes.io/cluster/<cluster ID> = owned` and `Name = <name>` are
appended, and `removeDuplicatedTags` keeps the first entry for each key.

`firstBy` states what keeping the first entry for each key means, independently of the loop
(`firstEntries` is its instance on key-value pairs); `removeDuplicatedTags_keyed` proves the loop
computes it, through the invariant `removeDuplicatedTags_loop_keyed` on the set of keys seen.
`buildTagList_eq` then gives the whole list.
-/

namespace AwsProvider.Machine

open Go Api

/-! ### First element for each key -/

section FirstBy

variable {α β : Type} [DecidableEq β] (key : α → β)

/-- The first element of a list for each key, in the order the keys first occur. -/
def firstBy : List α → List α
  | [] => []
  | a :: as => a :: (firstBy as).filter (key · ≠ key a)

@[simp] theorem firstBy_nil : firstBy key [] = [] := rfl
@[simp] theorem firstBy_cons (a : α) (as : List α) :
    firstBy key (a :: as) = a :: (firstBy key as).filter (key · ≠ key a) := rfl

theorem firstBy_sublist (l : List α) : (firstBy key l).Sublist l := by
  induction l with
  | nil => exact .slnil
  | cons a as ih => exact (List.filter_sublist _ |>.trans ih).cons₂ a

theorem nodup_map_firstBy (l : List α) : ((firstBy key l).map key).Nodup := by
  induction l with
  | nil => exact .nil
  | cons a as ih =>
    exact List.nodup_cons.mpr ⟨by simp [List.mem_filter], ih.sublist ((List.filter_sublist _).map _)⟩

/-- Every key of `l` keeps an element. -/
theorem mem_map_firstBy {l : List α} {k : β} (hk : k ∈ l.map key) : k ∈ (firstBy key l).map key := by
  induction l with
  | nil => simp at hk
  | cons a as ih =>
    by_cases hka : k = key a
    · exact hka ▸ List.mem_map_of_mem key (List.mem_cons_self _ _)
    · obtain ⟨b, hb, rfl⟩ := List.mem_map.mp (ih (by simpa [hka] using hk))
      exact List.mem_map.mpr ⟨b, by simp [List.mem_filter, hb, hka], rfl⟩

/-- Every kept element is the first of `l` with its key. -/
theorem find?_of_mem_firstBy {l : List α} {a : α} (h : a ∈ firstBy key l) :
    l.find? (key · = key a) = some a := by
  induction l with
  | nil => simp at h
  | cons b bs ih =>
    simp only [firstBy_cons, List.mem_cons, List.mem_filter] at h
    rcases h with rfl | ⟨hm, hne⟩
    · simp
    · have hne : key b ≠ key a := Ne.symm (of_decide_eq_true hne)
      rw [List.find?_cons_of_neg _ (by simpa using hne)]
      exact ih hm

/-- A list whose keys are pairwise distinct keeps all its elements. -/
theorem firstBy_eq_self {l : List α} (h : (l.map key).Nodup) : firstBy key l = l := by
  induction l with
  | nil => rfl
  | cons a as ih =>
    obtain ⟨ha, has⟩ := List.nodup_cons.mp (List.map_cons key a as ▸ h)
    rw [firstBy_cons, ih has, List.filter_eq_self.mpr]
    exact fun b hb => decide_eq_true fun heq => ha (heq ▸ List.mem_map_of_mem key hb)

theorem firstBy_idem (l : List α) : firstBy key (firstBy key l) = firstBy key l :=
  firstBy_eq_self key (nodup_map_firstBy key l)

/-- Keys read through a map. -/
theorem firstBy_map {γ : Type} (f : γ → α) (l : List γ) :
    firstBy key (l.map f) = (firstBy (key ∘ f) l).map f := by
  induction l with
  | nil => rfl
  | cons a as ih => simp only [List.map_cons, firstBy_cons, ih, List.filter_map, Function.comp_def]

/-- Keys told apart by an injective function keep the same elements. -/
theorem firstBy_comp {γ : Type} [DecidableEq γ] {g : β → γ} (hg : Function.Injective g)
    (l : List α) : firstBy (g ∘ key) l = firstBy key l := by
  induction l with
  | nil => rfl
  | cons a as ih => simp only [firstBy_cons, ih, Function.comp_apply, hg.ne_iff]

end FirstBy

/-! ### First entry for each key -/

/-- The first entry of `l` for each key, in the order the keys first occur. -/
def firstEntries : List (String × String) → List (String × String)
  | [] => []
  | p :: ps => p :: (firstEntries ps).filter (·.1 ≠ p.1)

@[simp] theorem firstEntries_nil : firstEntries [] = [] := rfl
@[simp] theorem firstEntries_cons (p : String × String) (ps : List (String × String)) :
    firstEntries (p :: ps) = p :: (firstEntries ps).filter (·.1 ≠ p.1) := rfl

theorem firstEntries_eq_firstBy (l : List (String × String)) :
    firstEntries l = firstBy Prod.fst l := by
  induction l with
  | nil => rfl
  | cons p ps ih => rw [firstEntries_cons, firstBy_cons, ih]

theorem firstEntries_sublist (l : List (String × String)) : (firstEntries l).Sublist l :=
  firstEntries_eq_firstBy l ▸ firstBy_sublist _ l

theorem nodup_keys_firstEntries (l : List (String × String)) :
    ((firstEntries l).map (·.1)).Nodup :=
  firstEntries_eq_firstBy l ▸ nodup_map_firstBy _ l

/-- Every key of `l` keeps an entry. -/
theorem mem_keys_firstEntries {l : List (String × String)} {k : String} (hk : k ∈ l.map (·.1)) :
    k ∈ (firstEntries l).map (·.1) :=
  firstEntries_eq_firstBy l ▸ mem_map_firstBy _ hk

/-- Every kept entry is the first entry of `l` with its key. -/
theorem lookup_of_mem_firstEntries {l : List (String × String)} {kv : String × String}
    (h : kv ∈ firstEntries l) : l.lookup kv.1 = some kv.2 := by
  induction l with
  | nil => simp [firstEntries] at h
  | cons p ps ih =>
    obtain ⟨k, v⟩ := p
    simp only [firstEntries, List.mem_cons, List.mem_filter] at h
    rcases h with rfl | ⟨hm, hne⟩
    · exact List.lookup_cons_self
    · have hne : kv.1 ≠ k := by simpa using hne
      rw [List.lookup_cons, beq_false_of_ne hne]
      exact ih hm

/-! ### `removeDuplicatedTags` -/

/-- `removeDuplicatedTags`: scan the tags and keep the first one for each key. `m` is the set of
keys seen (a `map[string]bool` in the source), `result` the tags kept so far. -/
def removeDuplicatedTags (tags : List EC2.Tag) : Outcome (List EC2.Tag) :=
  loop [] [] tags
where
  /-- The `for` loop over the tags. -/
  loop (m : List String) (result : List EC2.Tag) : List EC2.Tag → Outcome (List EC2.Tag)
    | [] => .ok result
    | entry :: rest => do
      let key ← deref "entry.Key" entry.key
      if key ∈ m then loop m result rest else loop (key :: m) (result ++ [entry]) rest

/-- The tag with key and value set from a pair. -/
def tagOf (p : String × String) : EC2.Tag := ⟨some p.1, some p.2⟩

/-- On tags whose keys are all set, the loop keeps, after the keys `m`, the first tag for each
key not in `m`. -/
theorem removeDuplicatedTags_loop_keyed (m : List String) (result : List EC2.Tag)
    (tags : List EC2.Tag) (hkeys : ∀ t ∈ tags, t.key.isSome) :
    removeDuplicatedTags.loop m result tags =
      .ok (result ++ (firstBy (·.key) tags).filter (·.key ∉ m.map some)) := by
  induction tags generalizing m result with
  | nil => simp [removeDuplicatedTags.loop]
  | cons t ts ih =>
    obtain ⟨k, hk⟩ := Option.isSome_iff_exists.mp (hkeys t (List.mem_cons_self _ _))
    have ih := fun m result => ih m result fun u hu => hkeys u (List.mem_cons_of_mem _ hu)
    simp only [removeDuplicatedTags.loop, hk, deref_some, Outcome.ok_bind, firstBy_cons,
      List.filter_cons, List.filter_filter]
    by_cases hkm : k ∈ m
    · simp only [if_pos hkm, ih, List.mem_map, Option.some.injEq, exists_eq_right, hkm,
        not_true_eq_false, decide_False, Bool.false_eq_true, ↓reduceIte]
      congr 3
      funext u
      by_cases hu : u.key = some k <;> simp [hu, hkm]
    · simp only [if_neg hkm, ih, List.mem_map, Option.some.injEq, exists_eq_right, hkm,
        not_false_eq_true, decide_True, ↓reduceIte, List.append_assoc, List.singleton_append]
      congr 3
      exact List.filter_congr fun u _ => by
        rcases eq_or_ne u.key (some k) with hu | hu
        · simp [hu]
        · simp [hu, hu.symm]

/-- On tags whose keys are all set, `removeDuplicatedTags` keeps the first tag for each key. -/
theorem removeDuplicatedTags_keyed (tags : List EC2.Tag) (hkeys : ∀ t ∈ tags, t.key.isSome) :
    removeDuplicatedTags tags = .ok (firstBy (·.key) tags) := by
  simp [removeDuplicatedTags, removeDuplicatedTags_loop_keyed [] [] tags hkeys]

/-- On tags built from pairs, `removeDuplicatedTags` keeps the first entry for each key. -/
theorem removeDuplicatedTags_ofPairs (l : List (String × String)) :
    removeDuplicatedTags (l.map tagOf) = .ok ((firstEntries l).map tagOf) := by
  rw [removeDuplicatedTags_keyed _ fun t ht => by obtain ⟨p, -, rfl⟩ := List.mem_map.mp ht; rfl,
    firstBy_map, firstEntries_eq_firstBy]
  exact congrArg (fun l => Outcome.ok (l.map tagOf))
    (firstBy_comp Prod.fst (Option.some_injective String) l)

theorem firstEntries_append (l r : List (String × String)) :
    firstEntries (l ++ r) = firstEntries l ++ (firstEntries r).filter (·.1 ∉ l.map (·.1)) := by
  induction l with
  | nil => simp
  | cons p ps ih =>
    rw [List.cons_append, firstEntries_cons, ih, firstEntries_cons, List.filter_append,
      List.filter_filter, List.cons_append]
    congr 2
    exact List.filter_congr fun q _ => by by_cases q.1 = p.1 <;> simp [*]

/-- Two entries with distinct keys that `l` does not use are kept after `l`'s. -/
theorem firstEntries_append_fresh (l : List (String × String)) (a b : String × String)
    (hab : a.1 ≠ b.1) (ha : a.1 ∉ l.map (·.1)) (hb : b.1 ∉ l.map (·.1)) :
    firstEntries (l ++ [a, b]) = firstEntries l ++ [a, b] := by
  rw [firstEntries_append]
  simp [ha, hb, hab.symm]

/-! ### `buildTagList` -/

/-- `mergeInfrastructureAndMachineSpecTags`: the spec's tags, then the cluster's resource tags
when the Infrastructure object carries them. -/
def mergeInfrastructureAndMachineSpecTags (machineSpecTags : List TagSpecification)
    (infra : Option Infrastructure) : List TagSpecification :=
  match infraResourceTags infra with
  | none => machineSpecTags
  | some resourceTags => machineSpecTags ++ resourceTags.map fun tag => ⟨tag.key, tag.value⟩

/-- The body `buildTagList` shares with the placement-group controller's
`buildPlacementGroupTagList`: the merged tags without reserved keys, then the ownership tag and
the name tag, deduplicated. -/
def ownedTagList (name clusterID : String) (mergedTags : List TagSpecification) :
    Outcome (List EC2.Tag) :=
  removeDuplicatedTags
    (((mergedTags.filter fun tag => !hasPrefix tag.name "kubernetes.io/cluster/" && tag.name != "Name").map
        fun tag => ⟨some tag.name, some tag.value⟩) ++
      [⟨some ("kubernetes.io/cluster/" ++ clusterID), some "owned"⟩, ⟨some "Name", some name⟩])

/-- `buildTagList`: the tags of an instance and of its volumes. -/
def buildTagList (machineName clusterID : String) (machineTags : List TagSpecification)
    (infra : Option Infrastructure) : Outcome (List EC2.Tag) :=
  ownedTagList machineName clusterID (mergeInfrastructureAndMachineSpecTags machineTags infra)

/-- A key the user may not set: `Name`, or one starting with `kubernetes.io/cluster/`. -/
def isReservedKey (key : String) : Bool := hasPrefix key "kubernetes.io/cluster/" || key == "Name"

/-- The ownership tag of a cluster. -/
def ownershipTag (clusterID : String) : String × String :=
  ("kubernetes.io/cluster/" ++ clusterID, "owned")

theorem isReservedKey_ownershipTag (clusterID : String) :
    isReservedKey (ownershipTag clusterID).1 = true := by
  simp [isReservedKey, ownershipTag, hasPrefix_append]

theorem isReservedKey_name : isReservedKey "Name" = true := by simp [isReservedKey]

theorem ownershipTag_key_ne_name (clusterID : String) : (ownershipTag clusterID).1 ≠ "Name" :=
  fun h => by
    have hpre := hasPrefix_append "kubernetes.io/cluster/" clusterID
    rw [show "kubernetes.io/cluster/" ++ clusterID = "Name" from h] at hpre
    exact absurd hpre (by decide)

/-- The user's tags of a merged list, as pairs. -/
def userPairs (tags : List TagSpecification) : List (String × String) :=
  (tags.map fun t => (t.name, t.value)).filter fun kv => !isReservedKey kv.1

theorem isReservedKey_of_mem_userPairs {tags : List TagSpecification} {k : String}
    (hk : k ∈ (userPairs tags).map (·.1)) : isReservedKey k = false := by
  obtain ⟨kv, hkv, rfl⟩ := List.mem_map.mp hk
  simpa using (List.mem_filter.mp hkv).2

theorem ownedTagList_eq (name clusterID : String) (tags : List TagSpecification) :
    ownedTagList name clusterID tags =
      .ok ((firstEntries (userPairs tags)).map tagOf ++
        [tagOf (ownershipTag clusterID), tagOf ("Name", name)]) := by
  have hraw : ((tags.filter fun tag => !hasPrefix tag.name "kubernetes.io/cluster/" &&
        tag.name != "Name").map fun tag => (⟨some tag.name, some tag.value⟩ : EC2.Tag)) ++
      [⟨some ("kubernetes.io/cluster/" ++ clusterID), some "owned"⟩, ⟨some "Name", some name⟩] =
      (userPairs tags ++ [ownershipTag clusterID, ("Name", name)]).map tagOf := by
    simp [userPairs, List.filter_map, Function.comp_def, isReservedKey, tagOf, ownershipTag, bne]
  have hfresh : ∀ k, isReservedKey k = true → k ∉ (userPairs tags).map (·.1) :=
    fun k hk hmem => by simp [isReservedKey_of_mem_userPairs hmem] at hk
  have hne := ownershipTag_key_ne_name clusterID
  rw [ownedTagList, hraw, removeDuplicatedTags_ofPairs,
    firstEntries_append_fresh _ _ _ hne (hfresh _ (isReservedKey_ownershipTag clusterID))
      (hfresh _ isReservedKey_name)]
  simp

/-- The keys of the list `ownedTagList` builds are pairwise distinct. -/
theorem ownedTagList_keys_nodup (name clusterID : String) (tags : List TagSpecification) :
    (((firstEntries (userPairs tags)).map tagOf ++
      [tagOf (ownershipTag clusterID), tagOf ("Name", name)]).map (·.key)).Nodup := by
  have hkeys : ∀ k, isReservedKey k = true → k ∉ (firstEntries (userPairs tags)).map (·.1) :=
    fun k hk hmem => by
      simp [isReservedKey_of_mem_userPairs (((firstEntries_sublist _).map _).subset hmem)] at hk
  have hne := ownershipTag_key_ne_name clusterID
  have hbody : ((firstEntries (userPairs tags)).map tagOf).map (·.key) =
      ((firstEntries (userPairs tags)).map (·.1)).map some := by
    simp [tagOf, Function.comp_def]
  have htail : [tagOf (ownershipTag clusterID), tagOf ("Name", name)].map (·.key) =
      [some (ownershipTag clusterID).1, some "Name"] := rfl
  rw [List.map_append, hbody, htail, List.nodup_append]
  refine ⟨(nodup_keys_firstEntries _).map (Option.some_injective _), by simp [hne], ?_⟩
  intro x hx hx'
  obtain ⟨k, hk, rfl⟩ := List.mem_map.mp hx
  simp only [List.mem_cons, List.mem_singleton, Option.some.injEq, List.not_mem_nil,
    or_false] at hx'
  rcases hx' with rfl | rfl
  exacts [hkeys _ (isReservedKey_ownershipTag clusterID) hk, hkeys _ isReservedKey_name hk]

theorem mergeInfrastructureAndMachineSpecTags_eq (tags : List TagSpecification)
    (infra : Option Infrastructure) :
    mergeInfrastructureAndMachineSpecTags tags infra =
      tags ++ ((infraResourceTags infra).getD []).map fun t => ⟨t.key, t.value⟩ := by
  unfold mergeInfrastructureAndMachineSpecTags
  split <;> simp_all

/-- **The tag list.** The first entry for each user key, spec tags before the cluster's, then the
ownership tag and the name tag. -/
theorem buildTagList_eq (machineName clusterID : String) (tags : List TagSpecification)
    (infra : Option Infrastructure) :
    buildTagList machineName clusterID tags infra =
      .ok ((firstEntries (userPairs (tags ++ ((infraResourceTags infra).getD []).map
          fun t => ⟨t.key, t.value⟩))).map tagOf ++
        [tagOf (ownershipTag clusterID), tagOf ("Name", machineName)]) := by
  rw [buildTagList, mergeInfrastructureAndMachineSpecTags_eq, ownedTagList_eq]

end AwsProvider.Machine
