import AwsProvider.Cloud.EC2
import Mathlib.Data.List.Sort
import Mathlib.Order.Defs.Unbundled

/-!
# Sorting instances from the newest

`sortInstances` sorts the instances of a machine with `sort.Sort` over `instanceList`, whose
`Less` puts an instance without a launch time before one with, and a later launch time before an
earlier one.

`sort.Sort` is the library's pattern-defeating quicksort. What the code relies on is its contract:
given a `Less` that is a strict weak ordering, the result is a permutation of the input in which
no element is `Less` than one before it (`SortedBy`). The executable model of `sort.Sort` is the
insertion sort it runs on short slices, `insertionSort`, which meets that contract.

## What is proved

* `instanceList.Less` is a strict weak ordering, for every combination of present and absent
  launch times;
* `sortedBy_less_iff`: a list sorted by `instanceList.Less` is one whose instances without a
  launch time come first, followed by the others from the newest to the oldest (`NewestFirst`);
* `sortInstances_newestFirst`: `sortInstances` permutes its input into that order, and so does
  every sort that meets the contract of `sort.Sort`.

## Honest scope

`sort.Sort`'s quicksort is not modelled; its result on more than twelve elements may order
instances with equal launch times differently from `insertionSort`, which `NewestFirst` does not
distinguish. Go's `time.Time` is an instant, an `Int`.
-/

namespace AwsProvider.Machine

open EC2

/-! ### `sort.Sort` -/

section GoSort

variable {α : Type} (less : α → α → Bool)

/-- The contract of `sort.Sort` with `less` as `Less`: no element is less than one before it. -/
def SortedBy (l : List α) : Prop := l.Pairwise fun a b => less b a = false

/-- The inner loop of Go's `insertionSort`, on the sorted prefix kept in reverse: the new element
swaps with the one before it while it is `Less` than it. -/
def insertRev (x : α) : List α → List α
  | [] => [x]
  | y :: ys => if less x y then y :: insertRev x ys else x :: y :: ys

/-- Go's `insertionSort(data, 0, n)`: each element in turn is moved left into the sorted prefix. -/
def insertionSort (l : List α) : List α :=
  (l.foldl (fun acc x => insertRev less x acc) []).reverse

theorem insertRev_perm (x : α) (acc : List α) : (insertRev less x acc).Perm (x :: acc) := by
  induction acc with
  | nil => exact .refl _
  | cons y ys ih =>
    unfold insertRev
    split_ifs
    · exact (ih.cons y).trans (.swap x y ys)
    · exact .refl _

theorem insertionSort_perm (l : List α) : (insertionSort less l).Perm l := by
  suffices ∀ acc : List α,
      (l.foldl (fun acc x => insertRev less x acc) acc).Perm (l.reverse ++ acc) by
    have h := this []
    rw [List.append_nil] at h
    exact ((List.reverse_perm _).trans h).trans (List.reverse_perm l)
  induction l with
  | nil => exact fun _ => .refl _
  | cons x xs ih =>
    intro acc
    refine (ih _).trans ?_
    simpa using ((insertRev_perm less x acc).append_left xs.reverse)

variable {less}
variable (hasymm : ∀ a b, less a b = true → less b a = false)
  (hneg : ∀ a b c, less a b = false → less b c = false → less a c = false)
include hasymm hneg

/-- Inserting keeps the reversed prefix sorted: the elements the new one passed are not less
than it, and it is not less than those it stopped before. -/
theorem insertRev_sorted (x : α) {acc : List α} (hacc : acc.Pairwise fun a b => less a b = false) :
    (insertRev less x acc).Pairwise fun a b => less a b = false := by
  induction acc with
  | nil => exact List.pairwise_singleton _ x
  | cons y ys ih =>
    obtain ⟨hy, hys⟩ := List.pairwise_cons.mp hacc
    unfold insertRev
    split_ifs with hxy
    · refine List.pairwise_cons.mpr ⟨fun z hz => ?_, ih hys⟩
      rcases List.mem_cons.mp ((insertRev_perm less x ys).subset hz) with rfl | hz
      exacts [hasymm _ _ hxy, hy z hz]
    · refine List.pairwise_cons.mpr ⟨fun z hz => ?_, hacc⟩
      rcases List.mem_cons.mp hz with rfl | hz
      exacts [Bool.eq_false_iff.mpr hxy, hneg _ _ _ (Bool.eq_false_iff.mpr hxy) (hy z hz)]

/-- Go's insertion sort meets the contract of `sort.Sort`. -/
theorem insertionSort_sortedBy (l : List α) : SortedBy less (insertionSort less l) := by
  suffices ∀ acc : List α, (acc.Pairwise fun a b => less a b = false) →
      (l.foldl (fun acc x => insertRev less x acc) acc).Pairwise fun a b => less a b = false from
    List.pairwise_reverse.mpr (this [] .nil)
  induction l with
  | nil => exact fun _ h => h
  | cons x xs ih => exact fun acc h => ih _ (insertRev_sorted hasymm hneg x h)

end GoSort

/-! ### `instanceList.Less` -/

/-- `instanceList.Less(i, j)`, on the instances at `i` and `j`: both without a launch time, or
`i` with one and `j` without, is false; `i` without and `j` with is true; else `i` is less when
it was launched after `j`. -/
def instanceList.Less (a b : EC2.Instance) : Bool :=
  match a.launchTime, b.launchTime with
  | none, none => false
  | some _, none => false
  | none, some _ => true
  | some ta, some tb => tb < ta

/-- `sortInstances`: `sort.Sort(instanceList(instances))`. -/
def sortInstances (instances : List EC2.Instance) : List EC2.Instance :=
  insertionSort instanceList.Less instances

theorem instanceList.less_asymm (a b : EC2.Instance) :
    instanceList.Less a b = true → instanceList.Less b a = false := by
  unfold instanceList.Less
  rcases a.launchTime with _ | ta <;> rcases b.launchTime with _ | tb <;> simp
  omega

/-- Not being less is transitive. -/
theorem instanceList.not_less_trans (a b c : EC2.Instance) :
    instanceList.Less a b = false → instanceList.Less b c = false →
      instanceList.Less a c = false := by
  unfold instanceList.Less
  rcases a.launchTime with _ | ta <;> rcases b.launchTime with _ | tb <;>
    rcases c.launchTime with _ | tc <;> simp
  omega

/-- `instanceList.Less` is a strict weak ordering. -/
theorem instanceList.less_strictWeakOrder :
    IsStrictWeakOrder EC2.Instance fun a b => instanceList.Less a b = true where
  irrefl a := by
    unfold instanceList.Less
    rcases a.launchTime with _ | t <;> simp
  trans a b c hab hbc := by
    unfold instanceList.Less at *
    rcases ha : a.launchTime with _ | ta <;> rcases hb : b.launchTime with _ | tb <;>
      rcases hc : c.launchTime with _ | tc <;> simp_all
    omega
  incomp_trans a b c hab hbc := by
    unfold instanceList.Less at *
    rcases ha : a.launchTime with _ | ta <;> rcases hb : b.launchTime with _ | tb <;>
      rcases hc : c.launchTime with _ | tc <;> simp_all
    omega

/-! ### Newest first -/

/-- The instances without a launch time come first, then the others from the newest to the
oldest. -/
def NewestFirst (instances : List EC2.Instance) : Prop :=
  ∃ unlaunched launched, instances = unlaunched ++ launched ∧
    (∀ i ∈ unlaunched, i.launchTime = none) ∧ (∀ i ∈ launched, i.launchTime.isSome) ∧
    (launched.filterMap (·.launchTime)).Sorted (· ≥ ·)

/-- No instance is less than one without a launch time. -/
theorem instanceList.less_unlaunched {a : EC2.Instance} (ha : a.launchTime = none)
    (b : EC2.Instance) : instanceList.Less b a = false := by
  unfold instanceList.Less
  rw [ha]
  cases b.launchTime <;> rfl

/-- An instance is not less than a launched one exactly when it was launched no later. -/
theorem instanceList.less_launched_eq_false {a : EC2.Instance} {ta : Int}
    (ha : a.launchTime = some ta) (b : EC2.Instance) :
    instanceList.Less b a = false ↔ ∃ tb, b.launchTime = some tb ∧ tb ≤ ta := by
  unfold instanceList.Less
  rw [ha]
  cases b.launchTime <;> simp

/-- An instance goes in front of a list in order exactly when no instance of the list is less
than it. -/
theorem newestFirst_cons (a : EC2.Instance) (l : List EC2.Instance) :
    NewestFirst (a :: l) ↔ NewestFirst l ∧ ∀ b ∈ l, instanceList.Less b a = false := by
  cases ha : a.launchTime with
  | none =>
    -- `a` goes at the front of the unlaunched instances
    simp only [instanceList.less_unlaunched ha, implies_true, and_true]
    constructor
    · rintro ⟨_ | ⟨a', u⟩, v, h, hu, hv, hs⟩
      · subst h
        simp [ha] at hv
      · obtain ⟨rfl, rfl⟩ := List.cons.inj h
        exact ⟨u, v, rfl, fun i hi => hu i (List.mem_cons_of_mem _ hi), hv, hs⟩
    · rintro ⟨u, v, rfl, hu, hv, hs⟩
      exact ⟨a :: u, v, rfl, List.forall_mem_cons.mpr ⟨ha, hu⟩, hv, hs⟩
  | some ta =>
    -- `a` is the newest of the launched instances, and there are no others
    simp only [instanceList.less_launched_eq_false ha]
    constructor
    · rintro ⟨_ | ⟨a', u⟩, v, h, hu, hv, hs⟩
      · subst h
        rw [List.filterMap_cons, ha, List.sorted_cons] at hs
        refine ⟨⟨[], l, rfl, by simp, fun i hi => hv i (List.mem_cons_of_mem _ hi), hs.2⟩,
          fun b hb => ?_⟩
        obtain ⟨tb, htb⟩ := Option.isSome_iff_exists.mp (hv b (List.mem_cons_of_mem _ hb))
        exact ⟨tb, htb, hs.1 tb (List.mem_filterMap.mpr ⟨b, hb, htb⟩)⟩
      · obtain ⟨rfl, rfl⟩ := List.cons.inj h
        cases (hu a (List.mem_cons_self _ _)).symm.trans ha
    · rintro ⟨⟨u, v, rfl, hu, hv, hs⟩, hless⟩
      have hu0 : u = [] := List.eq_nil_iff_forall_not_mem.mpr fun b hb => by
        obtain ⟨tb, htb, -⟩ := hless b (List.mem_append_left _ hb)
        cases (hu b hb).symm.trans htb
      subst hu0
      refine ⟨[], a :: v, rfl, by simp, List.forall_mem_cons.mpr ⟨by simp [ha], hv⟩, ?_⟩
      rw [List.filterMap_cons, ha, List.sorted_cons]
      refine ⟨fun t ht => ?_, hs⟩
      obtain ⟨b, hb, htb⟩ := List.mem_filterMap.mp ht
      obtain ⟨tb, htb', hle⟩ := hless b hb
      exact Option.some.inj (htb'.symm.trans htb) ▸ hle

/-- Sorted by `instanceList.Less` is newest first. -/
theorem sortedBy_less_iff (instances : List EC2.Instance) :
    SortedBy instanceList.Less instances ↔ NewestFirst instances := by
  induction instances with
  | nil => exact ⟨fun _ => ⟨[], [], rfl, by simp, by simp, .nil⟩, fun _ => .nil⟩
  | cons a l ih => rw [SortedBy, List.pairwise_cons, ← SortedBy, ih, newestFirst_cons, and_comm]

/-- **Sorting instances.** `instanceList.Less` is a strict weak ordering, for every combination
of present and absent launch times; `sortInstances` permutes every list of instances so that
those without a launch time come first, followed by the others from the newest to the oldest;
and so does every sort that meets the contract of `sort.Sort`. -/
theorem sortInstances_newestFirst :
    IsStrictWeakOrder EC2.Instance (fun a b => instanceList.Less a b = true) ∧
    ∀ instances : List EC2.Instance,
      (sortInstances instances).Perm instances ∧ NewestFirst (sortInstances instances) ∧
      ∀ sorted : List EC2.Instance, sorted.Perm instances →
        SortedBy instanceList.Less sorted → NewestFirst sorted :=
  ⟨instanceList.less_strictWeakOrder, fun instances =>
    ⟨insertionSort_perm _ instances,
      (sortedBy_less_iff _).mp (insertionSort_sortedBy instanceList.less_asymm
        instanceList.not_less_trans instances),
      fun sorted _ h => (sortedBy_less_iff sorted).mp h⟩⟩

end AwsProvider.Machine
