import AwsProvider.Cloud.Prog
import Mathlib.Data.List.AList

/-!
# Fetching the instance types

`fetchEC2InstanceTypes` of the MachineSet controller's instance-type cache pages through
`DescribeInstanceTypes`, handing each page's `NextToken` to the next call, and collects every
instance type by name, through `transformInstanceType`, into a map; an empty map is an error.
The map is an `AList` keyed by the name, and `insert` replaces the entry of a name already there,
as the assignment to a Go map does.

The source loops until a page has no `NextToken`; the model runs at most `fuel` pages, and
returns `none` when the pages have not ended by then.

## What is proved

* `fetchLoop_run`: the loop over the pages a cloud serves is the loop over their entries, one
  after the other (`addInstanceTypes_append`);
* `fetchEC2InstanceTypes_run`: with fuel for the pages, the fetch panics when an entry has no
  name; otherwise it fails when there is no entry; and otherwise it returns the map sending each
  name to the transform of its last entry (`FetchResult`);
* the guard against a nil or empty name never rejects an entry: it panics on a nil name and keeps
  an empty one (`addInstanceTypes_cons_named`).

## Honest scope

The `awsClient == nil` check is not modelled: the model's client always exists. The sums are over
`Int`, without the wrap-around of `int64`. Logging is left out.
-/

namespace AwsProvider.MachineSet

open Go EC2

/-! ### Instance types -/

/-- `InstanceType`: what the cache keeps of an instance type. -/
structure InstanceType where
  /-- `InstanceType`, the name. -/
  instanceType : String
  /-- `VCPU`. -/
  vcpu : Int
  /-- `MemoryMb`. -/
  memoryMb : Int
  /-- `GPU`. -/
  gpu : Int
  deriving DecidableEq, Repr, Inhabited

/-- The `map[string]InstanceType` the fetch fills. -/
abbrev InstanceTypes := AList fun _ : String => InstanceType

/-- `getGpuCount`: the GPUs of every device that gives a count. -/
def getGpuCount (gpuInfo : GpuInfo) : Int :=
  gpuInfo.gpus.foldl (fun gpuCountSum gpu => match gpu.count with
    | some count => gpuCountSum + count
    | none => gpuCountSum) 0

/-- `transformInstanceType`: the name, and the memory, vCPUs and GPUs where the info gives them. -/
def transformInstanceType (rawInstanceType : InstanceTypeInfo) : Outcome InstanceType := do
  let name ← deref "rawInstanceType.InstanceType" rawInstanceType.instanceType
  pure
    { instanceType := name
      memoryMb := match rawInstanceType.memoryInfo with
        | some ⟨some sizeInMiB⟩ => sizeInMiB
        | _ => 0
      vcpu := match rawInstanceType.vCpuInfo with
        | some ⟨some defaultVCpus⟩ => defaultVCpus
        | _ => 0
      gpu := match rawInstanceType.gpuInfo with
        | some gpuInfo => if gpuInfo.gpus ≠ [] then getGpuCount gpuInfo else 0
        | none => 0 }

/-! ### The loops -/

/-- The `for` over the instance types of one page. The guard
`rawInstanceType.InstanceType == nil && *rawInstanceType.InstanceType != ""` evaluates its right
side only when the name is nil, and that side dereferences it. -/
def addInstanceTypes (instanceTypes : InstanceTypes) :
    List InstanceTypeInfo → Outcome InstanceTypes
  | [] => pure instanceTypes
  | rawInstanceType :: rest => do
    let rejected ← (if rawInstanceType.instanceType = none then do
        let name ← deref "rawInstanceType.InstanceType" rawInstanceType.instanceType
        pure (decide (name ≠ ""))
      else pure false : Outcome Bool)
    if rejected then
      .error (.new "describeInstanceTypes returned instance type with nil or empty instance name")
    else do
      let name ← deref "rawInstanceType.InstanceType" rawInstanceType.instanceType
      let instanceType ← transformInstanceType rawInstanceType
      addInstanceTypes (instanceTypes.insert name instanceType) rest

/-- The `for` over the pages, for at most `fuel` pages: `none` when they have not ended. -/
def fetchLoop : Nat → DescribeInstanceTypesInput → InstanceTypes → Prog (Option InstanceTypes)
  | 0, _, _ => pure none
  | fuel + 1, input, instanceTypes => do
    let rawInstanceTypes ← Client.describeInstanceTypes input
    match rawInstanceTypes with
    | .error err => throw (.wrap "describeInstanceTypes request failed: " (.aws err))
    | .ok rawInstanceTypes => do
      let instanceTypes ← Prog.ofOutcome (addInstanceTypes instanceTypes rawInstanceTypes.instanceTypes)
      match rawInstanceTypes.nextToken with
      | none => pure (some instanceTypes)
      | some nextToken => fetchLoop fuel ⟨some nextToken⟩ instanceTypes

/-- `fetchEC2InstanceTypes`: every instance type of every page, by name. -/
def fetchEC2InstanceTypes (fuel : Nat) : Prog (Option InstanceTypes) := do
  let instanceTypes ← fetchLoop fuel ⟨none⟩ ∅
  match instanceTypes with
  | none => pure none
  | some instanceTypes =>
    if instanceTypes.entries = [] then throw (.new "unable to load EC2 Instance Type list")
    else pure (some instanceTypes)

/-! ### The entry loop -/

theorem transformInstanceType_named {e : InstanceTypeInfo} {name : String}
    (hname : e.instanceType = some name) :
    ∃ t, transformInstanceType e = .ok t ∧ t.instanceType = name := by
  simp [transformInstanceType, hname]

/-- An entry with a name is added under it: the guard lets every named entry through, the empty
name included. -/
theorem addInstanceTypes_cons_named (instanceTypes : InstanceTypes) {e : InstanceTypeInfo}
    (rest : List InstanceTypeInfo) {name : String} {t : InstanceType}
    (hname : e.instanceType = some name) (ht : transformInstanceType e = .ok t) :
    addInstanceTypes instanceTypes (e :: rest) = addInstanceTypes (instanceTypes.insert name t) rest := by
  simp [addInstanceTypes, hname, ht]

/-- An entry with no name panics in the guard. -/
theorem addInstanceTypes_cons_unnamed (instanceTypes : InstanceTypes) {e : InstanceTypeInfo}
    (rest : List InstanceTypeInfo) (hname : e.instanceType = none) :
    addInstanceTypes instanceTypes (e :: rest) =
      .panic (.nilPointerDereference "rawInstanceType.InstanceType") := by
  simp [addInstanceTypes, hname]

theorem addInstanceTypes_append (instanceTypes : InstanceTypes) (l r : List InstanceTypeInfo) :
    addInstanceTypes instanceTypes (l ++ r) =
      addInstanceTypes instanceTypes l >>= fun m => addInstanceTypes m r := by
  induction l generalizing instanceTypes with
  | nil => rfl
  | cons e l ih =>
    cases hname : e.instanceType with
    | none => simp [addInstanceTypes_cons_unnamed _ _ hname]
    | some name =>
      obtain ⟨t, ht, -⟩ := transformInstanceType_named hname
      rw [List.cons_append, addInstanceTypes_cons_named _ _ hname ht,
        addInstanceTypes_cons_named _ _ hname ht, ih]

/-- With a nil name anywhere, the loop panics: the entries before it are named and go through. -/
theorem addInstanceTypes_panic (instanceTypes : InstanceTypes) {l : List InstanceTypeInfo}
    (hl : ∃ e ∈ l, e.instanceType = none) :
    addInstanceTypes instanceTypes l = .panic (.nilPointerDereference "rawInstanceType.InstanceType") := by
  induction l generalizing instanceTypes with
  | nil => simp at hl
  | cons e l ih =>
    cases hname : e.instanceType with
    | none => exact addInstanceTypes_cons_unnamed _ _ hname
    | some name =>
      obtain ⟨t, ht, -⟩ := transformInstanceType_named hname
      rw [addInstanceTypes_cons_named _ _ hname ht]
      obtain ⟨e', he', hnone⟩ := hl
      exact ih _ ⟨e', (List.mem_cons.mp he').resolve_left (by rintro rfl; simp_all), hnone⟩

/-- **The entry loop.** With every name present, the loop returns the map that sends each name to
the transform of its last entry, and otherwise agrees with the map it started from; it is empty
only when both were. -/
theorem addInstanceTypes_lookup (instanceTypes : InstanceTypes) {l : List InstanceTypeInfo}
    (hl : ∀ e ∈ l, e.instanceType.isSome) :
    ∃ m, addInstanceTypes instanceTypes l = .ok m ∧
      (∀ k, (m.lookup k).map .ok = ((l.reverse.find? (·.instanceType = some k)).map
        transformInstanceType).or ((instanceTypes.lookup k).map .ok)) ∧
      (m.entries = [] ↔ instanceTypes.entries = [] ∧ l = []) := by
  induction l generalizing instanceTypes with
  | nil => exact ⟨instanceTypes, rfl, fun k => by simp, by simp⟩
  | cons e l ih =>
    obtain ⟨name, hname⟩ := Option.isSome_iff_exists.mp (hl e (List.mem_cons_self _ _))
    obtain ⟨t, ht, -⟩ := transformInstanceType_named hname
    obtain ⟨m, hm, hlookup, hempty⟩ :=
      ih (instanceTypes.insert name t) fun e' he' => hl e' (List.mem_cons_of_mem _ he')
    refine ⟨m, (addInstanceTypes_cons_named _ _ hname ht).trans hm, fun k => ?_, ?_⟩
    · rw [hlookup, List.reverse_cons, List.find?_append]
      cases List.find? (fun x => decide (x.instanceType = some k)) l.reverse
      · by_cases hk : k = name
        · subst hk
          simp [AList.lookup_insert, hname, ht]
        · simp [AList.lookup_insert_ne hk, hname, Ne.symm hk]
      · rfl
    · simp [hempty, AList.insert_entries]

/-! ### The page loop -/

/-- From the history `h`, the cloud serves the pages `pages` to the loop, the first to a call with
the token `token`: each page but the last hands a token to the next call, the last none. -/
inductive ServesPages (cloud : Cloud) :
    List Call → Option String → List DescribeInstanceTypesOutput → Prop
  /-- The last page. -/
  | last {h : List Call} {token : Option String} {page : DescribeInstanceTypesOutput} :
      cloud h (.describeInstanceTypes ⟨token⟩) = .ok page → page.nextToken = none →
      ServesPages cloud h token [page]
  /-- A page with a next token, and the pages after it. -/
  | next {h : List Call} {token : Option String} {page : DescribeInstanceTypesOutput}
      {nextToken : String} {pages : List DescribeInstanceTypesOutput} :
      cloud h (.describeInstanceTypes ⟨token⟩) = .ok page → page.nextToken = some nextToken →
      ServesPages cloud (h ++ [.describeInstanceTypes ⟨token⟩]) (some nextToken) pages →
      ServesPages cloud h token (page :: pages)

variable {cloud : Cloud}

/-- **The page loop.** With fuel for the pages the cloud serves, the loop over the pages is the
entry loop over all their entries, one page after the other. -/
theorem fetchLoop_run {h : List Call} {token : Option String}
    {pages : List DescribeInstanceTypesOutput} (hserve : ServesPages cloud h token pages)
    (fuel : Nat) (hfuel : pages.length ≤ fuel) (instanceTypes : InstanceTypes) :
    ((fetchLoop fuel ⟨token⟩ instanceTypes).run cloud h).1 =
      addInstanceTypes instanceTypes (pages.flatMap (·.instanceTypes)) >>= fun m => .ok (some m) := by
  induction hserve generalizing fuel instanceTypes with
  | last hpage hlast =>
    obtain ⟨fuel, rfl⟩ : ∃ f, fuel = f + 1 := ⟨fuel - 1, by simp at hfuel; omega⟩
    simp only [fetchLoop, Client.describeInstanceTypes, Prog.call_bind, Prog.run_call,
      Prog.pure_bind, hpage, Prog.run_bind, Prog.run_ofOutcome, List.flatMap_cons,
      List.flatMap_nil, List.append_nil]
    cases addInstanceTypes instanceTypes _ <;> simp [hlast]
  | next hpage hnext _ ih =>
    obtain ⟨fuel, rfl⟩ : ∃ f, fuel = f + 1 := ⟨fuel - 1, by simp at hfuel; omega⟩
    simp only [fetchLoop, Client.describeInstanceTypes, Prog.call_bind, Prog.run_call,
      Prog.pure_bind, hpage, Prog.run_bind, Prog.run_ofOutcome, List.flatMap_cons,
      addInstanceTypes_append]
    cases addInstanceTypes instanceTypes _
    · simpa [hnext] using ih fuel (by simpa using hfuel) _
    all_goals rfl

/-- What the fetch of the entries `entries` of every page may give: a panic when an entry has no
name; otherwise an error when there is no entry; otherwise the map that sends each name to the
transform of its last entry. -/
def FetchResult (entries : List InstanceTypeInfo) : Outcome (Option InstanceTypes) → Prop
  | .ok (some m) => (∀ e ∈ entries, e.instanceType.isSome) ∧ entries ≠ [] ∧
      ∀ k, (m.lookup k).map .ok =
        (entries.reverse.find? (·.instanceType = some k)).map transformInstanceType
  | .ok none => False
  | .error err => err = .new "unable to load EC2 Instance Type list" ∧ entries = []
  | .panic p => p = .nilPointerDereference "rawInstanceType.InstanceType" ∧
      ∃ e ∈ entries, e.instanceType = none

/-- **The fetch.** For every cloud that serves a finite sequence of pages, with fuel for them, the
fetch ends as `FetchResult` says of the entries of all the pages. -/
theorem fetchEC2InstanceTypes_run {h : List Call} {pages : List DescribeInstanceTypesOutput}
    (hserve : ServesPages cloud h none pages) (fuel : Nat) (hfuel : pages.length ≤ fuel) :
    FetchResult (pages.flatMap (·.instanceTypes)) ((fetchEC2InstanceTypes fuel).run cloud h).1 := by
  have hloop := fetchLoop_run hserve fuel hfuel ∅
  rw [fetchEC2InstanceTypes, Prog.run_bind]
  generalize (fetchLoop fuel ⟨none⟩ ∅).run cloud h = r at hloop
  obtain ⟨o, log⟩ := r
  obtain rfl : o = _ := hloop
  by_cases hnil : ∃ e ∈ pages.flatMap (·.instanceTypes), e.instanceType = none
  · rw [addInstanceTypes_panic _ hnil]
    exact ⟨rfl, hnil⟩
  have hnamed : ∀ e ∈ pages.flatMap (·.instanceTypes), e.instanceType.isSome := fun e he => by
    cases hname : e.instanceType
    exacts [absurd ⟨e, he, hname⟩ hnil, rfl]
  obtain ⟨m, hm, hlookup, hempty⟩ := addInstanceTypes_lookup ∅ hnamed
  rw [hm]
  by_cases hm0 : m.entries = []
  · simp only [Outcome.ok_bind, Prog.runAfter_ok, hm0, ↓reduceIte, Prog.run_error]
    exact ⟨rfl, (hempty.mp hm0).2⟩
  · simp only [Outcome.ok_bind, Prog.runAfter_ok, hm0, ↓reduceIte, Prog.run_pure]
    refine ⟨hnamed, fun h0 => hm0 (hempty.mpr ⟨rfl, h0⟩), fun k => ?_⟩
    simpa using hlookup k

/-- A cloud that serves one page of instance types, with no next token, and rejects every other
call. -/
def onePageCloud (instanceTypes : List InstanceTypeInfo) : Cloud := fun _ c =>
  match c with
  | .describeInstanceTypes _ => .ok ⟨instanceTypes, none⟩
  | c => Call.failure (.requestFailure "InvalidAction" "The action is not valid." 400 "r-1") c

/-- One page with one instance type, and no next token. -/
def m5LargePage : DescribeInstanceTypesOutput := ⟨[⟨some "m5.large", none, none, none⟩], none⟩

theorem fetchEC2InstanceTypes_run_onePage :
    ServesPages (onePageCloud m5LargePage.instanceTypes) [] none [m5LargePage] ∧
    [m5LargePage].length ≤ 1 ∧
    FetchResult ([m5LargePage].flatMap (·.instanceTypes))
      ((fetchEC2InstanceTypes 1).run (onePageCloud m5LargePage.instanceTypes) []).1 :=
  ⟨.last rfl rfl, le_refl 1,
    @fetchEC2InstanceTypes_run (onePageCloud m5LargePage.instanceTypes) [] [m5LargePage]
      (.last rfl rfl) 1 (le_refl 1)⟩

/-- An entry with no name makes the fetch panic, and an entry named `""` is kept under `""`. -/
theorem fetchEC2InstanceTypes_nil_or_empty_name :
    ((fetchEC2InstanceTypes 1).run (onePageCloud [⟨none, none, none, none⟩]) []).1 =
        .panic (.nilPointerDereference "rawInstanceType.InstanceType") ∧
      ∃ m, ((fetchEC2InstanceTypes 1).run (onePageCloud [⟨some "", none, none, none⟩]) []).1 =
        .ok (some m) ∧ m.lookup "" = some ⟨"", 0, 0, 0⟩ :=
  ⟨rfl, _, rfl, rfl⟩

end AwsProvider.MachineSet
