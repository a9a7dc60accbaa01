import AwsProvider.MachineSet.InstanceTypes

/-!
# The instance-type cache

The MachineSet controller reads the vCPUs, memory and GPUs of an instance type from
`instanceTypesCache`, which keeps, per `cacheID` (the region), the instance types that
`fetchEC2InstanceTypes` returned and when. Reconciles run concurrently, and the cache is shared
behind a `sync.RWMutex`:

* `GetInstanceType` checks, under the read lock, that the region's entry is fresh (fetched in the
  last 24 hours); if it is, it looks the type up under the same read lock;
* otherwise it releases the read lock and calls `refresh`, which takes the write lock, checks
  freshness again ("another thread has already refreshed the cache"), and only then fetches and
  stores what it fetched, with `time.Now()`;
* after a refresh it takes the read lock again and looks the type up.

A call is thus a sequence of critical sections, and calls interleave between them. The model
runs any number of calls on one cache, one section per turn (`World.step`), in any order the
scheduler picks (`interleave`): a turn is atomic because each section holds the lock the code
holds for it. A ghost log records each fetch, with the instants of its check and of its store.

## What is proved

* `interleave_cache`: in every interleaving the cache holds, for each region, the latest
  successful fetch of the log (`cacheOf`);
* `interleave_fetches_apart`: in every interleaving in which a refresh stores no earlier than it
  checked, a fetch for a region comes at least 24 hours after every successful fetch for it
  before: the double check under the write lock keeps calls that all found the cache stale from
  fetching again;
* `interleave_answers_explained`: in every interleaving, every call that returned returned an
  instance type fetched for its own region, the error of a failed fetch for its own region,
  wrapped twice, the panic of such a fetch, or the not-found error (`Explained`).

## Honest scope

A refresh is given what `fetchEC2InstanceTypes` returns as the turn's `fetched`, an outcome
of its client's cloud that `fetchEC2InstanceTypes_run` describes; each statement is over every
such outcome. The lock operations themselves and the waiting on them are not modelled: a turn is
the scheduler letting one call run its next section. The valid names in the not-found error are
listed in the map's entry order, where Go's `range` order is random; the statements only say
that such an error names the type. A panic is the call's outcome, and the deferred `Unlock`
releases the write lock, so it leaves the cache as it was. Logging is left out.
-/

namespace AwsProvider.MachineSet

open Go

/-! ### The cache -/

/-- `time.Hour`, in nanoseconds. -/
def timeHour : Int := 3600000000000

/-- `instanceTypesRegion`: a region's instance types, a nil map when absent, and when they were
stored. -/
structure InstanceTypesRegion where
  /-- `instanceTypes`. -/
  instanceTypes : Option InstanceTypes
  /-- `lastUpdate`, in nanoseconds. -/
  lastUpdate : Int

/-- `instanceTypesCache`: the `cache` map, none for a region with no entry. -/
structure InstanceTypesCache where
  /-- `cache`. -/
  cache : String → Option InstanceTypesRegion

/-- `NewInstanceTypesCache`: an empty map. -/
def newInstanceTypesCache : InstanceTypesCache := ⟨fun _ => none⟩

/-- `isCacheFresh` at the instant `now`: an entry with a map, updated after `now - 24h`. -/
def isCacheFresh (i : InstanceTypesCache) (cacheID : String) (now : Int) : Bool :=
  match i.cache cacheID with
  | none => false
  | some cacheForRegion =>
    cacheForRegion.instanceTypes.isSome && decide (now + -24 * timeHour < cacheForRegion.lastUpdate)

/-- `refresh`, under the write lock: nothing when the entry is fresh at `now`; otherwise the
fetch's answer `fetched`, stored with the instant `storedAt` when it is a map. -/
def refresh (i : InstanceTypesCache) (cacheID : String) (now : Int)
    (fetched : Outcome InstanceTypes) (storedAt : Int) : Outcome Unit × InstanceTypesCache :=
  if isCacheFresh i cacheID now then (pure (), i)
  else
    match fetched with
    | .ok instanceTypes =>
      (pure (), ⟨Function.update i.cache cacheID (some ⟨some instanceTypes, storedAt⟩)⟩)
    | .error err => (.error (.wrap "failed to refresh instance types cache: " err), i)
    | .panic p => (.panic p, i)

/-- `%q` of a `[]string`. -/
def quoteStrings (names : List String) : String :=
  "[" ++ " ".intercalate (names.map quote) ++ "]"

/-- The error of a type not in the region's map. -/
def instanceTypeNotFound (instanceType : String) (instanceNames : List String) : GoError :=
  .new ("instance type " ++ quote instanceType ++
    " not found: The valid instance types in the current region are: " ++
    quoteStrings instanceNames)

/-- The lookup of `GetInstanceType`, under the read lock: `i.cache[cacheID].instanceTypes`,
a nil map when the region has no entry, at `instanceType`. -/
def lookupInstanceType (i : InstanceTypesCache) (cacheID instanceType : String) :
    Outcome InstanceType :=
  let instanceTypes := (i.cache cacheID).bind (·.instanceTypes)
  match instanceTypes.bind (·.lookup instanceType) with
  | some instanceTypeInfo => pure instanceTypeInfo
  | none => .error (instanceTypeNotFound instanceType
      ((instanceTypes.map fun m => m.entries.map (·.2.instanceType)).getD []))

/-! ### Calls and turns -/

/-- Where a call of `GetInstanceType` is, between two of its critical sections. -/
inductive Stage where
  /-- Not started: the next section checks freshness under the read lock. -/
  | start
  /-- Found the entry stale and released the read lock: the next section is `refresh`. -/
  | refreshing
  /-- Refreshed: the next section looks the type up under the read lock. -/
  | lookingUp
  /-- Returned `result`. -/
  | returned (result : Outcome InstanceType)
  deriving DecidableEq, Repr

/-- A call `GetInstanceType(awsClient, cacheID, instanceType)`. -/
structure GetInstanceTypeCall where
  /-- `cacheID`, the region. -/
  cacheID : String
  /-- `instanceType`. -/
  instanceType : String
  /-- Where it is. -/
  stage : Stage
  deriving DecidableEq, Repr

/-- One turn: which call runs its next section, the instant `time.Now()` reads in it, what the
fetch returns if it fetches, and the instant of the store. -/
structure Turn where
  /-- The index of the call. -/
  caller : Nat
  /-- `time.Now()` in `isCacheFresh`. -/
  checkedAt : Int
  /-- What `fetchEC2InstanceTypes` returns. -/
  fetched : Outcome InstanceTypes
  /-- `time.Now()` at the store. -/
  storedAt : Int

/-- `GetInstanceType`, one section at a time: the call's next stage and the cache after it. -/
def GetInstanceTypeCall.turn (call : GetInstanceTypeCall) (i : InstanceTypesCache) (t : Turn) :
    Stage × InstanceTypesCache :=
  match call.stage with
  | .start =>
    if isCacheFresh i call.cacheID t.checkedAt then
      (.returned (lookupInstanceType i call.cacheID call.instanceType), i)
    else (.refreshing, i)
  | .refreshing =>
    match refresh i call.cacheID t.checkedAt t.fetched t.storedAt with
    | (.ok (), i) => (.lookingUp, i)
    | (.error err, i) => (.returned (.error (.wrap "error refreshing instance types cache: " err)), i)
    | (.panic p, i) => (.returned (.panic p), i)
  | .lookingUp => (.returned (lookupInstanceType i call.cacheID call.instanceType), i)
  | .returned result => (.returned result, i)

/-- A fetch of the ghost log: the region, the instants of the check and of the store, and what
the fetch returned. -/
structure Fetch where
  /-- The region. -/
  cacheID : String
  /-- The instant of the check that found the entry stale. -/
  checkedAt : Int
  /-- What `fetchEC2InstanceTypes` returned. -/
  answer : Outcome InstanceTypes
  /-- The instant of the store. -/
  storedAt : Int

/-- The fetch a turn makes: a call in `refresh` that finds the entry stale fetches. -/
def GetInstanceTypeCall.fetchOf (call : GetInstanceTypeCall) (i : InstanceTypesCache) (t : Turn) :
    Option Fetch :=
  match call.stage with
  | .refreshing =>
    if isCacheFresh i call.cacheID t.checkedAt then none
    else some ⟨call.cacheID, t.checkedAt, t.fetched, t.storedAt⟩
  | _ => none

/-- The calls on one cache, the cache, and the ghost log of fetches. -/
structure World where
  /-- The shared cache. -/
  cache : InstanceTypesCache
  /-- The calls, each at its stage. -/
  calls : List GetInstanceTypeCall
  /-- Every fetch so far, in order. -/
  fetches : List Fetch

/-- One turn of the world: the chosen call runs its next section; a turn for no call does
nothing. -/
def World.step (w : World) (t : Turn) : World :=
  match w.calls[t.caller]? with
  | none => w
  | some call =>
    { cache := (call.turn w.cache t).2
      calls := w.calls.set t.caller { call with stage := (call.turn w.cache t).1 }
      fetches := w.fetches ++ (call.fetchOf w.cache t).toList }

/-- The calls `GetInstanceType(_, cacheID, instanceType)` of `requests` on a cache from
`NewInstanceTypesCache`, interleaved as `turns` says. -/
def interleave (requests : List (String × String)) (turns : List Turn) : World :=
  turns.foldl World.step
    ⟨newInstanceTypesCache, requests.map fun (cacheID, instanceType) => ⟨cacheID, instanceType, .start⟩, []⟩

theorem interleave_snoc (requests : List (String × String)) (turns : List Turn) (t : Turn) :
    interleave requests (turns ++ [t]) = (interleave requests turns).step t := by
  simp [interleave, List.foldl_append]

/-! ### The cache is the latest successful fetch -/

/-- The map a fetch stored, if it succeeded. -/
def Fetch.stored (f : Fetch) : Option InstanceTypes :=
  match f.answer with
  | .ok instanceTypes => some instanceTypes
  | _ => none

/-- The entry the latest successful fetch for `cacheID` of a log stores. -/
def latestStore (fetches : List Fetch) (cacheID : String) : Option InstanceTypesRegion :=
  fetches.foldl (fun region f => if f.cacheID = cacheID then
    match f.stored with
    | some instanceTypes => some ⟨some instanceTypes, f.storedAt⟩
    | none => region
    else region) none

/-- The cache that holds the latest successful fetch of a log for each region. -/
def cacheOf (fetches : List Fetch) : InstanceTypesCache := ⟨latestStore fetches⟩

theorem latestStore_snoc (fetches : List Fetch) (f : Fetch) (cacheID : String) :
    latestStore (fetches ++ [f]) cacheID =
      if f.cacheID = cacheID then
        match f.stored with
        | some instanceTypes => some ⟨some instanceTypes, f.storedAt⟩
        | none => latestStore fetches cacheID
      else latestStore fetches cacheID := by
  simp [latestStore, List.foldl_append]

/-- A fetch joins the log: a successful one replaces its region's entry. -/
theorem cacheOf_snoc (fetches : List Fetch) (f : Fetch) :
    cacheOf (fetches ++ [f]) =
      match f.stored with
      | some instanceTypes =>
        ⟨Function.update (cacheOf fetches).cache f.cacheID (some ⟨some instanceTypes, f.storedAt⟩)⟩
      | none => cacheOf fetches := by
  unfold cacheOf
  cases hs : f.stored <;> congr 1 <;> funext cacheID
  · simp [latestStore_snoc, hs]
  · by_cases hk : cacheID = f.cacheID
    · subst hk
      simp [latestStore_snoc, hs]
    · simp [latestStore_snoc, hk, Ne.symm hk]

/-- A turn on `cacheOf` a log leaves `cacheOf` the log with the turn's fetch. -/
theorem turn_cacheOf (call : GetInstanceTypeCall) (fetches : List Fetch) (t : Turn) :
    (call.turn (cacheOf fetches) t).2 =
      cacheOf (fetches ++ (call.fetchOf (cacheOf fetches) t).toList) := by
  rcases call with ⟨cacheID, instanceType, _ | _ | _ | result⟩ <;>
    simp only [GetInstanceTypeCall.turn, GetInstanceTypeCall.fetchOf]
  case start => split <;> simp
  case refreshing =>
    unfold refresh
    by_cases hfresh : isCacheFresh (cacheOf fetches) cacheID t.checkedAt
    · simp [hfresh]
    · rcases hf : t.fetched with instanceTypes | err | p <;>
        simp [hfresh, hf, cacheOf_snoc, Fetch.stored]
  all_goals simp

theorem step_cacheOf {w : World} (hw : w.cache = cacheOf w.fetches) (t : Turn) :
    (w.step t).cache = cacheOf (w.step t).fetches := by
  unfold World.step
  cases w.calls[t.caller]? with
  | none => exact hw
  | some call => simpa only [hw] using turn_cacheOf call w.fetches t

/-- **The cache is the latest successful fetch.** In every interleaving of calls from
`NewInstanceTypesCache`, the cache holds, for each region, what the latest successful fetch for
it stored, with the instant of the store. -/
theorem interleave_cache (requests : List (String × String)) (turns : List Turn) :
    (interleave requests turns).cache = cacheOf (interleave requests turns).fetches := by
  induction turns using List.reverseRecOn with
  | nil => rfl
  | append_singleton turns t ih =>
    rw [interleave_snoc]
    exact step_cacheOf ih t

/-! ### How often the API is asked -/

/-- A log whose fetches for one region come at least 24 hours after every successful one before
them, each stored no earlier than it checked. -/
def Spaced (fetches : List Fetch) : Prop :=
  fetches.Pairwise (fun f g => f.cacheID = g.cacheID → f.stored.isSome →
    f.storedAt + 24 * timeHour ≤ g.checkedAt) ∧
  ∀ f ∈ fetches, f.checkedAt ≤ f.storedAt

/-- In a spaced log, the latest store for a region has a map, and it is no older than any
successful fetch for the region. -/
theorem latestStore_latest {fetches : List Fetch} (hspaced : Spaced fetches) {f : Fetch}
    (hf : f ∈ fetches) (hstored : f.stored.isSome) :
    ∃ region, latestStore fetches f.cacheID = some region ∧ region.instanceTypes.isSome ∧
      f.storedAt ≤ region.lastUpdate := by
  induction fetches using List.reverseRecOn with
  | nil => simp at hf
  | append_singleton fetches g ih =>
    obtain ⟨hpair, hchecks⟩ := hspaced
    obtain ⟨hpair, -, hlast⟩ := List.pairwise_append.mp hpair
    have ih := ih ⟨hpair, fun f hf => hchecks f (by simp [hf])⟩
    have hg : g.checkedAt ≤ g.storedAt := hchecks g (by simp)
    rw [latestStore_snoc]
    by_cases hk : g.cacheID = f.cacheID
    · cases hgs : g.stored with
      | some instanceTypes =>
        refine ⟨⟨some instanceTypes, g.storedAt⟩, by simp [hk, hgs], rfl, ?_⟩
        rcases List.mem_append.mp hf with hf | hf
        · -- an earlier success for the region was a day before the check of this one
          have := hlast f hf g (by simp) hk.symm hstored
          unfold timeHour at this
          dsimp only
          omega
        · rw [List.mem_singleton.mp hf]
      | none =>
        rcases List.mem_append.mp hf with hf | hf
        · simpa [hk, hgs] using ih hf
        · rw [List.mem_singleton.mp hf, hgs] at hstored
          simp at hstored
    · rcases List.mem_append.mp hf with hf | hf
      · simpa [hk] using ih hf
      · exact absurd (List.mem_singleton.mp hf ▸ rfl) hk

/-- A turn fetches only for a call in `refresh` that finds its entry stale, and logs the turn's
instants and answer. -/
theorem fetchOf_eq_some {call : GetInstanceTypeCall} {i : InstanceTypesCache} {t : Turn}
    {g : Fetch} (h : call.fetchOf i t = some g) :
    call.stage = .refreshing ∧ isCacheFresh i call.cacheID t.checkedAt = false ∧
      g = ⟨call.cacheID, t.checkedAt, t.fetched, t.storedAt⟩ := by
  unfold GetInstanceTypeCall.fetchOf at h
  split at h
  · rename_i hstage
    split at h
    · cases h
    · rename_i hstale
      exact ⟨hstage, by simpa using hstale, (Option.some.inj h).symm⟩
  · cases h

/-- A fetch is made only from a stale entry: it comes at least 24 hours after every successful
fetch for its region in a spaced log. -/
theorem fetchOf_apart {call : GetInstanceTypeCall} {fetches : List Fetch} {t : Turn} {g : Fetch}
    (hspaced : Spaced fetches) (hg : call.fetchOf (cacheOf fetches) t = some g) :
    ∀ f ∈ fetches, f.cacheID = g.cacheID → f.stored.isSome →
      f.storedAt + 24 * timeHour ≤ g.checkedAt := by
  obtain ⟨-, hstale, rfl⟩ := fetchOf_eq_some hg
  intro f hf hk hstored
  obtain ⟨region, hregion, hmap, hle⟩ := latestStore_latest hspaced hf hstored
  dsimp only at hk ⊢
  rw [hk] at hregion
  simp only [isCacheFresh, cacheOf, hregion, hmap, Bool.true_and, decide_eq_false_iff_not,
    not_lt] at hstale
  omega

theorem step_spaced {w : World} (hw : w.cache = cacheOf w.fetches) (hspaced : Spaced w.fetches)
    {t : Turn} (ht : t.checkedAt ≤ t.storedAt) : Spaced (w.step t).fetches := by
  unfold World.step
  cases w.calls[t.caller]? with
  | none => exact hspaced
  | some call =>
    dsimp only
    rw [hw]
    cases hg : call.fetchOf (cacheOf w.fetches) t with
    | none => simpa using hspaced
    | some g =>
      refine ⟨List.pairwise_append.mpr ⟨hspaced.1, List.pairwise_singleton _ g, ?_⟩, ?_⟩
      · intro f hf g' hg'
        rw [List.mem_singleton.mp hg']
        exact fetchOf_apart hspaced hg f hf
      · obtain ⟨-, -, rfl⟩ := fetchOf_eq_some hg
        intro f hf
        rcases List.mem_append.mp hf with hf | hf
        · exact hspaced.2 f hf
        · rw [List.mem_singleton.mp hf]
          exact ht

/-- **The API is asked at most once a day per region while it answers.** In every interleaving
of calls on one cache from `NewInstanceTypesCache` in which a refresh stores no earlier than it
checked, a fetch for a region comes at least 24 hours after every successful fetch for the region
before it, however many calls found the cache stale at once. -/
theorem interleave_fetches_apart (requests : List (String × String)) (turns : List Turn)
    (hturns : ∀ t ∈ turns, t.checkedAt ≤ t.storedAt) :
    (interleave requests turns).fetches.Pairwise fun f g => f.cacheID = g.cacheID →
      f.stored.isSome → f.storedAt + 24 * timeHour ≤ g.checkedAt := by
  suffices Spaced (interleave requests turns).fetches from this.1
  induction turns using List.reverseRecOn with
  | nil => simp [Spaced, interleave]
  | append_singleton turns t ih =>
    rw [interleave_snoc]
    exact step_spaced (interleave_cache requests turns)
      (ih fun t ht => hturns t (by simp [ht])) (hturns t (by simp))

/-- A map with one instance type. -/
def m5Large : InstanceTypes := (∅ : InstanceTypes).insert "m5.large" ⟨"m5.large", 2, 8192, 0⟩

/-- Three calls for one region that all find the cache stale before any of them refreshes; the
first refresh fetches, and the next two find the entry fresh. -/
def threeStaleTurns : List Turn :=
  [⟨0, 0, .ok m5Large, 0⟩, ⟨1, 1, .ok m5Large, 1⟩, ⟨2, 2, .ok m5Large, 2⟩,
    ⟨0, 3, .ok m5Large, 5⟩, ⟨1, 6, .ok m5Large, 6⟩, ⟨2, 7, .ok m5Large, 7⟩]

theorem interleave_fetches_apart_threeStale :
    (∀ t ∈ threeStaleTurns, t.checkedAt ≤ t.storedAt) ∧
      (interleave [("us-east-1", "m5.large"), ("us-east-1", "m5.large"),
          ("us-east-1", "m5.large")] threeStaleTurns).fetches.Pairwise fun f g =>
        f.cacheID = g.cacheID → f.stored.isSome → f.storedAt + 24 * timeHour ≤ g.checkedAt :=
  have hturns : ∀ t ∈ threeStaleTurns, t.checkedAt ≤ t.storedAt := by
    simp [threeStaleTurns]
  ⟨hturns, interleave_fetches_apart _ threeStaleTurns hturns⟩

/-- The three stale calls make one fetch between them. -/
example : (interleave [("us-east-1", "m5.large"), ("us-east-1", "m5.large"),
    ("us-east-1", "m5.large")] threeStaleTurns).fetches.length = 1 := by decide

/-! ### What a call returns -/

/-- What a returned call may have returned, read off the log: an instance type a successful fetch
for its region returned, the error of a failed fetch for its region wrapped by `refresh` and
`GetInstanceType`, the panic of a fetch for its region, or the not-found error naming the type. -/
def Explained (fetches : List Fetch) (call : GetInstanceTypeCall) : Outcome InstanceType → Prop
  | .ok instanceType => ∃ f ∈ fetches, f.cacheID = call.cacheID ∧
      ∃ instanceTypes, f.stored = some instanceTypes ∧
        instanceTypes.lookup call.instanceType = some instanceType
  | .error err => (∃ f ∈ fetches, f.cacheID = call.cacheID ∧ ∃ fetchErr, f.answer = .error fetchErr ∧
        err = .wrap "error refreshing instance types cache: "
          (.wrap "failed to refresh instance types cache: " fetchErr)) ∨
      ∃ instanceNames, err = instanceTypeNotFound call.instanceType instanceNames
  | .panic p => ∃ f ∈ fetches, f.cacheID = call.cacheID ∧ f.answer = .panic p

theorem Explained.append {fetches : List Fetch} {call : GetInstanceTypeCall}
    {result : Outcome InstanceType} (h : Explained fetches call result) (more : List Fetch) :
    Explained (fetches ++ more) call result := by
  cases result with
  | ok _ =>
    obtain ⟨f, hf, h⟩ := h
    exact ⟨f, List.mem_append_left _ hf, h⟩
  | error _ =>
    rcases h with ⟨f, hf, h⟩ | h
    exacts [.inl ⟨f, List.mem_append_left _ hf, h⟩, .inr h]
  | panic _ =>
    obtain ⟨f, hf, h⟩ := h
    exact ⟨f, List.mem_append_left _ hf, h⟩

/-- The entry of a region in `cacheOf` a log is one a successful fetch for it stored. -/
theorem latestStore_mem {fetches : List Fetch} {cacheID : String} {region : InstanceTypesRegion}
    (h : latestStore fetches cacheID = some region) :
    ∃ f ∈ fetches, f.cacheID = cacheID ∧ ∃ instanceTypes, f.stored = some instanceTypes ∧
      region.instanceTypes = some instanceTypes := by
  induction fetches using List.reverseRecOn with
  | nil => simp [latestStore] at h
  | append_singleton fetches g ih =>
    rw [latestStore_snoc] at h
    split_ifs at h with hk
    · cases hs : g.stored with
      | some instanceTypes =>
        rw [hs] at h
        cases h
        exact ⟨g, by simp, hk, instanceTypes, hs, rfl⟩
      | none =>
        rw [hs] at h
        obtain ⟨f, hf, hrest⟩ := ih h
        exact ⟨f, List.mem_append_left _ hf, hrest⟩
    · obtain ⟨f, hf, hrest⟩ := ih h
      exact ⟨f, List.mem_append_left _ hf, hrest⟩

/-- A lookup in `cacheOf` a log is explained by the log. -/
theorem lookupInstanceType_explained (fetches : List Fetch) (call : GetInstanceTypeCall) :
    Explained fetches call (lookupInstanceType (cacheOf fetches) call.cacheID call.instanceType) := by
  dsimp only [lookupInstanceType]
  split
  · rename_i instanceType hlookup
    obtain ⟨instanceTypes, hregion, hmap⟩ := Option.bind_eq_some.mp hlookup
    obtain ⟨region, hstore, hinstanceTypes⟩ := Option.bind_eq_some.mp hregion
    obtain ⟨f, hf, hk, stored, hs, hm⟩ := latestStore_mem hstore
    obtain rfl : stored = instanceTypes := Option.some.inj (hm.symm.trans hinstanceTypes)
    exact ⟨f, hf, hk, stored, hs, hmap⟩
  · exact .inr ⟨_, rfl⟩

/-- A turn on `cacheOf` a log returns only what the log with the turn's fetch explains. -/
theorem turn_explained (call : GetInstanceTypeCall) (fetches : List Fetch) (t : Turn)
    (hcall : ∀ result, call.stage = .returned result → Explained fetches call result)
    {result : Outcome InstanceType} (h : (call.turn (cacheOf fetches) t).1 = .returned result) :
    Explained (fetches ++ (call.fetchOf (cacheOf fetches) t).toList) call result := by
  rcases call with ⟨cacheID, instanceType, _ | _ | _ | r⟩ <;>
    simp only [GetInstanceTypeCall.turn, GetInstanceTypeCall.fetchOf] at h ⊢
  case start =>
    split_ifs at h
    simp only [Stage.returned.injEq] at h
    subst h
    simpa using lookupInstanceType_explained fetches _
  case refreshing =>
    unfold refresh at h
    by_cases hfresh : isCacheFresh (cacheOf fetches) cacheID t.checkedAt
    · simp [hfresh] at h
    · simp only [hfresh, Bool.false_eq_true, ↓reduceIte, Option.toList_some]
      rcases hfetched : t.fetched with instanceTypes | err | p <;>
        simp [hfresh, hfetched] at h <;> subst h
      · exact Or.inl ⟨⟨cacheID, t.checkedAt, .error err, t.storedAt⟩, by simp, rfl, err, rfl, rfl⟩
      · exact ⟨⟨cacheID, t.checkedAt, .panic p, t.storedAt⟩, by simp, rfl, rfl⟩
  case lookingUp =>
    simp only [Stage.returned.injEq] at h
    subst h
    simpa using lookupInstanceType_explained fetches _
  case returned =>
    simp only [Stage.returned.injEq] at h
    subst h
    simpa using hcall r rfl

theorem step_explained {w : World} (hw : w.cache = cacheOf w.fetches)
    (hcalls : ∀ call ∈ w.calls, ∀ result, call.stage = .returned result →
      Explained w.fetches call result) (t : Turn) :
    ∀ call ∈ (w.step t).calls, ∀ result, call.stage = .returned result →
      Explained (w.step t).fetches call result := by
  unfold World.step
  cases hcall : w.calls[t.caller]? with
  | none => exact hcalls
  | some call =>
    intro call' hmem result hresult
    dsimp only at hmem ⊢
    rw [hw]
    rcases List.mem_or_eq_of_mem_set hmem with hmem | rfl
    · exact (hcalls call' hmem result hresult).append _
    · rw [hw] at hresult
      exact turn_explained call w.fetches t
        (hcalls call (List.mem_iff_getElem?.mpr ⟨_, hcall⟩)) hresult

/-- **Every answer comes from its own region.** In every interleaving of calls on one cache from
`NewInstanceTypesCache`, every call that returned returned an instance type that a fetch for its
own region returned, the error of a failed fetch for its region wrapped by `refresh` and by
`GetInstanceType`, the panic of a fetch for its region, or the not-found error for its type. -/
theorem interleave_answers_explained (requests : List (String × String)) (turns : List Turn) :
    ∀ call ∈ (interleave requests turns).calls, ∀ result, call.stage = .returned result →
      Explained (interleave requests turns).fetches call result := by
  induction turns using List.reverseRecOn with
  | nil =>
    intro call hcall result hresult
    obtain ⟨_, -, rfl⟩ := List.mem_map.mp hcall
    cases hresult
  | append_singleton turns t ih =>
    rw [interleave_snoc]
    exact step_explained (interleave_cache requests turns) ih t

/-- The three stale calls of `threeStaleTurns`, each then looking `m5.large` up. -/
def threeStaleLookups : List Turn :=
  threeStaleTurns ++ [⟨0, 8, .ok m5Large, 8⟩, ⟨1, 9, .ok m5Large, 9⟩, ⟨2, 10, .ok m5Large, 10⟩]

theorem interleave_answers_explained_threeStale :
    (⟨"us-east-1", "m5.large", .returned (.ok ⟨"m5.large", 2, 8192, 0⟩)⟩ : GetInstanceTypeCall) ∈
        (interleave [("us-east-1", "m5.large"), ("us-east-1", "m5.large"),
          ("us-east-1", "m5.large")] threeStaleLookups).calls ∧
      Explained (interleave [("us-east-1", "m5.large"), ("us-east-1", "m5.large"),
          ("us-east-1", "m5.large")] threeStaleLookups).fetches
        ⟨"us-east-1", "m5.large", .returned (.ok ⟨"m5.large", 2, 8192, 0⟩)⟩ (.ok ⟨"m5.large", 2, 8192, 0⟩) :=
  have hmem : (⟨"us-east-1", "m5.large", .returned (.ok ⟨"m5.large", 2, 8192, 0⟩)⟩ : GetInstanceTypeCall) ∈
      (interleave [("us-east-1", "m5.large"), ("us-east-1", "m5.large"),
        ("us-east-1", "m5.large")] threeStaleLookups).calls := by decide
  ⟨hmem, interleave_answers_explained _ threeStaleLookups _ hmem _ rfl⟩

end AwsProvider.MachineSet
