import AwsProvider.Client.Session

/-!
# The region cache

`NewValidatedClient` checks a region the SDK does not know against the regions AWS lists. The
list comes from `DescribeRegions`, which `regionCache` keeps per access key ID for thirty minutes
(`awsRegionsCacheExpirationDuration`), so that a reconcile loop does not call the API on every
cycle.

`GetCachedDescribeRegions` reads the session's credentials, then, under the cache's lock, serves
the entry of the access key when it holds an output and no error and is younger than thirty
minutes. Otherwise it sends `DescribeRegions` of all regions through the session set to
`us-east-1`, restores the session's region, and stores a successful answer with the instant of
`time.Now()`. A failure is written to the `err` of the local copy `regionData`, which is not
stored.

What the cache is for is stated apart from its code, over the history of a run: the successful
answers of `DescribeRegions`, each with its access key and the instant of its answer (`Fetch`).
`cachedDescribeRegionsSpec` serves the latest answer for the access key while it is younger than
thirty minutes, and otherwise asks.

## What is proved

* `regionsRun_cache`: the cache a run leaves is `cacheOf` the run's history: the latest answer for
  each access key, with no error;
* `getCachedDescribeRegions_refines`: from every cache a run reaches, a call does what
  `cachedDescribeRegionsSpec` does on the run's history;
* `regionsRun_fetches_apart`: along a run whose clock does not go back, two successful
  `DescribeRegions` for one access key are at least thirty minutes apart.

## Honest scope

The lock serialises the calls' reads and writes of the cache, so a run is a sequence of calls; the
credentials are read before the lock and touch nothing of the cache. `time.Since` reads the
monotonic clock: a call reads it at `checkedAt`, before its request, and at `answeredAt`, after
the answer.
-/

namespace AwsProvider.Client

open Go

/-! ### Regions and the cache -/

/-- `ec2.Region`, with the fields `validateRegion` reads. -/
structure Region where
  /-- `RegionName`. -/
  regionName : Option String
  /-- `OptInStatus`: `opt-in-not-required`, `opted-in` or `not-opted-in`. -/
  optInStatus : Option String
  deriving DecidableEq, Repr, Inhabited

/-- `ec2.DescribeRegionsInput`. -/
structure DescribeRegionsInput where
  /-- `AllRegions`. -/
  allRegions : Option Bool
  /-- `DryRun`. -/
  dryRun : Option Bool
  deriving DecidableEq, Repr, Inhabited

/-- `ec2.DescribeRegionsOutput`. -/
structure DescribeRegionsOutput where
  /-- `Regions`. -/
  regions : List Region
  deriving DecidableEq, Repr, Inhabited

/-- `awsRegionsCacheExpirationDuration`: thirty minutes, in nanoseconds. -/
def awsRegionsCacheExpirationDuration : Int := 1800000000000

/-- `DescribeRegionsData`, an entry of the cache. Its zero value, which a missing key reads as,
has no error, no output and the instant `0`. -/
structure DescribeRegionsData where
  /-- `err`. -/
  err : Option GoError
  /-- `describeRegionsOutput`. -/
  describeRegionsOutput : Option DescribeRegionsOutput
  /-- `lastUpdated`. -/
  lastUpdated : Int
  deriving DecidableEq, Repr, Inhabited

/-- `regionCache.data`: the map from access key ID to entry, a missing key reading as the zero
entry. -/
structure RegionCache where
  /-- `data[accessKeyID]`. -/
  data : String → DescribeRegionsData

/-- `NewRegionCache`: the empty map. -/
def newRegionCache : RegionCache := ⟨fun _ => default⟩

/-- What one `GetCachedDescribeRegions` call reads besides the cache and the session. -/
structure RegionsCall where
  /-- `awsSession.Config.Credentials.Get()`: the access key ID, or the error. -/
  credentials : Except GoError String
  /-- The instant `time.Since` reads. -/
  checkedAt : Int
  /-- The answer of `DescribeRegions` sent through a session with an input. -/
  describeRegions : Session → DescribeRegionsInput → Except AWSError DescribeRegionsOutput
  /-- The instant `time.Now()` reads after the answer. -/
  answeredAt : Int

/-- How a call ends: what it returns, the cache and the caller's session afterwards, and the
`DescribeRegions` request it sent, with the session the request went through. -/
structure CachedRegions where
  /-- The output or the error returned. -/
  result : Except GoError DescribeRegionsOutput
  /-- The cache afterwards. -/
  cache : RegionCache
  /-- The caller's session afterwards. -/
  session : Session
  /-- The request sent, if any. -/
  sent : Option (Session × DescribeRegionsInput)

/-- The session with `Config.Region` set to `region`. -/
def Session.withRegion (s : Session) (region : String) : Session :=
  { s with options := { s.options with region := region } }

/-- Setting the region back restores the session. -/
@[simp] theorem Session.withRegion_restore (s : Session) (region : String) :
    (s.withRegion region).withRegion s.options.region = s := rfl

/-- The input `GetCachedDescribeRegions` sends: all regions, no dry run. -/
def describeAllRegionsInput : DescribeRegionsInput := ⟨some true, some false⟩

/-- `GetCachedDescribeRegions` after a miss on the entry `regionData` of `accessKeyID`: the
request goes through the session set to `us-east-1`, whose region is then restored; a success is
stored with the instant of `time.Now()`, a failure only returned. -/
def describeRegionsAndStore (c : RegionCache) (awsSession : Session) (w : RegionsCall)
    (accessKeyID : String) (regionData : DescribeRegionsData) : CachedRegions :=
  let currentRegion := awsSession.options.region
  let request := awsSession.withRegion "us-east-1"
  let answer := w.describeRegions request describeAllRegionsInput
  let awsSession := request.withRegion currentRegion
  match answer with
  | .error err => ⟨.error (.aws err), c, awsSession, some (request, describeAllRegionsInput)⟩
  | .ok describeRegionsOutput =>
    ⟨.ok describeRegionsOutput,
      ⟨Function.update c.data accessKeyID
        { regionData with
          describeRegionsOutput := some describeRegionsOutput, lastUpdated := w.answeredAt }⟩,
      awsSession, some (request, describeAllRegionsInput)⟩

/-- `regionCache.GetCachedDescribeRegions`. -/
def getCachedDescribeRegions (c : RegionCache) (awsSession : Session) (w : RegionsCall) :
    CachedRegions :=
  match w.credentials with
  | .error err => ⟨.error err, c, awsSession, none⟩
  | .ok accessKeyID =>
    let regionData := c.data accessKeyID
    match regionData.describeRegionsOutput, regionData.err with
    | some describeRegionsOutput, none =>
      if w.checkedAt - regionData.lastUpdated < awsRegionsCacheExpirationDuration then
        ⟨.ok describeRegionsOutput, c, awsSession, none⟩
      else describeRegionsAndStore c awsSession w accessKeyID regionData
    | _, _ => describeRegionsAndStore c awsSession w accessKeyID regionData

/-- A call leaves the caller's session as it found it: the region set for the request is
restored. -/
@[simp] theorem getCachedDescribeRegions_session (c : RegionCache) (awsSession : Session)
    (w : RegionsCall) : (getCachedDescribeRegions c awsSession w).session = awsSession := by
  have hmiss : ∀ key regionData,
      (describeRegionsAndStore c awsSession w key regionData).session = awsSession := by
    intro key regionData
    unfold describeRegionsAndStore
    dsimp only
    split <;> rfl
  unfold getCachedDescribeRegions
  cases w.credentials with
  | error err => rfl
  | ok key =>
    dsimp only
    split
    · split_ifs
      exacts [rfl, hmiss _ _]
    · exact hmiss _ _

/-! ### The history of a run -/

/-- A successful `DescribeRegions` of a run: the access key it was for, the instant of its
answer, and the answer. -/
structure Fetch where
  /-- The access key ID. -/
  key : String
  /-- The instant `time.Now()` read after the answer. -/
  answeredAt : Int
  /-- The answer. -/
  output : DescribeRegionsOutput
  deriving DecidableEq, Repr

/-- The successful `DescribeRegions` a call made, if any. -/
def fetchOf (w : RegionsCall) (r : CachedRegions) : Option Fetch :=
  match w.credentials, r.sent, r.result with
  | .ok key, some _, .ok output => some ⟨key, w.answeredAt, output⟩
  | _, _, _ => none

/-- One call of a run on the cache, with the history so far. -/
def regionsStep (state : RegionCache × List Fetch) (call : Session × RegionsCall) :
    RegionCache × List Fetch :=
  let r := getCachedDescribeRegions state.1 call.1 call.2
  (r.cache, state.2 ++ (fetchOf call.2 r).toList)

/-- A run of calls on one cache from `NewRegionCache`: the cache it leaves, and its history. -/
def regionsRun (calls : List (Session × RegionsCall)) : RegionCache × List Fetch :=
  calls.foldl regionsStep (newRegionCache, [])

/-! ### What the cache is for -/

/-- The latest fetch for the access key `key`. -/
def latestFetch (fetches : List Fetch) (key : String) : Option Fetch :=
  fetches.foldl (fun latest f => if f.key = key then some f else latest) none

/-- The latest fetch for `key` if it is younger than thirty minutes at `now`. -/
def freshFetch (fetches : List Fetch) (key : String) (now : Int) : Option Fetch :=
  (latestFetch fetches key).filter fun f => now - f.answeredAt < awsRegionsCacheExpirationDuration

/-- The cache that holds the latest answer for each access key, with no error. -/
def cacheOf (fetches : List Fetch) : RegionCache :=
  ⟨fun key => match latestFetch fetches key with
    | some f => ⟨none, some f.output, f.answeredAt⟩
    | none => default⟩

/-- A miss, in the spec: `DescribeRegions` of all regions through the session set to
`us-east-1`; a success joins the history under `key`. The session is left as it was. -/
def askRegionsSpec (fetches : List Fetch) (awsSession : Session) (w : RegionsCall) (key : String) :
    CachedRegions :=
  let request := awsSession.withRegion "us-east-1"
  match w.describeRegions request describeAllRegionsInput with
  | .error err => ⟨.error (.aws err), cacheOf fetches, awsSession, some (request, describeAllRegionsInput)⟩
  | .ok output =>
    ⟨.ok output, cacheOf (fetches ++ [⟨key, w.answeredAt, output⟩]), awsSession,
      some (request, describeAllRegionsInput)⟩

/-- What the cache is for, on the history `fetches`: the latest answer for the access key while
it is younger than thirty minutes, and otherwise a request (`askRegionsSpec`). -/
def cachedDescribeRegionsSpec (fetches : List Fetch) (awsSession : Session) (w : RegionsCall) :
    CachedRegions :=
  match w.credentials with
  | .error err => ⟨.error err, cacheOf fetches, awsSession, none⟩
  | .ok key =>
    match freshFetch fetches key w.checkedAt with
    | some f => ⟨.ok f.output, cacheOf fetches, awsSession, none⟩
    | none => askRegionsSpec fetches awsSession w key

@[simp] theorem latestFetch_nil (key : String) : latestFetch [] key = none := rfl

theorem latestFetch_snoc (fetches : List Fetch) (f : Fetch) (key : String) :
    latestFetch (fetches ++ [f]) key = if f.key = key then some f else latestFetch fetches key := by
  simp [latestFetch, List.foldl_append]

/-- Storing an answer in `cacheOf` is adding it to the history. -/
theorem cacheOf_snoc (fetches : List Fetch) (f : Fetch) :
    cacheOf (fetches ++ [f]) =
      ⟨Function.update (cacheOf fetches).data f.key ⟨none, some f.output, f.answeredAt⟩⟩ := by
  unfold cacheOf
  congr 1
  funext key
  by_cases hk : key = f.key
  · subst hk
    simp [latestFetch_snoc]
  · simp [latestFetch_snoc, hk, Ne.symm hk]

/-- A miss on an entry with no error stores what the spec adds to the history. -/
theorem describeRegionsAndStore_cacheOf (fetches : List Fetch) (awsSession : Session)
    (w : RegionsCall) (key : String) (regionData : DescribeRegionsData) (herr : regionData.err = none) :
    describeRegionsAndStore (cacheOf fetches) awsSession w key regionData =
      askRegionsSpec fetches awsSession w key := by
  unfold describeRegionsAndStore askRegionsSpec
  dsimp only
  cases w.describeRegions (awsSession.withRegion "us-east-1") describeAllRegionsInput with
  | error err => rfl
  | ok output => simp [cacheOf_snoc, herr]

/-- **One call on `cacheOf`.** From the cache that holds the latest answers of a history, a call
does what the cache is for. -/
theorem getCachedDescribeRegions_cacheOf (fetches : List Fetch) (awsSession : Session)
    (w : RegionsCall) :
    getCachedDescribeRegions (cacheOf fetches) awsSession w =
      cachedDescribeRegionsSpec fetches awsSession w := by
  rcases w with ⟨_ | key, checkedAt, describeRegions, answeredAt⟩
  · rfl
  dsimp only [getCachedDescribeRegions, cachedDescribeRegionsSpec, freshFetch]
  cases hl : latestFetch fetches key with
  | none =>
    have hdata : (cacheOf fetches).data key = default := by simp [cacheOf, hl]
    rw [hdata]
    exact describeRegionsAndStore_cacheOf fetches awsSession _ key default rfl
  | some f =>
    have hdata : (cacheOf fetches).data key = ⟨none, some f.output, f.answeredAt⟩ := by
      simp [cacheOf, hl]
    simp only [hdata, Option.filter_some, decide_eq_true_eq]
    split_ifs
    · rfl
    · exact describeRegionsAndStore_cacheOf fetches awsSession _ key _ rfl

/-! ### Runs -/

/-- What the cache holds after a call is `cacheOf` the history with the call's successful
`DescribeRegions`, if any. -/
theorem cachedDescribeRegionsSpec_cache (fetches : List Fetch) (awsSession : Session)
    (w : RegionsCall) :
    (cachedDescribeRegionsSpec fetches awsSession w).cache =
      cacheOf (fetches ++ (fetchOf w (cachedDescribeRegionsSpec fetches awsSession w)).toList) := by
  rcases w with ⟨_ | key, checkedAt, describeRegions, answeredAt⟩
  · simp [cachedDescribeRegionsSpec, fetchOf]
  dsimp only [cachedDescribeRegionsSpec]
  cases freshFetch fetches key checkedAt with
  | some f => simp [fetchOf]
  | none =>
    dsimp only [askRegionsSpec]
    cases describeRegions (awsSession.withRegion "us-east-1") describeAllRegionsInput <;>
      simp [fetchOf]

theorem regionsRun_snoc (calls : List (Session × RegionsCall)) (call : Session × RegionsCall) :
    regionsRun (calls ++ [call]) = regionsStep (regionsRun calls) call := by
  simp [regionsRun, List.foldl_append]

/-- The cache a run reaches holds the latest answer of the run for each access key. -/
theorem regionsRun_cache (calls : List (Session × RegionsCall)) :
    (regionsRun calls).1 = cacheOf (regionsRun calls).2 := by
  induction calls using List.reverseRecOn with
  | nil => rfl
  | append_singleton calls call ih =>
    simp only [regionsRun_snoc, regionsStep, ih, getCachedDescribeRegions_cacheOf]
    exact cachedDescribeRegionsSpec_cache _ _ _

/-- **The cache refines what it is for.** The cache a run reaches from `NewRegionCache` holds,
for each access key, the run's latest successful answer with no error; and the next call, from
that cache, does what `cachedDescribeRegionsSpec` does on the run's history: it serves the latest
answer for the access key while it is younger than thirty minutes, and otherwise sends
`DescribeRegions` of all regions through the session set to `us-east-1`, leaving the session as it
was, and only a success joins the history. -/
theorem getCachedDescribeRegions_refines (calls : List (Session × RegionsCall))
    (awsSession : Session) (w : RegionsCall) :
    (regionsRun calls).1 = cacheOf (regionsRun calls).2 ∧
      getCachedDescribeRegions (regionsRun calls).1 awsSession w =
        cachedDescribeRegionsSpec (regionsRun calls).2 awsSession w := by
  have h := regionsRun_cache calls
  refine ⟨h, ?_⟩
  rw [h]
  exact getCachedDescribeRegions_cacheOf _ _ _

/-! ### How often the API is asked -/

/-- The instants a run reads, in order: each call's check, then its answer. -/
def instants (calls : List (Session × RegionsCall)) : List Int :=
  calls.flatMap fun call => [call.2.checkedAt, call.2.answeredAt]

/-- The clock a run reads does not go back. -/
def ClockForward (calls : List (Session × RegionsCall)) : Prop :=
  (instants calls).Pairwise (· ≤ ·)

theorem instants_snoc (calls : List (Session × RegionsCall)) (call : Session × RegionsCall) :
    instants (calls ++ [call]) = instants calls ++ [call.2.checkedAt, call.2.answeredAt] := by
  simp [instants]

/-- No fetch of the history is for an access key without a latest fetch. -/
theorem latestFetch_eq_none {fetches : List Fetch} {key : String}
    (h : latestFetch fetches key = none) : ∀ g ∈ fetches, g.key ≠ key := by
  induction fetches using List.reverseRecOn with
  | nil => simp
  | append_singleton fetches f ih =>
    rw [latestFetch_snoc] at h
    split_ifs at h with hf
    intro g hg
    rcases List.mem_append.mp hg with hg | hg
    exacts [ih h g hg, List.mem_singleton.mp hg ▸ hf]

/-- In a history whose fetches for one key are thirty minutes apart, the latest fetch for a key
is the one with the latest answer. -/
theorem latestFetch_latest {fetches : List Fetch} {key : String} {l : Fetch}
    (hapart : fetches.Pairwise fun f g => f.key = g.key →
      f.answeredAt + awsRegionsCacheExpirationDuration ≤ g.answeredAt)
    (h : latestFetch fetches key = some l) : ∀ g ∈ fetches, g.key = key → g.answeredAt ≤ l.answeredAt := by
  induction fetches using List.reverseRecOn with
  | nil => simp at h
  | append_singleton fetches f ih =>
    obtain ⟨hapart, -, hlast⟩ := List.pairwise_append.mp hapart
    rw [latestFetch_snoc] at h
    intro g hg hgk
    split_ifs at h with hf
    · cases h
      rcases List.mem_append.mp hg with hg | hg
      · have := hlast g hg l (List.mem_singleton_self l) (hgk.trans hf.symm)
        unfold awsRegionsCacheExpirationDuration at this
        omega
      · obtain rfl := List.mem_singleton.mp hg
        exact Int.le_refl _
    · rcases List.mem_append.mp hg with hg | hg
      · exact ih hapart h g hg hgk
      · exact absurd (List.mem_singleton.mp hg ▸ hgk) hf

/-- A call that added to the history was a miss, and what it added was answered at the call's
`time.Now()`. -/
theorem fetchOf_cachedDescribeRegionsSpec {fetches : List Fetch} {awsSession : Session}
    {w : RegionsCall} {f : Fetch}
    (h : fetchOf w (cachedDescribeRegionsSpec fetches awsSession w) = some f) :
    freshFetch fetches f.key w.checkedAt = none ∧ f.answeredAt = w.answeredAt := by
  rcases w with ⟨_ | key, checkedAt, describeRegions, answeredAt⟩
  · simp [cachedDescribeRegionsSpec, fetchOf] at h
  dsimp only [cachedDescribeRegionsSpec] at h
  cases hf : freshFetch fetches key checkedAt with
  | some g => simp [hf, fetchOf] at h
  | none =>
    simp only [hf, askRegionsSpec] at h
    cases hd : describeRegions (awsSession.withRegion "us-east-1") describeAllRegionsInput <;>
      simp [hd, fetchOf] at h
    subst h
    exact ⟨hf, rfl⟩

/-- The run invariant: the fetches for one key are thirty minutes apart, and each was answered
at an instant of the run. -/
theorem regionsRun_fetches (calls : List (Session × RegionsCall)) (hclock : ClockForward calls) :
    (regionsRun calls).2.Pairwise (fun f g => f.key = g.key →
        f.answeredAt + awsRegionsCacheExpirationDuration ≤ g.answeredAt) ∧
      ∀ f ∈ (regionsRun calls).2, f.answeredAt ∈ instants calls := by
  induction calls using List.reverseRecOn with
  | nil => simp [regionsRun]
  | append_singleton calls call ih =>
    unfold ClockForward at hclock
    rw [instants_snoc, List.pairwise_append] at hclock
    obtain ⟨hclock, hcall, hafter⟩ := hclock
    obtain ⟨hapart, hin⟩ := ih hclock
    rw [regionsRun_snoc, regionsStep, regionsRun_cache calls, getCachedDescribeRegions_cacheOf]
    generalize hf : fetchOf call.2 (cachedDescribeRegionsSpec (regionsRun calls).2 call.1 call.2) = new
    rcases new with _ | f
    · exact ⟨by simpa using hapart, fun g hg => by
        rw [instants_snoc]; exact List.mem_append_left _ (hin g (by simpa using hg))⟩
    obtain ⟨hmiss, hat⟩ := fetchOf_cachedDescribeRegionsSpec hf
    have hcheck : call.2.checkedAt ≤ call.2.answeredAt := List.rel_of_pairwise_cons hcall
      (List.mem_singleton_self _)
    refine ⟨List.pairwise_append.mpr ⟨hapart, List.pairwise_singleton _ f, ?_⟩, ?_⟩
    · -- an earlier fetch for the key is older than the latest one, which had expired
      intro g hg f' hf' hkey
      rw [List.mem_singleton.mp hf', hat]
      have hg_before := hafter _ (hin g hg) _ (List.mem_cons_self _ _)
      unfold freshFetch at hmiss
      cases hl : latestFetch (regionsRun calls).2 f.key with
      | none => exact absurd (List.mem_singleton.mp hf' ▸ hkey) (latestFetch_eq_none hl g hg)
      | some l =>
        rw [hl, Option.filter_some] at hmiss
        have hexpired : ¬call.2.checkedAt - l.answeredAt < awsRegionsCacheExpirationDuration := by
          simpa using hmiss
        have hle := latestFetch_latest hapart hl g hg (List.mem_singleton.mp hf' ▸ hkey)
        omega
    · intro g hg
      rw [instants_snoc]
      rcases List.mem_append.mp hg with hg | hg
      · exact List.mem_append_left _ (hin g hg)
      · rw [List.mem_singleton.mp hg, hat]
        simp

/-- **The API is asked at most once per thirty minutes per access key.** Along every run of
`GetCachedDescribeRegions` on one cache from `NewRegionCache` whose clock does not go back, two
successful `DescribeRegions` for one access key are at least thirty minutes apart. -/
theorem regionsRun_fetches_apart (calls : List (Session × RegionsCall))
    (hclock : ClockForward calls) :
    (regionsRun calls).2.Pairwise fun f g => f.key = g.key →
      f.answeredAt + awsRegionsCacheExpirationDuration ≤ g.answeredAt :=
  (regionsRun_fetches calls hclock).1

/-- Two checks with one access key, thirty-one minutes apart, each answered in a second. -/
def twoChecksRun : List (Session × RegionsCall) :=
  [(default, ⟨.ok "AKIAEXAMPLE", 0, fun _ _ => .ok ⟨[]⟩, 1000000000⟩),
    (default, ⟨.ok "AKIAEXAMPLE", 1860000000000, fun _ _ => .ok ⟨[]⟩, 1861000000000⟩)]

theorem regionsRun_fetches_apart_twoChecks :
    ClockForward twoChecksRun ∧
      (regionsRun twoChecksRun).2.Pairwise fun f g => f.key = g.key →
        f.answeredAt + awsRegionsCacheExpirationDuration ≤ g.answeredAt :=
  ⟨by unfold ClockForward; decide,
    regionsRun_fetches_apart twoChecksRun (by unfold ClockForward; decide)⟩

end AwsProvider.Client
