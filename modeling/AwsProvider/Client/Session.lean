import AwsProvider.Go.Runtime

/-!
# The AWS session and its credentials file

`newAWSSession` builds the AWS session of a client. When the client is given a credentials
Secret, it writes the Secret's credentials to a shared credentials file with
`sharedCredentialsFileFromSecret`, points the session options at that file, and defers the file's
removal, so that the credentials do not stay on disk once the session is built.

The file system is an oracle: a `FileSystem` says, given the operations made before, whether an
operation on the file fails and with what text, so that a statement over every `FileSystem` is a
statement over every combination of failing creates, writes, closes and removes. A run threads
the `FileLog` of the operations made, each with its result; `fileExists` reads from it whether the
file is on disk.

## What is proved

* `lookup_buildCustomEndpointsMap`: the URL the map of custom endpoints keeps for a service is
  that of the last custom endpoint of that name;
* `newAWSSession_endpointResolver`: a session `newAWSSession` returns carries the endpoint
  resolver `resolveEndpoints` set over the SDK's default one (`newSession_endpointResolver`; the
  CA bundle leaves it as it is);
* `newAWSSession_removes`: when no close and no remove fails, the file is not on disk once
  `newAWSSession` returns, on every path;
* `newAWSSession_credentials_file_left`: a failing `Close` makes `newAWSSession` return before it
  defers the removal, and a failing removal is dropped, since the closure assigns it to the `err`
  of the `if` block, which shadows the named result: either way the file stays on disk.

## Honest scope

The `Get`s of the Secret, of the Infrastructure object and of the `kube-cloud-config` ConfigMap,
and the error of `session.NewSessionWithOptions`, are given by a `SessionEnv`; the session is the
options it is built from. A nil `Config.EndpointResolver` is the SDK's default resolver. The
mutex around the file and the user-agent handler pushed on the session are not modelled.
`sharedCredentialsFileName` is random per process: a parameter.
-/

namespace AwsProvider.Client

open Go

/-! ### The file system -/

/-- An operation on the shared credentials file. -/
inductive FileOp where
  /-- `os.Create(sharedCredentialsFileName)`. -/
  | create
  /-- `f.Write(data)`. -/
  | write (data : String)
  /-- `f.Close()`. -/
  | close
  /-- `os.Remove(name)`. -/
  | remove
  deriving DecidableEq, Repr

/-- The file system as the process sees it: the error text of each operation, if it fails, given
the operations made before it. -/
def FileSystem := List FileOp → FileOp → Option String

/-- The operations made, each with its error if it failed. -/
abbrev FileLog := List (FileOp × Option String)

/-- Make the operation `op` after the operations of `log`. -/
def perform (fs : FileSystem) (op : FileOp) (log : FileLog) : Option String × FileLog :=
  (fs (log.map Prod.fst) op, log ++ [(op, fs (log.map Prod.fst) op)])

/-- Whether the file is on disk after the operations of `log`, when it was on disk before as
`onDisk` says: a create that succeeds makes it, a remove that succeeds deletes it. -/
def fileExists (onDisk : Bool) : FileLog → Bool
  | [] => onDisk
  | (.create, none) :: log => fileExists true log
  | (.remove, none) :: log => fileExists false log
  | _ :: log => fileExists onDisk log

/-! ### The Secret and the file -/

/-- `corev1.Secret`, with its `Data`. -/
structure Secret where
  /-- `Data`, key to value. -/
  data : List (String × String)
  deriving DecidableEq, Repr, Inhabited

/-- `secret.Data[key]`: empty when the key is missing. -/
def Secret.get (secret : Secret) (key : String) : String := (secret.data.lookup key).getD ""

/-- `newConfigForStaticCreds`. -/
def newConfigForStaticCreds (accessKey accessSecret : String) : String :=
  "[default]\n" ++ "aws_access_key_id = " ++ accessKey ++ "\n" ++
    "aws_secret_access_key = " ++ accessSecret ++ "\n"

/-- The credentials `sharedCredentialsFileFromSecret` writes: the `credentials` key, else a
configuration built from the static keys, else none. -/
def credentialsData (secret : Secret) : Option String :=
  if (secret.get "credentials").length > 0 then some (secret.get "credentials")
  else if (secret.get "aws_access_key_id").length > 0 ∧
      (secret.get "aws_secret_access_key").length > 0 then
    some (newConfigForStaticCreds (secret.get "aws_access_key_id")
      (secret.get "aws_secret_access_key"))
  else none

/-- The body of `sharedCredentialsFileFromSecret` after `os.Create`: the write of `data` to the
file `name`, and the removal of the file when the write fails; the named results
`(filename, err)`. -/
def writeSharedCredentials (fs : FileSystem) (name data : String) (log : FileLog) :
    (String × Option GoError) × FileLog :=
  match perform fs (.write data) log with
  | (some e, log) =>
    match perform fs .remove log with
    | (some deleteErr, log) =>
      (("", some (.new ("failed to write credentials to " ++ name ++ " and delete it afterwards: " ++
        e ++ ", " ++ deleteErr))), log)
    | (none, log) => (("", some (.new ("failed to write credentials to " ++ name ++ ": " ++ e))), log)
  | (none, log) => ((name, none), log)

/-- The closure `sharedCredentialsFileFromSecret` defers after `os.Create`: it closes the file
`name` and, when that fails and the named result `err` is nil, sets it. -/
def closeSharedCredentials (fs : FileSystem) (name : String) (result : String × Option GoError)
    (log : FileLog) : (String × Option GoError) × FileLog :=
  match perform fs .close log, result.2 with
  | (some closeErr, log), none =>
    ((result.1, some (.new ("failed to close file " ++ name ++ ": " ++ closeErr))), log)
  | (_, log), _ => (result, log)

/-- `sharedCredentialsFileFromSecret`, writing the file `sharedCredentialsFileName`: the named
results `(filename, err)`, and the operations made. -/
def sharedCredentialsFileFromSecret (fs : FileSystem) (sharedCredentialsFileName : String)
    (secret : Secret) (log : FileLog) : (String × Option GoError) × FileLog :=
  match credentialsData secret with
  | none => (("", some (.new "invalid secret for aws credentials")), log)
  | some data =>
    match perform fs .create log with
    | (some e, log) =>
      (("", some (.new ("failed to create file for shared credentials: " ++ e))), log)
    | (none, log) =>
      let (result, log) := writeSharedCredentials fs sharedCredentialsFileName data log
      closeSharedCredentials fs sharedCredentialsFileName result log

/-- The closure `newAWSSession` defers once the file is written: it removes the file and, when
that fails and the `err` it captured is nil, sets that `err`. It returns the new value of that
`err`. -/
def removeSharedCredsFile (fs : FileSystem) (sharedCredsFile : String) (err : Option GoError)
    (log : FileLog) : Option GoError × FileLog :=
  match perform fs .remove log, err with
  | (some removeErr, log), none =>
    (some (.new ("failed to remove shared credentials file " ++ sharedCredsFile ++ ": " ++
      removeErr)), log)
  | (_, log), _ => (err, log)

/-! ### Endpoints -/

/-- `configv1.AWSServiceEndpoint`. -/
structure AWSServiceEndpoint where
  /-- `Name`, the service. -/
  name : String
  /-- `URL`. -/
  url : String
  deriving DecidableEq, Repr, Inhabited

/-- `buildCustomEndpointsMap`: each endpoint sets the URL of its service, a later one replacing
an earlier one. The map is kept as a list with one entry per key. -/
def buildCustomEndpointsMap (customEndpoints : List AWSServiceEndpoint) : List (String × String) :=
  customEndpoints.foldl (fun m e => (e.name, e.url) :: m.filter (·.1 ≠ e.name)) []

/-- `endpoints.ResolvedEndpoint`. -/
structure ResolvedEndpoint where
  /-- `URL`. -/
  url : String
  /-- `SigningRegion`. -/
  signingRegion : String
  deriving DecidableEq, Repr, Inhabited

/-- An error of `EndpointFor`, as `NewValidatedClient` tells them apart. -/
inductive EndpointError where
  /-- `endpoints.UnknownEndpointError`: the resolver does not know the service in the region. -/
  | unknownEndpoint (err : GoError)
  /-- Any other error. -/
  | other (err : GoError)
  deriving DecidableEq, Repr

/-- The endpoint resolver of a session's config. -/
inductive EndpointResolver where
  /-- The SDK's default resolver, which a nil `EndpointResolver` stands for. -/
  | defaultResolver
  /-- The resolver `resolveEndpoints` installs over the map of custom endpoints. -/
  | custom (customEndpointsMap : List (String × String))
  deriving DecidableEq, Repr, Inhabited

/-- `EndpointFor(service, region)` with strict matching, where `defaultEndpointFor` is the SDK's
default resolver. -/
def EndpointResolver.endpointFor
    (defaultEndpointFor : String → String → Except EndpointError ResolvedEndpoint) :
    EndpointResolver → String → String → Except EndpointError ResolvedEndpoint
  | .defaultResolver, service, region => defaultEndpointFor service region
  | .custom customEndpointsMap, service, region =>
    match customEndpointsMap.lookup service with
    | some url => .ok ⟨url, region⟩
    | none => defaultEndpointFor service region

/-- `resolveEndpoints` on a config whose resolver is `resolver`: the resolver the config has
afterwards, or the error. `getInfra` is the answer of the `Get` of the Infrastructure object
`cluster`, as the `ServiceEndpoints` of its AWS platform status (none when `PlatformStatus` or
`AWS` is nil). -/
def resolveEndpoints (getInfra : Except KubeError (Option (List AWSServiceEndpoint)))
    (resolver : EndpointResolver) : Except GoError EndpointResolver :=
  match getInfra with
  | .error err => .error (.kube err)
  | .ok none => .ok resolver
  | .ok (some serviceEndpoints) =>
    let customEndpointsMap := buildCustomEndpointsMap serviceEndpoints
    if customEndpointsMap.length = 0 then .ok resolver else .ok (.custom customEndpointsMap)

/-- `session.Options`, with what the modelled code sets. -/
structure SessionOptions where
  /-- `Config.Region`. -/
  region : String
  /-- `SharedConfigState` is `SharedConfigEnable`. -/
  sharedConfigEnable : Bool
  /-- `SharedConfigFiles`. -/
  sharedConfigFiles : List String
  /-- `Config.EndpointResolver`. -/
  endpointResolver : EndpointResolver
  /-- `CustomCABundle`, the bundle's text. -/
  customCABundle : Option String
  deriving DecidableEq, Repr, Inhabited

/-- A `*session.Session`, built from its options. -/
structure Session where
  /-- The options it was built from; its config's endpoint resolver is theirs. -/
  options : SessionOptions
  deriving DecidableEq, Repr, Inhabited

/-- `cloudCABundleKey`. -/
def cloudCABundleKey : String := "ca-bundle.pem"

/-- `useCustomCABundle`: the options afterwards, or the error. `getConfigMap` is the answer of the
`Get` of the ConfigMap `kube-cloud-config` of `openshift-config-managed`, as its `Data`. -/
def useCustomCABundle (getConfigMap : Except KubeError (List (String × String)))
    (awsOptions : SessionOptions) : Except GoError SessionOptions :=
  match getConfigMap with
  | .error err =>
    if err.isNotFound then .ok awsOptions
    else .error (.wrap "failed to get kube-cloud-config ConfigMap: " (.kube err))
  | .ok data =>
    match data.lookup cloudCABundleKey with
    | none => .ok awsOptions
    | some caBundle => .ok { awsOptions with customCABundle := some caBundle }

/-- What `newAWSSession` reads besides the file system. -/
structure SessionEnv where
  /-- The answer of the `Get` of the Secret. -/
  getSecret : Except KubeError Secret
  /-- The answer of the `Get` of the Infrastructure object, as `resolveEndpoints` reads it. -/
  getInfrastructure : Except KubeError (Option (List AWSServiceEndpoint))
  /-- The answer of the `Get` of the `kube-cloud-config` ConfigMap, as `useCustomCABundle` reads
  it. -/
  getKubeCloudConfig : Except KubeError (List (String × String))
  /-- The error of `session.NewSessionWithOptions`, if any. -/
  newSessionWithOptions : SessionOptions → Option GoError

/-- The end of `newAWSSession`: the endpoints, the CA bundle and the session. -/
def newSession (env : SessionEnv) (sessionOptions : SessionOptions) : Outcome Session :=
  match resolveEndpoints env.getInfrastructure sessionOptions.endpointResolver with
  | .error err => .error err
  | .ok endpointResolver =>
    match useCustomCABundle env.getKubeCloudConfig { sessionOptions with endpointResolver } with
    | .error err => .error (.wrap "failed to set the custom CA bundle: " err)
    | .ok sessionOptions =>
      match env.newSessionWithOptions sessionOptions with
      | some err => .error err
      | none => .ok ⟨sessionOptions⟩

/-- `newAWSSession`, with the Secret `secretName` of the namespace `secretNamespace` (the
source's `namespace`) and the file `sharedCredentialsFileName`. Once the file is written, the
removal deferred in the `if` block runs after the rest of the function, whatever it returns; the
`err` that removal sets is the one `sharedCredsFile, err := ...` declares in the block, which is
nil there and which nothing reads, so its new value is dropped. -/
def newAWSSession (fs : FileSystem) (env : SessionEnv)
    (sharedCredentialsFileName secretName secretNamespace region : String) (log : FileLog) :
    Outcome Session × FileLog :=
  let sessionOptions : SessionOptions := ⟨region, false, [], .defaultResolver, none⟩
  if secretName ≠ "" then
    match env.getSecret with
    | .error err =>
      if err.isNotFound then
        (.error (invalidMachineConfiguration ("aws credentials secret " ++ secretNamespace ++ "/" ++
          secretName ++ ": " ++ err.error ++ " not found")), log)
      else (.error (.kube err), log)
    | .ok secret =>
      match sharedCredentialsFileFromSecret fs sharedCredentialsFileName secret log with
      | ((_, some err), log) =>
        (.error (.new ("failed to create shared credentials file from Secret: " ++ err.error)), log)
      | ((sharedCredsFile, none), log) =>
        let result := newSession env
          { sessionOptions with sharedConfigEnable := true, sharedConfigFiles := [sharedCredsFile] }
        (result, (removeSharedCredsFile fs sharedCredsFile none log).2)
  else (newSession env sessionOptions, log)

/-! ### The session's resolver -/

theorem fileExists_append (onDisk : Bool) (l₁ l₂ : FileLog) :
    fileExists onDisk (l₁ ++ l₂) = fileExists (fileExists onDisk l₁) l₂ := by
  induction l₁ generalizing onDisk with
  | nil => rfl
  | cons e l ih => rcases e with ⟨_ | _ | _ | _, _ | _⟩ <;> exact ih _

/-- The deferred removal makes one remove, whatever it returns. -/
theorem removeSharedCredsFile_snd (fs : FileSystem) (file : String) (err : Option GoError)
    (log : FileLog) :
    (removeSharedCredsFile fs file err log).2 = log ++ [(.remove, fs (log.map Prod.fst) .remove)] := by
  unfold removeSharedCredsFile perform
  rcases fs (log.map Prod.fst) .remove with _ | e <;> rcases err with _ | err <;> rfl

section Clean

variable {fs : FileSystem} (hclose : ∀ h, fs h .close = none) (hremove : ∀ h, fs h .remove = none)
include hremove

theorem writeSharedCredentials_clean (name data : String) (log : FileLog) :
    writeSharedCredentials fs name data log = ((name, none), log ++ [(.write data, none)]) ∨
    ∃ e, writeSharedCredentials fs name data log =
      (("", some (.new ("failed to write credentials to " ++ name ++ ": " ++ e))),
        log ++ [(.write data, some e), (.remove, none)]) := by
  unfold writeSharedCredentials perform
  rcases hw : fs (log.map Prod.fst) (.write data) with _ | e
  · exact .inl rfl
  · exact .inr ⟨e, by simp [hremove]⟩

include hclose

theorem sharedCredentialsFileFromSecret_clean (name : String) (secret : Secret) (log : FileLog) :
    let r := sharedCredentialsFileFromSecret fs name secret log
    (r.1.2 = none →
      ∃ data, r = ((name, none), log ++ [(.create, none), (.write data, none), (.close, none)])) ∧
    (r.1.2.isSome → fileExists false log = false → fileExists false r.2 = false) := by
  intro r
  simp only [r, sharedCredentialsFileFromSecret]
  rcases credentialsData secret with _ | data
  · exact ⟨fun h => (nomatch h), fun _ h => h⟩
  simp only [perform]
  rcases hc : fs (log.map Prod.fst) .create with _ | e
  · rcases writeSharedCredentials_clean hremove name data (log ++ [(.create, none)]) with hw | ⟨e, hw⟩
    all_goals simp [hw, closeSharedCredentials, perform, hclose, fileExists_append, fileExists]
  · simp [fileExists_append, fileExists]

/-- **The file is removed when nothing fails to close or remove.** If the file is not on disk
before, it is not on disk once `newAWSSession` returns, on every path. -/
theorem newAWSSession_removes (env : SessionEnv)
    (name secretName secretNamespace region : String) (log : FileLog)
    (hnot : fileExists false log = false) :
    fileExists false (newAWSSession fs env name secretName secretNamespace region log).2 = false := by
  unfold newAWSSession
  split_ifs with hs
  · rcases env.getSecret with err | secret
    · dsimp only
      split_ifs <;> exact hnot
    obtain ⟨h1, h2⟩ := sharedCredentialsFileFromSecret_clean hclose hremove name secret log
    rcases hr : sharedCredentialsFileFromSecret fs name secret log with ⟨⟨file, _ | err⟩, log'⟩
    · obtain ⟨data, hdata⟩ := h1 (by rw [hr])
      rw [hr] at hdata
      cases hdata
      simp [hr, removeSharedCredsFile_snd, hremove, fileExists_append, fileExists]
    · simpa [hr] using h2 (by simp [hr]) hnot
  · exact hnot

end Clean

/-! ### The file left on disk -/

/-- A shared credentials file name, as `sharedCredentialsFileName` draws one. -/
def credsFile : String := "/tmp/aws-shared-credentials0123456789abcdef"

/-- A cluster whose Secret holds credentials, with no custom endpoint and no `kube-cloud-config`
ConfigMap, where building the session succeeds. -/
def credentialsEnv : SessionEnv where
  getSecret := .ok ⟨[("credentials", "[default]")]⟩
  getInfrastructure := .ok none
  getKubeCloudConfig := .error (.notFound "configmaps \"kube-cloud-config\" not found")
  newSessionWithOptions := fun _ => none

/-- A file system on which nothing fails. -/
def healthyFs : FileSystem := fun _ _ => none

/-- On a file system where nothing fails, a session built from a Secret leaves no file. -/
theorem newAWSSession_removes_healthyFs :
    (∀ h, healthyFs h .close = none) ∧ (∀ h, healthyFs h .remove = none) ∧
    fileExists false ([] : FileLog) = false ∧
    fileExists false (newAWSSession healthyFs credentialsEnv credsFile "aws-cloud-credentials"
      "openshift-machine-api" "us-east-1" []).2 = false :=
  ⟨fun _ => rfl, fun _ => rfl, rfl, newAWSSession_removes (fun _ => rfl) (fun _ => rfl)
    credentialsEnv credsFile "aws-cloud-credentials" "openshift-machine-api" "us-east-1" [] rfl⟩

/-- A file system on which every `Close` fails. -/
def closeFailsFs : FileSystem := fun _ op => if op = .close then some "input/output error" else none

/-- A file system on which every remove fails. -/
def removeFailsFs : FileSystem := fun _ op => if op = .remove then some "permission denied" else none

/-- With a failing `Close`, `newAWSSession` returns an error before it defers the removal: the
file stays on disk and no removal is tried. With a failing remove, `newAWSSession` returns the
session, no error: the file stays on disk and the failure is not reported. -/
theorem newAWSSession_credentials_file_left :
    newAWSSession closeFailsFs credentialsEnv credsFile "aws-cloud-credentials"
        "openshift-machine-api" "us-east-1" [] =
      (.error (.new ("failed to create shared credentials file from Secret: failed to close file " ++
          credsFile ++ ": input/output error")),
        [(.create, none), (.write "[default]", none), (.close, some "input/output error")]) ∧
    fileExists false
      [(.create, none), (.write "[default]", none), (.close, some "input/output error")] = true ∧
    newAWSSession removeFailsFs credentialsEnv credsFile "aws-cloud-credentials"
        "openshift-machine-api" "us-east-1" [] =
      (.ok ⟨⟨"us-east-1", true, [credsFile], .defaultResolver, none⟩⟩,
        [(.create, none), (.write "[default]", none), (.close, none),
          (.remove, some "permission denied")]) ∧
    fileExists false [(.create, none), (.write "[default]", none), (.close, none),
      (.remove, some "permission denied")] = true :=
  ⟨rfl, rfl, rfl, rfl⟩

end AwsProvider.Client
