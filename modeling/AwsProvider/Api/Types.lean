import AwsProvider.Go.Runtime

/-!
# The API objects the controllers read

The parts of the machine API (`machine/v1beta1`) and of the cluster configuration API
(`config/v1`) that the modelled functions read: the Machine and its AWS provider config, and the
cluster's Infrastructure object. Pointer fields are `Option`s; a slice the code checks against
nil (`Filters`, `ResourceTags`) is an `Option (List _)`, so that nil and empty stay apart.

Fields no modelled function reads are left out; `MODEL_MAP.json` lists them.
-/

namespace AwsProvider.Api

/-- `machinev1beta1.Filter`. -/
structure Filter where
  /-- `Name`. -/
  name : String
  /-- `Values`. -/
  values : List String
  deriving DecidableEq, Repr, Inhabited

/-- `machinev1beta1.AWSResourceReference`: an ID, or filters to look the resource up by. -/
structure AWSResourceReference where
  /-- `ID`. -/
  id : Option String
  /-- `ARN`. -/
  arn : Option String
  /-- `Filters`; nil and empty differ for security groups. -/
  filters : Option (List Filter)
  deriving DecidableEq, Repr, Inhabited

/-- `machinev1beta1.TagSpecification`. -/
structure TagSpecification where
  /-- `Name`, the key. -/
  name : String
  /-- `Value`. -/
  value : String
  deriving DecidableEq, Repr, Inhabited

/-- `machinev1beta1.EBSBlockDeviceSpec`. -/
structure EBSBlockDeviceSpec where
  /-- `Encrypted`. -/
  encrypted : Option Bool
  /-- `KMSKey`. -/
  kmsKey : AWSResourceReference
  /-- `Iops`. -/
  iops : Option Int
  /-- `VolumeSize`. -/
  volumeSize : Option Int
  /-- `VolumeType`. -/
  volumeType : Option String
  deriving DecidableEq, Repr, Inhabited

/-- `machinev1beta1.BlockDeviceMappingSpec`. -/
structure BlockDeviceMappingSpec where
  /-- `DeviceName`. -/
  deviceName : Option String
  /-- `EBS`. -/
  ebs : Option EBSBlockDeviceSpec
  deriving DecidableEq, Repr, Inhabited

/-- `machinev1beta1.Placement`. -/
structure Placement where
  /-- `AvailabilityZone`. -/
  availabilityZone : String
  /-- `Tenancy`. -/
  tenancy : String
  /-- `Region`. -/
  region : String
  deriving DecidableEq, Repr, Inhabited

/-- `corev1.LocalObjectReference`. -/
structure LocalObjectReference where
  /-- `Name`. -/
  name : String
  deriving DecidableEq, Repr, Inhabited

/-- `machinev1beta1.SpotMarketOptions`. -/
structure SpotMarketOptions where
  /-- `MaxPrice`. -/
  maxPrice : Option String
  deriving DecidableEq, Repr, Inhabited

/-- `machinev1beta1.MetadataServiceOptions`. -/
structure MetadataServiceOptions where
  /-- `Authentication`: `""`, `Optional` or `Required`. -/
  authentication : String
  deriving DecidableEq, Repr, Inhabited

/-- `machinev1beta1.AWSMachineProviderConfig`. -/
structure AWSMachineProviderConfig where
  /-- `AMI`. -/
  ami : AWSResourceReference
  /-- `InstanceType`. -/
  instanceType : String
  /-- `CredentialsSecret`. -/
  credentialsSecret : Option LocalObjectReference
  /-- `Tags`. -/
  tags : List TagSpecification
  /-- `IAMInstanceProfile`. -/
  iamInstanceProfile : Option AWSResourceReference
  /-- `KeyName`. -/
  keyName : Option String
  /-- `DeviceIndex`. -/
  deviceIndex : Int
  /-- `SecurityGroups`. -/
  securityGroups : List AWSResourceReference
  /-- `Subnet`. -/
  subnet : AWSResourceReference
  /-- `Placement`. -/
  placement : Placement
  /-- `PublicIP`. -/
  publicIP : Option Bool
  /-- `NetworkInterfaceType`: `""`, `ENA` or `EFA`. -/
  networkInterfaceType : String
  /-- `BlockDevices`. -/
  blockDevices : List BlockDeviceMappingSpec
  /-- `SpotMarketOptions`. -/
  spotMarketOptions : Option SpotMarketOptions
  /-- `MetadataServiceOptions`. -/
  metadataServiceOptions : MetadataServiceOptions
  /-- `PlacementGroupName`. -/
  placementGroupName : String
  /-- `PlacementGroupPartition`. -/
  placementGroupPartition : Option Int
  /-- `CapacityReservationID`. -/
  capacityReservationID : String
  /-- `MarketType`: `""`, `OnDemand`, `Spot` or `CapacityBlock`. -/
  marketType : String
  deriving DecidableEq, Repr, Inhabited

/-! ### Constants of `machine/v1beta1` -/

/-- `MarketTypeOnDemand`. -/
def marketTypeOnDemand : String := "OnDemand"
/-- `MarketTypeSpot`. -/
def marketTypeSpot : String := "Spot"
/-- `MarketTypeCapacityBlock`. -/
def marketTypeCapacityBlock : String := "CapacityBlock"
/-- `AWSENANetworkInterfaceType`. -/
def awsENANetworkInterfaceType : String := "ENA"
/-- `AWSEFANetworkInterfaceType`. -/
def awsEFANetworkInterfaceType : String := "EFA"
/-- `DefaultTenancy`. -/
def defaultTenancy : String := "default"
/-- `DedicatedTenancy`. -/
def dedicatedTenancy : String := "dedicated"
/-- `HostTenancy`. -/
def hostTenancy : String := "host"
/-- `MetadataServiceAuthenticationOptional`. -/
def metadataServiceAuthenticationOptional : String := "Optional"
/-- `MetadataServiceAuthenticationRequired`. -/
def metadataServiceAuthenticationRequired : String := "Required"

/-- A Machine, as `launchInstance` reads it. -/
structure Machine where
  /-- `Name`. -/
  name : String
  /-- What `getClusterID` finds in the machine's labels; the lookup itself is not in the source,
  so its result is taken as given. -/
  clusterID : Option String
  deriving DecidableEq, Repr, Inhabited

/-- A MachineSet, as the MachineSet controller reads and writes it. -/
structure MachineSet where
  /-- `Name`. -/
  name : String
  /-- `Namespace`. -/
  ns : String
  /-- `DeletionTimestamp`. -/
  deletionTimestamp : Option Int
  /-- `Annotations`; a nil map is `none`. -/
  annotations : Option (List (String × String))
  /-- `Spec.Template.Spec.ProviderSpec.Value`, the raw provider spec. -/
  providerSpec : String
  /-- `Status.Conditions`: each condition's type and status. -/
  conditions : List (String × String)
  /-- `Status.AuthoritativeAPI`. -/
  authoritativeAPI : String
  deriving DecidableEq, Repr, Inhabited

/-- `configv1.AWSResourceTag`. -/
structure AWSResourceTag where
  /-- `Key`. -/
  key : String
  /-- `Value`. -/
  value : String
  deriving DecidableEq, Repr, Inhabited

/-- `configv1.AWSPlatformStatus`. -/
structure AWSPlatformStatus where
  /-- `Region`. -/
  region : String
  /-- `ResourceTags`, the tags the cluster puts on every resource it creates. -/
  resourceTags : Option (List AWSResourceTag)
  deriving DecidableEq, Repr, Inhabited

/-- `configv1.PlatformStatus`. -/
structure PlatformStatus where
  /-- `AWS`. -/
  aws : Option AWSPlatformStatus
  deriving DecidableEq, Repr, Inhabited

/-- `configv1.InfrastructureStatus`. -/
structure InfrastructureStatus where
  /-- `InfrastructureName`, the cluster ID. -/
  infrastructureName : String
  /-- `PlatformStatus`. -/
  platformStatus : Option PlatformStatus
  deriving DecidableEq, Repr, Inhabited

/-- `configv1.Infrastructure`. -/
structure Infrastructure where
  /-- `Status`. -/
  status : InfrastructureStatus
  deriving DecidableEq, Repr, Inhabited

/-- The infrastructure's resource tags, when every pointer on the way is set
(the guard of `mergeInfrastructureAndMachineSpecTags`). -/
def infraResourceTags : Option Infrastructure → Option (List AWSResourceTag)
  | some infra => infra.status.platformStatus.bind (·.aws) |>.bind (·.resourceTags)
  | none => none

end AwsProvider.Api
