import AwsProvider.Go.Runtime

/-!
# The EC2 API's requests and responses

The request and response records of the AWS SDK for Go (`github.com/aws/aws-sdk-go/service/ec2`)
that the controllers build or read, with the fields they touch. A pointer field of the SDK is an
`Option`; a `[]*string` or `[]*T` field whose elements the code always sets is a `List`. Every
record derives `Inhabited`, whose `default` is Go's zero value: the SDK hands back such an empty
output together with an error.

Times are Unix times in nanoseconds (`Int`), as `time.Time` compares them.
-/

namespace AwsProvider.EC2

/-! ### Constants of the SDK -/

/-- `ec2.MarketTypeSpot`. -/
def marketTypeSpot : String := "spot"
/-- `ec2.MarketTypeCapacityBlock`. -/
def marketTypeCapacityBlock : String := "capacity-block"
/-- `ec2.InstanceInterruptionBehaviorTerminate`. -/
def instanceInterruptionBehaviorTerminate : String := "terminate"
/-- `ec2.SpotInstanceTypeOneTime`. -/
def spotInstanceTypeOneTime : String := "one-time"
/-- `ec2.HttpTokensStateOptional`. -/
def httpTokensStateOptional : String := "optional"
/-- `ec2.HttpTokensStateRequired`. -/
def httpTokensStateRequired : String := "required"
/-- `ec2.VolumeTypeIo1`. -/
def volumeTypeIo1 : String := "io1"
/-- `ec2.VolumeTypeIo2`. -/
def volumeTypeIo2 : String := "io2"
/-- `ec2.VolumeTypeGp3`. -/
def volumeTypeGp3 : String := "gp3"
/-- `ec2.PlacementStrategySpread`. -/
def placementStrategySpread : String := "spread"
/-- `ec2.PlacementStrategyCluster`. -/
def placementStrategyCluster : String := "cluster"
/-- `ec2.PlacementStrategyPartition`. -/
def placementStrategyPartition : String := "partition"
/-- `ec2.ResourceTypePlacementGroup`. -/
def resourceTypePlacementGroup : String := "placement-group"

/-- `ec2.Filter`. -/
structure Filter where
  /-- `Name`. -/
  name : String
  /-- `Values`. -/
  values : List String
  deriving DecidableEq, Repr, Inhabited

/-- `ec2.Tag`. -/
structure Tag where
  /-- `Key`. -/
  key : Option String
  /-- `Value`. -/
  value : Option String
  deriving DecidableEq, Repr, Inhabited

/-- `ec2.TagSpecification`. -/
structure TagSpecification where
  /-- `ResourceType`. -/
  resourceType : Option String
  /-- `Tags`. -/
  tags : List Tag
  deriving DecidableEq, Repr, Inhabited

/-! ### Images, security groups, subnets, zones -/

/-- `ec2.Image`. -/
structure Image where
  /-- `ImageId`. -/
  imageId : Option String
  /-- `CreationDate`, an RFC 3339 time. -/
  creationDate : Option String
  /-- `RootDeviceName`. -/
  rootDeviceName : Option String
  deriving DecidableEq, Repr, Inhabited

/-- `ec2.DescribeImagesInput`. -/
structure DescribeImagesInput where
  /-- `Filters`. -/
  filters : List Filter
  /-- `ImageIds`. -/
  imageIds : List String
  deriving DecidableEq, Repr, Inhabited

/-- `ec2.DescribeImagesOutput`. -/
structure DescribeImagesOutput where
  /-- `Images`. -/
  images : List Image
  deriving DecidableEq, Repr, Inhabited

/-- `ec2.SecurityGroup`. -/
structure SecurityGroup where
  /-- `GroupId`. -/
  groupId : Option String
  deriving DecidableEq, Repr, Inhabited

/-- `ec2.DescribeSecurityGroupsInput`. -/
structure DescribeSecurityGroupsInput where
  /-- `Filters`. -/
  filters : List Filter
  deriving DecidableEq, Repr, Inhabited

/-- `ec2.DescribeSecurityGroupsOutput`. -/
structure DescribeSecurityGroupsOutput where
  /-- `SecurityGroups`. -/
  securityGroups : List SecurityGroup
  deriving DecidableEq, Repr, Inhabited

/-- `ec2.Subnet`. -/
structure Subnet where
  /-- `SubnetId`. -/
  subnetId : Option String
  /-- `AvailabilityZone`. -/
  availabilityZone : Option String
  deriving DecidableEq, Repr, Inhabited

/-- `ec2.DescribeSubnetsInput`. -/
structure DescribeSubnetsInput where
  /-- `DryRun`. -/
  dryRun : Option Bool
  /-- `Filters`. -/
  filters : List Filter
  /-- `SubnetIds`. -/
  subnetIds : List String
  deriving DecidableEq, Repr, Inhabited

/-- `ec2.DescribeSubnetsOutput`. -/
structure DescribeSubnetsOutput where
  /-- `Subnets`. -/
  subnets : List Subnet
  deriving DecidableEq, Repr, Inhabited

/-- `ec2.AvailabilityZone`. -/
structure AvailabilityZone where
  /-- `ZoneType`. -/
  zoneType : Option String
  deriving DecidableEq, Repr, Inhabited

/-- `ec2.DescribeAvailabilityZonesInput`. -/
structure DescribeAvailabilityZonesInput where
  /-- `DryRun`. -/
  dryRun : Option Bool
  /-- `ZoneNames`. -/
  zoneNames : List String
  deriving DecidableEq, Repr, Inhabited

/-- `ec2.DescribeAvailabilityZonesOutput`. -/
structure DescribeAvailabilityZonesOutput where
  /-- `AvailabilityZones`. -/
  availabilityZones : List AvailabilityZone
  deriving DecidableEq, Repr, Inhabited

/-! ### Launching an instance -/

/-- `ec2.EbsBlockDevice`. -/
structure EbsBlockDevice where
  /-- `VolumeSize`. -/
  volumeSize : Option Int
  /-- `VolumeType`. -/
  volumeType : Option String
  /-- `Encrypted`. -/
  encrypted : Option Bool
  /-- `DeleteOnTermination`. -/
  deleteOnTermination : Option Bool
  /-- `Iops`. -/
  iops : Option Int
  /-- `KmsKeyId`. -/
  kmsKeyId : Option String
  deriving DecidableEq, Repr, Inhabited

/-- `ec2.BlockDeviceMapping`. -/
structure BlockDeviceMapping where
  /-- `DeviceName`. -/
  deviceName : Option String
  /-- `Ebs`. -/
  ebs : Option EbsBlockDevice
  deriving DecidableEq, Repr, Inhabited

/-- `ec2.InstanceNetworkInterfaceSpecification`. -/
structure InstanceNetworkInterfaceSpecification where
  /-- `DeviceIndex`. -/
  deviceIndex : Option Int
  /-- `SubnetId`. -/
  subnetId : Option String
  /-- `Groups`. -/
  groups : List String
  /-- `AssociateCarrierIpAddress`. -/
  associateCarrierIpAddress : Option Bool
  /-- `AssociatePublicIpAddress`. -/
  associatePublicIpAddress : Option Bool
  /-- `InterfaceType`. -/
  interfaceType : Option String
  deriving DecidableEq, Repr, Inhabited

/-- `ec2.IamInstanceProfileSpecification`. -/
structure IamInstanceProfileSpecification where
  /-- `Name`. -/
  name : Option String
  deriving DecidableEq, Repr, Inhabited

/-- `ec2.Placement`. -/
structure Placement where
  /-- `AvailabilityZone`. -/
  availabilityZone : Option String
  /-- `GroupName`. -/
  groupName : Option String
  /-- `PartitionNumber`. -/
  partitionNumber : Option Int
  /-- `Tenancy`. -/
  tenancy : Option String
  deriving DecidableEq, Repr, Inhabited

/-- `ec2.InstanceMetadataOptionsRequest`. -/
structure InstanceMetadataOptionsRequest where
  /-- `HttpTokens`. -/
  httpTokens : Option String
  deriving DecidableEq, Repr, Inhabited

/-- `ec2.SpotMarketOptions`. -/
structure SpotMarketOptions where
  /-- `InstanceInterruptionBehavior`. -/
  instanceInterruptionBehavior : Option String
  /-- `SpotInstanceType`. -/
  spotInstanceType : Option String
  /-- `MaxPrice`. -/
  maxPrice : Option String
  deriving DecidableEq, Repr, Inhabited

/-- `ec2.InstanceMarketOptionsRequest`. -/
structure InstanceMarketOptionsRequest where
  /-- `MarketType`. -/
  marketType : Option String
  /-- `SpotOptions`. -/
  spotOptions : Option SpotMarketOptions
  deriving DecidableEq, Repr, Inhabited

/-- `ec2.CapacityReservationTarget`. -/
structure CapacityReservationTarget where
  /-- `CapacityReservationId`. -/
  capacityReservationId : Option String
  deriving DecidableEq, Repr, Inhabited

/-- `ec2.CapacityReservationSpecification`. -/
structure CapacityReservationSpecification where
  /-- `CapacityReservationTarget`. -/
  capacityReservationTarget : Option CapacityReservationTarget
  deriving DecidableEq, Repr, Inhabited

/-- `ec2.RunInstancesInput`. -/
structure RunInstancesInput where
  /-- `ImageId`. -/
  imageId : Option String
  /-- `InstanceType`. -/
  instanceType : Option String
  /-- `MinCount`. -/
  minCount : Option Int
  /-- `MaxCount`. -/
  maxCount : Option Int
  /-- `KeyName`. -/
  keyName : Option String
  /-- `IamInstanceProfile`. -/
  iamInstanceProfile : Option IamInstanceProfileSpecification
  /-- `TagSpecifications`. -/
  tagSpecifications : List TagSpecification
  /-- `NetworkInterfaces`. -/
  networkInterfaces : List InstanceNetworkInterfaceSpecification
  /-- `UserData`, base64. -/
  userData : Option String
  /-- `Placement`. -/
  placement : Option Placement
  /-- `MetadataOptions`. -/
  metadataOptions : Option InstanceMetadataOptionsRequest
  /-- `InstanceMarketOptions`. -/
  instanceMarketOptions : Option InstanceMarketOptionsRequest
  /-- `CapacityReservationSpecification`. -/
  capacityReservationSpecification : Option CapacityReservationSpecification
  /-- `BlockDeviceMappings`. -/
  blockDeviceMappings : List BlockDeviceMapping
  deriving DecidableEq, Repr, Inhabited

/-- `ec2.InstanceState`. -/
structure InstanceState where
  /-- `Name`, such as `running` or `terminated`. -/
  name : Option String
  deriving DecidableEq, Repr, Inhabited

/-- `ec2.Instance`. -/
structure Instance where
  /-- `InstanceId`. -/
  instanceId : Option String
  /-- `State`. -/
  state : Option InstanceState
  /-- `LaunchTime`. -/
  launchTime : Option Int
  deriving DecidableEq, Repr, Inhabited

/-- `ec2.Reservation`. -/
structure Reservation where
  /-- `Instances`. -/
  instances : List Instance
  deriving DecidableEq, Repr, Inhabited

/-- `ec2.DescribeInstancesInput`. -/
structure DescribeInstancesInput where
  /-- `Filters`. -/
  filters : List Filter
  deriving DecidableEq, Repr, Inhabited

/-- `ec2.DescribeInstancesOutput`. -/
structure DescribeInstancesOutput where
  /-- `Reservations`. -/
  reservations : List Reservation
  deriving DecidableEq, Repr, Inhabited

/-! ### Placement groups -/

/-- `ec2.PlacementGroup`. -/
structure PlacementGroup where
  /-- `GroupName`. -/
  groupName : Option String
  /-- `GroupId`. -/
  groupId : Option String
  /-- `Strategy`: `spread`, `cluster` or `partition`. -/
  strategy : Option String
  /-- `PartitionCount`. -/
  partitionCount : Option Int
  /-- `Tags`. -/
  tags : List Tag
  deriving DecidableEq, Repr, Inhabited

/-- `ec2.DescribePlacementGroupsInput`. -/
structure DescribePlacementGroupsInput where
  /-- `GroupNames`. -/
  groupNames : List String
  deriving DecidableEq, Repr, Inhabited

/-- `ec2.DescribePlacementGroupsOutput`. -/
structure DescribePlacementGroupsOutput where
  /-- `PlacementGroups`. -/
  placementGroups : List PlacementGroup
  deriving DecidableEq, Repr, Inhabited

/-- `ec2.CreatePlacementGroupInput`. -/
structure CreatePlacementGroupInput where
  /-- `GroupName`. -/
  groupName : Option String
  /-- `Strategy`. -/
  strategy : Option String
  /-- `PartitionCount`. -/
  partitionCount : Option Int
  /-- `TagSpecifications`. -/
  tagSpecifications : List TagSpecification
  deriving DecidableEq, Repr, Inhabited

/-- `ec2.CreatePlacementGroupOutput`. -/
structure CreatePlacementGroupOutput where
  /-- `PlacementGroup`. -/
  placementGroup : Option PlacementGroup
  deriving DecidableEq, Repr, Inhabited

/-- `ec2.DeletePlacementGroupInput`. -/
structure DeletePlacementGroupInput where
  /-- `GroupName`. -/
  groupName : Option String
  deriving DecidableEq, Repr, Inhabited

/-! ### Instance types -/

/-- `ec2.MemoryInfo`. -/
structure MemoryInfo where
  /-- `SizeInMiB`. -/
  sizeInMiB : Option Int
  deriving DecidableEq, Repr, Inhabited

/-- `ec2.VCpuInfo`. -/
structure VCpuInfo where
  /-- `DefaultVCpus`. -/
  defaultVCpus : Option Int
  deriving DecidableEq, Repr, Inhabited

/-- `ec2.GpuDeviceInfo`. -/
structure GpuDeviceInfo where
  /-- `Count`. -/
  count : Option Int
  deriving DecidableEq, Repr, Inhabited

/-- `ec2.GpuInfo`. -/
structure GpuInfo where
  /-- `Gpus`. -/
  gpus : List GpuDeviceInfo
  deriving DecidableEq, Repr, Inhabited

/-- `ec2.InstanceTypeInfo`. -/
structure InstanceTypeInfo where
  /-- `InstanceType`, the name. -/
  instanceType : Option String
  /-- `MemoryInfo`. -/
  memoryInfo : Option MemoryInfo
  /-- `VCpuInfo`. -/
  vCpuInfo : Option VCpuInfo
  /-- `GpuInfo`. -/
  gpuInfo : Option GpuInfo
  deriving DecidableEq, Repr, Inhabited

/-- `ec2.DescribeInstanceTypesInput`. -/
structure DescribeInstanceTypesInput where
  /-- `NextToken`. -/
  nextToken : Option String
  deriving DecidableEq, Repr, Inhabited

/-- `ec2.DescribeInstanceTypesOutput`, one page. -/
structure DescribeInstanceTypesOutput where
  /-- `InstanceTypes`. -/
  instanceTypes : List InstanceTypeInfo
  /-- `NextToken`: nil on the last page. -/
  nextToken : Option String
  deriving DecidableEq, Repr, Inhabited

end AwsProvider.EC2
