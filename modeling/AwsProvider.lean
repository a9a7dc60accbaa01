import AwsProvider.Go.Runtime
import AwsProvider.Cloud.EC2
import AwsProvider.Cloud.Prog
import AwsProvider.Api.Types
import AwsProvider.Client.Session
import AwsProvider.Client.Regions
import AwsProvider.Client.Validated
import AwsProvider.Machine.Tags
import AwsProvider.Machine.Market
import AwsProvider.Machine.Resolve
import AwsProvider.Machine.Launch
import AwsProvider.Machine.Instances
import AwsProvider.PlacementGroup.Object
import AwsProvider.PlacementGroup.Controller
import AwsProvider.PlacementGroup.Cycle
import AwsProvider.PlacementGroup.Runs
import AwsProvider.PlacementGroup.Groups
import AwsProvider.PlacementGroup.Safety
import AwsProvider.MachineSet.InstanceTypes
import AwsProvider.MachineSet.Controller
import AwsProvider.MachineSet.TypesCache
import AwsProvider.Termination.Handler
import AwsProvider.Termination.Poll
