import KubeAliyun.Remote.Program
import KubeAliyun.Remote.Logic
import KubeAliyun.Remote.Pool
import KubeAliyun.Remote.Sharing
import KubeAliyun.Remote.Beside
import KubeAliyun.Remote.Trace
import KubeAliyun.Remote.Exact
import KubeAliyun.Net.Block
import KubeAliyun.Util.Keyed
import KubeAliyun.Util.Search
import KubeAliyun.Queue.WorkQueue
import KubeAliyun.Queue.Delaying
import KubeAliyun.Queue.Deadlines
import KubeAliyun.Util.Sweep
import KubeAliyun.Decimal.Rounding
import KubeAliyun.Text.Strings
import KubeAliyun.Text.Format
import KubeAliyun.Text.Json
import KubeAliyun.Text.Reformat
import KubeAliyun.Cloud.Wire
import KubeAliyun.Cloud.Ecs
import KubeAliyun.Cloud.Slb
import KubeAliyun.Cloud.Account
import KubeAliyun.Cloud.Vpc
import KubeAliyun.Cloud.Storage
import KubeAliyun.Kube.Nodes
import KubeAliyun.Host.Commands
import KubeAliyun.Util.MapUtils
import KubeAliyun.Resource.Quantity
import KubeAliyun.Provider.Instances
import KubeAliyun.Provider.LoadBalancer
import KubeAliyun.Provider.Volume
import KubeAliyun.Provider.Routes
import KubeAliyun.Provider.Provision
import KubeAliyun.Provider.Mount
import KubeAliyun.Flexv.Main
import KubeAliyun.Controller.RouteController
import KubeAliyun.Kube.Services
import KubeAliyun.Controller.ServiceController
import KubeAliyun.Balancer.OwnView
import KubeAliyun.Balancer.Wanted
import KubeAliyun.Balancer.Contract
import KubeAliyun.Balancer.Compare
import KubeAliyun.Balancer.Listeners
import KubeAliyun.Balancer.Sync
import KubeAliyun.Balancer.Convergence
import KubeAliyun.Balancer.Stability
import KubeAliyun.Balancer.Store
import KubeAliyun.Balancer.Isolation
import KubeAliyun.Balancer.Faults
import KubeAliyun.Balancer.Lenient
import KubeAliyun.Balancer.Unresolved
import KubeAliyun.Balancer.Names
import KubeAliyun.Volume.Reads
import KubeAliyun.Volume.Attachment
import KubeAliyun.Volume.Waiting
import KubeAliyun.Volume.Synchronous
import KubeAliyun.Volume.Refinement
import KubeAliyun.Volume.Interleaving
import KubeAliyun.Volume.Paging
import KubeAliyun.Flexv.Queries
import KubeAliyun.Flexv.Output
import KubeAliyun.Nodes.Lookup
import KubeAliyun.Services.Syncing
import KubeAliyun.Services.System
import KubeAliyun.Services.Quiescence
import KubeAliyun.Services.Deletion
import KubeAliyun.Routes.Listing
import KubeAliyun.Routes.RoundTrip
import KubeAliyun.Routes.Exactness
import KubeAliyun.Routes.Reconciling
import KubeAliyun.Routes.Rounds
import KubeAliyun.Routes.Settling
import KubeAliyun.Structs.Numerals
import KubeAliyun.Structs.Filling
import KubeAliyun.Structs.Copying
import KubeAliyun.Resource.Scaling
import KubeAliyun.Volume.Provisioning
import KubeAliyun.Volume.Mounting
import KubeAliyun.Lease.Election
import KubeAliyun.Lease.Takeover
import KubeAliyun.Lease.Succession
import KubeAliyun.Kube.Volumes
import KubeAliyun.Controller.ProvisionController
import KubeAliyun.Custody.Ledger
import KubeAliyun.Provisioning.Operations
import KubeAliyun.Provisioning.System
import KubeAliyun.Provisioning.Keeping
import KubeAliyun.Provisioning.Outcomes
import KubeAliyun.Provisioning.LostAnswers
import KubeAliyun.Services.Hosts
import KubeAliyun.Services.Idleness
