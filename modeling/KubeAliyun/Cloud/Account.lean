import KubeAliyun.Cloud.Ecs
import KubeAliyun.Cloud.Slb
import KubeAliyun.Remote.Program

/-!
# The account behind the provider

The provider talks to two services of one account, ECS and SLB, through one
stream of calls.
-/

namespace KubeAliyun.Cloud

open KubeAliyun.Remote

inductive Call where
  | ecs (request : EcsCall)
  | slb (request : SlbCall)
deriving DecidableEq, Repr

def Reply : Call → Type
  | .ecs request => EcsReply request
  | .slb request => SlbReply request

structure Account where
  ecs : Ecs
  slb : Slb

/-- The answer of the account: ECS first completes the transitions that the
choice names. -/
def Account.answer : Service Choice Account Call Reply :=
  fun choice account request =>
    match request with
    | .ecs inner =>
        let result := (account.ecs.settle choice.settles).answer choice inner
        (result.1, { account with ecs := result.2 })
    | .slb inner =>
        let result := account.slb.answer choice inner
        (result.1, { account with slb := result.2 })

abbrev Aliyun (α : Type) : Type := Prog Call Reply α

def invoke (request : Call) : Aliyun (Reply request) := Prog.call request

/-! ## The clients' calls -/

def describeInstances (args : DescribeInstancesArgs) :
    Aliyun (Except ApiError (List InstanceAttributes × PaginationResult)) :=
  invoke (.ecs (.describeInstances args))

def describeDisks (args : DescribeDisksArgs) :
    Aliyun (Except ApiError (List DiskItem × PaginationResult)) :=
  invoke (.ecs (.describeDisks args))

def attachDisk (args : AttachDiskArgs) : Aliyun (Option ApiError) :=
  invoke (.ecs (.attachDisk args))

def detachDisk (instanceId diskId : String) : Aliyun (Option ApiError) :=
  invoke (.ecs (.detachDisk instanceId diskId))

def describeLoadBalancers (regionId : String) :
    Aliyun (Except ApiError (List LoadBalancer)) :=
  invoke (.slb (.describeLoadBalancers regionId))

def describeLoadBalancerAttribute (loadBalancerId : String) :
    Aliyun (Except ApiError LoadBalancer) :=
  invoke (.slb (.describeLoadBalancerAttribute loadBalancerId))

def createLoadBalancer (args : CreateLoadBalancerArgs) : Aliyun (Option ApiError) :=
  invoke (.slb (.createLoadBalancer args))

def deleteLoadBalancer (loadBalancerId : String) : Aliyun (Option ApiError) :=
  invoke (.slb (.deleteLoadBalancer loadBalancerId))

def describeLoadBalancerTCPListenerAttribute (loadBalancerId : String) (port : Int) :
    Aliyun (Except ApiError ListenerAttribute) :=
  invoke (.slb (.describeListenerAttribute .tcp loadBalancerId port))

def describeLoadBalancerUDPListenerAttribute (loadBalancerId : String) (port : Int) :
    Aliyun (Except ApiError ListenerAttribute) :=
  invoke (.slb (.describeListenerAttribute .udp loadBalancerId port))

def createLoadBalancerTCPListener (args : CreateListenerArgs) :
    Aliyun (Option ApiError) :=
  invoke (.slb (.createListener .tcp args))

def createLoadBalancerUDPListener (args : CreateListenerArgs) :
    Aliyun (Option ApiError) :=
  invoke (.slb (.createListener .udp args))

def deleteLoadBalancerListener (loadBalancerId : String) (port : Int) :
    Aliyun (Option ApiError) :=
  invoke (.slb (.deleteListener loadBalancerId port))

def startLoadBalancerListener (loadBalancerId : String) (port : Int) :
    Aliyun (Option ApiError) :=
  invoke (.slb (.startListener loadBalancerId port))

def addBackendServers (loadBalancerId : String) (servers : List BackendServer) :
    Aliyun (Option ApiError) :=
  invoke (.slb (.addBackendServers loadBalancerId servers))

def removeBackendServers (loadBalancerId : String) (servers : List String) :
    Aliyun (Option ApiError) :=
  invoke (.slb (.removeBackendServers loadBalancerId servers))

end KubeAliyun.Cloud
