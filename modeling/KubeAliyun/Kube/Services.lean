import KubeAliyun.Kube.Nodes
import KubeAliyun.Provider.LoadBalancer
import Mathlib.Data.Finmap

/-!
# Services of the cluster

The part of `v1.Service` that the service controller reads and writes, and the API
server as the controller meets it: an update of a status is answered at will.
-/

namespace KubeAliyun.Kube

open KubeAliyun.Cloud KubeAliyun.Provider KubeAliyun.Remote

inductive ServiceType where
  | clusterIP
  | nodePort
  | loadBalancer
  | externalName
deriving DecidableEq, Repr

/-- `v1.ServicePort`, without the target port. -/
structure NamedPort extends ServicePort where
  name : String
deriving DecidableEq, Repr

structure LoadBalancerIngress where
  ip : String
  hostname : String
deriving DecidableEq, Repr

/-- `v1.Service`; a missing map or list is `none`. -/
structure V1Service where
  nameSpace : String
  name : String
  uid : String
  annotations : Option (Finmap fun _ : String => String)
  type : ServiceType
  ports : List NamedPort
  sessionAffinity : String
  loadBalancerIP : String
  loadBalancerSourceRanges : Option (List String)
  externalIPs : List String
  ingress : List LoadBalancerIngress

def V1Service.provided (service : V1Service) : KubeService where
  uid := service.uid
  annotations := service.annotations.map fun entries key => entries.lookup key
  sessionAffinity := service.sessionAffinity
  loadBalancerIP := service.loadBalancerIP
  ports := service.ports.map NamedPort.toServicePort

def V1Service.balancerName (service : V1Service) : String :=
  getLoadBalancerName service.provided

def isNotFound (failure : StatusError) : Bool := failure.reason == .notFound

/-! ## The interface -/

inductive ServiceCall where
  | updateStatus (service : V1Service)

def ServiceReply : ServiceCall → Type
  | .updateStatus _ => Option StatusError

structure ControlChoice extends Choice where
  updated : Option StatusError

abbrev ControlCall : Type := Call ⊕ ServiceCall

abbrev ControlReply : ControlCall → Type := ReplyOf Reply ServiceReply

/-- The account answers its calls; what the API server does with a status is not seen
through the account. -/
def controlAnswer (choice : ControlChoice) (account : Account) :
    (request : ControlCall) → ControlReply request × Account
  | .inl inner => account.answer choice.toChoice inner
  | .inr (.updateStatus _) => (choice.updated, account)

abbrev Controlled (α : Type) : Type := Prog ControlCall ControlReply α

def updateStatus (service : V1Service) : Controlled (Option StatusError) :=
  Prog.call (Sum.inr (.updateStatus service) : ControlCall)

end KubeAliyun.Kube
