import Mathlib.Data.List.Basic

/-!
# The wire types of the Aliyun API

The records that the ECS and SLB clients exchange with the service, cut down to
the fields the provider reads or writes, the errors the clients return, and the
calls with the replies they admit.  A reply of type `Option ApiError` is a Go
call whose only result is an `error`.
-/

namespace KubeAliyun.Cloud

/-! ## Errors -/

/-- An API failure as `common.Error` carries it. -/
structure ApiError where
  requestId : String
  statusCode : Int
  code : String
  message : String
deriving DecidableEq, Repr

def ApiError.text (failure : ApiError) : String :=
  "Aliyun API Error: RequestId: " ++ failure.requestId ++ " Status Code: " ++
    toString failure.statusCode ++ " Code: " ++ failure.code ++ " Message: " ++
    failure.message

def getClientErrorFromString (message : String) : ApiError :=
  ⟨"", -1, "AliyunGoClientFailure", message⟩

/-- A Go `error` of the provider: one passed on from a client, or one made by
`errors.New` or `fmt.Errorf`. -/
inductive GoError where
  | api (failure : ApiError)
  | plain (text : String)
deriving DecidableEq, Repr

def GoError.text : GoError → String
  | .api failure => failure.text
  | .plain text => text

/-! ## Paging -/

structure Pagination where
  pageNumber : Nat
  pageSize : Nat
deriving DecidableEq, Repr

structure PaginationResult where
  totalCount : Nat
  pageNumber : Nat
  pageSize : Nat
deriving DecidableEq, Repr

def PaginationResult.nextPage (result : PaginationResult) : Option Pagination :=
  if result.pageNumber * result.pageSize ≥ result.totalCount then none
  else some ⟨result.pageNumber + 1, result.pageSize⟩

/-! ## Instances and disks -/

structure InstanceAttributes where
  instanceId : String
  hostName : String
  privateIpAddress : List String
deriving DecidableEq, Repr

structure DescribeInstancesArgs where
  regionId : String
  vpcId : String
  pagination : Pagination
deriving DecidableEq, Repr

inductive DiskStatus where
  | inUse
  | available
  | attaching
  | detaching
  | creating
  | reIniting
deriving DecidableEq, Repr

structure DiskItem where
  diskId : String
  status : DiskStatus
  instanceId : String
  device : String
deriving DecidableEq, Repr

structure DescribeDisksArgs where
  regionId : String
  diskIds : List String
  instanceId : String
  pagination : Pagination
deriving DecidableEq, Repr

structure AttachDiskArgs where
  instanceId : String
  diskId : String
  deleteWithInstance : Bool
deriving DecidableEq, Repr

inductive EcsCall where
  | describeInstances (args : DescribeInstancesArgs)
  | describeDisks (args : DescribeDisksArgs)
  | attachDisk (args : AttachDiskArgs)
  | detachDisk (instanceId diskId : String)
deriving DecidableEq, Repr

def EcsReply : EcsCall → Type
  | .describeInstances _ =>
      Except ApiError (List InstanceAttributes × PaginationResult)
  | .describeDisks _ => Except ApiError (List DiskItem × PaginationResult)
  | .attachDisk _ => Option ApiError
  | .detachDisk _ _ => Option ApiError

/-! ## Load balancers -/

inductive ListenerStatus where
  | starting
  | running
  | configuring
  | stopping
  | stopped
deriving DecidableEq, Repr

inductive Transport where
  | tcp
  | udp
deriving DecidableEq, Repr

def Transport.text : Transport → String
  | .tcp => "tcp"
  | .udp => "udp"

structure ListenerPortAndProtocol where
  listenerPort : Int
  listenerProtocol : String
deriving DecidableEq, Repr

structure BackendServer where
  serverId : String
  weight : Int
deriving DecidableEq, Repr

structure LoadBalancer where
  loadBalancerId : String
  loadBalancerName : String
  address : String
  listenerPortsAndProtocol : List ListenerPortAndProtocol
  backendServers : List BackendServer
deriving DecidableEq, Repr

structure CreateLoadBalancerArgs where
  regionId : String
  loadBalancerName : String
  addressType : String
  internetChargeType : String
  bandwidth : Int
deriving DecidableEq, Repr

/-- The settings of a listener beside its ports, as in `slb.TCPListenerType`;
a field the provider does not set keeps Go's zero value. -/
structure ListenerSettings where
  bandwidth : Int := 0
  scheduler : String := ""
  persistenceTimeout : Int := 0
  healthCheckType : String := ""
  healthCheckDomain : String := ""
  healthCheckURI : String := ""
  healthCheckConnectPort : Int := 0
  healthyThreshold : Int := 0
  unhealthyThreshold : Int := 0
  healthCheckConnectTimeout : Int := 0
  healthCheckInterval : Int := 0
  healthCheckHttpCode : String := ""
  vServerGroupId : String := ""
deriving DecidableEq, Repr

structure CreateListenerArgs where
  loadBalancerId : String
  listenerPort : Int
  backendServerPort : Int
  settings : ListenerSettings
deriving DecidableEq, Repr

structure ListenerAttribute where
  backendServerPort : Int
  status : ListenerStatus
deriving DecidableEq, Repr

inductive SlbCall where
  | describeLoadBalancers (regionId : String)
  | describeLoadBalancerAttribute (loadBalancerId : String)
  | createLoadBalancer (args : CreateLoadBalancerArgs)
  | deleteLoadBalancer (loadBalancerId : String)
  | describeListenerAttribute (transport : Transport) (loadBalancerId : String)
      (port : Int)
  | createListener (transport : Transport) (args : CreateListenerArgs)
  | deleteListener (loadBalancerId : String) (port : Int)
  | startListener (loadBalancerId : String) (port : Int)
  | addBackendServers (loadBalancerId : String) (servers : List BackendServer)
  | removeBackendServers (loadBalancerId : String) (servers : List String)
deriving DecidableEq, Repr

def SlbReply : SlbCall → Type
  | .describeLoadBalancers _ => Except ApiError (List LoadBalancer)
  | .describeLoadBalancerAttribute _ => Except ApiError LoadBalancer
  | .createLoadBalancer _ => Option ApiError
  | .deleteLoadBalancer _ => Option ApiError
  | .describeListenerAttribute _ _ _ => Except ApiError ListenerAttribute
  | .createListener _ _ => Option ApiError
  | .deleteListener _ _ => Option ApiError
  | .startListener _ _ => Option ApiError
  | .addBackendServers _ _ => Option ApiError
  | .removeBackendServers _ _ => Option ApiError

/-- A call changes the state of the load balancers unless it only describes. -/
def SlbCall.Mutates : SlbCall → Bool
  | .describeLoadBalancers _ => false
  | .describeLoadBalancerAttribute _ => false
  | .describeListenerAttribute _ _ _ => false
  | _ => true

/-! ## What the service decides for one call -/

/-- A call is served, fails without effect, or takes effect and still reports
an error. -/
inductive Fate where
  | served
  | refused
  | unanswered
deriving DecidableEq, Repr

/-- The service's side of one call: its fate, the error it would report, the
disks whose pending attachment or detachment completes before it is handled, and
what the service assigns on creation or start. -/
structure Choice where
  fate : Fate
  error : ApiError
  settles : String → Bool
  device : String
  loadBalancerId : String
  address : String
  createdStatus : ListenerStatus
  startsRunning : Bool

namespace Choice

variable {σ α : Type}

def commit (choice : Choice) (state : σ) (attempt : Option σ) :
    Option ApiError × σ :=
  match choice.fate, attempt with
  | .served, some next => (none, next)
  | .unanswered, some next => (some choice.error, next)
  | _, _ => (some choice.error, state)

def read (choice : Choice) (found : Option α) : Except ApiError α :=
  match choice.fate, found with
  | .served, some value => .ok value
  | _, _ => .error choice.error

theorem commit_cases (choice : Choice) (state : σ) (attempt : Option σ) :
    (∃ next, attempt = some next ∧ choice.fate = .served ∧
        choice.commit state attempt = (none, next)) ∨
      (∃ next, attempt = some next ∧ choice.fate = .unanswered ∧
        choice.commit state attempt = (some choice.error, next)) ∨
      choice.commit state attempt = (some choice.error, state) := by
  unfold commit
  cases fate : choice.fate <;> cases attempt <;> simp

theorem commit_served {choice : Choice} (served : choice.fate = .served) (state next : σ) :
    choice.commit state (some next) = (none, next) := by
  simp only [commit, served]

theorem commit_none (choice : Choice) (state : σ) :
    choice.commit state none = (some choice.error, state) := by
  unfold commit
  cases choice.fate <;> rfl

/-- A commit leaves the old state or the attempted one. -/
theorem commit_state (choice : Choice) (state : σ) (attempt : Option σ) :
    (choice.commit state attempt).2 = state ∨
      attempt = some (choice.commit state attempt).2 := by
  rcases choice.commit_cases state attempt with
    ⟨next, found, -, same⟩ | ⟨next, found, -, same⟩ | same
  · exact Or.inr (by rw [same, found])
  · exact Or.inr (by rw [same, found])
  · exact Or.inl (by rw [same])

/-- A commit seen through a function of the state is a commit of what is seen. -/
theorem commit_map {τ : Type} (choice : Choice) (see : σ → τ) (state : σ)
    (attempt : Option σ) :
    ((choice.commit state attempt).1, see (choice.commit state attempt).2) =
      choice.commit (see state) (attempt.map see) := by
  unfold commit
  cases fate : choice.fate <;> cases attempt <;> simp

theorem read_ok_iff (choice : Choice) (found : Option α) (value : α) :
    choice.read found = .ok value ↔
      choice.fate = .served ∧ found = some value := by
  unfold read
  cases fate : choice.fate <;> cases found <;> simp

theorem read_unserved (choice : Choice) (found : Option α)
    (unserved : choice.fate ≠ .served) : choice.read found = .error choice.error := by
  unfold read
  cases fate : choice.fate with
  | served => exact absurd fate unserved
  | refused => rfl
  | unanswered => rfl

end Choice

/-- The outcome of a page query: the slice of that page and the page counters;
page number 0 is read as 1 and page size 0 as the default size. -/
def paginate {α : Type} (defaultSize : Nat) (page : Pagination)
    (items : List α) : List α × PaginationResult :=
  let number := max 1 page.pageNumber
  let size := if page.pageSize = 0 then defaultSize else page.pageSize
  ((items.drop ((number - 1) * size)).take size, ⟨items.length, number, size⟩)

end KubeAliyun.Cloud
