import KubeAliyun.Kube.Services
import Mathlib.Data.List.Sort

/-!
# The service controller

`servicecontroller.go`, which the controller starts over the load balancers of the
provider: what it compares when a service changes, what a worker does with the key of a
service, and the loop that follows the nodes.  Events, logging and the sleeps between
attempts are left out.
-/

namespace KubeAliyun.Controller

open KubeAliyun.Cloud KubeAliyun.Provider KubeAliyun.Remote KubeAliyun.Kube KubeAliyun.Text

def second : Int := 1000000000

def minRetryDelay : Int := 5 * second

def maxRetryDelay : Int := 300 * second

def clientRetryCount : Nat := 5

structure ServiceController where
  balancer : AliyunProvider
  table : LowerTable

/-! ## What changes matter -/

def wantsLoadBalancer (service : V1Service) : Bool := service.type == .loadBalancer

def portsForLB (wants : Bool) : String → List NamedPort → Bool
  | _, [] => true
  | protocol, port :: rest =>
      if protocol = "" then portsForLB wants port.protocol rest
      else if protocol ≠ port.protocol ∧ wants then false
      else portsForLB wants protocol rest

/-- `getPortsForLB`: `none` is the error for mixed protocols. -/
def getPortsForLB (service : V1Service) : Option (List NamedPort) :=
  if portsForLB (wantsLoadBalancer service) "" service.ports then some service.ports else none

def portEqualForLB (x y : NamedPort) : Bool :=
  if x.name ≠ y.name then false
  else if x.protocol ≠ y.protocol then false
  else if x.port ≠ y.port then false
  else if x.nodePort ≠ y.nodePort then false
  else true

def portSlicesEqualForLB (x y : List NamedPort) : Bool :=
  if x.length ≠ y.length then false
  else (x.zip y).all fun pair => portEqualForLB pair.1 pair.2

def portsEqualForLB (x y : V1Service) : Bool :=
  match getPortsForLB x with
  | none => false
  | some xPorts =>
      match getPortsForLB y with
      | none => false
      | some yPorts => portSlicesEqualForLB xPorts yPorts

def loadBalancerIPsAreEqual (oldService newService : V1Service) : Bool :=
  oldService.loadBalancerIP == newService.loadBalancerIP

def needsUpdate (oldService newService : V1Service) : Bool :=
  if !wantsLoadBalancer oldService && !wantsLoadBalancer newService then false
  else if wantsLoadBalancer oldService ≠ wantsLoadBalancer newService then true
  else if wantsLoadBalancer newService &&
      !(oldService.loadBalancerSourceRanges == newService.loadBalancerSourceRanges) then true
  else if !portsEqualForLB oldService newService ||
      oldService.sessionAffinity != newService.sessionAffinity then true
  else if !loadBalancerIPsAreEqual oldService newService then true
  else if oldService.externalIPs.length ≠ newService.externalIPs.length then true
  else if (oldService.externalIPs.zip newService.externalIPs).any
      (fun pair => pair.1 != pair.2) then true
  else if oldService.annotations ≠ newService.annotations then true
  else if oldService.uid ≠ newService.uid then true
  else false

/-! ## One synchronisation -/

def persistLoop (service : V1Service) : Nat → Option StatusError → Controlled (Option GoError)
  | 0, failure => .done (failure.map fun last => .plain last.message)
  | attempts + 1, _ => do
      match ← updateStatus service with
      | none => return none
      | some failure =>
          if isNotFound failure then return none
          else if isConflict failure then
            return some (.plain ("Not persisting update to service '" ++ service.nameSpace ++
              "/" ++ service.name ++ "' that has been changed since we received it: " ++
              failure.message))
          else persistLoop service attempts (some failure)

def persistUpdate (service : V1Service) : Controlled (Option GoError) :=
  persistLoop service clientRetryCount none

/-- The end of `createLoadBalancerIfNeeded`: the state is written if it changed.  The
second component says whether the error is called retryable. -/
def writeState (service : V1Service) (newState : List LoadBalancerIngress) :
    Controlled (Option GoError × Bool) := do
  if service.ingress = newState then return (none, false)
  else
    match ← persistUpdate { service with ingress := newState } with
    | some failure =>
        return (some (.plain ("Failed to persist updated status to apiserver, even after " ++
          "retries. Giving up: " ++ failure.text)), false)
    | none => return (none, false)

def includeNodeFromNodeList (node : Node) : Bool := !node.unschedulable

def createLoadBalancerFor (controller : ServiceController)
    (listed : Except GoError (List Node)) (order : MapOrder) (service : V1Service) :
    Controlled (Option LoadBalancerStatus × Option GoError) :=
  match listed with
  | .error failure => return (none, some failure)
  | .ok nodes =>
      (ensureLoadBalancer controller.balancer controller.table order service.provided
        ((nodes.filter includeNodeFromNodeList).map Node.name)).lift

/-- `createLoadBalancerIfNeeded`; comparing with the missing state of a load balancer that
was created and never listed is a nil dereference. -/
def createLoadBalancerIfNeeded (controller : ServiceController)
    (listed : Except GoError (List Node)) (order : MapOrder) (key : String)
    (service : V1Service) : Controlled (Option GoError × Bool) := do
  if !wantsLoadBalancer service then
    match ← (getLoadBalancerForService controller.balancer service.provided).lift with
    | (_, _, some failure) =>
        return (some (.plain ("Error getting LB for service " ++ key ++ ": " ++ failure.text)),
          true)
    | (_, false, none) => writeState service []
    | (_, true, none) =>
        match ← (ensureLoadBalancerDeleted controller.balancer service.provided).lift with
        | some failure => return (some failure, true)
        | none => writeState service []
  else
    match ← createLoadBalancerFor controller listed order service with
    | (_, some failure) =>
        return (some (.plain ("Failed to create load balancer for service " ++ key ++ ": " ++
          failure.text)), true)
    | (none, none) => Prog.crash
    | (some status, none) => writeState service (status.ingress.map fun ip => ⟨ip, ""⟩)

/-! ## The cache -/

structure CachedService where
  state : V1Service
  lastRetryDelay : Int

def nextRetryDelay (lastRetryDelay : Int) : Int :=
  let doubled := lastRetryDelay * 2
  let raised := if doubled < minRetryDelay then minRetryDelay else doubled
  if maxRetryDelay < raised then maxRetryDelay else raised

/-- What a worker works on: the service of the lister, or the cached service of a key that
the lister does not know. -/
inductive SyncTask where
  | update (service : V1Service)
  | delete (service : V1Service)
  | ignore (failure : Option GoError)

namespace SyncTask

/-- The switch of `syncService`, with the checks of `processServiceDeletion`. -/
def pick (key : String) (listed : Option V1Service) (cached : Option CachedService) : SyncTask :=
  match listed, cached with
  | some service, _ => .update service
  | none, none =>
      .ignore (some (.plain ("Service " ++ key ++
        " not in cache even though the watcher thought it was. Ignoring the deletion.")))
  | none, some entry =>
      if !wantsLoadBalancer entry.state then .ignore none else .delete entry.state

/-- The cache entry once the task has begun: `getOrCreate` and the assignment of the state. -/
def begin (cached : Option CachedService) : SyncTask → Option CachedService
  | .update service => some ⟨service, (cached.map CachedService.lastRetryDelay).getD 0⟩
  | _ => cached

def program (controller : ServiceController) (listed : Except GoError (List Node))
    (order : MapOrder) (key : String) : SyncTask → Controlled (Option GoError)
  | .update service =>
      Prod.fst <$> createLoadBalancerIfNeeded controller listed order key service
  | .delete service =>
      (ensureLoadBalancerDeleted controller.balancer service.provided).lift
  | .ignore failure => .done failure

/-- The cache entry and the delay of the retry once the calls have ended. -/
def finish (cached : Option CachedService) : SyncTask → Option GoError →
    Option CachedService × Int
  | .update _, none => (cached.map fun entry => { entry with lastRetryDelay := 0 }, 0)
  | .delete _, none => (none, 0)
  | .ignore _, _ => (cached, 0)
  | _, some _ =>
      let delay := nextRetryDelay ((cached.map CachedService.lastRetryDelay).getD 0)
      (cached.map fun entry => { entry with lastRetryDelay := delay }, delay)

end SyncTask

/-! ## The hosts of the load balancers -/

def nodeReady : String := "Ready"

def getNodeConditionPredicate (node : Node) : Bool :=
  if node.unschedulable then false
  else if node.conditions.length = 0 then false
  else node.conditions.all fun condition =>
    !(condition.type == nodeReady && condition.status != .isTrue)

def nodeNames (nodes : List Node) : List String := nodes.map Node.name

/-- `sort.Strings`, which is called unless `sort.StringsAreSorted`. -/
def sortedStrings (x : List String) : List String :=
  if x.Pairwise (· ≤ ·) then x else x.insertionSort (· ≤ ·)

def stringSlicesEqual (x y : List String) : Bool :=
  if x.length ≠ y.length then false
  else ((sortedStrings x).zip (sortedStrings y)).all fun pair => pair.1 == pair.2

def nodeSlicesEqualForLB (x y : List Node) : Bool :=
  if x.length ≠ y.length then false else stringSlicesEqual (nodeNames x) (nodeNames y)

structure HostState where
  knownHosts : List Node
  servicesToUpdate : List V1Service

def lockedUpdateLoadBalancerHosts (controller : ServiceController) (order : MapOrder)
    (service : V1Service) (hosts : List Node) : Controlled (Option GoError) := do
  if !wantsLoadBalancer service then return none
  else
    match ← (updateLoadBalancer controller.balancer controller.table order service.provided
        (nodeNames hosts)).lift with
    | none => return none
    | some failure =>
        match ← (getLoadBalancerForService controller.balancer service.provided).lift with
        | (_, false, none) => return none
        | _ => return some failure

/-- `updateLoadBalancerHosts`; a cached service that has no state yet is passed over. -/
def updateLoadBalancerHosts (controller : ServiceController) (order : Nat → MapOrder)
    (hosts : List Node) : List (Option V1Service) → Controlled (List V1Service)
  | [] => return []
  | none :: rest => updateLoadBalancerHosts controller order hosts rest
  | some service :: rest => do
      let failure ← lockedUpdateLoadBalancerHosts controller (order rest.length) service hosts
      let servicesToRetry ← updateLoadBalancerHosts controller order hosts rest
      return if failure.isSome then service :: servicesToRetry else servicesToRetry

/-- One call of `nodeSyncLoop`, with what the lister returns and the cached services. -/
def nodeSyncLoop (controller : ServiceController) (order : Nat → MapOrder)
    (listed : Except GoError (List Node)) (cached : List (Option V1Service))
    (state : HostState) : Controlled HostState :=
  match listed with
  | .error _ => return state
  | .ok nodes =>
      let newHosts := nodes.filter getNodeConditionPredicate
      if nodeSlicesEqualForLB newHosts state.knownHosts then do
        let servicesToUpdate ← updateLoadBalancerHosts controller order newHosts
          (state.servicesToUpdate.map some)
        return { state with servicesToUpdate }
      else do
        let servicesToUpdate ← updateLoadBalancerHosts controller order newHosts cached
        return ⟨newHosts, servicesToUpdate⟩

end KubeAliyun.Controller
