import KubeAliyun.Provider.Instances
import KubeAliyun.Text.Strings
import KubeAliyun.Util.MapUtils
import Mathlib.Data.List.AList

/-!
# Load balancers of services

The load balancer interface of the provider (`loadbalancer.go`).  Logging is
left out, and so are the sleeps between lookups; both leave the results alone.
-/

namespace KubeAliyun.Provider

open KubeAliyun.Cloud KubeAliyun.Remote KubeAliyun.Text KubeAliyun.Util

/-! ## Services and options -/

structure ServicePort where
  protocol : String
  port : Int32
  nodePort : Int32
deriving DecidableEq, Repr

/-- The parts of `api.Service` that the provider reads. -/
structure KubeService where
  uid : String
  annotations : Option (String → Option String)
  sessionAffinity : String
  loadBalancerIP : String
  ports : List ServicePort

structure LoadBalancerStatus where
  ingress : List String
deriving DecidableEq, Repr

structure AliyunLoadBalancerOptions where
  internetChargeType : String := ""
  bandwidth : Int := 0
  healthyThreshold : Int := 0
  unhealthyThreshold : Int := 0
  healthCheckConnectTimeout : Int := 0
  healthCheckInterval : Int := 0
deriving DecidableEq, Repr

namespace AliyunLoadBalancerOptions

def fields (options : AliyunLoadBalancerOptions) : List (Util.Field Empty) :=
  [⟨"InternetChargeType", "internet-charge-type", .string, true,
      .string options.internetChargeType⟩,
    ⟨"Bandwidth", "bandwidth", .int, true, .int options.bandwidth⟩,
    ⟨"HealthyThreshold", "healthy-threshold", .int, true,
      .int options.healthyThreshold⟩,
    ⟨"UnhealthyThreshold", "unhealthy-threshold", .int, true,
      .int options.unhealthyThreshold⟩,
    ⟨"HealthCheckConnectTimeout", "health-check-connect-timeout", .int, true,
      .int options.healthCheckConnectTimeout⟩,
    ⟨"HealthCheckInterval", "health-check-interval", .int, true,
      .int options.healthCheckInterval⟩]

def ofFields (fields : List (Util.Field Empty)) : AliyunLoadBalancerOptions :=
  match fields.map Util.Field.value with
  | [.string charge, .int bandwidth, .int healthy, .int unhealthy, .int timeout,
      .int interval] => ⟨charge, bandwidth, healthy, unhealthy, timeout, interval⟩
  | _ => {}

end AliyunLoadBalancerOptions

def aliyunAnnotationPrefix : String := "aliyun.archon.kubeup.com/"

/-- The options of a service; the error of `MapToStruct` is only logged. -/
def lbOptions (service : KubeService) : AliyunLoadBalancerOptions :=
  match service.annotations with
  | none => {}
  | some annotations =>
      .ofFields (mapToStruct ⟨fun _ _ => none, fun _ text => text, id⟩
        (some annotations) (AliyunLoadBalancerOptions.fields {})
        aliyunAnnotationPrefix).1

/-- The order in which Go happens to iterate over the maps of one call. -/
structure MapOrder where
  ports : List ServicePort → List ServicePort
  ids : List String → List String
  ports_perm : ∀ entries, (ports entries).Perm entries
  ids_perm : ∀ entries, (ids entries).Perm entries

/-- Iteration in the order of insertion, last entry first. -/
def MapOrder.stored : MapOrder :=
  ⟨id, id, fun _ => .refl _, fun _ => .refl _⟩

/-! ## Lookup -/

def lbToStatus (lb : LoadBalancer) : LoadBalancerStatus := ⟨[lb.address]⟩

def getLoadBalancerName (service : KubeService) : String :=
  let name := replaceAll ("a" ++ service.uid) "-" ""
  if name.utf8ByteSize > 32 then cutBytes name 32 else name

def getLoadBalancer (provider : AliyunProvider) (name : String) :
    Aliyun (Except ApiError (Option LoadBalancer)) := do
  match ← describeLoadBalancers provider.region with
  | .error failure => return .error failure
  | .ok lbs =>
      match lbs.find? fun lb => lb.loadBalancerName = name with
      | none => return .ok none
      | some lb =>
          match ← describeLoadBalancerAttribute lb.loadBalancerId with
          | .error failure => return .error failure
          | .ok found => return .ok (some found)

/-- `GetLoadBalancer`: the status, whether the load balancer exists, and the
error. -/
def getLoadBalancerForService (provider : AliyunProvider) (service : KubeService) :
    Aliyun (Option LoadBalancerStatus × Bool × Option GoError) := do
  match ← getLoadBalancer provider (getLoadBalancerName service) with
  | .error failure => return (none, false, some (.api failure))
  | .ok none => return (none, false, none)
  | .ok (some lb) => return (some (lbToStatus lb), true, none)

/-- The lookups after a creation: up to `retry` more, keeping the last answer. -/
def awaitLoadBalancer (provider : AliyunProvider) (name : String)
    (last : Except ApiError (Option LoadBalancer)) :
    Nat → Aliyun (Except ApiError (Option LoadBalancer))
  | 0 => return last
  | retry + 1 => do
      match ← getLoadBalancer provider name with
      | .ok (some lb) => return .ok (some lb)
      | missed => awaitLoadBalancer provider name missed retry

/-! ## Listeners -/

/-- Read a listener attribute response; the client returns no response with an
error, and reading the missing response panics. -/
def readAttribute : Except ApiError ListenerAttribute →
    Aliyun (Except GoError (Int32 × ListenerStatus))
  | .error _ => .crash
  | .ok response => return .ok (response.backendServerPort.toInt32, response.status)

def getLBListenerAttributes (table : LowerTable) (lb : LoadBalancer)
    (pp : ListenerPortAndProtocol) :
    Aliyun (Except GoError (Int32 × ListenerStatus)) := do
  if toLower table pp.listenerProtocol = "tcp" then
    readAttribute (← describeLoadBalancerTCPListenerAttribute lb.loadBalancerId
      pp.listenerPort)
  else if toLower table pp.listenerProtocol = "udp" then
    readAttribute (← describeLoadBalancerUDPListenerAttribute lb.loadBalancerId
      pp.listenerPort)
  else
    return .error (.plain
      ("Error getting listener attributes. Unsupported listener protocol: " ++
        pp.listenerProtocol))

/-- The key `"%d|%s"` of a port and a lower-cased protocol. -/
def listenerKey (table : LowerTable) (port : Int) (protocol : String) : String :=
  toString port ++ "|" ++ toLower table protocol

/-- The service ports still to be given a listener, by their keys. -/
abbrev ExpectedPorts : Type := AList fun _ : String => ServicePort

def addExpected (table : LowerTable) (expected : ExpectedPorts) (port : ServicePort) :
    ExpectedPorts :=
  if port.nodePort = 0 then expected
  else expected.insert (listenerKey table port.port.toInt port.protocol) port

def expectedPorts (table : LowerTable) (ports : List ServicePort) : ExpectedPorts :=
  ports.foldl (addExpected table) ∅

structure ListenerDiff where
  expected : ExpectedPorts
  removals : List Int
  stopped : List Int

def diffListeners (table : LowerTable) (lb : LoadBalancer) :
    List ListenerPortAndProtocol → ListenerDiff → Aliyun (Except GoError ListenerDiff)
  | [], diff => return .ok diff
  | listener :: rest, diff => do
      let key := listenerKey table listener.listenerPort listener.listenerProtocol
      match diff.expected.lookup key with
      | none =>
          diffListeners table lb rest
            { diff with removals := diff.removals ++ [listener.listenerPort] }
      | some sp =>
          match ← getLBListenerAttributes table lb listener with
          | .error failure => return .error failure
          | .ok (backendPort, status) =>
              if backendPort = sp.nodePort then
                diffListeners table lb rest
                  { diff with
                    expected := diff.expected.erase key
                    stopped := if status = .stopped then
                      diff.stopped ++ [sp.port.toInt] else diff.stopped }
              else
                diffListeners table lb rest
                  { diff with removals := diff.removals ++ [listener.listenerPort] }

def listenerSettings (options : AliyunLoadBalancerOptions) (sp : ServicePort) :
    ListenerSettings :=
  { bandwidth := options.bandwidth
    healthCheckConnectPort := sp.nodePort.toInt
    healthyThreshold := options.healthyThreshold
    unhealthyThreshold := options.unhealthyThreshold
    healthCheckConnectTimeout := options.healthCheckConnectTimeout
    healthCheckInterval := options.healthCheckInterval }

def createServiceListener (lb : LoadBalancer) (options : AliyunLoadBalancerOptions)
    (sp : ServicePort) : Aliyun (Option GoError) := do
  let created : Option GoError ←
    if sp.protocol = "TCP" then
      Option.map GoError.api <$> createLoadBalancerTCPListener
        ⟨lb.loadBalancerId, sp.port.toInt, sp.nodePort.toInt,
          { listenerSettings options sp with healthCheckType := "tcp" }⟩
    else if sp.protocol = "UDP" then
      Option.map GoError.api <$> createLoadBalancerUDPListener
        ⟨lb.loadBalancerId, sp.port.toInt, sp.nodePort.toInt,
          listenerSettings options sp⟩
    else
      pure (some (.plain
        ("Error creating service listener. Unsupported listener protocol: " ++
          sp.protocol)))
  match created with
  | some failure => return some failure
  | none =>
      Option.map GoError.api <$>
        startLoadBalancerListener lb.loadBalancerId sp.port.toInt

def ensureLBListeners (table : LowerTable) (order : MapOrder) (lb : LoadBalancer)
    (ports : List ServicePort) (options : AliyunLoadBalancerOptions) :
    Aliyun (Option GoError) := do
  match ← diffListeners table lb lb.listenerPortsAndProtocol
      ⟨expectedPorts table ports, [], []⟩ with
  | .error failure => return some failure
  | .ok diff =>
      match ← Prog.forEach (startLoadBalancerListener lb.loadBalancerId)
          diff.stopped with
      | some failure => return some (.api failure)
      | none =>
          match ← Prog.forEach (deleteLoadBalancerListener lb.loadBalancerId)
              diff.removals with
          | some failure => return some (.api failure)
          | none =>
              Prog.forEach (createServiceListener lb options)
                (order.ports (diff.expected.entries.map Sigma.snd))

/-! ## Backends -/

/-- The instance ids still to be added, as a map to `true`. -/
abbrev ExpectedIds : Type := AList fun _ : String => Bool

def expectedIds (instances : List InstanceAttributes) : ExpectedIds :=
  instances.foldl (fun expected found => expected.insert found.instanceId true) ∅

/-- The loop over the existing backends: what is still missing and what has to
go. -/
def diffBackends : List BackendServer → ExpectedIds → List String →
    ExpectedIds × List String
  | [], expected, removals => (expected, removals)
  | server :: rest, expected, removals =>
      match expected.lookup server.serverId with
      | some _ => diffBackends rest (expected.erase server.serverId) removals
      | none => diffBackends rest expected (removals ++ [server.serverId])

def unlessEmpty {α : Type} (items : List α) (request : Aliyun (Option ApiError)) :
    Aliyun (Option ApiError) :=
  if items = [] then return none else request

def ensureLBBackends (order : MapOrder) (lb : LoadBalancer)
    (instances : List InstanceAttributes) : Aliyun (Option GoError) := do
  let diff := diffBackends lb.backendServers (expectedIds instances) []
  let additions := (order.ids diff.1.keys).map fun id => BackendServer.mk id 100
  match ← unlessEmpty diff.2 (removeBackendServers lb.loadBalancerId diff.2) with
  | some failure => return some (.api failure)
  | none =>
      match ← unlessEmpty additions
          (addBackendServers lb.loadBalancerId additions) with
      | some failure => return some (.api failure)
      | none => return none

/-! ## The interface -/

/-- The last part of `EnsureLoadBalancer`. -/
def syncLoadBalancer (table : LowerTable) (order : MapOrder) (service : KubeService)
    (instances : List InstanceAttributes) (lb : LoadBalancer) :
    Aliyun (Option LoadBalancerStatus × Option GoError) := do
  match ← ensureLBListeners table order lb service.ports (lbOptions service) with
  | some failure => return (none, some failure)
  | none =>
      match ← ensureLBBackends order lb instances with
      | some failure => return (none, some failure)
      | none => return (some (lbToStatus lb), none)

def createArgs (provider : AliyunProvider) (service : KubeService) :
    CreateLoadBalancerArgs where
  regionId := provider.region
  loadBalancerName := getLoadBalancerName service
  addressType := "internet"
  internetChargeType := (lbOptions service).internetChargeType
  bandwidth := (lbOptions service).bandwidth

theorem createArgs_name (provider : AliyunProvider) (service : KubeService) :
    (createArgs provider service).loadBalancerName = getLoadBalancerName service := by
  rw [createArgs]

/-- The checks `EnsureLoadBalancer` makes before any call. -/
def unsupported (service : KubeService) : Option GoError :=
  if service.sessionAffinity ≠ "None" then
    some (.plain ("unsupported load balancer affinity: " ++ service.sessionAffinity))
  else
    match service.ports.find? fun port =>
        port.protocol ≠ "TCP" ∧ port.protocol ≠ "UDP" with
    | some port =>
        some (.plain
          ("Unsupported server port protocol for Aliyun load balancers: " ++
            port.protocol))
    | none =>
        if service.loadBalancerIP ≠ "" then
          some (.plain "LoadBalancerIP can't be set for Aliyun load balancers")
        else none

/-- `EnsureLoadBalancer` when the load balancer is missing: create it, wait until it
is listed, and synchronise it. -/
def createAndSync (provider : AliyunProvider) (table : LowerTable) (order : MapOrder)
    (service : KubeService) (instances : List InstanceAttributes) :
    Aliyun (Option LoadBalancerStatus × Option GoError) := do
  match ← createLoadBalancer (createArgs provider service) with
  | some failure => return (none, some (.api failure))
  | none =>
      match ← awaitLoadBalancer provider (getLoadBalancerName service) (.ok none) 3 with
      | .ok (some lb) => syncLoadBalancer table order service instances lb
      | .ok none => return (none, none)
      | .error failure => return (none, some (.api failure))

def ensureLoadBalancer (provider : AliyunProvider) (table : LowerTable)
    (order : MapOrder) (service : KubeService) (nodes : List String) :
    Aliyun (Option LoadBalancerStatus × Option GoError) := do
  match unsupported service with
  | some failure => return (none, some failure)
  | none =>
      match ← getInstancesByNodes provider nodes with
      | .error failure => return (none, some failure)
      | .ok instances =>
          match ← getLoadBalancer provider (getLoadBalancerName service) with
          | .error failure => return (none, some (.api failure))
          | .ok (some lb) => syncLoadBalancer table order service instances lb
          | .ok none => createAndSync provider table order service instances

def updateLoadBalancer (provider : AliyunProvider) (table : LowerTable)
    (order : MapOrder) (service : KubeService) (nodes : List String) :
    Aliyun (Option GoError) := do
  match ← getLoadBalancer provider (getLoadBalancerName service) with
  | .error failure => return some (.api failure)
  | .ok none => return some (.plain "Load balancer is not found")
  | .ok (some lb) =>
      match ← ensureLBListeners table order lb service.ports (lbOptions service) with
      | some failure => return some failure
      | none =>
          match ← getInstancesByNodes provider nodes with
          | .error failure => return some failure
          | .ok instances => ensureLBBackends order lb instances

def ensureLoadBalancerDeleted (provider : AliyunProvider) (service : KubeService) :
    Aliyun (Option GoError) := do
  match ← getLoadBalancer provider (getLoadBalancerName service) with
  | .error failure => return some (.api failure)
  | .ok none => return none
  | .ok (some lb) => Option.map GoError.api <$> deleteLoadBalancer lb.loadBalancerId

end KubeAliyun.Provider
