import KubeAliyun.Kube.Nodes
import KubeAliyun.Net.Block
import KubeAliyun.Provider.Routes
import KubeAliyun.Remote.Pool

/-!
# The route controller

`routecontroller.go`, which the controller starts over the routes of the provider.  A
round lists the routes once and then works on several nodes at a time: the goroutines
of the round are the programs of a pool.  A goroutine exists from the start of the
round and may be scheduled at any time, which covers the order in which they are
spawned and the limit on creations in flight.
-/

namespace KubeAliyun.Controller

open KubeAliyun.Cloud KubeAliyun.Provider KubeAliyun.Remote KubeAliyun.Kube KubeAliyun.Net

def maxRetries : Nat := 5

def updateNodeStatusMaxRetries : Nat := 3

structure RouteController where
  routes : RoutingProvider
  clusterCIDR : IPNet
  parseCIDR : String → Option IPNet

/-! ## The condition of a node -/

def networkingCondition (routeCreated : Bool) : NodeCondition :=
  if routeCreated then
    ⟨nodeNetworkUnavailable, .isFalse, "RouteCreated", "RouteController created a route"⟩
  else
    ⟨nodeNetworkUnavailable, .isTrue, "NoRouteCreated",
      "RouteController failed to create a route"⟩

/-- The loop of `updateNetworkingCondition`, with the attempts that are left; its test
for the last attempt never holds inside the loop. -/
def patchLoop (nodeName : String) (routeCreated : Bool) :
    Nat → Option StatusError → Clustered (Option StatusError)
  | 0, failure => .done failure
  | attempts + 1, _ => do
      match ← patchNodeStatus nodeName (networkingCondition routeCreated) with
      | none => return none
      | some failure =>
          if isConflict failure then patchLoop nodeName routeCreated attempts (some failure)
          else return some failure

def updateNetworkingCondition (nodeName : String) (routeCreated : Bool) :
    Clustered (Option StatusError) :=
  patchLoop nodeName routeCreated updateNodeStatusMaxRetries none

/-! ## Which routes are the controller's -/

def isResponsibleForRoute (controller : RouteController) (route : Route) : Bool :=
  match controller.parseCIDR route.destinationCIDR with
  | none => false
  | some cidr =>
      if !controller.clusterCIDR.contains cidr.ip ||
          !controller.clusterCIDR.contains cidr.lastIP then false
      else true

/-- The entry of `routeMap` for a node: the last route to it. -/
def routeMap (routes : List Route) (nodeName : String) : Option Route :=
  routes.foldl (fun found route =>
    if route.targetNode = nodeName then some route else found) none

/-- The entry of `nodeCIDRs` for a node; a node without an entry reads as empty. -/
def nodeCIDRs (nodes : List Node) (nodeName : String) : String :=
  nodes.foldl (fun found node =>
    if node.podCIDR ≠ "" ∧ node.name = nodeName then node.podCIDR else found) ""

/-! ## A round -/

/-- What one goroutine of a round does: the round's own one confirms nodes that have
their routes, each of the others works on one route. -/
inductive Task where
  | confirm (nodeNames : List String)
  | create (route : Route)
  | delete (route : Route)
deriving DecidableEq, Repr

def hasRoute (routes : List Route) (node : Node) : Bool :=
  match routeMap routes node.name with
  | none => false
  | some route => route.destinationCIDR == node.podCIDR

def routeToCreate (routes : List Route) (node : Node) : Option Route :=
  if node.podCIDR = "" then none
  else if hasRoute routes node then none
  else some { targetNode := node.name, destinationCIDR := node.podCIDR }

/-- The condition is only written if it does not say so already. -/
def nodeToConfirm (routes : List Route) (node : Node) : Option String :=
  if node.podCIDR = "" then none
  else if hasRoute routes node then
    match getNodeCondition node.conditions nodeNetworkUnavailable with
    | none => some node.name
    | some condition => if condition.status = .isFalse then none else some node.name
  else none

def routesToDelete (controller : RouteController) (nodes : List Node) (routes : List Route) :
    List Route :=
  routes.filter fun route =>
    isResponsibleForRoute controller route &&
      decide (nodeCIDRs nodes route.targetNode ≠ route.destinationCIDR)

/-- The goroutines that `reconcile` waits for. -/
def reconcile (controller : RouteController) (nodes : List Node) (routes : List Route) :
    List Task :=
  .confirm (nodes.filterMap (nodeToConfirm routes)) ::
    ((nodes.filterMap (routeToCreate routes)).map .create ++
      (routesToDelete controller nodes routes).map .delete)

/-- The retries of a creation; each attempt reports the condition of the node. -/
def createLoop (controller : RouteController) (route : Route) : Nat → Clustered Unit
  | 0 => .done ()
  | attempts + 1 => do
      let failure ← (createRoute controller.routes route).lift
      let _ ← updateNetworkingCondition route.targetNode failure.isNone
      match failure with
      | none => return ()
      | some _ => createLoop controller route attempts

def confirmLoop : List String → Clustered Unit
  | [] => .done ()
  | nodeName :: rest => do
      let _ ← updateNetworkingCondition nodeName true
      confirmLoop rest

def Task.program (controller : RouteController) : Task → Clustered Unit
  | .confirm nodeNames => confirmLoop nodeNames
  | .create route => createLoop controller route maxRetries
  | .delete route => do
      let _ ← (deleteRoute controller.routes route).lift
      return ()

/-- The choices of the services in one round, and the order in which its goroutines
move; the round may be cut off at any point. -/
structure Round where
  nodes : List Node
  listing : Nat → ClusterChoice
  working : Nat → Nat → ClusterChoice
  schedule : List Nat

def Round.listed (controller : RouteController) (round : Round) (start : Cluster) :
    Run ClusterChoice Cluster ClusterCall ClusterReply (Except GoError (List Route)) :=
  (listRoutes controller.routes).lift.run Cluster.answer round.listing start

/-- The goroutines of the round: an error of the listing ends the round, and a panic
ends the controller. -/
def Round.tasks (controller : RouteController) (round : Round) (start : Cluster) : List Task :=
  match (round.listed controller start).outcome with
  | some (.ok routes) => reconcile controller round.nodes routes
  | _ => []

def Round.pool (controller : RouteController) (round : Round) (start : Cluster) :
    Pool Nat ClusterChoice Cluster ClusterCall ClusterReply Unit where
  process index :=
    ⟨((round.tasks controller start)[index]?.map (Task.program controller)).getD (.done ()),
      round.working index⟩
  state := (round.listed controller start).state

def Round.run (controller : RouteController) (round : Round) (start : Cluster) :
    Pool Nat ClusterChoice Cluster ClusterCall ClusterReply Unit :=
  (round.pool controller start).runs Cluster.answer round.schedule

def Round.Ended (controller : RouteController) (round : Round) (start : Cluster) : Prop :=
  ∀ index < (round.tasks controller start).length,
    ((round.run controller start).process index).program = .done ()

def rounds (controller : RouteController) : List Round → Cluster → Cluster
  | [], state => state
  | round :: rest, state => rounds controller rest (round.run controller state).state

end KubeAliyun.Controller
