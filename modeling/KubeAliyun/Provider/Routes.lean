import KubeAliyun.Cloud.Vpc
import KubeAliyun.Provider.Instances

/-!
# Routes to nodes

The routes interface of the provider (`routes.go`).  The cluster name and the
name hint are not used by the source and are left out.
-/

namespace KubeAliyun.Provider

open KubeAliyun.Cloud KubeAliyun.Remote

structure RoutingProvider extends AliyunProvider where
  vrouterID : String
  routeTable : String
deriving DecidableEq, Repr

structure Route where
  name : String := ""
  targetNode : String
  destinationCIDR : String
deriving DecidableEq, Repr

def byInstanceId (id : String) (attributes : InstanceAttributes) : Bool :=
  attributes.instanceId == id

/-- The name of the node on an instance; `none` is the panic of reading the first
of no addresses. -/
def mapInstanceToNodeName (nodeNameType : NodeNameType) (attributes : InstanceAttributes) :
    Option String :=
  match nodeNameType with
  | .privateIP => attributes.privateIpAddress.head?
  | .hostname => some attributes.hostName
  | .unknown => some attributes.hostName

/-! ## Listing -/

/-- The body of the loop over the entries: the route of an entry, if it has one;
`none` is a panic. -/
def routeOfEntry (nodeNameType : NodeNameType) (instances : List InstanceAttributes)
    (entry : RouteEntry) : Option (Option Route) :=
  if entry.nextHopType ≠ nextHopInstance then some none
  else
    match instances.filter (byInstanceId entry.instanceId) with
    | [] => some none
    | [found] =>
        (mapInstanceToNodeName nodeNameType found).map fun node =>
          some { targetNode := node, destinationCIDR := entry.destinationCidrBlock }
    | _ :: _ :: _ => some none

/-- The loop over the entries of a table, or of all tables in a row. -/
def routesOfEntries (nodeNameType : NodeNameType) (instances : List InstanceAttributes) :
    List RouteEntry → Option (List Route)
  | [] => some []
  | entry :: rest =>
      (routeOfEntry nodeNameType instances entry).bind fun route =>
        (routesOfEntries nodeNameType instances rest).map fun routes =>
          route.toList ++ routes

def routesOfTables (provider : RoutingProvider) (instances : List InstanceAttributes) :
    Networked (Except GoError (List Route)) := do
  match ← describeRouteTables ⟨provider.vrouterID, provider.routeTable, ⟨0, 10⟩⟩ with
  | .error failure => return .error (.plain ("Unable list routes:" ++ failure.text))
  | .ok (tables, _) =>
      match routesOfEntries provider.nodeNameType instances
          (tables.flatMap RouteTableSet.routeEntrys) with
      | none => .crash
      | some routes => return .ok routes

def listRoutes (provider : RoutingProvider) : Networked (Except GoError (List Route)) := do
  match ← (getInstances provider.toAliyunProvider).lift with
  | .error failure => return .error (.api failure)
  | .ok instances => routesOfTables provider instances

/-! ## Changing -/

def deleteRoute (provider : RoutingProvider) (route : Route) :
    Networked (Option GoError) := do
  match ← (getInstanceByNodeName provider.toAliyunProvider route.targetNode).lift with
  | .error failure => return some failure
  | .ok found =>
      Option.map GoError.api <$> deleteRouteEntry
        ⟨provider.routeTable, route.destinationCIDR, found.instanceId⟩

def createRoute (provider : RoutingProvider) (route : Route) :
    Networked (Option GoError) := do
  match ← (getInstanceByNodeName provider.toAliyunProvider route.targetNode).lift with
  | .error failure => return some failure
  | .ok found =>
      Option.map GoError.api <$> createRouteEntry
        ⟨provider.routeTable, route.destinationCIDR, "", found.instanceId⟩

end KubeAliyun.Provider
