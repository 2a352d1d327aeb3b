import KubeAliyun.Cloud.Account

/-!
# Nodes and instances

The provider and its lookup of cluster nodes in the instance inventory
(`aliyun.go`, `utils.go`).
-/

namespace KubeAliyun.Provider

open KubeAliyun.Cloud KubeAliyun.Remote

/-- How node names are formed; `NewProvider` sets one of the first two. -/
inductive NodeNameType where
  | privateIP
  | hostname
  | unknown
deriving DecidableEq, Repr

/-- The configuration of the provider; `defaultInstance` is its field
`instance`, the instance it runs on. -/
structure AliyunProvider where
  accessKey : String
  accessKeySecret : String
  region : String
  vpcID : String
  defaultInstance : String
  hostname : String
  nodeNameType : NodeNameType
deriving DecidableEq, Repr

def AliyunProvider.authorized (provider : AliyunProvider) : Bool :=
  provider.accessKey != "" && provider.accessKeySecret != ""

/-! ## Filters -/

def byHostname (hostname : String) (attributes : InstanceAttributes) : Bool :=
  attributes.hostName == hostname

def byPrivateIP (ip : String) (attributes : InstanceAttributes) : Bool :=
  attributes.privateIpAddress.any (· == ip)

def byEmpty (_ : String) (_ : InstanceAttributes) : Bool := false

def NodeNameType.by : NodeNameType → String → InstanceAttributes → Bool
  | .privateIP => byPrivateIP
  | .hostname => byHostname
  | .unknown => byEmpty

def theInstance (nodeName : String) :
    List InstanceAttributes → Except GoError InstanceAttributes
  | [] => .error (.plain ("Unable to get instance of node:" ++ nodeName))
  | [found] => .ok found
  | _ :: _ :: _ =>
      .error (.plain ("Multiple instance with the same node name:" ++ nodeName))

def instanceByNodeName (nodeNameType : NodeNameType)
    (instances : List InstanceAttributes) (nodeName : String) :
    Except GoError InstanceAttributes :=
  theInstance nodeName (instances.filter (nodeNameType.by nodeName))

/-- The loop of `getInstancesByNodeNames`: the filtered list of one name is the
list the next name is looked up in. -/
def instancesByNodeNames (nodeNameType : NodeNameType) :
    List InstanceAttributes → List String → Except GoError (List InstanceAttributes)
  | _, [] => .ok []
  | instances, nodeName :: rest =>
      let remaining := instances.filter (nodeNameType.by nodeName)
      match theInstance nodeName remaining with
      | .error failure => .error failure
      | .ok found =>
          match instancesByNodeNames nodeNameType remaining rest with
          | .error failure => .error failure
          | .ok results => .ok (found :: results)

/-! ## Lookups -/

def getInstances (provider : AliyunProvider) :
    Aliyun (Except ApiError (List InstanceAttributes)) := do
  match ← describeInstances ⟨provider.region, provider.vpcID, ⟨0, 0⟩⟩ with
  | .error failure => return .error failure
  | .ok (instances, _) => return .ok instances

def getInstanceByNodeName (provider : AliyunProvider) (nodeName : String) :
    Aliyun (Except GoError InstanceAttributes) := do
  match ← getInstances provider with
  | .error failure => return .error (.api failure)
  | .ok instances =>
      return instanceByNodeName provider.nodeNameType instances nodeName

def getInstancesByNodeNames (provider : AliyunProvider) (nodeNames : List String) :
    Aliyun (Except GoError (List InstanceAttributes)) := do
  match ← getInstances provider with
  | .error failure => return .error (.api failure)
  | .ok instances =>
      return instancesByNodeNames provider.nodeNameType instances nodeNames

def getInstancesByNodes (provider : AliyunProvider) (nodes : List String) :
    Aliyun (Except GoError (List InstanceAttributes)) :=
  getInstancesByNodeNames provider nodes

end KubeAliyun.Provider
