import KubeAliyun.Cloud.Vpc

/-!
# Nodes of the cluster

The part of the API server that the route controller writes: the conditions in the
status of a node.  Times are left out.
-/

namespace KubeAliyun.Kube

open KubeAliyun.Cloud KubeAliyun.Remote KubeAliyun.Util

/-! ## Wire types -/

inductive ConditionStatus where
  | isTrue
  | isFalse
  | unknown
deriving DecidableEq, Repr

structure NodeCondition where
  type : String
  status : ConditionStatus
  reason : String
  message : String
deriving DecidableEq, Repr

/-- The fields of `v1.Node` that the controllers read. -/
structure Node where
  name : String
  podCIDR : String
  unschedulable : Bool
  conditions : List NodeCondition
deriving DecidableEq, Repr

def nodeNetworkUnavailable : String := "NetworkUnavailable"

def getNodeCondition (conditions : List NodeCondition) (type : String) :
    Option NodeCondition :=
  conditions.find? fun condition => condition.type = type

/-- The reasons of `metav1.Status` that the controllers tell apart. -/
inductive StatusReason where
  | conflict
  | notFound
  | other
deriving DecidableEq, Repr

structure StatusError where
  reason : StatusReason
  message : String
deriving DecidableEq, Repr

def isConflict (failure : StatusError) : Bool := failure.reason == .conflict

/-! ## The status of nodes -/

/-- A merge patch of the conditions replaces the one of the same type. -/
def mergeCondition (conditions : List NodeCondition) (patch : NodeCondition) :
    List NodeCondition :=
  match getNodeCondition conditions patch.type with
  | none => conditions ++ [patch]
  | some _ => conditions.map fun condition =>
      if condition.type = patch.type then patch else condition

theorem getNodeCondition_merge (conditions : List NodeCondition) (patch : NodeCondition) :
    getNodeCondition (mergeCondition conditions patch) patch.type = some patch := by
  unfold mergeCondition
  cases present : getNodeCondition conditions patch.type with
  | none =>
      rw [getNodeCondition] at present
      simp [getNodeCondition, List.find?_append, present]
  | some found =>
      have kept : getNodeCondition (conditions.map fun condition =>
          if condition.type = patch.type then patch else condition) patch.type =
          (getNodeCondition conditions patch.type).map fun condition =>
            if condition.type = patch.type then patch else condition := by
        refine Keyed.find_map (fun condition => ?_) patch.type
        split
        · rename_i same
          exact same.symm
        · rfl
      have own : found.type = patch.type := (Keyed.find_key present).2
      rw [kept, present, Option.map_some, if_pos own]

structure NodeStore where
  nodes : List Node
  namesDistinct : (nodes.map Node.name).Nodup

namespace NodeStore

def node? (store : NodeStore) (name : String) : Option Node :=
  Keyed.find Node.name store.nodes name

def put (store : NodeStore) (next : Node) : NodeStore where
  nodes := Keyed.put Node.name store.nodes next
  namesDistinct := by
    rw [Keyed.map_key_put]
    exact store.namesDistinct

def patched (store : NodeStore) (name : String) (patch : NodeCondition) : Option NodeStore :=
  (store.node? name).map fun node =>
    store.put { node with conditions := mergeCondition node.conditions patch }

/-- The status of a condition of a node, as a reader of the API server sees it. -/
def status? (store : NodeStore) (name type : String) : Option ConditionStatus :=
  (store.node? name).bind fun node =>
    (getNodeCondition node.conditions type).map NodeCondition.status

/-- A patch is what its reader sees; the other nodes keep their conditions. -/
theorem status?_patched {store next : NodeStore} {name : String} {patch : NodeCondition}
    (done : store.patched name patch = some next) (other : String) :
    next.status? other patch.type =
      if other = name then some patch.status else store.status? other patch.type := by
  obtain ⟨node, found, rfl⟩ := Option.map_eq_some_iff.mp done
  have own : node.name = name := (Keyed.find_key found).2
  split
  · rename_i same
    have here : (store.put { node with
        conditions := mergeCondition node.conditions patch }).node? other =
        some { node with conditions := mergeCondition node.conditions patch } := by
      rw [same]
      exact Keyed.find_put_self found own
    rw [status?, here, Option.bind_some]
    exact congrArg (Option.map NodeCondition.status) (getNodeCondition_merge _ _)
  · rename_i different
    have there : (store.put { node with
        conditions := mergeCondition node.conditions patch }).node? other =
        store.node? other :=
      Keyed.find_put_other fun same => different (same.symm.trans own)
    rw [status?, there, ← status?]

end NodeStore

/-! ## The interface -/

inductive NodeCall where
  | patchStatus (node : String) (condition : NodeCondition)
deriving DecidableEq, Repr

def NodeReply : NodeCall → Type
  | .patchStatus _ _ => Option StatusError

structure ClusterChoice extends NetworkChoice where
  status : StatusError

def NodeStore.answer (choice : ClusterChoice) (store : NodeStore) :
    (request : NodeCall) → NodeReply request × NodeStore
  | .patchStatus node condition =>
      let result := choice.commit store (store.patched node condition)
      (result.1.map fun _ => choice.status, result.2)

abbrev ClusterCall : Type := NetworkCall ⊕ NodeCall

abbrev ClusterReply : ClusterCall → Type := ReplyOf NetworkReply NodeReply

abbrev Cluster : Type := Network × NodeStore

def Cluster.answer : Service ClusterChoice Cluster ClusterCall ClusterReply :=
  Service.beside (fun choice => Network.answer choice.toNetworkChoice) NodeStore.answer

abbrev Clustered (α : Type) : Type := Prog ClusterCall ClusterReply α

def patchNodeStatus (node : String) (condition : NodeCondition) :
    Clustered (Option StatusError) :=
  Prog.call (Sum.inr (.patchStatus node condition) : ClusterCall)

end KubeAliyun.Kube
