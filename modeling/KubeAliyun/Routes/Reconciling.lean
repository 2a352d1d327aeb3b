import KubeAliyun.Controller.RouteController
import KubeAliyun.Remote.Sharing
import KubeAliyun.Routes.RoundTrip

/-!
# What the goroutines of a round do to the route table

The goroutines of the route controller share the route table.  Whatever they do
next to each other, an entry disappears only when its route is stale, and a new entry
serves a node; each goroutine works under this assumption about the others.
-/

namespace KubeAliyun.Routes

open KubeAliyun.Cloud KubeAliyun.Provider KubeAliyun.Remote KubeAliyun.Volume KubeAliyun.Nodes
open KubeAliyun.Kube KubeAliyun.Controller

/-- What matters to the goroutines: the instances and the configured route table. -/
structure Scene where
  inventory : List InstanceAttributes
  table? : Option RouteTable

def Scene.entries (scene : Scene) : List RouteEntry :=
  (scene.table?.map RouteTable.entries).getD []

theorem Scene.entry_unique {scene : Scene} {first second : RouteEntry}
    (one : first ∈ scene.entries) (two : second ∈ scene.entries)
    (same : first.destinationCidrBlock = second.destinationCidrBlock) : first = second := by
  rw [Scene.entries] at one two
  cases known : scene.table? with
  | none =>
      rw [known] at one
      cases one
  | some table =>
      rw [known] at one two
      exact table.entry_unique one two same

theorem Scene.hopsAgree {scene : Scene} {entry : RouteEntry} (member : entry ∈ scene.entries)
    (toInstance : entry.nextHopType = nextHopInstance) : entry.instanceId = entry.nextHopId := by
  rw [Scene.entries] at member
  cases known : scene.table? with
  | none =>
      rw [known] at member
      cases member
  | some table =>
      rw [known] at member
      exact table.hopsAgree entry member toInstance

def sceneOf (controller : RouteController) (state : Cluster) : Scene :=
  ⟨state.1.1.ecs.visible, state.1.2.table? controller.routes.routeTable⟩

/-! ## Entries of nodes -/

section Entries

variable (controller : RouteController) (cidrs : String → String)
  (inventory : List InstanceAttributes)

/-- The entry takes the traffic for the CIDR of a node to the instance of the node. -/
structure Serves (node : String) (entry : RouteEntry) : Prop where
  assigned : cidrs node ≠ ""
  cidr : entry.destinationCidrBlock = cidrs node
  toInstance : entry.nextHopType = nextHopInstance
  hop : ∃ found, matching controller.routes.nodeNameType inventory node = [found] ∧
    entry.instanceId = found.instanceId ∧ entry.nextHopId = found.instanceId

/-- The entry is listed as a route of the cluster that its node should not have. -/
def Stale (entry : RouteEntry) : Prop :=
  ∃ route, routeOfEntry controller.routes.nodeNameType inventory entry = some (some route) ∧
    isResponsibleForRoute controller route = true ∧
    cidrs route.targetNode ≠ route.destinationCIDR

/-- Every node that has a CIDR is named after the one instance that its name fits. -/
def Resolved : Prop :=
  ∀ node, cidrs node ≠ "" → ∃ found,
    matching controller.routes.nodeNameType inventory node = [found] ∧
    mapInstanceToNodeName controller.routes.nodeNameType found = some node

variable {controller cidrs inventory}

/-- An entry that serves a resolved node is listed under the node, if it is listed. -/
theorem Serves.route (resolved : Resolved controller cidrs inventory) {node : String}
    {entry : RouteEntry} (serves : Serves controller cidrs inventory node entry) {route : Route}
    (listed : routeOfEntry controller.routes.nodeNameType inventory entry = some (some route)) :
    route = ⟨"", node, cidrs node⟩ := by
  obtain ⟨found, one, instanceId, -⟩ := serves.hop
  obtain ⟨known, again, name⟩ := resolved node serves.assigned
  have same : [found] = [known] := one.symm.trans again
  cases same
  obtain ⟨-, target, single, targetName, whole⟩ := (routeOfEntry_iff entry route).mp listed
  have present : found ∈ inventory.filter (byInstanceId entry.instanceId) :=
    List.mem_filter.mpr ⟨mem_of_matching one, by simp [byInstanceId, instanceId]⟩
  rw [single] at present
  cases List.mem_singleton.mp present
  rw [whole, serves.cidr, Option.some.inj (targetName.symm.trans name)]

/-- The entries of resolved nodes are never stale. -/
theorem Serves.not_stale (resolved : Resolved controller cidrs inventory) {node : String}
    {entry : RouteEntry} (serves : Serves controller cidrs inventory node entry) :
    ¬Stale controller cidrs inventory entry := by
  rintro ⟨route, listed, -, wrong⟩
  rw [serves.route resolved listed] at wrong
  exact wrong rfl

/-- An entry that is listed under a resolved node with the node's CIDR serves it. -/
theorem serves_of_listed (resolved : Resolved controller cidrs inventory) {node : String}
    (assigned : cidrs node ≠ "") {entry : RouteEntry}
    (agree : entry.nextHopType = nextHopInstance → entry.instanceId = entry.nextHopId)
    (listed : routeOfEntry controller.routes.nodeNameType inventory entry =
      some (some ⟨"", node, cidrs node⟩)) :
    Serves controller cidrs inventory node entry := by
  obtain ⟨toInstance, target, single, name, whole⟩ := (routeOfEntry_iff entry _).mp listed
  obtain ⟨found, one, -⟩ := resolved node assigned
  have member : target ∈ inventory.filter (byInstanceId entry.instanceId) := by simp [single]
  obtain ⟨present, its⟩ := List.mem_filter.mp member
  have sameId : target.instanceId = entry.instanceId := by simpa [byInstanceId] using its
  have known : controller.routes.nodeNameType ≠ .unknown := by
    intro unknown
    have fits := fits_of_matching one
    rw [unknown] at fits
    cases fits
  have fits : target ∈ matching controller.routes.nodeNameType inventory node :=
    List.mem_filter.mpr ⟨present, fits_of_name known name⟩
  rw [one] at fits
  cases List.mem_singleton.mp fits
  refine ⟨assigned, ?_, toInstance, target, one, sameId.symm, ?_⟩
  · exact (congrArg Route.destinationCIDR whole).symm
  · rw [← agree toInstance, sameId]

end Entries

/-! ## Moves -/

/-- Between two scenes only stale entries have disappeared, and every new entry serves a
node. -/
structure Tidied (controller : RouteController) (cidrs : String → String)
    (before after : Scene) : Prop where
  inventory : after.inventory = before.inventory
  gone : ∀ entry ∈ before.entries, entry ∉ after.entries →
    Stale controller cidrs before.inventory entry
  new : ∀ entry ∈ after.entries, entry ∉ before.entries →
    ∃ node, Serves controller cidrs before.inventory node entry

section Moves

variable {controller : RouteController} {cidrs : String → String}

theorem Tidied.refl (scene : Scene) : Tidied controller cidrs scene scene :=
  ⟨rfl, fun _ member absent => absurd member absent, fun _ member absent => absurd member absent⟩

theorem Tidied.trans {first second third : Scene} (one : Tidied controller cidrs first second)
    (two : Tidied controller cidrs second third) : Tidied controller cidrs first third where
  inventory := two.inventory.trans one.inventory
  gone entry member absent := by
    by_cases between : entry ∈ second.entries
    · rw [← one.inventory]
      exact two.gone entry between absent
    · exact one.gone entry member between
  new entry member absent := by
    by_cases between : entry ∈ second.entries
    · exact one.new entry between absent
    · rw [← one.inventory]
      exact two.new entry member between

/-- A node is connected: its name resolves and an entry serves it. -/
def Connected (controller : RouteController) (cidrs : String → String) (node : String)
    (scene : Scene) : Prop :=
  Resolved controller cidrs scene.inventory → cidrs node ≠ "" →
    ∃ entry ∈ scene.entries, Serves controller cidrs scene.inventory node entry

theorem Connected.moved {node : String} {before after : Scene}
    (connected : Connected controller cidrs node before)
    (move : Tidied controller cidrs before after) :
    Connected controller cidrs node after := by
  intro resolved assigned
  rw [move.inventory] at resolved ⊢
  obtain ⟨entry, member, serves⟩ := connected resolved assigned
  by_cases kept : entry ∈ after.entries
  · exact ⟨entry, kept, serves⟩
  · exact absurd (move.gone entry member kept) (serves.not_stale resolved)

/-- A stale entry that was listed, and what may stand in its place now. -/
structure Doomed (controller : RouteController) (cidrs : String → String) (cidr hop : String)
    (scene : Scene) : Prop where
  listed : ∃ source, Stale controller cidrs scene.inventory source ∧
    source.destinationCidrBlock = cidr ∧ source.nextHopType = nextHopInstance ∧
    source.instanceId = hop ∧ source.nextHopId = hop ∧
    ∀ entry ∈ scene.entries, entry.destinationCidrBlock = cidr →
      entry = source ∨ ∃ node, Serves controller cidrs scene.inventory node entry

theorem Doomed.moved {cidr hop : String} {before after : Scene}
    (doomed : Doomed controller cidrs cidr hop before)
    (move : Tidied controller cidrs before after) :
    Doomed controller cidrs cidr hop after := by
  obtain ⟨source, stale, cidrSame, toInstance, instanceId, hopSame, others⟩ := doomed.listed
  refine ⟨source, ?_, cidrSame, toInstance, instanceId, hopSame, ?_⟩
  · rw [move.inventory]
    exact stale
  · intro entry member same
    rw [move.inventory]
    by_cases old : entry ∈ before.entries
    · exact others entry old same
    · exact Or.inr (move.new entry member old)

/-- Whatever a deletion for a doomed entry hits is stale. -/
theorem Doomed.stale {cidr hop : String} {scene : Scene}
    (doomed : Doomed controller cidrs cidr hop scene) {entry : RouteEntry}
    (member : entry ∈ scene.entries) (sameCidr : entry.destinationCidrBlock = cidr)
    (sameHop : entry.nextHopId = hop) : Stale controller cidrs scene.inventory entry := by
  obtain ⟨source, stale, cidrSame, toInstance, instanceId, hopSame, others⟩ := doomed.listed
  rcases others entry member sameCidr with rfl | ⟨node, serves⟩
  · exact stale
  · have alike : entry = source := by
      obtain ⟨cidrOf, typeOf, hopOf, idOf⟩ := entry
      obtain ⟨sourceCidr, sourceType, sourceHop, sourceId⟩ := source
      have id : idOf = hopOf := Scene.hopsAgree member serves.toInstance
      simp only at sameCidr sameHop cidrSame toInstance instanceId hopSame
      have type : typeOf = nextHopInstance := serves.toInstance
      rw [id, type, sameCidr, sameHop, cidrSame, toInstance, instanceId, hopSame]
    rw [alike]
    exact stale

end Moves

/-! ## Calls -/

/-- The states in which the configured route table exists. -/
def Ready (controller : RouteController) (state : Cluster) : Prop :=
  ∃ table, Configured controller.routes state.1.2 table

inductive Proper (controller : RouteController) (cidrs : String → String) (scene : Scene) :
    ClusterCall → Prop
  | read (args : DescribeInstancesArgs) :
      Proper controller cidrs scene (.inl (.inl (.ecs (.describeInstances args))))
  | create (cidr hop : String)
      (serves : ∃ node, Serves controller cidrs scene.inventory node
        ⟨cidr, nextHopInstance, hop, hop⟩) :
      Proper controller cidrs scene (.inl (.inr (.createRouteEntry
        ⟨controller.routes.routeTable, cidr, "", hop⟩)))
  | delete (cidr hop : String) (doomed : Doomed controller cidrs cidr hop scene) :
      Proper controller cidrs scene (.inl (.inr (.deleteRouteEntry
        ⟨controller.routes.routeTable, cidr, hop⟩)))
  | report (node : String) (routeCreated : Bool)
      (truthful : routeCreated = true → Connected controller cidrs node scene) :
      Proper controller cidrs scene (.inr (.patchStatus node
        (networkingCondition routeCreated)))

section Calls

variable {controller : RouteController} {cidrs : String → String}

/-- What a change of the configured table comes to. -/
theorem commit_change {provider : RoutingProvider} {vpc : Vpc} {table : RouteTable}
    (configured : Configured provider vpc table) (choice : Choice)
    (change : RouteTable → Option RouteTable) :
    let result := choice.commit vpc (vpc.modify provider.routeTable change)
    (∃ next, change table = some next ∧ result.2 = vpc.put next ∧
        (choice.fate = .served → result.1 = none)) ∨
      (result = (some choice.error, vpc) ∧ (choice.fate = .served → change table = none)) := by
  have modified : vpc.modify provider.routeTable change = (change table).map vpc.put := by
    rw [Vpc.modify, configured.found, Option.bind_some]
  simp only [modified]
  cases changed : change table with
  | none => exact Or.inr ⟨choice.commit_none vpc, fun _ => rfl⟩
  | some next =>
      rcases choice.commit_cases vpc (some (vpc.put next)) with
        ⟨after, same, served, result⟩ | ⟨after, same, lost, result⟩ | result
      · cases same
        exact Or.inl ⟨next, rfl, by rw [Option.map_some, result], fun _ => by
          rw [Option.map_some, result]⟩
      · cases same
        exact Or.inl ⟨next, rfl, by rw [Option.map_some, result], fun served => by
          rw [lost] at served
          cases served⟩
      · by_cases served : choice.fate = .served
        · exact Or.inl ⟨next, rfl, by rw [Option.map_some, Choice.commit_served served],
            fun _ => by rw [Option.map_some, Choice.commit_served served]⟩
        · exact Or.inr ⟨result, fun fair => absurd fair served⟩

theorem create_tidies {scene : Scene} {table next : RouteTable} {position : Nat}
    {cidr hop node : String} (known : scene.table? = some table)
    (serves : Serves controller cidrs scene.inventory node ⟨cidr, nextHopInstance, hop, hop⟩)
    (created : table.create position cidr hop = some next) :
    Tidied controller cidrs scene ⟨scene.inventory, some next⟩ := by
  obtain ⟨-, -, -, entries⟩ := RouteTable.create_eq_some created
  have old : scene.entries = table.entries := by rw [Scene.entries, known]; rfl
  have whole := List.take_append_drop position table.entries
  have member : ∀ entry, entry ∈ next.entries ↔
      entry = ⟨cidr, nextHopInstance, hop, hop⟩ ∨ entry ∈ table.entries := by
    intro entry
    rw [entries, List.perm_middle.mem_iff, whole, List.mem_cons]
  refine ⟨rfl, fun entry present absent => ?_, fun entry present absent => ?_⟩
  · rw [old] at present
    exact absurd ((member entry).mpr (Or.inr present)) absent
  · rcases (member entry).mp present with rfl | before
    · exact ⟨node, serves⟩
    · rw [old] at absent
      exact absurd before absent

theorem delete_tidies {scene : Scene} {table next : RouteTable} {cidr hop : String}
    (known : scene.table? = some table) (doomed : Doomed controller cidrs cidr hop scene)
    (deleted : table.delete cidr hop = some next) :
    Tidied controller cidrs scene ⟨scene.inventory, some next⟩ := by
  obtain ⟨-, -, front, hit, back, split, sameCidr, sameHop, rest⟩ :=
    RouteTable.delete_eq_some deleted
  have old : scene.entries = table.entries := by rw [Scene.entries, known]; rfl
  have member : ∀ entry, entry ∈ table.entries ↔ entry = hit ∨ entry ∈ next.entries := by
    intro entry
    rw [split, rest, ← List.mem_cons]
    exact List.perm_middle.mem_iff
  refine ⟨rfl, fun entry present absent => ?_, fun entry present absent => ?_⟩
  · have here := present
    rw [old] at here
    rcases (member entry).mp here with rfl | kept
    · exact doomed.stale present sameCidr sameHop
    · exact absurd kept absent
  · rw [old] at absent
    exact absurd ((member entry).mpr (Or.inr present)) absent

theorem sceneOf_put {state : Cluster} {table next : RouteTable}
    (configured : Configured controller.routes state.1.2 table)
    (sameId : next.routeTableId = table.routeTableId) :
    sceneOf controller ((state.1.1, state.1.2.put next), state.2) =
      ⟨(sceneOf controller state).inventory, some next⟩ := by
  have found : (state.1.2.put next).table? controller.routes.routeTable = some next :=
    Util.Keyed.find_put_self configured.found
      (sameId.trans (Util.Keyed.find_key configured.found).2)
  rw [sceneOf, found]
  rfl

/-- A proper call tidies the table and leaves the configured table in place. -/
theorem proper_tidies {state : Cluster} (ready : Ready controller state)
    (choice : ClusterChoice) {request : ClusterCall}
    (proper : Proper controller cidrs (sceneOf controller state) request) :
    Tidied controller cidrs (sceneOf controller state)
        (sceneOf controller (Cluster.answer choice state request).2) ∧
      Ready controller (Cluster.answer choice state request).2 := by
  obtain ⟨table, configured⟩ := ready
  have known : (sceneOf controller state).table? = some table := configured.found
  cases proper with
  | read args => exact ⟨Tidied.refl _, table, configured⟩
  | report node routeCreated truthful => exact ⟨Tidied.refl _, table, configured⟩
  | create cidr hop serves =>
      obtain ⟨node, serves⟩ := serves
      rcases commit_change configured choice.toChoice
          (fun current => current.create choice.position cidr hop) with
        ⟨next, created, result, -⟩ | ⟨result, -⟩
      · obtain ⟨sameRouter, sameId, -⟩ := RouteTable.create_eq_some created
        have after : (Cluster.answer choice state (.inl (.inr (.createRouteEntry
            ⟨controller.routes.routeTable, cidr, "", hop⟩)))).2 =
            ((state.1.1, state.1.2.put next), state.2) :=
          congrArg (fun vpc => ((state.1.1, vpc), state.2)) result
        rw [after, sceneOf_put configured sameId]
        exact ⟨create_tidies known serves created, next, configured.put sameId sameRouter⟩
      · have after : (Cluster.answer choice state (.inl (.inr (.createRouteEntry
            ⟨controller.routes.routeTable, cidr, "", hop⟩)))).2 = state :=
          congrArg (fun result => ((state.1.1, Prod.snd result), state.2)) result
        rw [after]
        exact ⟨Tidied.refl _, table, configured⟩
  | delete cidr hop doomed =>
      rcases commit_change configured choice.toChoice
          (fun current => current.delete cidr hop) with
        ⟨next, deleted, result, -⟩ | ⟨result, -⟩
      · obtain ⟨sameRouter, sameId, -⟩ := RouteTable.delete_eq_some deleted
        have after : (Cluster.answer choice state (.inl (.inr (.deleteRouteEntry
            ⟨controller.routes.routeTable, cidr, hop⟩)))).2 =
            ((state.1.1, state.1.2.put next), state.2) :=
          congrArg (fun vpc => ((state.1.1, vpc), state.2)) result
        rw [after, sceneOf_put configured sameId]
        exact ⟨delete_tidies known doomed deleted, next, configured.put sameId sameRouter⟩
      · have after : (Cluster.answer choice state (.inl (.inr (.deleteRouteEntry
            ⟨controller.routes.routeTable, cidr, hop⟩)))).2 = state :=
          congrArg (fun result => ((state.1.1, Prod.snd result), state.2)) result
        rw [after]
        exact ⟨Tidied.refl _, table, configured⟩

/-- The other route tables are nobody's business. -/
theorem proper_others {state : Cluster} (ready : Ready controller state)
    (choice : ClusterChoice) {request : ClusterCall}
    (proper : Proper controller cidrs (sceneOf controller state) request) {id : String}
    (other : id ≠ controller.routes.routeTable) :
    (Cluster.answer choice state request).2.1.2.table? id = state.1.2.table? id := by
  obtain ⟨table, configured⟩ := ready
  have kept : ∀ change : RouteTable → Option RouteTable,
      (∀ next, change table = some next → next.routeTableId = table.routeTableId) →
      (choice.commit state.1.2 (state.1.2.modify controller.routes.routeTable change)).2.table?
        id = state.1.2.table? id := by
    intro change sameId
    rcases commit_change configured choice.toChoice change with
      ⟨next, changed, result, -⟩ | ⟨result, -⟩
    · rw [result]
      refine Util.Keyed.find_put_other fun same => other ?_
      rw [← same, sameId next changed]
      exact (Util.Keyed.find_key configured.found).2
    · rw [result]
  cases proper with
  | read args => rfl
  | report node routeCreated truthful => rfl
  | create cidr hop serves =>
      exact kept (fun current => current.create choice.position cidr hop)
        fun next created => (RouteTable.create_eq_some created).2.1
  | delete cidr hop doomed =>
      exact kept (fun current => current.delete cidr hop)
        fun next deleted => (RouteTable.delete_eq_some deleted).2.1

end Calls

/-! ## Goroutines -/

/-- Answers under the choices `allowed`, and only the calls of a round. -/
def taskContract (controller : RouteController) (cidrs : String → String)
    (allowed : ClusterChoice → Prop) : Contract Scene ClusterCall ClusterReply :=
  Service.seen Cluster.answer (sceneOf controller) allowed (Ready controller)
    (Proper controller cidrs)

/-- No call fails for a reason of the services' own. -/
def Obliging (allowed : ClusterChoice → Prop) : Prop :=
  ∀ choice, allowed choice → choice.fate = .served

/-- Every entry for the CIDR of a node serves the node. -/
def Unobstructed (controller : RouteController) (cidrs : String → String) (scene : Scene) :
    Prop :=
  ∀ node, cidrs node ≠ "" → ∀ entry ∈ scene.entries,
    entry.destinationCidrBlock = cidrs node →
      Serves controller cidrs scene.inventory node entry

def Distinct (cidrs : String → String) : Prop :=
  ∀ first second, cidrs first ≠ "" → cidrs first = cidrs second → first = second

section Goroutines

variable {controller : RouteController} {cidrs : String → String}
  {allowed : ClusterChoice → Prop}

theorem Unobstructed.moved (distinct : Distinct cidrs) {before after : Scene}
    (free : Unobstructed controller cidrs before) (move : Tidied controller cidrs before after) :
    Unobstructed controller cidrs after := by
  intro node assigned entry member same
  rw [move.inventory]
  by_cases old : entry ∈ before.entries
  · exact free node assigned entry old same
  · obtain ⟨other, serves⟩ := move.new entry member old
    have alike : node = other := distinct node other assigned (same.symm.trans serves.cidr)
    rw [alike]
    exact serves

def Lasting (controller : RouteController) (cidrs : String → String) (holds : Scene → Prop) :
    Prop :=
  ∀ before after, Tidied controller cidrs before after → holds before → holds after

/-- A report leaves the routes alone. -/
theorem patchLoop_withstands {holds : Scene → Prop} (lasting : Lasting controller cidrs holds)
    {node : String} {routeCreated : Bool}
    (truthful : ∀ scene, holds scene → routeCreated = true →
      Connected controller cidrs node scene)
    (attempts : Nat) (failure : Option StatusError) {scene : Scene} (start : holds scene) :
    (patchLoop node routeCreated attempts failure).Withstands
      (taskContract controller cidrs allowed) (Tidied controller cidrs)
      (fun outcome after => outcome.isSome ∧ holds after) scene := by
  induction attempts generalizing failure scene with
  | zero => exact fun moved move => ⟨rfl, lasting _ _ move start⟩
  | succ attempts ih =>
      refine Prog.Withstands.ask
        (fun moved move => .report node routeCreated (truthful moved (lasting _ _ move start))) ?_
      intro choice state fair ready move
      have kept : holds (sceneOf controller state) := lasting _ _ move start
      have same : sceneOf controller (Cluster.answer choice state
          (.inr (.patchStatus node (networkingCondition routeCreated)))).2 =
          sceneOf controller state := rfl
      rw [same]
      generalize (Cluster.answer choice state
        (.inr (.patchStatus node (networkingCondition routeCreated)))).1 = reply
      change Option StatusError at reply
      cases reply with
      | none => exact fun moved after => ⟨rfl, lasting _ _ after kept⟩
      | some error =>
          change Prog.Withstands (taskContract controller cidrs allowed) _ _
            (if isConflict error = true then patchLoop node routeCreated attempts (some error)
              else .done (some error)) _
          split
          · exact ih (some error) kept
          · exact fun moved after => ⟨rfl, lasting _ _ after kept⟩

theorem updateNetworkingCondition_withstands {holds : Scene → Prop}
    (lasting : Lasting controller cidrs holds) {node : String} {routeCreated : Bool}
    (truthful : ∀ scene, holds scene → routeCreated = true →
      Connected controller cidrs node scene) {scene : Scene} (start : holds scene) :
    (updateNetworkingCondition node routeCreated).Withstands
      (taskContract controller cidrs allowed) (Tidied controller cidrs)
      (fun outcome after => outcome.isSome ∧ holds after) scene :=
  patchLoop_withstands lasting truthful updateNodeStatusMaxRetries none start

/-- A goroutine that goes through the instance of a node. -/
theorem throughInstance_withstands {α : Type} {post : Option α → Scene → Prop} {node : String}
    {follow : Except GoError InstanceAttributes → Networked α} {scene : Scene}
    (each : ∀ lookup after, Tidied controller cidrs scene after →
      (∀ found, lookup = .ok found →
        matching controller.routes.nodeNameType after.inventory node = [found]) →
      (Obliging allowed → ∀ found,
        matching controller.routes.nodeNameType after.inventory node = [found] →
          lookup = .ok found) →
      (follow lookup).lift.Withstands (taskContract controller cidrs allowed)
        (Tidied controller cidrs) post after) :
    (((getInstanceByNodeName controller.routes.toAliyunProvider node).lift >>= follow).lift :
        Clustered α).Withstands (taskContract controller cidrs allowed)
      (Tidied controller cidrs) post scene := by
  refine Prog.Withstands.ask (fun moved move => .read _) ?_
  intro choice state fair ready move
  have answered : (Cluster.answer choice state (.inl (.inl (.ecs (.describeInstances
      ⟨controller.routes.region, controller.routes.vpcID, ⟨0, 0⟩⟩))))).1 =
      choice.read (some (paginate state.1.1.ecs.defaultPageSize ⟨0, 0⟩
        state.1.1.ecs.instances)) := rfl
  rw [answered]
  by_cases served : choice.fate = .served
  · rw [(Choice.read_ok_iff _ _ _).mpr ⟨served, rfl⟩]
    refine each (instanceByNodeName controller.routes.nodeNameType state.1.1.ecs.visible node)
      _ move ?_ ?_
    · intro found ok
      exact (instanceByNodeName_ok_iff _ _ _ _).mp ok
    · intro _ found one
      exact (instanceByNodeName_ok_iff _ _ _ _).mpr one
  · rw [Choice.read_unserved _ _ served]
    refine each (.error (.api choice.error)) _ move ?_ ?_
    · intro found ok
      cases ok
    · intro obliging
      exact absurd (obliging choice fair) served

/-- What a creation leaves behind: after a success the node is connected, and so it is
after any attempt that no service and no foreign entry was in the way of. -/
def Attempted (controller : RouteController) (cidrs : String → String)
    (allowed : ClusterChoice → Prop) (holds : Scene → Prop) (node : String)
    (outcome : Option (Option GoError)) (scene : Scene) : Prop :=
  ∃ failure, outcome = some failure ∧ holds scene ∧
    (failure = none → Connected controller cidrs node scene) ∧
    (Obliging allowed → (∀ seen, holds seen → Unobstructed controller cidrs seen) →
      Connected controller cidrs node scene)

theorem Attempted.moved {holds : Scene → Prop} (lasting : Lasting controller cidrs holds)
    {node : String} {outcome : Option (Option GoError)} {before after : Scene}
    (attempted : Attempted controller cidrs allowed holds node outcome before)
    (move : Tidied controller cidrs before after) :
    Attempted controller cidrs allowed holds node outcome after := by
  obtain ⟨failure, same, kept, succeeded, unhindered⟩ := attempted
  exact ⟨failure, same, lasting _ _ move kept, fun none => (succeeded none).moved move,
    fun obliging free => (unhindered obliging free).moved move⟩

/-- The entry of a creation that the table admits serves the node. -/
theorem connected_of_created {scene : Scene} {next : RouteTable} {position : Nat}
    {table : RouteTable} {node hop : String}
    (serves : Serves controller cidrs scene.inventory node
      ⟨cidrs node, nextHopInstance, hop, hop⟩)
    (created : table.create position (cidrs node) hop = some next) :
    Connected controller cidrs node ⟨scene.inventory, some next⟩ := by
  intro _ _
  obtain ⟨-, -, -, entries⟩ := RouteTable.create_eq_some created
  have member : (⟨cidrs node, nextHopInstance, hop, hop⟩ : RouteEntry) ∈ next.entries := by
    simp [entries]
  exact ⟨_, member, serves⟩

/-- A table that admits no creation has an entry for the CIDR already. -/
theorem occupied_of_refused {table : RouteTable} {position : Nat} {cidr hop : String}
    (refused : table.create position cidr hop = none) :
    ∃ entry ∈ table.entries, entry.destinationCidrBlock = cidr := by
  by_contra vacant
  have fresh : cidr ∉ table.entries.map RouteEntry.destinationCidrBlock := by
    rw [List.mem_map]
    exact vacant
  have admitted := RouteTable.create_isSome fresh position hop
  rw [refused] at admitted
  cases admitted

theorem createRoute_withstands {holds : Scene → Prop} (lasting : Lasting controller cidrs holds)
    {node : String} (assigned : cidrs node ≠ "") {scene : Scene} (start : holds scene) :
    ((createRoute controller.routes ⟨"", node, cidrs node⟩).lift : Clustered _).Withstands
      (taskContract controller cidrs allowed) (Tidied controller cidrs)
      (Attempted controller cidrs allowed holds node) scene := by
  refine throughInstance_withstands fun lookup after move sound complete => ?_
  have kept : holds after := lasting _ _ move start
  cases lookup with
  | error failure =>
      intro moved more
      refine ⟨some failure, rfl, lasting _ _ more kept, fun impossible => (by cases impossible), ?_⟩
      intro obliging _ resolved _
      rw [more.inventory] at resolved
      obtain ⟨found, one, -⟩ := resolved node assigned
      exact absurd (complete obliging found one) (by simp)
  | ok found =>
      have one := sound found rfl
      have serves : Serves controller cidrs after.inventory node
          ⟨cidrs node, nextHopInstance, found.instanceId, found.instanceId⟩ :=
        ⟨assigned, rfl, rfl, found, one, rfl, rfl⟩
      refine Prog.Withstands.ask (fun moved more => .create _ _ ⟨node, ?_⟩) ?_
      · rw [more.inventory]
        exact serves
      intro choice state fair ready more
      obtain ⟨table, configured⟩ := ready
      have known : (sceneOf controller state).table? = some table := configured.found
      have entries : (sceneOf controller state).entries = table.entries := by
        rw [Scene.entries, known]
        rfl
      have here : holds (sceneOf controller state) := lasting _ _ more kept
      have own : Serves controller cidrs (sceneOf controller state).inventory node
          ⟨cidrs node, nextHopInstance, found.instanceId, found.instanceId⟩ := by
        rw [more.inventory]
        exact serves
      rcases commit_change configured choice.toChoice
          (fun current => current.create choice.position (cidrs node) found.instanceId) with
        ⟨next, created, result, -⟩ | ⟨result, refused⟩
      · obtain ⟨-, sameId, -⟩ := RouteTable.create_eq_some created
        have last : (Cluster.answer choice state (.inl (.inr (.createRouteEntry
            ⟨controller.routes.routeTable, cidrs node, "", found.instanceId⟩)))).2 =
            ((state.1.1, state.1.2.put next), state.2) :=
          congrArg (fun vpc => ((state.1.1, vpc), state.2)) result
        rw [last, sceneOf_put configured sameId]
        have connected := connected_of_created own created
        have still : holds ⟨(sceneOf controller state).inventory, some next⟩ :=
          lasting _ _ (create_tidies known own created) here
        intro moved final
        exact Attempted.moved lasting
          ⟨_, rfl, still, fun _ => connected, fun _ _ => connected⟩ final
      · have last : (Cluster.answer choice state (.inl (.inr (.createRouteEntry
            ⟨controller.routes.routeTable, cidrs node, "", found.instanceId⟩)))) =
            (some choice.error, state) :=
          congrArg (fun result => (Prod.fst result, ((state.1.1, Prod.snd result), state.2))) result
        rw [last]
        intro moved final
        refine Attempted.moved lasting
          ⟨some (.api choice.error), rfl, here, fun impossible => (by cases impossible), ?_⟩ final
        intro obliging free _ _
        obtain ⟨entry, member, same⟩ := occupied_of_refused (refused (obliging choice fair))
        rw [← entries] at member
        exact ⟨entry, member, free _ here node assigned entry member same⟩

def Cleared (controller : RouteController) (cidrs : String → String) (cidr : String)
    (scene : Scene) : Prop :=
  ∀ entry ∈ scene.entries, entry.destinationCidrBlock = cidr →
    ¬Stale controller cidrs scene.inventory entry

theorem Cleared.moved {cidr : String} {before after : Scene}
    (resolved : Resolved controller cidrs before.inventory)
    (cleared : Cleared controller cidrs cidr before)
    (move : Tidied controller cidrs before after) : Cleared controller cidrs cidr after := by
  intro entry member same
  rw [move.inventory]
  by_cases old : entry ∈ before.entries
  · exact cleared entry old same
  · obtain ⟨node, serves⟩ := move.new entry member old
    exact serves.not_stale resolved

/-- After the deletion of a doomed entry its CIDR is cleared. -/
theorem cleared_of_deleted {scene : Scene} {table next : RouteTable} {cidr hop : String}
    (deleted : table.delete cidr hop = some next) :
    Cleared controller cidrs cidr ⟨scene.inventory, some next⟩ := by
  intro entry member same
  obtain ⟨-, -, front, hit, back, split, sameCidr, -, rest⟩ := RouteTable.delete_eq_some deleted
  have kept : entry ∈ front ++ back := rest ▸ member
  have distinct := table.cidrsDistinct
  rw [split, List.map_append, List.map_cons] at distinct
  have others := List.nodup_cons.mp (List.perm_middle.nodup_iff.mp distinct)
  refine absurd ?_ others.1
  rw [← List.map_append, sameCidr, ← same]
  exact List.mem_map_of_mem kept

/-- A table that refuses the deletion has nothing stale for the CIDR. -/
theorem Doomed.cleared {scene : Scene} {table : RouteTable} {cidr hop : String}
    (known : scene.table? = some table) (resolved : Resolved controller cidrs scene.inventory)
    (doomed : Doomed controller cidrs cidr hop scene)
    (refused : table.delete cidr hop = none) : Cleared controller cidrs cidr scene := by
  intro entry member same
  obtain ⟨source, -, -, -, -, hopSame, others⟩ := doomed.listed
  rcases others entry member same with rfl | ⟨node, serves⟩
  · rw [Scene.entries, known] at member
    have hit := RouteTable.delete_isSome member same hopSame
    rw [refused] at hit
    cases hit
  · exact serves.not_stale resolved

theorem deleteRoute_withstands {route : Route} {scene : Scene}
    (doomed : ∀ found, matching controller.routes.nodeNameType scene.inventory
      route.targetNode = [found] →
        Doomed controller cidrs route.destinationCIDR found.instanceId scene) :
    ((deleteRoute controller.routes route).lift : Clustered _).Withstands
      (taskContract controller cidrs allowed) (Tidied controller cidrs)
      (fun outcome after => ∃ failure, outcome = some failure ∧
        (Obliging allowed → Resolved controller cidrs after.inventory →
          (∃ found, matching controller.routes.nodeNameType after.inventory
            route.targetNode = [found]) →
          Cleared controller cidrs route.destinationCIDR after)) scene := by
  refine throughInstance_withstands fun lookup after move sound complete => ?_
  cases lookup with
  | error failure =>
      intro moved more
      refine ⟨some failure, rfl, fun obliging _ one => ?_⟩
      obtain ⟨found, one⟩ := one
      rw [more.inventory] at one
      exact absurd (complete obliging found one) (by simp)
  | ok found =>
      have one := sound found rfl
      rw [move.inventory] at one
      have here : Doomed controller cidrs route.destinationCIDR found.instanceId after :=
        (doomed found one).moved move
      refine Prog.Withstands.ask (fun moved more => .delete _ _ (here.moved more)) ?_
      intro choice state fair ready more
      obtain ⟨table, configured⟩ := ready
      have known : (sceneOf controller state).table? = some table := configured.found
      have still := here.moved more
      rcases commit_change configured choice.toChoice
          (fun current => current.delete route.destinationCIDR found.instanceId) with
        ⟨next, deleted, result, -⟩ | ⟨result, refused⟩
      · obtain ⟨-, sameId, -⟩ := RouteTable.delete_eq_some deleted
        have last : (Cluster.answer choice state (.inl (.inr (.deleteRouteEntry
            ⟨controller.routes.routeTable, route.destinationCIDR, found.instanceId⟩)))).2 =
            ((state.1.1, state.1.2.put next), state.2) :=
          congrArg (fun vpc => ((state.1.1, vpc), state.2)) result
        rw [last, sceneOf_put configured sameId]
        intro moved final
        refine ⟨_, rfl, fun _ resolved _ => Cleared.moved ?_ (cleared_of_deleted deleted)
          final⟩
        rw [← final.inventory]
        exact resolved
      · have last : (Cluster.answer choice state (.inl (.inr (.deleteRouteEntry
            ⟨controller.routes.routeTable, route.destinationCIDR, found.instanceId⟩)))) =
            (some choice.error, state) :=
          congrArg (fun result => (Prod.fst result, ((state.1.1, Prod.snd result), state.2))) result
        rw [last]
        intro moved final
        refine ⟨some (.api choice.error), rfl, fun obliging resolved _ => ?_⟩
        rw [final.inventory] at resolved
        exact Cleared.moved resolved
          (still.cleared known resolved (refused (obliging choice fair))) final

/-! ## Tasks -/

/-- What a goroutine may assume when it starts. -/
def TaskSound (controller : RouteController) (cidrs : String → String) (scene : Scene) :
    Task → Prop
  | .confirm names => ∀ name ∈ names, Connected controller cidrs name scene
  | .create route => cidrs route.targetNode ≠ "" ∧
      route = ⟨"", route.targetNode, cidrs route.targetNode⟩
  | .delete route => ∀ found, matching controller.routes.nodeNameType scene.inventory
      route.targetNode = [found] →
        Doomed controller cidrs route.destinationCIDR found.instanceId scene

/-- What a goroutine has brought about when it ends. -/
def TaskDone (controller : RouteController) (cidrs : String → String)
    (allowed : ClusterChoice → Prop) (holds : Scene → Prop) (scene : Scene) : Task → Prop
  | .confirm _ => True
  | .create route => Obliging allowed →
      (∀ seen, holds seen → Unobstructed controller cidrs seen) →
        Connected controller cidrs route.targetNode scene
  | .delete route => Obliging allowed → Resolved controller cidrs scene.inventory →
      (∃ found, matching controller.routes.nodeNameType scene.inventory
        route.targetNode = [found]) →
        Cleared controller cidrs route.destinationCIDR scene

theorem confirmLoop_withstands (names : List String) {scene : Scene}
    (connected : ∀ name ∈ names, Connected controller cidrs name scene) :
    (confirmLoop names).Withstands (taskContract controller cidrs allowed)
      (Tidied controller cidrs) (fun outcome _ => outcome.isSome) scene := by
  induction names generalizing scene with
  | nil => exact fun _ _ => rfl
  | cons name rest ih =>
      have lasting : Lasting controller cidrs
          fun seen => ∀ other ∈ name :: rest, Connected controller cidrs other seen :=
        fun before after move held other member => (held other member).moved move
      refine Prog.Withstands.bind Tidied.refl
        (updateNetworkingCondition_withstands lasting
          (fun seen held _ => held name List.mem_cons_self) connected) ?_ ?_
      · intro _ after held
        exact ih fun other member => held.2 other (List.mem_cons_of_mem _ member)
      · intro after held
        cases held.1

theorem createLoop_withstands {holds : Scene → Prop} (lasting : Lasting controller cidrs holds)
    {node : String} (assigned : cidrs node ≠ "") (attempts : Nat) {scene : Scene}
    (start : holds scene)
    (earlier : attempts = 0 → Attempted controller cidrs allowed holds node (some none) scene ∨
      ∃ failure, Attempted controller cidrs allowed holds node (some (some failure)) scene) :
    (createLoop controller ⟨"", node, cidrs node⟩ attempts).Withstands
      (taskContract controller cidrs allowed) (Tidied controller cidrs)
      (fun outcome after => outcome.isSome ∧ ∃ failure,
        Attempted controller cidrs allowed holds node (some failure) after) scene := by
  induction attempts generalizing scene with
  | zero =>
      intro moved move
      refine ⟨rfl, ?_⟩
      rcases earlier rfl with succeeded | ⟨failure, failed⟩
      · exact ⟨none, succeeded.moved lasting move⟩
      · exact ⟨some failure, failed.moved lasting move⟩
  | succ attempts ih =>
      refine Prog.Withstands.bind Tidied.refl
        (createRoute_withstands lasting assigned start) ?_ ?_
      · intro failure after attempted
        have stays : Lasting controller cidrs
            (Attempted controller cidrs allowed holds node (some failure)) :=
          fun before next move held => held.moved lasting move
        refine Prog.Withstands.bind Tidied.refl
          (updateNetworkingCondition_withstands stays ?_ attempted) ?_ ?_
        · intro seen held created
          obtain ⟨reported, same, -, succeeded, -⟩ := held
          cases same
          exact succeeded (Option.isNone_iff_eq_none.mp created)
        · intro _ next held
          cases failure with
          | none => exact fun moved move => ⟨rfl, none, held.2.moved lasting move⟩
          | some error =>
              have kept : holds next := by
                obtain ⟨-, -, kept, -⟩ := held.2
                exact kept
              exact ih kept fun _ => Or.inr ⟨error, held.2⟩
        · intro next held
          cases held.1
      · rintro after ⟨failure, impossible, -⟩
        cases impossible

/-- Every goroutine makes only proper calls, and ends with its work done. -/
theorem task_withstands {holds : Scene → Prop} (lasting : Lasting controller cidrs holds)
    {task : Task} {scene : Scene} (start : holds scene)
    (sound : TaskSound controller cidrs scene task) :
    (task.program controller).Withstands (taskContract controller cidrs allowed)
      (Tidied controller cidrs)
      (fun outcome after => outcome.isSome ∧
        TaskDone controller cidrs allowed holds after task) scene := by
  cases task with
  | confirm names =>
      exact (confirmLoop_withstands names sound).mono fun _ _ ended => ⟨ended, trivial⟩
  | create route =>
      obtain ⟨assigned, same⟩ := sound
      rw [Task.program, same]
      refine (createLoop_withstands lasting assigned maxRetries start
        (fun none => absurd none (by decide))).mono ?_
      rintro outcome after ⟨ended, failure, reported, alike, -, -, unhindered⟩
      exact ⟨ended, unhindered⟩
  | delete route =>
      refine Prog.Withstands.bind Tidied.refl (deleteRoute_withstands sound) ?_ ?_
      · rintro failure after ⟨reported, -, cleared⟩ moved move
        refine ⟨rfl, fun obliging resolved one => ?_⟩
        rw [move.inventory] at resolved one
        exact (cleared obliging resolved one).moved resolved move
      · rintro after ⟨reported, impossible, -⟩
        cases impossible

end Goroutines

end KubeAliyun.Routes
