import KubeAliyun.Routes.Reconciling

/-!
# Rounds of the route controller

Rounds may fail at any call, run their goroutines in any order and be cut off at any
point.  The route table only ever moves towards the CIDRs of the nodes, no node is
reported to be reachable that is not, and two rounds without failures settle the table.
-/

namespace KubeAliyun.Routes

open KubeAliyun.Cloud KubeAliyun.Provider KubeAliyun.Remote KubeAliyun.Volume KubeAliyun.Nodes
open KubeAliyun.Kube KubeAliyun.Controller KubeAliyun.Net

/-! ## The maps of a round -/

/-- A loop that overwrites what it has found keeps what it found last. -/
theorem foldl_last {α β : Type} (picks : α → Prop) [DecidablePred picks] (pick : α → β)
    (items : List α) (start : β) :
    items.foldl (fun found item => if picks item then pick item else found) start =
      ((items.filter fun item => picks item).getLast?.map pick).getD start := by
  induction items generalizing start with
  | nil => rfl
  | cons item rest ih =>
      rw [List.foldl_cons, ih, List.filter_cons]
      by_cases own : picks item
      · rw [if_pos own, if_pos (decide_eq_true own), List.getLast?_cons]
        cases (rest.filter fun other => picks other).getLast? with
        | none => rfl
        | some last => rfl
      · rw [if_neg own, if_neg (by simpa using own)]

theorem routeMap_eq (routes : List Route) (node : String) :
    routeMap routes node = (routes.filter fun route => route.targetNode = node).getLast? := by
  rw [routeMap, foldl_last]
  cases (routes.filter fun route => route.targetNode = node).getLast? with
  | none => rfl
  | some last => rfl

theorem routeMap_some {routes : List Route} {node : String} {route : Route}
    (found : routeMap routes node = some route) : route ∈ routes ∧ route.targetNode = node := by
  rw [routeMap_eq] at found
  obtain ⟨member, same⟩ := List.mem_filter.mp (List.mem_of_getLast? found)
  exact ⟨member, by simpa using same⟩

theorem nodeCIDRs_eq (nodes : List Node) (node : String) :
    nodeCIDRs nodes node =
      ((nodes.filter fun next => next.podCIDR ≠ "" ∧ next.name = node).getLast?.map
        Node.podCIDR).getD "" := foldl_last _ _ nodes ""

theorem nodeCIDRs_of_mem {nodes : List Node} (names : (nodes.map Node.name).Nodup) {node : Node}
    (member : node ∈ nodes) (assigned : node.podCIDR ≠ "") :
    nodeCIDRs nodes node.name = node.podCIDR := by
  have single : (nodes.filter fun next => next.podCIDR ≠ "" ∧ next.name = node.name) = [node] := by
    have both : (nodes.filter fun next => next.podCIDR ≠ "" ∧ next.name = node.name) =
        (nodes.filter fun next => decide (next.name = node.name)).filter
          fun next => next.podCIDR ≠ "" := by
      rw [List.filter_filter]
      exact List.filter_congr fun next _ => by simp
    have found : Util.Keyed.find Node.name nodes node.name = some node :=
      (Util.Keyed.find_eq_some_iff names _ _).mpr ⟨member, rfl⟩
    rw [both, Util.Keyed.filter_eq names, found]
    simp [assigned]
  rw [nodeCIDRs_eq, single]
  rfl

theorem exists_of_nodeCIDRs {nodes : List Node} {node : String}
    (assigned : nodeCIDRs nodes node ≠ "") :
    ∃ own ∈ nodes, own.name = node ∧ own.podCIDR = nodeCIDRs nodes node := by
  rw [nodeCIDRs_eq] at assigned ⊢
  cases last : (nodes.filter fun next => next.podCIDR ≠ "" ∧ next.name = node).getLast? with
  | none =>
      rw [last] at assigned
      exact absurd rfl assigned
  | some own =>
      obtain ⟨present, fits⟩ := List.mem_filter.mp (List.mem_of_getLast? last)
      have named : own.podCIDR ≠ "" ∧ own.name = node := by simpa using fits
      exact ⟨own, present, named.2, rfl⟩

structure Assigns (nodes : List Node) (cidrs : String → String) : Prop where
  names : (nodes.map Node.name).Nodup
  reads : nodeCIDRs nodes = cidrs

theorem Assigns.cidr {nodes : List Node} {cidrs : String → String}
    (assigns : Assigns nodes cidrs) {node : Node} (member : node ∈ nodes)
    (assigned : node.podCIDR ≠ "") : cidrs node.name = node.podCIDR := by
  rw [← assigns.reads]
  exact nodeCIDRs_of_mem assigns.names member assigned

theorem Assigns.node {nodes : List Node} {cidrs : String → String}
    (assigns : Assigns nodes cidrs) {node : String} (assigned : cidrs node ≠ "") :
    ∃ own ∈ nodes, own.name = node ∧ own.podCIDR = cidrs node := by
  rw [← assigns.reads] at assigned ⊢
  exact exists_of_nodeCIDRs assigned

/-! ## The start of a round -/

section Start

variable {controller : RouteController} {cidrs : String → String}

/-- A program of the provider leaves the nodes of the cluster alone. -/
theorem cluster_run {α : Type} (program : Networked α) (choices : Nat → ClusterChoice)
    (network : Network) (store : NodeStore) :
    let alone := program.run Network.answer
      (fun position => (choices position).toNetworkChoice) network
    ∃ log rest, program.lift.run Cluster.answer choices (network, store) =
      ⟨alone.outcome, log, (alone.state, store), rest⟩ := by
  obtain ⟨log, run⟩ := Prog.run_lift ClusterChoice.toNetworkChoice program choices network store
  exact ⟨log, _, run⟩

/-- The listing of a round changes neither the routes nor the nodes. -/
theorem listing_run {start : Cluster} (ready : Ready controller start) (round : Round) :
    let listed := round.listed controller start
    listed.state.1.2 = start.1.2 ∧ listed.state.2 = start.2 ∧
      listed.state.1.1.ecs.visible = start.1.1.ecs.visible ∧
      (∀ routes, listed.outcome = some (.ok routes) →
        routesOfEntries controller.routes.nodeNameType (sceneOf controller start).inventory
          (sceneOf controller start).entries = some routes) ∧
      ((∀ position, (round.listing position).fate = .served) →
        listed.outcome = (routesOfEntries controller.routes.nodeNameType
          (sceneOf controller start).inventory (sceneOf controller start).entries).map .ok) := by
  obtain ⟨⟨account, vpc⟩, store⟩ := start
  obtain ⟨table, configured⟩ := ready
  obtain ⟨log, final, run⟩ := cluster_run (listRoutes controller.routes) round.listing
    (account, vpc) store
  obtain ⟨inner, rest, alone⟩ := listRoutes_run
    (fun position => (round.listing position).toNetworkChoice) account configured
  rw [alone] at run
  have entries : (sceneOf controller ((account, vpc), store)).entries = table.entries := by
    rw [Scene.entries, sceneOf, configured.found]
    rfl
  rw [entries]
  intro listed
  have whole : listed = _ := run
  rw [whole]
  refine ⟨rfl, rfl, settledFor_visible _ _, fun routes ok => ?_, fun served => ?_⟩
  · exact ((listing_ok_iff _ _ _ _).mp ok).2.2
  · rw [listing, if_pos (served 0), if_pos (served 1)]
    rfl

theorem listing_scene {start : Cluster} (ready : Ready controller start) (round : Round) :
    sceneOf controller (round.listed controller start).state = sceneOf controller start := by
  obtain ⟨vpc, -, visible, -⟩ := listing_run ready round
  rw [sceneOf, sceneOf, vpc, visible]

/-- The goroutines of a round start from what the listing has shown. -/
theorem reconcile_sound {scene : Scene} {nodes : List Node} {routes : List Route}
    (assigns : Assigns nodes cidrs)
    (listed : routesOfEntries controller.routes.nodeNameType scene.inventory scene.entries =
      some routes) {task : Task} (member : task ∈ reconcile controller nodes routes) :
    TaskSound controller cidrs scene task := by
  rw [reconcile, List.mem_cons, List.mem_append, List.mem_map, List.mem_map] at member
  rcases member with rfl | ⟨route, created, rfl⟩ | ⟨route, deleted, rfl⟩
  · intro name confirmed resolved _
    obtain ⟨node, present, confirms⟩ := List.mem_filterMap.mp confirmed
    have facts : node.podCIDR ≠ "" ∧ hasRoute routes node = true ∧ node.name = name := by
      unfold nodeToConfirm at confirms
      split at confirms
      · cases confirms
      · rename_i assigned
        split at confirms
        · rename_i has
          refine ⟨assigned, has, ?_⟩
          split at confirms
          · exact Option.some.inj confirms
          · split at confirms
            · cases confirms
            · exact Option.some.inj confirms
        · cases confirms
    obtain ⟨assigned, has, rfl⟩ := facts
    have cidr := assigns.cidr present assigned
    unfold hasRoute at has
    cases mapped : routeMap routes node.name with
    | none =>
        rw [mapped] at has
        cases has
    | some route =>
        rw [mapped] at has
        obtain ⟨shown, target⟩ := routeMap_some mapped
        obtain ⟨entry, inTable, own⟩ := entry_of_route listed shown
        have same : route = ⟨"", node.name, cidrs node.name⟩ := by
          obtain ⟨-, -, -, -, whole⟩ := (routeOfEntry_iff entry route).mp own
          have block : route.destinationCIDR = node.podCIDR := by simpa using has
          rw [cidr, ← block, ← target, whole]
        rw [same] at own
        refine ⟨entry, inTable, serves_of_listed resolved ?_ (Scene.hopsAgree inTable) own⟩
        rw [cidr]
        exact assigned
  · obtain ⟨node, present, creates⟩ := List.mem_filterMap.mp created
    unfold routeToCreate at creates
    split at creates
    · cases creates
    · rename_i assigned
      split at creates
      · cases creates
      · cases creates
        have cidr := assigns.cidr present assigned
        exact ⟨by rw [cidr]; exact assigned, by rw [cidr]⟩
  · intro found one
    rw [routesToDelete, List.mem_filter, Bool.and_eq_true, decide_eq_true_eq,
      assigns.reads] at deleted
    obtain ⟨shown, responsible, wrong⟩ := deleted
    obtain ⟨source, inTable, own⟩ := entry_of_route listed shown
    have hop := resolved_hop own ((instanceByNodeName_ok_iff _ _ _ _).mpr one)
    obtain ⟨toInstance, target, -, -, whole⟩ := (routeOfEntry_iff source route).mp own
    refine ⟨source, ⟨route, own, responsible, wrong⟩, by rw [whole], toInstance, hop.symm, ?_, ?_⟩
    · rw [← Scene.hopsAgree inTable toInstance, hop]
    · intro entry present same
      refine Or.inl (Scene.entry_unique present inTable ?_)
      rw [same, whole]

/-- The goroutines of a round tolerate each other. -/
theorem tasks_shared (controller : RouteController) (cidrs : String → String)
    (allowed : ClusterChoice → Prop) :
    Shared Cluster.answer (sceneOf controller) allowed (Ready controller)
      (fun _ : Nat => taskContract controller cidrs allowed)
      (fun _ => Tidied controller cidrs) where
  refines _ :=
    { step := fun {choice state _} fair ready _ => ⟨choice, state, fair, ready, rfl, rfl, rfl⟩
      keeps := fun {choice _ _} _ ready proper => (proper_tidies ready choice proper).2 }
  still _ current := Tidied.refl current
  chains _ _ _ _ one two := one.trans two
  frame := fun {_ _ choice _ _} _ _ ready proper => (proper_tidies ready choice proper).1

def WorkDone (controller : RouteController) (cidrs : String → String)
    (allowed : ClusterChoice → Prop) (holds : Scene → Prop) (tasks : List Task) (index : Nat)
    (outcome : Option Unit) (scene : Scene) : Prop :=
  outcome.isSome ∧ ∀ task, tasks[index]? = some task →
    TaskDone controller cidrs allowed holds scene task

theorem tasks_sound {round : Round} {start : Cluster} (ready : Ready controller start)
    (assigns : Assigns round.nodes cidrs) {task : Task}
    (member : task ∈ round.tasks controller start) :
    TaskSound controller cidrs (sceneOf controller start) task := by
  obtain ⟨-, -, -, content, -⟩ := listing_run ready round
  unfold Round.tasks at member
  cases outcome : (round.listed controller start).outcome with
  | none =>
      rw [outcome] at member
      cases member
  | some result =>
      rw [outcome] at member
      cases result with
      | error failure => cases member
      | ok routes => exact reconcile_sound assigns (content routes outcome) member

/-- The goroutines of a round meet their contracts next to each other. -/
theorem pool_holds {round : Round} {start : Cluster} (ready : Ready controller start)
    (assigns : Assigns round.nodes cidrs) {allowed : ClusterChoice → Prop}
    (fair : ∀ index position, allowed (round.working index position))
    {holds : Scene → Prop} (lasting : Lasting controller cidrs holds)
    (kept : holds (sceneOf controller start)) :
    (round.pool controller start).Holds (sceneOf controller) allowed (Ready controller)
      (fun _ => taskContract controller cidrs allowed) (fun _ => Tidied controller cidrs)
      (WorkDone controller cidrs allowed holds (round.tasks controller start)) := by
  refine ⟨?_, fair, fun index => ?_⟩
  · have vpc : (round.pool controller start).state.1.2 = start.1.2 := (listing_run ready round).1
    obtain ⟨table, configured⟩ := ready
    exact ⟨table, by rw [vpc]; exact configured⟩
  · have scene : sceneOf controller (round.pool controller start).state =
        sceneOf controller start := listing_scene ready round
    rw [scene]
    simp only [Round.pool]
    cases own : (round.tasks controller start)[index]? with
    | none =>
        refine fun moved move => ⟨rfl, fun task present => ?_⟩
        rw [own] at present
        cases present
    | some task =>
        refine (task_withstands lasting kept
          (tasks_sound ready assigns (List.mem_of_getElem? own))).mono ?_
        rintro outcome after ⟨ended, finished⟩
        refine ⟨ended, fun other present => ?_⟩
        rw [own] at present
        cases present
        exact finished

/-- A property of the services that no proper call breaks survives every round. -/
theorem round_invariant (property : Cluster → Prop) {round : Round} {start : Cluster}
    (ready : Ready controller start) (assigns : Assigns round.nodes cidrs)
    (begins : property (round.listed controller start).state)
    (keeps : ∀ choice state request, Ready controller state → property state →
      Proper controller cidrs (sceneOf controller state) request →
      property (Cluster.answer choice state request).2) :
    property (round.run controller start).state ∧
      Ready controller (round.run controller start).state := by
  have held : (round.pool controller start).Holds (sceneOf controller) (fun _ => True)
      (Ready controller) (fun _ => taskContract controller cidrs fun _ => True)
      (fun _ => Tidied controller cidrs)
      (WorkDone controller cidrs (fun _ => True) (fun _ => True) (round.tasks controller start)) :=
    pool_holds ready assigns (fun _ _ => trivial) (fun _ _ _ _ => trivial) trivial
  have shared := tasks_shared controller cidrs fun _ => True
  refine ⟨?_, (held.runs shared round.schedule).good⟩
  exact held.invariant shared property
    (fun _ choice state request _ => keeps choice state request) begins round.schedule

end Start

/-! ## What rounds may do -/

/-- A destination that the parser reads as a block inside the network of the cluster. -/
def Within (controller : RouteController) (cidr : String) : Prop :=
  ∃ block, controller.parseCIDR cidr = some block ∧
    (controller.clusterCIDR.Version4 → block.Version4 → ∀ address : Bytes,
      address.length = 4 → block.contains address = true →
        controller.clusterCIDR.contains address = true)

theorem within_of_responsible {controller : RouteController} {route : Route}
    (responsible : isResponsibleForRoute controller route = true) :
    Within controller route.destinationCIDR := by
  unfold isResponsibleForRoute at responsible
  cases parsed : controller.parseCIDR route.destinationCIDR with
  | none =>
      rw [parsed] at responsible
      cases responsible
  | some block =>
      rw [parsed] at responsible
      have ends : controller.clusterCIDR.contains block.ip = true ∧
          controller.clusterCIDR.contains block.lastIP = true := by simpa using responsible
      exact ⟨block, parsed, fun wide version => (contains_ends_iff wide version).mp ends⟩

/-- Between two states of the services, the configured route table has lost only routes of
the cluster to nodes that should not have them, it has gained only entries that take the
traffic of a node to the instance of the node, and no other table has changed. -/
structure Reconciled (controller : RouteController) (cidrs : String → String)
    (before after : Cluster) : Prop where
  others : ∀ id, id ≠ controller.routes.routeTable →
    after.1.2.table? id = before.1.2.table? id
  removed : ∀ entry ∈ (sceneOf controller before).entries,
    entry ∉ (sceneOf controller after).entries →
      ∃ route, routeOfEntry controller.routes.nodeNameType before.1.1.ecs.visible entry =
          some (some route) ∧
        cidrs route.targetNode ≠ route.destinationCIDR ∧ Within controller route.destinationCIDR
  added : ∀ entry ∈ (sceneOf controller after).entries,
    entry ∉ (sceneOf controller before).entries →
      ∃ node, Serves controller cidrs before.1.1.ecs.visible node entry

section Safety

variable {controller : RouteController} {cidrs : String → String}

theorem round_tidied {round : Round} {start : Cluster} (ready : Ready controller start)
    (assigns : Assigns round.nodes cidrs) :
    (Tidied controller cidrs (sceneOf controller start)
        (sceneOf controller (round.run controller start).state) ∧
      ∀ id, id ≠ controller.routes.routeTable →
        (round.run controller start).state.1.2.table? id = start.1.2.table? id) ∧
      Ready controller (round.run controller start).state := by
  refine round_invariant (fun state =>
    Tidied controller cidrs (sceneOf controller start) (sceneOf controller state) ∧
      ∀ id, id ≠ controller.routes.routeTable → state.1.2.table? id = start.1.2.table? id)
    ready assigns ?_ ?_
  · rw [listing_scene ready round, (listing_run ready round).1]
    exact ⟨Tidied.refl _, fun _ _ => rfl⟩
  · intro choice state request still held proper
    refine ⟨held.1.trans (proper_tidies still choice proper).1, fun id other => ?_⟩
    rw [proper_others still choice proper other]
    exact held.2 id other

theorem rounds_tidied {list : List Round} {start : Cluster} (ready : Ready controller start)
    (assigns : ∀ round ∈ list, Assigns round.nodes cidrs) :
    (Tidied controller cidrs (sceneOf controller start)
        (sceneOf controller (rounds controller list start)) ∧
      ∀ id, id ≠ controller.routes.routeTable →
        (rounds controller list start).1.2.table? id = start.1.2.table? id) ∧
      Ready controller (rounds controller list start) := by
  induction list generalizing start with
  | nil => exact ⟨⟨Tidied.refl _, fun _ _ => rfl⟩, ready⟩
  | cons round rest ih =>
      obtain ⟨⟨first, tables⟩, still⟩ :=
        round_tidied ready (assigns round List.mem_cons_self)
      obtain ⟨⟨more, others⟩, last⟩ :=
        ih still fun other member => assigns other (List.mem_cons_of_mem _ member)
      exact ⟨⟨first.trans more, fun id other => (others id other).trans (tables id other)⟩, last⟩

/-- Rounds with any failures, in any order of their goroutines and cut off anywhere, only
move the route table towards the CIDRs of the nodes. -/
theorem rounds_reconcile {start : Cluster} (ready : Ready controller start) (list : List Round)
    (assigns : ∀ round ∈ list, Assigns round.nodes cidrs) :
    Reconciled controller cidrs start (rounds controller list start) := by
  obtain ⟨⟨tidied, others⟩, -⟩ := rounds_tidied ready assigns
  refine ⟨others, fun entry member absent => ?_, tidied.new⟩
  obtain ⟨route, listed, responsible, wrong⟩ := tidied.gone entry member absent
  exact ⟨route, listed, wrong, within_of_responsible responsible⟩

end Safety

/-! A cluster of two nodes in which the CIDR of one is still routed to the other. -/

def blocks : String → Option IPNet := fun text =>
  if text = "172.16.0.0/24" then some ⟨[172, 16, 0, 0], [255, 255, 255, 0]⟩
  else if text = "172.16.1.0/24" then some ⟨[172, 16, 1, 0], [255, 255, 255, 0]⟩
  else none

def overlay : RouteController := ⟨addressed, ⟨[172, 16, 0, 0], [255, 255, 0, 0]⟩, blocks⟩

def swapped : List Node :=
  [⟨"10.0.0.1", "172.16.0.0/24", false, []⟩, ⟨"10.0.0.2", "172.16.1.0/24", false, []⟩]

theorem swapped_assigns : Assigns swapped (nodeCIDRs swapped) := ⟨by decide, rfl⟩

theorem swapped_cases {node : String} (assigned : nodeCIDRs swapped node ≠ "") :
    node = "10.0.0.1" ∨ node = "10.0.0.2" := by
  obtain ⟨own, member, rfl, -⟩ := exists_of_nodeCIDRs assigned
  rcases List.mem_cons.mp member with rfl | other
  · exact Or.inl rfl
  · rw [List.mem_singleton.mp other]
    exact Or.inr rfl

def swappedNodes : NodeStore := ⟨swapped, swapped_assigns.names⟩

def swappedCluster : Cluster := ((twoAddresses, oneTable), swappedNodes)

theorem swapped_ready : Ready overlay swappedCluster := ⟨oneRoute, oneTable_configured⟩

theorem swapped_resolved :
    Resolved overlay (nodeCIDRs swapped) swappedCluster.1.1.ecs.visible := by
  intro node assigned
  rcases swapped_cases assigned with rfl | rfl
  · exact ⟨⟨"i-1", "node-a", ["10.0.0.1", "10.0.1.1"]⟩, rfl, rfl⟩
  · exact ⟨⟨"i-2", "node-b", ["10.0.0.2"]⟩, rfl, rfl⟩

def smooth : Nat → ClusterChoice := fun index => ⟨answering 0 index, ⟨.other, ""⟩⟩

/-- The goroutine that creates the first route gives up before the stale route is gone. -/
def hasty : Round :=
  ⟨swapped, smooth, fun _ => smooth,
    List.replicate 15 1 ++ List.replicate 3 2 ++ List.replicate 2 3⟩

def repairing : Round := ⟨swapped, smooth, fun _ => smooth, [0, 1, 1, 1]⟩

theorem repairs_assign : ∀ round ∈ [hasty, repairing],
    Assigns round.nodes (nodeCIDRs swapped) := by
  intro round member
  rcases List.mem_cons.mp member with rfl | other
  · exact swapped_assigns
  · rw [List.mem_singleton.mp other]
    exact swapped_assigns

theorem rounds_reconcile_swapped :
    Ready overlay swappedCluster ∧
    (∀ round ∈ [hasty, repairing], Assigns round.nodes (nodeCIDRs swapped)) ∧
    Reconciled overlay (nodeCIDRs swapped) swappedCluster
      (rounds overlay [hasty, repairing] swappedCluster) :=
  ⟨swapped_ready, repairs_assign,
    rounds_reconcile swapped_ready [hasty, repairing] repairs_assign⟩

/-! ## Reports -/

section Reports

variable {controller : RouteController} {cidrs : String → String}

/-- Every node that is reported to be reachable has its route. -/
def Truthful (controller : RouteController) (cidrs : String → String) (state : Cluster) : Prop :=
  ∀ node, cidrs node ≠ "" →
    state.2.status? node nodeNetworkUnavailable = some .isFalse →
      ∃ entry ∈ (sceneOf controller state).entries,
        Serves controller cidrs state.1.1.ecs.visible node entry

theorem truthful_moved {before after : Cluster} (truthful : Truthful controller cidrs before)
    (resolved : Resolved controller cidrs before.1.1.ecs.visible)
    (store : after.2 = before.2)
    (move : Tidied controller cidrs (sceneOf controller before) (sceneOf controller after)) :
    Truthful controller cidrs after := by
  intro node assigned reachable
  rw [store] at reachable
  have connected : Connected controller cidrs node (sceneOf controller before) :=
    fun _ _ => truthful node assigned reachable
  refine connected.moved move ?_ assigned
  rw [move.inventory]
  exact resolved

theorem networkingCondition_type (routeCreated : Bool) :
    (networkingCondition routeCreated).type = nodeNetworkUnavailable := by
  cases routeCreated <;> rfl

theorem networkingCondition_isFalse {routeCreated : Bool}
    (reachable : (networkingCondition routeCreated).status = .isFalse) : routeCreated = true := by
  cases routeCreated with
  | true => rfl
  | false => cases reachable

theorem truthful_reported {state : Cluster} {choice : ClusterChoice} {node : String}
    {routeCreated : Bool} (truthful : Truthful controller cidrs state)
    (resolved : Resolved controller cidrs state.1.1.ecs.visible)
    (backed : routeCreated = true → Connected controller cidrs node (sceneOf controller state)) :
    Truthful controller cidrs (Cluster.answer choice state
      (.inr (.patchStatus node (networkingCondition routeCreated)))).2 := by
  intro other assigned reachable
  rcases choice.commit_state state.2
      (state.2.patched node (networkingCondition routeCreated)) with same | patched
  · have store : (Cluster.answer choice state
        (.inr (.patchStatus node (networkingCondition routeCreated)))).2 = state :=
      congrArg (Prod.mk state.1) same
    rw [store] at reachable ⊢
    exact truthful other assigned reachable
  · have seen := NodeStore.status?_patched patched other
    rw [networkingCondition_type] at seen
    have now : (if other = node then some (networkingCondition routeCreated).status
        else state.2.status? other nodeNetworkUnavailable) = some .isFalse :=
      seen.symm.trans reachable
    split at now
    · rename_i own
      rw [own] at assigned ⊢
      exact backed (networkingCondition_isFalse (Option.some.inj now)) resolved assigned
    · exact truthful other assigned now

theorem round_truthful {round : Round} {start : Cluster} (ready : Ready controller start)
    (assigns : Assigns round.nodes cidrs)
    (resolved : Resolved controller cidrs start.1.1.ecs.visible)
    (truthful : Truthful controller cidrs start) :
    Truthful controller cidrs (round.run controller start).state := by
  refine (round_invariant (fun state => Truthful controller cidrs state ∧
    Resolved controller cidrs state.1.1.ecs.visible) ready assigns ?_ ?_).1.1
  · obtain ⟨-, store, visible, -⟩ := listing_run ready round
    rw [visible]
    refine ⟨truthful_moved truthful resolved store ?_, resolved⟩
    rw [listing_scene ready round]
    exact Tidied.refl _
  · rintro choice state request still ⟨held, names⟩ proper
    have move := (proper_tidies still choice proper).1
    have instances : (Cluster.answer choice state request).2.1.1.ecs.visible =
        state.1.1.ecs.visible := move.inventory
    rw [instances]
    refine ⟨?_, names⟩
    cases proper with
    | read args => exact truthful_moved held names rfl move
    | create cidr hop serves => exact truthful_moved held names rfl move
    | delete cidr hop doomed => exact truthful_moved held names rfl move
    | report node routeCreated backed => exact truthful_reported held names backed

/-- While the nodes keep their CIDRs and their instances, no sequence of rounds reports a
node to be reachable without its route, and no route of a reachable node is lost. -/
theorem rounds_truthful {start : Cluster} (ready : Ready controller start)
    (resolved : Resolved controller cidrs start.1.1.ecs.visible)
    (truthful : Truthful controller cidrs start) (list : List Round)
    (assigns : ∀ round ∈ list, Assigns round.nodes cidrs) :
    Truthful controller cidrs (rounds controller list start) := by
  induction list generalizing start with
  | nil => exact truthful
  | cons round rest ih =>
      have own := assigns round List.mem_cons_self
      obtain ⟨⟨move, -⟩, still⟩ := round_tidied ready own
      have instances : (round.run controller start).state.1.1.ecs.visible =
          start.1.1.ecs.visible := move.inventory
      refine ih still ?_ (round_truthful ready own resolved truthful)
        fun other member => assigns other (List.mem_cons_of_mem _ member)
      rw [instances]
      exact resolved

end Reports

/-- No node of the sample has been reported yet. -/
theorem swapped_truthful : Truthful overlay (nodeCIDRs swapped) swappedCluster := by
  intro node assigned reachable
  rcases swapped_cases assigned with rfl | rfl
  · cases reachable
  · cases reachable

theorem rounds_truthful_swapped :
    Ready overlay swappedCluster ∧
    Resolved overlay (nodeCIDRs swapped) swappedCluster.1.1.ecs.visible ∧
    Truthful overlay (nodeCIDRs swapped) swappedCluster ∧
    Truthful overlay (nodeCIDRs swapped) (rounds overlay [hasty, repairing] swappedCluster) :=
  ⟨swapped_ready, swapped_resolved, swapped_truthful,
    rounds_truthful swapped_ready swapped_resolved swapped_truthful [hasty, repairing]
      repairs_assign⟩

end KubeAliyun.Routes
