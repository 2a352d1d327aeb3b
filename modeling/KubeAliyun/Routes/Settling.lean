import KubeAliyun.Routes.Rounds

/-!
# Rounds settle the route table

After any history, two rounds that no service refuses bring every node its route and
remove every stale one, whatever the order of their goroutines: the first round clears
the CIDRs that stale routes hold, the second creates what is missing.  From then on no
round changes the table.
-/

namespace KubeAliyun.Routes

open KubeAliyun.Cloud KubeAliyun.Provider KubeAliyun.Remote KubeAliyun.Volume KubeAliyun.Nodes
open KubeAliyun.Kube KubeAliyun.Controller

/-- What the controller cannot repair by itself: names of nodes that do not fit one
instance, an entry whose listing panics, and foreign entries for the CIDR of a node. -/
structure Sane (controller : RouteController) (cidrs : String → String) (scene : Scene) :
    Prop where
  resolved : Resolved controller cidrs scene.inventory
  idsDistinct : (scene.inventory.map InstanceAttributes.instanceId).Nodup
  listable : ∀ entry ∈ scene.entries,
    (routeOfEntry controller.routes.nodeNameType scene.inventory entry).isSome
  ours : ∀ node, cidrs node ≠ "" → ∀ entry ∈ scene.entries,
    entry.destinationCidrBlock = cidrs node → ∃ route,
      routeOfEntry controller.routes.nodeNameType scene.inventory entry = some (some route)
  resolves : ∀ entry ∈ scene.entries, ∀ route,
    routeOfEntry controller.routes.nodeNameType scene.inventory entry = some (some route) →
      ∃ found, matching controller.routes.nodeNameType scene.inventory route.targetNode = [found]

/-- Every node has its route, and nothing is stale. -/
structure Settled (controller : RouteController) (cidrs : String → String) (scene : Scene) :
    Prop where
  served : ∀ node, cidrs node ≠ "" →
    ∃ entry ∈ scene.entries, Serves controller cidrs scene.inventory node entry
  clean : ∀ entry ∈ scene.entries, ¬Stale controller cidrs scene.inventory entry

/-- The CIDRs of the nodes lie in the network of the cluster. -/
def Assignable (controller : RouteController) (cidrs : String → String) : Prop :=
  ∀ node, cidrs node ≠ "" → isResponsibleForRoute controller ⟨"", node, cidrs node⟩ = true

def Round.Served (round : Round) : Prop :=
  (∀ position, (round.listing position).fate = .served) ∧
    ∀ index position, (round.working index position).fate = .served

section Settling

variable {controller : RouteController} {cidrs : String → String}

/-- The entry of a node is listed as its route. -/
theorem Serves.listed {inventory : List InstanceAttributes}
    (resolved : Resolved controller cidrs inventory)
    (distinct : (inventory.map InstanceAttributes.instanceId).Nodup) {node : String}
    {entry : RouteEntry} (serves : Serves controller cidrs inventory node entry) :
    routeOfEntry controller.routes.nodeNameType inventory entry =
      some (some ⟨"", node, cidrs node⟩) := by
  obtain ⟨found, one, instanceId, nextHop⟩ := serves.hop
  obtain ⟨known, again, name⟩ := resolved node serves.assigned
  have same : [found] = [known] := one.symm.trans again
  cases same
  have shape : entry = ⟨cidrs node, nextHopInstance, found.instanceId, found.instanceId⟩ := by
    obtain ⟨cidr, type, hop, id⟩ := entry
    have parts : cidr = cidrs node ∧ type = nextHopInstance ∧ hop = found.instanceId ∧
        id = found.instanceId := ⟨serves.cidr, serves.toInstance, nextHop, instanceId⟩
    rw [parts.1, parts.2.1, parts.2.2.1, parts.2.2.2]
  rw [shape]
  exact routeOfEntry_created distinct (mem_of_matching one) name (cidrs node)

theorem Sane.moved {before after : Scene} (sane : Sane controller cidrs before)
    (move : Tidied controller cidrs before after) : Sane controller cidrs after := by
  obtain ⟨resolved, distinct, listable, ours, resolves⟩ := sane
  have fresh : ∀ entry ∈ after.entries, entry ∉ before.entries → ∃ node, cidrs node ≠ "" ∧
      routeOfEntry controller.routes.nodeNameType before.inventory entry =
        some (some ⟨"", node, cidrs node⟩) := by
    intro entry member absent
    obtain ⟨node, serves⟩ := move.new entry member absent
    exact ⟨node, serves.assigned, serves.listed resolved distinct⟩
  constructor
  · rw [move.inventory]
    exact resolved
  · rw [move.inventory]
    exact distinct
  · intro entry member
    rw [move.inventory]
    by_cases old : entry ∈ before.entries
    · exact listable entry old
    · obtain ⟨node, -, listed⟩ := fresh entry member old
      rw [listed]
      rfl
  · intro node assigned entry member same
    rw [move.inventory]
    by_cases old : entry ∈ before.entries
    · exact ours node assigned entry old same
    · obtain ⟨other, -, listed⟩ := fresh entry member old
      exact ⟨_, listed⟩
  · intro entry member route listed
    rw [move.inventory] at listed ⊢
    by_cases old : entry ∈ before.entries
    · exact resolves entry old route listed
    · obtain ⟨node, assigned, own⟩ := fresh entry member old
      rw [own] at listed
      cases listed
      obtain ⟨found, one, -⟩ := resolved node assigned
      exact ⟨found, one⟩

/-- The route of an entry is on the list. -/
theorem mem_of_routeOfEntry {nodeNameType : NodeNameType} {inventory : List InstanceAttributes}
    {entries : List RouteEntry} {routes : List Route} {entry : RouteEntry} {route : Route}
    (listed : routesOfEntries nodeNameType inventory entries = some routes)
    (member : entry ∈ entries)
    (own : routeOfEntry nodeNameType inventory entry = some (some route)) : route ∈ routes := by
  obtain ⟨front, back, rfl⟩ := List.append_of_mem member
  obtain ⟨before, its, after, -, second, -, rfl⟩ := routesOfEntries_middle listed
  rw [own] at second
  cases second
  simp

/-- A served listing of a sane table starts the goroutines of its routes. -/
theorem tasks_of_served {round : Round} {start : Cluster} (ready : Ready controller start)
    (sane : Sane controller cidrs (sceneOf controller start)) (served : Round.Served round) :
    ∃ routes, routesOfEntries controller.routes.nodeNameType
        (sceneOf controller start).inventory (sceneOf controller start).entries = some routes ∧
      round.tasks controller start = reconcile controller round.nodes routes := by
  obtain ⟨-, -, -, -, answered⟩ := listing_run ready round
  obtain ⟨routes, listed⟩ := Option.isSome_iff_exists.mp
    ((routesOfEntries_isSome_iff _).mpr sane.listable)
  refine ⟨routes, listed, ?_⟩
  rw [Round.tasks, answered served.1, listed]
  rfl

/-- The pool of a served round. -/
theorem served_holds {round : Round} {start : Cluster} (ready : Ready controller start)
    (assigns : Assigns round.nodes cidrs) (served : Round.Served round)
    {holds : Scene → Prop} (lasting : Lasting controller cidrs holds)
    (kept : holds (sceneOf controller start)) :
    (round.run controller start).Holds (sceneOf controller) (fun choice => choice.fate = .served)
      (Ready controller)
      (fun _ => taskContract controller cidrs fun choice => choice.fate = .served)
      (fun _ => Tidied controller cidrs)
      (WorkDone controller cidrs (fun choice => choice.fate = .served) holds
        (round.tasks controller start)) :=
  (pool_holds ready assigns served.2 lasting kept).runs (tasks_shared controller cidrs _)
    round.schedule

/-- When a served round has ended, each of its goroutines has done its work. -/
theorem task_done {round : Round} {start : Cluster} (ready : Ready controller start)
    (assigns : Assigns round.nodes cidrs) (served : Round.Served round)
    (holds : Scene → Prop) (lasting : Lasting controller cidrs holds)
    (kept : holds (sceneOf controller start)) (ended : round.Ended controller start)
    {task : Task} (member : task ∈ round.tasks controller start) :
    TaskDone controller cidrs (fun choice => choice.fate = .served) holds
      (sceneOf controller (round.run controller start).state) task := by
  obtain ⟨index, inside, own⟩ := List.getElem_of_mem member
  have held := served_holds ready assigns served lasting kept
  refine (held.ended (tasks_shared controller cidrs _) (ended index inside)).2 task ?_
  rw [List.getElem?_eq_getElem inside, own]

theorem obliging_served : Obliging fun choice => choice.fate = .served := fun _ served => served

/-- A round that ends without failures leaves no stale entry. -/
theorem round_cleans {round : Round} {start : Cluster} (ready : Ready controller start)
    (assigns : Assigns round.nodes cidrs) (sane : Sane controller cidrs (sceneOf controller start))
    (served : Round.Served round) (ended : round.Ended controller start) :
    ∀ entry ∈ (sceneOf controller (round.run controller start).state).entries,
      ¬Stale controller cidrs (sceneOf controller (round.run controller start).state).inventory
        entry := by
  obtain ⟨⟨move, -⟩, -⟩ := round_tidied ready assigns
  intro entry member stale
  by_cases old : entry ∈ (sceneOf controller start).entries
  · obtain ⟨routes, listed, tasks⟩ := tasks_of_served ready sane served
    obtain ⟨route, own, responsible, wrong⟩ := stale
    rw [move.inventory] at own
    have shown : route ∈ routes := mem_of_routeOfEntry listed old own
    have task : Task.delete route ∈ round.tasks controller start := by
      rw [tasks, reconcile, List.mem_cons, List.mem_append, List.mem_map, List.mem_map]
      refine Or.inr (Or.inr ⟨route, ?_, rfl⟩)
      rw [routesToDelete, List.mem_filter, Bool.and_eq_true, decide_eq_true_eq, assigns.reads]
      exact ⟨shown, responsible, wrong⟩
    have finished := task_done ready assigns served (fun _ => True) (fun _ _ _ _ => trivial)
      trivial ended task
    obtain ⟨-, -, -, -, whole⟩ := (routeOfEntry_iff entry route).mp own
    refine finished obliging_served ?_ ?_ entry member (by rw [whole])
      ⟨route, ?_, responsible, wrong⟩
    · rw [move.inventory]
      exact sane.resolved
    · rw [move.inventory]
      exact sane.resolves entry old route own
    · rw [move.inventory]
      exact own
  · obtain ⟨node, serves⟩ := move.new entry member old
    rw [move.inventory] at stale
    exact serves.not_stale sane.resolved stale

/-- Where nothing is stale, only entries of the nodes stand at their CIDRs. -/
theorem unobstructed_of_clean {scene : Scene} (sane : Sane controller cidrs scene)
    (distinct : Distinct cidrs) (assignable : Assignable controller cidrs)
    (clean : ∀ entry ∈ scene.entries, ¬Stale controller cidrs scene.inventory entry) :
    Unobstructed controller cidrs scene := by
  intro node assigned entry member same
  obtain ⟨route, listed⟩ := sane.ours node assigned entry member same
  obtain ⟨-, -, -, -, whole⟩ := (routeOfEntry_iff entry route).mp listed
  have cidr : route.destinationCIDR = cidrs node := by rw [whole, same]
  have responsible : isResponsibleForRoute controller route = true := by
    have own := assignable node assigned
    unfold isResponsibleForRoute at own ⊢
    rw [cidr]
    exact own
  have right : cidrs route.targetNode = route.destinationCIDR :=
    by_contra fun wrong => clean entry member ⟨route, listed, responsible, wrong⟩
  have target : node = route.targetNode :=
    distinct node route.targetNode assigned (cidr.symm.trans right.symm)
  refine serves_of_listed sane.resolved assigned (Scene.hopsAgree member) ?_
  rw [listed, whole, target, right, whole]

/-- A round that ends without failures on a table without stale entries settles it. -/
theorem round_settles {round : Round} {start : Cluster} (ready : Ready controller start)
    (assigns : Assigns round.nodes cidrs) (sane : Sane controller cidrs (sceneOf controller start))
    (distinct : Distinct cidrs) (assignable : Assignable controller cidrs)
    (clean : ∀ entry ∈ (sceneOf controller start).entries,
      ¬Stale controller cidrs (sceneOf controller start).inventory entry)
    (served : Round.Served round) (ended : round.Ended controller start) :
    Settled controller cidrs (sceneOf controller (round.run controller start).state) := by
  obtain ⟨⟨move, -⟩, -⟩ := round_tidied ready assigns
  refine ⟨fun node assigned => ?_, round_cleans ready assigns sane served ended⟩
  have resolved : Resolved controller cidrs
      (sceneOf controller (round.run controller start).state).inventory := by
    rw [move.inventory]
    exact sane.resolved
  suffices connected : Connected controller cidrs node
      (sceneOf controller (round.run controller start).state) from connected resolved assigned
  obtain ⟨routes, listed, tasks⟩ := tasks_of_served ready sane served
  obtain ⟨own, present, name, cidr⟩ := assigns.node assigned
  have nonempty : own.podCIDR ≠ "" := by
    rw [cidr]
    exact assigned
  by_cases has : hasRoute routes own = true
  · -- the last listed route of the node comes from an entry that serves it
    unfold hasRoute at has
    cases mapped : routeMap routes own.name with
    | none =>
        rw [mapped] at has
        cases has
    | some route =>
        rw [mapped] at has
        obtain ⟨shown, target⟩ := routeMap_some mapped
        obtain ⟨entry, inTable, from_⟩ := entry_of_route listed shown
        have block : route.destinationCIDR = cidrs node := by
          rw [← cidr]
          simpa using has
        obtain ⟨-, -, -, -, whole⟩ := (routeOfEntry_iff entry route).mp from_
        have same : route = ⟨"", node, cidrs node⟩ := by
          rw [← block, ← name, ← target, whole]
        rw [same] at from_
        have held : Connected controller cidrs node (sceneOf controller start) := fun _ _ =>
          ⟨entry, inTable,
            serves_of_listed sane.resolved assigned (Scene.hopsAgree inTable) from_⟩
        exact held.moved move
  · have task : Task.create ⟨"", node, cidrs node⟩ ∈ round.tasks controller start := by
      rw [tasks, reconcile, List.mem_cons, List.mem_append, List.mem_map, List.mem_map]
      refine Or.inr (Or.inl ⟨_, List.mem_filterMap.mpr ⟨own, present, ?_⟩, rfl⟩)
      rw [routeToCreate, if_neg nonempty, if_neg has, name, cidr]
    have finished := task_done ready assigns served (Unobstructed controller cidrs)
      (fun before after step free => free.moved distinct step)
      (unobstructed_of_clean sane distinct assignable clean) ended task
    exact finished obliging_served fun _ free => free

/-- Whatever earlier rounds have done and suffered, two rounds that end without failures
settle the route table. -/
theorem two_rounds_settle {start : Cluster} (ready : Ready controller start)
    (sane : Sane controller cidrs (sceneOf controller start)) (distinct : Distinct cidrs)
    (assignable : Assignable controller cidrs) (earlier : List Round) (first second : Round)
    (assigns : ∀ round ∈ earlier ++ [first, second], Assigns round.nodes cidrs)
    (served : Round.Served first ∧ Round.Served second)
    (ended : first.Ended controller (rounds controller earlier start) ∧
      second.Ended controller (first.run controller (rounds controller earlier start)).state) :
    Settled controller cidrs (sceneOf controller
      (rounds controller (earlier ++ [first, second]) start)) := by
  have split : rounds controller (earlier ++ [first, second]) start =
      (second.run controller (first.run controller
        (rounds controller earlier start)).state).state := by
    clear ready sane assigns ended
    induction earlier generalizing start with
    | nil => rfl
    | cons round rest ih => exact ih
  obtain ⟨⟨past, -⟩, still⟩ := rounds_tidied ready fun round member =>
    assigns round (List.mem_append_left _ member)
  have one := assigns first (by simp)
  have two := assigns second (by simp)
  have between := sane.moved past
  obtain ⟨⟨move, -⟩, next⟩ := round_tidied still one
  rw [split]
  exact round_settles next two (between.moved move) distinct assignable
    (round_cleans still one between served.1 ended.1) served.2 ended.2

end Settling

theorem swapped_sane : Sane overlay (nodeCIDRs swapped) (sceneOf overlay swappedCluster) where
  resolved := swapped_resolved
  idsDistinct := by decide
  listable entry member := by
    rw [List.mem_singleton.mp member]
    rfl
  ours node _ entry member _ := by
    rw [List.mem_singleton.mp member]
    exact ⟨⟨"", "10.0.0.2", "172.16.0.0/24"⟩, rfl⟩
  resolves entry member route listed := by
    rw [List.mem_singleton.mp member] at listed
    cases listed
    exact ⟨⟨"i-2", "node-b", ["10.0.0.2"]⟩, rfl⟩

theorem swapped_distinct : Distinct (nodeCIDRs swapped) := by
  intro first second assigned same
  have other : nodeCIDRs swapped second ≠ "" := same ▸ assigned
  rcases swapped_cases assigned with rfl | rfl
  · rcases swapped_cases other with rfl | rfl
    · rfl
    · exact absurd same (by decide)
  · rcases swapped_cases other with rfl | rfl
    · exact absurd same (by decide)
    · rfl

theorem swapped_assignable : Assignable overlay (nodeCIDRs swapped) := by
  intro node assigned
  rcases swapped_cases assigned with rfl | rfl
  · decide
  · decide

theorem hasty_ended : hasty.Ended overlay swappedCluster := by
  intro index inside
  change index < 4 at inside
  obtain rfl | rfl | rfl | rfl : index = 0 ∨ index = 1 ∨ index = 2 ∨ index = 3 := by omega
  · rfl
  · rfl
  · rfl
  · rfl

theorem repairing_ended : repairing.Ended overlay (hasty.run overlay swappedCluster).state := by
  intro index inside
  change index < 2 at inside
  obtain rfl | rfl : index = 0 ∨ index = 1 := by omega
  · rfl
  · rfl

theorem two_rounds_settle_swapped :
    Ready overlay swappedCluster ∧
    Sane overlay (nodeCIDRs swapped) (sceneOf overlay swappedCluster) ∧
    hasty.Ended overlay swappedCluster ∧
    Settled overlay (nodeCIDRs swapped)
      (sceneOf overlay (rounds overlay [hasty, repairing] swappedCluster)) :=
  ⟨swapped_ready, swapped_sane, hasty_ended,
    two_rounds_settle swapped_ready swapped_sane swapped_distinct swapped_assignable []
      hasty repairing repairs_assign
      ⟨⟨fun _ => rfl, fun _ _ => rfl⟩, ⟨fun _ => rfl, fun _ _ => rfl⟩⟩
      ⟨hasty_ended, repairing_ended⟩⟩

/-! ## A settled table stays -/

section Settled

variable {controller : RouteController} {cidrs : String → String}

/-- On a settled table the CIDR of every node is taken and nothing that may be deleted is
there. -/
theorem Settled.unchanged {state : Cluster} (ready : Ready controller state)
    (settled : Settled controller cidrs (sceneOf controller state)) (choice : ClusterChoice)
    {request : ClusterCall} (proper : Proper controller cidrs (sceneOf controller state) request) :
    (Cluster.answer choice state request).2.1.2 = state.1.2 := by
  obtain ⟨table, configured⟩ := ready
  have entries : (sceneOf controller state).entries = table.entries := by
    rw [Scene.entries, sceneOf, configured.found]
    rfl
  have refused (change : RouteTable → Option RouteTable) (none : ∀ next, change table ≠ some next) :
      (choice.commit state.1.2
        (state.1.2.modify controller.routes.routeTable change)).2 = state.1.2 := by
    rcases commit_change configured choice.toChoice change with
      ⟨next, changed, -⟩ | ⟨result, -⟩
    · exact absurd changed (none next)
    · rw [result]
  cases proper with
  | read args => rfl
  | report node routeCreated truthful => rfl
  | create cidr hop serves =>
      refine refused (fun current => current.create choice.position cidr hop) fun next created => ?_
      obtain ⟨node, serves⟩ := serves
      obtain ⟨entry, member, own⟩ := settled.served node serves.assigned
      rw [entries] at member
      refine (RouteTable.create_eq_some created).2.2.1 (List.mem_map.mpr ⟨entry, member, ?_⟩)
      exact own.cidr.trans serves.cidr.symm
  | delete cidr hop doomed =>
      refine refused (fun current => current.delete cidr hop) fun next deleted => ?_
      obtain ⟨-, -, front, hit, back, split, sameCidr, sameHop, -⟩ :=
        RouteTable.delete_eq_some deleted
      have member : hit ∈ (sceneOf controller state).entries := by simp [entries, split]
      exact settled.clean hit member (doomed.stale member sameCidr sameHop)

theorem settled_round_idle {round : Round} {start : Cluster} (ready : Ready controller start)
    (assigns : Assigns round.nodes cidrs)
    (settled : Settled controller cidrs (sceneOf controller start)) :
    (round.run controller start).state.1.2 = start.1.2 := by
  refine (round_invariant (fun state => state.1.2 = start.1.2 ∧
    state.1.1.ecs.visible = start.1.1.ecs.visible) ready assigns ?_ ?_).1.1
  · obtain ⟨vpc, -, visible, -⟩ := listing_run ready round
    exact ⟨vpc, visible⟩
  · rintro choice state request still ⟨vpc, visible⟩ proper
    have scene : sceneOf controller state = sceneOf controller start := by
      rw [sceneOf, sceneOf, vpc, visible]
    have instances : (Cluster.answer choice state request).2.1.1.ecs.visible =
        state.1.1.ecs.visible := (proper_tidies still choice proper).1.inventory
    exact ⟨(Settled.unchanged still (scene ▸ settled) choice proper).trans vpc,
      instances.trans visible⟩

/-- Once the route table is settled, no rounds change the network any more, however they
fail. -/
theorem settled_rounds_idle {start : Cluster} (ready : Ready controller start)
    (settled : Settled controller cidrs (sceneOf controller start)) (list : List Round)
    (assigns : ∀ round ∈ list, Assigns round.nodes cidrs) :
    (rounds controller list start).1.2 = start.1.2 := by
  induction list generalizing start with
  | nil => rfl
  | cons round rest ih =>
      have own := assigns round List.mem_cons_self
      have vpc := settled_round_idle ready own settled
      obtain ⟨⟨move, -⟩, still⟩ := round_tidied ready own
      have scene : sceneOf controller (round.run controller start).state =
          sceneOf controller start := by
        have visible : (round.run controller start).state.1.1.ecs.visible =
            start.1.1.ecs.visible := move.inventory
        rw [sceneOf, sceneOf, vpc, visible]
      rw [← vpc]
      exact ih still (scene ▸ settled) fun other member =>
        assigns other (List.mem_cons_of_mem _ member)

end Settled

def bothRoutes : RouteTable where
  vRouterId := "vrt-1"
  routeTableId := "vtb-1"
  entries := [⟨"172.16.0.0/24", nextHopInstance, "i-1", "i-1"⟩,
    ⟨"172.16.1.0/24", nextHopInstance, "i-2", "i-2"⟩]
  cidrsDistinct := by decide
  hopsAgree entry member _ := by
    rcases List.mem_cons.mp member with rfl | other
    · rfl
    · rw [List.mem_singleton.mp other]

def calmTable : Vpc := ⟨[bothRoutes], List.nodup_singleton _⟩

def calmCluster : Cluster := ((twoAddresses, calmTable), swappedNodes)

theorem calm_ready : Ready overlay calmCluster := ⟨bothRoutes, by decide, rfl, Or.inl rfl⟩

theorem calm_cases {entry : RouteEntry}
    (member : entry ∈ (sceneOf overlay calmCluster).entries) :
    entry = ⟨"172.16.0.0/24", nextHopInstance, "i-1", "i-1"⟩ ∨
      entry = ⟨"172.16.1.0/24", nextHopInstance, "i-2", "i-2"⟩ := by
  rcases List.mem_cons.mp member with first | other
  · exact Or.inl first
  · exact Or.inr (List.mem_singleton.mp other)

/-- Each entry is listed as the route of its node. -/
theorem calm_listed {entry : RouteEntry}
    (member : entry ∈ (sceneOf overlay calmCluster).entries) :
    ∃ node, nodeCIDRs swapped node ≠ "" ∧
      routeOfEntry .privateIP twoAddresses.ecs.visible entry =
        some (some ⟨"", node, nodeCIDRs swapped node⟩) := by
  rcases calm_cases member with rfl | rfl
  · exact ⟨"10.0.0.1", by decide, rfl⟩
  · exact ⟨"10.0.0.2", by decide, rfl⟩

theorem calm_settled : Settled overlay (nodeCIDRs swapped) (sceneOf overlay calmCluster) where
  served node assigned := by
    rcases swapped_cases assigned with rfl | rfl
    · exact ⟨_, List.mem_cons_self, assigned, rfl, rfl, _, rfl, rfl, rfl⟩
    · exact ⟨_, List.mem_cons_of_mem _ List.mem_cons_self, assigned, rfl, rfl, _, rfl, rfl, rfl⟩
  clean entry member := by
    rintro ⟨route, listed, -, wrong⟩
    obtain ⟨node, -, own⟩ := calm_listed member
    have same : route = ⟨"", node, nodeCIDRs swapped node⟩ :=
      Option.some.inj (Option.some.inj (listed.symm.trans own))
    rw [same] at wrong
    exact wrong rfl

theorem settled_rounds_idle_calm :
    Settled overlay (nodeCIDRs swapped) (sceneOf overlay calmCluster) ∧
    (rounds overlay [hasty, repairing] calmCluster).1.2 = calmCluster.1.2 :=
  ⟨calm_settled,
    settled_rounds_idle calm_ready calm_settled [hasty, repairing] repairs_assign⟩

end KubeAliyun.Routes
