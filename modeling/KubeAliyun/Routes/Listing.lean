import KubeAliyun.Nodes.Lookup
import KubeAliyun.Provider.Routes

/-!
# Listed routes

What `ListRoutes` makes of the entries of the route table, entry by entry, and how
the three operations run on an account whose configured route table is known.
-/

namespace KubeAliyun.Routes

open KubeAliyun.Cloud KubeAliyun.Provider KubeAliyun.Remote KubeAliyun.Volume KubeAliyun.Nodes

/-! ## Entries and routes -/

section Entries

variable {nodeNameType : NodeNameType} {inventory : List InstanceAttributes}

/-- The route of an entry leads to the one instance with the entry's id. -/
theorem routeOfEntry_iff (entry : RouteEntry) (route : Route) :
    routeOfEntry nodeNameType inventory entry = some (some route) ↔
      entry.nextHopType = nextHopInstance ∧ ∃ found,
        inventory.filter (byInstanceId entry.instanceId) = [found] ∧
        mapInstanceToNodeName nodeNameType found = some route.targetNode ∧
        route = ⟨"", route.targetNode, entry.destinationCidrBlock⟩ := by
  unfold routeOfEntry
  split
  · rename_i other
    simp [other]
  · rename_i toInstance
    have isInstance : entry.nextHopType = nextHopInstance := not_not.mp toInstance
    simp only [isInstance, true_and]
    split
    · rename_i empty
      simp [empty]
    · rename_i found single
      simp only [single, List.cons.injEq, and_true, exists_eq_left']
      constructor
      · intro mapped
        obtain ⟨node, name, same⟩ := Option.map_eq_some_iff.mp mapped
        cases same
        exact ⟨name, rfl⟩
      · rintro ⟨name, same⟩
        rw [name, Option.map_some, same]
    · rename_i first second rest several
      simp [several]

theorem routesOfEntries_append (front back : List RouteEntry) :
    routesOfEntries nodeNameType inventory (front ++ back) =
      (routesOfEntries nodeNameType inventory front).bind fun first =>
        (routesOfEntries nodeNameType inventory back).map fun second => first ++ second := by
  induction front with
  | nil =>
      rw [List.nil_append, routesOfEntries, Option.bind_some]
      simp
  | cons entry rest ih =>
      rw [List.cons_append, routesOfEntries, routesOfEntries, ih]
      cases routeOfEntry nodeNameType inventory entry with
      | none => rfl
      | some route =>
          cases routesOfEntries nodeNameType inventory rest with
          | none => rfl
          | some routes =>
              cases routesOfEntries nodeNameType inventory back with
              | none => rfl
              | some others => simp

/-- Around one entry the list splits like the table. -/
theorem routesOfEntries_middle {front back : List RouteEntry} {entry : RouteEntry}
    {routes : List Route}
    (listed : routesOfEntries nodeNameType inventory (front ++ entry :: back) = some routes) :
    ∃ before route after, routesOfEntries nodeNameType inventory front = some before ∧
      routeOfEntry nodeNameType inventory entry = some route ∧
      routesOfEntries nodeNameType inventory back = some after ∧
      routes = before ++ route.toList ++ after := by
  rw [routesOfEntries_append] at listed
  obtain ⟨before, first, rest⟩ := Option.bind_eq_some_iff.mp listed
  obtain ⟨tail, second, rfl⟩ := Option.map_eq_some_iff.mp rest
  rw [routesOfEntries] at second
  obtain ⟨route, own, others⟩ := Option.bind_eq_some_iff.mp second
  obtain ⟨after, last, rfl⟩ := Option.map_eq_some_iff.mp others
  exact ⟨before, route, after, first, own, last, by rw [List.append_assoc]⟩

/-- Every listed route comes from an entry. -/
theorem entry_of_route {entries : List RouteEntry} {routes : List Route} {route : Route}
    (listed : routesOfEntries nodeNameType inventory entries = some routes)
    (member : route ∈ routes) :
    ∃ entry ∈ entries, routeOfEntry nodeNameType inventory entry = some (some route) := by
  induction entries generalizing routes with
  | nil =>
      cases listed
      cases member
  | cons entry rest ih =>
      rw [routesOfEntries] at listed
      obtain ⟨own, first, others⟩ := Option.bind_eq_some_iff.mp listed
      obtain ⟨later, tail, rfl⟩ := Option.map_eq_some_iff.mp others
      rcases List.mem_append.mp member with here | there
      · have same : own = some route := by simpa using here
        exact ⟨entry, List.mem_cons_self, by rw [first, same]⟩
      · obtain ⟨found, present, its⟩ := ih tail there
        exact ⟨found, List.mem_cons_of_mem _ present, its⟩

/-- The name an instance is listed under fits the instance. -/
theorem fits_of_name {node : String} {found : InstanceAttributes}
    (known : nodeNameType ≠ .unknown)
    (name : mapInstanceToNodeName nodeNameType found = some node) :
    nodeNameType.by node found := by
  cases nodeNameType with
  | privateIP =>
      have first : found.privateIpAddress.head? = some node := name
      have member : node ∈ found.privateIpAddress := List.mem_of_mem_head? first
      simp [NodeNameType.by, byPrivateIP, member]
  | hostname =>
      have same : found.hostName = node := Option.some.inj name
      simp [NodeNameType.by, byHostname, same]
  | unknown => exact absurd rfl known

end Entries

/-! ## Runs -/

/-- The route table the provider is configured with. -/
structure Configured (provider : RoutingProvider) (vpc : Vpc) (table : RouteTable) : Prop where
  given : provider.routeTable ≠ ""
  found : vpc.table? provider.routeTable = some table
  router : provider.vrouterID = "" ∨ table.vRouterId = provider.vrouterID

/-- A program that asks the account one question leaves the route tables alone. -/
theorem oneCall_lift {α : Type} {program : Aliyun α} {choices : Nat → NetworkChoice}
    {account after : Account} {outcome : Option α} {event : Event Account Call Reply}
    {rest : Nat → Choice}
    (alone : program.run Account.answer (fun index => (choices index).toChoice) account =
      ⟨outcome, [event], after, rest⟩) (vpc : Vpc) :
    ∃ log, program.lift.run Network.answer choices (account, vpc) =
      ⟨outcome, log, (after, vpc), later choices⟩ := by
  obtain ⟨log, run⟩ := Prog.run_lift NetworkChoice.toChoice program choices account vpc
  rw [alone] at run
  exact ⟨log, run⟩

/-! ## The operations -/

section Operations

variable {provider : RoutingProvider} {vpc : Vpc} {table : RouteTable}
  (choices : Nat → NetworkChoice) (account : Account)

def listing (provider : RoutingProvider) (first second : Choice)
    (inventory : List InstanceAttributes) (table : RouteTable) :
    Option (Except GoError (List Route)) :=
  if first.fate = .served then
    if second.fate = .served then
      (routesOfEntries provider.nodeNameType inventory table.entries).map .ok
    else some (.error (.plain ("Unable list routes:" ++ second.error.text)))
  else some (.error (.api first.error))

theorem listing_ok_iff (first second : Choice) (inventory : List InstanceAttributes)
    (routes : List Route) :
    listing provider first second inventory table = some (.ok routes) ↔
      first.fate = .served ∧ second.fate = .served ∧
        routesOfEntries provider.nodeNameType inventory table.entries = some routes := by
  unfold listing
  split
  · rename_i one
    split
    · rename_i two
      simp [one, two]
    · rename_i unserved
      simp [unserved]
  · rename_i unserved
    simp [unserved]

/-- The answer to the query of `ListRoutes`. -/
theorem answer_tables (configured : Configured provider vpc table) (choice : NetworkChoice) :
    ∃ counters, Network.answer choice (account, vpc) (.inr (.describeRouteTables
        ⟨provider.vrouterID, provider.routeTable, ⟨0, 10⟩⟩)) =
      (choice.read (some ([table.describe], counters)), (account, vpc)) := by
  have one : vpc.described ⟨provider.vrouterID, provider.routeTable, ⟨0, 10⟩⟩ = [table] :=
    Vpc.described_one configured.found configured.given configured.router
  refine ⟨⟨1, 1, 10⟩, ?_⟩
  simp only [Network.answer, Service.beside, Vpc.answer, one]
  rfl

theorem routesOfTables_run (configured : Configured provider vpc table)
    (inventory : List InstanceAttributes) :
    ∃ log rest, (routesOfTables provider inventory).run Network.answer choices
        (account, vpc) =
      ⟨if (choices 0).fate = .served then
          (routesOfEntries provider.nodeNameType inventory table.entries).map .ok
        else some (.error (.plain ("Unable list routes:" ++ (choices 0).error.text))),
        log, (account, vpc), rest⟩ := by
  obtain ⟨counters, answer⟩ := answer_tables account configured (choices 0)
  by_cases served : (choices 0).fate = .served
  · rw [(Choice.read_ok_iff _ _ _).mpr ⟨served, rfl⟩] at answer
    rw [if_pos served]
    have entries : [table.describe].flatMap RouteTableSet.routeEntrys = table.entries :=
      List.flatMap_singleton _ _
    have run : (routesOfTables provider inventory).run Network.answer choices (account, vpc) =
        _ := Prog.run_ask_of_answer answer
    simp only [Prog.bind, entries] at run
    rw [run]
    cases routesOfEntries provider.nodeNameType inventory table.entries with
    | none => exact ⟨_, _, rfl⟩
    | some routes => exact ⟨_, _, rfl⟩
  · rw [Choice.read_unserved _ _ served] at answer
    rw [if_neg served]
    exact ⟨_, _, Prog.run_ask_of_answer answer⟩

/-- `ListRoutes` reads and changes no route table. -/
theorem listRoutes_run (configured : Configured provider vpc table) :
    ∃ log rest, (listRoutes provider).run Network.answer choices (account, vpc) =
      ⟨listing provider (choices 0).toChoice (choices 1).toChoice account.ecs.visible table,
        log, (settledFor (choices 0).toChoice account, vpc), rest⟩ := by
  obtain ⟨event, alone⟩ := getInstances_run provider.toAliyunProvider
    (fun index => (choices index).toChoice) account
  obtain ⟨looked, run⟩ := oneCall_lift alone vpc
  unfold listRoutes
  rw [Prog.run_bind_of_run run, inventoryFor, listing]
  by_cases first : (choices 0).fate = .served
  · obtain ⟨log, rest, tail⟩ := routesOfTables_run (later choices)
      (settledFor (choices 0).toChoice account) configured account.ecs.visible
    rw [if_pos first, if_pos first]
    simp only [tail]
    exact ⟨_, _, rfl⟩
  · rw [if_neg first, if_neg first]
    exact ⟨_, _, rfl⟩

/-- The result and the tables after a change through the instance of a node. -/
def changed (lookup : Except GoError InstanceAttributes) (choice : Choice) (vpc : Vpc)
    (routeTableId : String) (change : String → RouteTable → Option RouteTable) :
    Option GoError × Vpc :=
  match lookup with
  | .error failure => (some failure, vpc)
  | .ok found =>
      let result := choice.commit vpc (vpc.modify routeTableId (change found.instanceId))
      (result.1.map GoError.api, result.2)

/-- A program that looks an instance up and changes the table through what it finds. -/
theorem throughInstance_run (provider : RoutingProvider) (node : String) (vpc : Vpc)
    {follow : Except GoError InstanceAttributes → Networked (Option GoError)}
    (change : String → RouteTable → Option RouteTable)
    (each : ∀ lookup after, ∃ log rest,
      let result := changed lookup (choices 1).toChoice vpc provider.routeTable change
      (follow lookup).run Network.answer (later choices) (after, vpc) =
        ⟨some result.1, log, (after, result.2), rest⟩) :
    let result := changed
      (lookupNode provider.toAliyunProvider (choices 0).toChoice account.ecs node)
      (choices 1).toChoice vpc provider.routeTable change
    ∃ log rest, ((getInstanceByNodeName provider.toAliyunProvider node).lift >>= follow).run
        Network.answer choices (account, vpc) =
      ⟨some result.1, log, (settledFor (choices 0).toChoice account, result.2), rest⟩ := by
  obtain ⟨event, alone⟩ := getInstanceByNodeName_run provider.toAliyunProvider node
    (fun index => (choices index).toChoice) account
  obtain ⟨looked, run⟩ := oneCall_lift alone vpc
  obtain ⟨log, rest, tail⟩ := each
    (lookupNode provider.toAliyunProvider (choices 0).toChoice account.ecs node)
    (settledFor (choices 0).toChoice account)
  rw [Prog.run_bind_of_run run, tail]
  exact ⟨_, _, rfl⟩

theorem deleteRoute_run (provider : RoutingProvider) (route : Route) (vpc : Vpc) :
    let result := changed
      (lookupNode provider.toAliyunProvider (choices 0).toChoice account.ecs route.targetNode)
      (choices 1).toChoice vpc provider.routeTable
      fun hop table => table.delete route.destinationCIDR hop
    ∃ log rest, (deleteRoute provider route).run Network.answer choices (account, vpc) =
      ⟨some result.1, log, (settledFor (choices 0).toChoice account, result.2), rest⟩ := by
  refine throughInstance_run choices account provider route.targetNode vpc _
    fun lookup after => ?_
  cases lookup with
  | error failure => exact ⟨_, _, rfl⟩
  | ok found => exact ⟨_, _, rfl⟩

theorem createRoute_run (provider : RoutingProvider) (route : Route) (vpc : Vpc) :
    let result := changed
      (lookupNode provider.toAliyunProvider (choices 0).toChoice account.ecs route.targetNode)
      (choices 1).toChoice vpc provider.routeTable
      fun hop table => table.create (choices 1).position route.destinationCIDR hop
    ∃ log rest, (createRoute provider route).run Network.answer choices (account, vpc) =
      ⟨some result.1, log, (settledFor (choices 0).toChoice account, result.2), rest⟩ := by
  refine throughInstance_run choices account provider route.targetNode vpc _
    fun lookup after => ?_
  cases lookup with
  | error failure => exact ⟨_, _, rfl⟩
  | ok found => exact ⟨_, _, rfl⟩

/-- Success puts a new version of the configured table in place; an error keeps the
tables unless its answer was lost. -/
theorem changed_cases (lookup : Except GoError InstanceAttributes) (choice : Choice)
    (configured : Configured provider vpc table)
    (change : String → RouteTable → Option RouteTable) :
    let result := changed lookup choice vpc provider.routeTable change
    (∃ failure, result.1 = some failure ∧ (result.2 = vpc ∨ choice.fate = .unanswered)) ∨
      ∃ found next, lookup = .ok found ∧ change found.instanceId table = some next ∧
        result = (none, vpc.put next) := by
  cases lookup with
  | error failure => exact Or.inl ⟨failure, rfl, Or.inl rfl⟩
  | ok found =>
      simp only [changed]
      rcases choice.commit_cases vpc
          (vpc.modify provider.routeTable (change found.instanceId)) with
        ⟨after, attempted, -, result⟩ | ⟨after, -, lost, result⟩ | result
      · rw [Vpc.modify, configured.found, Option.bind_some] at attempted
        obtain ⟨next, admitted, rfl⟩ := Option.map_eq_some_iff.mp attempted
        exact Or.inr ⟨found, next, rfl, admitted, by rw [result]; rfl⟩
      · exact Or.inl ⟨.api choice.error, by rw [result]; rfl, Or.inr lost⟩
      · exact Or.inl ⟨.api choice.error, by rw [result]; rfl, Or.inl (by rw [result])⟩

theorem changed_served {choice : Choice} (served : choice.fate = .served)
    (configured : Configured provider vpc table) {found : InstanceAttributes}
    {change : String → RouteTable → Option RouteTable} {next : RouteTable}
    (admitted : change found.instanceId table = some next) :
    changed (.ok found) choice vpc provider.routeTable change = (none, vpc.put next) := by
  rw [changed, Vpc.modify, configured.found, Option.bind_some, admitted, Option.map_some,
    Choice.commit_served served]
  rfl

/-- The new version of the table is the configured one afterwards. -/
theorem Configured.put (configured : Configured provider vpc table) {next : RouteTable}
    (sameId : next.routeTableId = table.routeTableId)
    (sameRouter : next.vRouterId = table.vRouterId) :
    Configured provider (vpc.put next) next where
  given := configured.given
  found := Util.Keyed.find_put_self configured.found
    (sameId.trans (Util.Keyed.find_key configured.found).2)
  router := by
    rw [sameRouter]
    exact configured.router

end Operations

end KubeAliyun.Routes
