import KubeAliyun.Routes.RoundTrip

/-!
# Exact listings

`ListRoutes` joins the instance inventory with the route tables.  The service may
answer the two queries with anything.
-/

namespace KubeAliyun.Routes

open KubeAliyun.Cloud KubeAliyun.Provider KubeAliyun.Remote KubeAliyun.Volume

/-! ## What should be listed -/

inductive Named : NodeNameType → InstanceAttributes → String → Prop
  | hostname (found : InstanceAttributes) : Named .hostname found found.hostName
  | address {found : InstanceAttributes} {first : String} {others : List String}
      (addresses : found.privateIpAddress = first :: others) : Named .privateIP found first

/-- An entry that leads to the only instance of its id, and the route to its node. -/
structure LeadsTo (nodeNameType : NodeNameType) (inventory : List InstanceAttributes)
    (entry : RouteEntry) (route : Route) : Prop where
  toInstance : entry.nextHopType = nextHopInstance
  single : ∃ found, inventory.filter (fun item => item.instanceId == entry.instanceId) =
    [found] ∧ Named nodeNameType found route.targetNode
  cidr : route.destinationCIDR = entry.destinationCidrBlock
  unnamed : route.name = ""

/-- One route for each entry that has one, in the order of the entries. -/
inductive ListsEntries (nodeNameType : NodeNameType) (inventory : List InstanceAttributes) :
    List RouteEntry → List Route → Prop
  | nil : ListsEntries nodeNameType inventory [] []
  | listed {entry : RouteEntry} {route : Route} {entries : List RouteEntry}
      {routes : List Route} (leads : LeadsTo nodeNameType inventory entry route)
      (rest : ListsEntries nodeNameType inventory entries routes) :
      ListsEntries nodeNameType inventory (entry :: entries) (route :: routes)
  | skipped {entry : RouteEntry} {entries : List RouteEntry} {routes : List Route}
      (none : ∀ route, ¬ LeadsTo nodeNameType inventory entry route)
      (rest : ListsEntries nodeNameType inventory entries routes) :
      ListsEntries nodeNameType inventory (entry :: entries) routes

/-! ## The loop -/

section Loop

variable {nodeNameType : NodeNameType} {inventory : List InstanceAttributes}

theorem named_iff (known : nodeNameType ≠ .unknown) (found : InstanceAttributes)
    (node : String) :
    Named nodeNameType found node ↔ mapInstanceToNodeName nodeNameType found = some node := by
  constructor
  · intro named
    cases named with
    | hostname => rfl
    | address addresses =>
        rw [mapInstanceToNodeName, addresses]
        rfl
  · intro mapped
    cases nodeNameType with
    | privateIP =>
        obtain ⟨others, addresses⟩ := List.head?_eq_some_iff.mp mapped
        exact .address addresses
    | hostname =>
        cases mapped
        exact .hostname found
    | unknown => exact absurd rfl known

/-- The body of the loop makes the route of an entry. -/
theorem leadsTo_iff (known : nodeNameType ≠ .unknown) (entry : RouteEntry) (route : Route) :
    LeadsTo nodeNameType inventory entry route ↔
      routeOfEntry nodeNameType inventory entry = some (some route) := by
  rw [routeOfEntry_iff]
  constructor
  · rintro ⟨toInstance, ⟨found, single, named⟩, cidr, unnamed⟩
    refine ⟨toInstance, found, single, (named_iff known found _).mp named, ?_⟩
    rw [← cidr, ← unnamed]
  · rintro ⟨toInstance, found, single, named, same⟩
    refine ⟨toInstance, ⟨found, single, (named_iff known found _).mpr named⟩, ?_, ?_⟩
    · rw [same]
    · rw [same]

/-- A loop that ends lists the entries exactly. -/
theorem lists_of_routesOfEntries (known : nodeNameType ≠ .unknown)
    {entries : List RouteEntry} {routes : List Route}
    (listed : routesOfEntries nodeNameType inventory entries = some routes) :
    ListsEntries nodeNameType inventory entries routes := by
  induction entries generalizing routes with
  | nil =>
      cases listed
      exact .nil
  | cons entry rest ih =>
      rw [routesOfEntries] at listed
      obtain ⟨own, first, others⟩ := Option.bind_eq_some_iff.mp listed
      obtain ⟨later, tail, rfl⟩ := Option.map_eq_some_iff.mp others
      cases own with
      | none =>
          apply ListsEntries.skipped
          · intro route leads
            have its := (leadsTo_iff known entry route).mp leads
            rw [first] at its
            cases its
          · exact ih tail
      | some route => exact .listed ((leadsTo_iff known entry route).mpr first) (ih tail)

/-- The body panics exactly at the only instance of an id, when it has no name. -/
theorem routeOfEntry_returns_iff (entry : RouteEntry) :
    (routeOfEntry nodeNameType inventory entry).isSome ↔
      (entry.nextHopType = nextHopInstance →
        ∀ found, inventory.filter (byInstanceId entry.instanceId) = [found] →
          (mapInstanceToNodeName nodeNameType found).isSome) := by
  unfold routeOfEntry
  by_cases toInstance : entry.nextHopType = nextHopInstance
  · rw [if_neg (not_not.mpr toInstance)]
    simp only [toInstance, true_implies]
    cases inventory.filter (byInstanceId entry.instanceId) with
    | nil => simp
    | cons found others => cases others <;> simp
  · rw [if_pos toInstance]
    simp [toInstance]

end Loop

/-! ## The call -/

section Call

variable {ω σ : Type} (provider : RoutingProvider)
  (service : Service ω σ NetworkCall NetworkReply) (choices : Nat → ω) (state : σ)

/-- The answer to the first query of `ListRoutes`. -/
def inventoryReply : Except ApiError (List InstanceAttributes × PaginationResult) × σ :=
  service (choices 0) state
    (.inl (.ecs (.describeInstances ⟨provider.region, provider.vpcID, ⟨0, 0⟩⟩)))

def tablesReply : Except ApiError (List RouteTableSet × PaginationResult) × σ :=
  service (choices 1) (inventoryReply provider service choices state).2
    (.inr (.describeRouteTables ⟨provider.vrouterID, provider.routeTable, ⟨0, 10⟩⟩))

/-- Both queries succeed, with these instances and tables. -/
structure Described (instances : List InstanceAttributes) (tables : List RouteTableSet) :
    Prop where
  inventory : ∃ counters,
    (inventoryReply provider service choices state).1 = .ok (instances, counters)
  routeTables : ∃ counters,
    (tablesReply provider service choices state).1 = .ok (tables, counters)

/-- `ListRoutes` returns, and if both queries succeed with the routes of the entries
of all tables. -/
def ListsExactly : Prop :=
  ((listRoutes provider).run service choices state).outcome ≠ none ∧
    ∀ instances tables, Described provider service choices state instances tables →
      ∃ routes, ((listRoutes provider).run service choices state).outcome =
          some (.ok routes) ∧
        ListsEntries provider.nodeNameType instances
          (tables.flatMap RouteTableSet.routeEntrys) routes

variable {provider service choices state}

/-- After the inventory the tables are asked for. -/
theorem listRoutes_of_inventory {instances : List InstanceAttributes}
    {counters : PaginationResult}
    (replied : (inventoryReply provider service choices state).1 = .ok (instances, counters)) :
    ((listRoutes provider).run service choices state).outcome =
      ((routesOfTables provider instances).run service (later choices)
        (inventoryReply provider service choices state).2).outcome := by
  have run : (listRoutes provider).run service choices state = _ :=
    Prog.run_ask_of_answer (Prod.ext replied rfl)
  rw [run]
  rfl

theorem listRoutes_refused {failure : ApiError}
    (replied : (inventoryReply provider service choices state).1 = .error failure) :
    ((listRoutes provider).run service choices state).outcome =
      some (.error (.api failure)) := by
  have run : (listRoutes provider).run service choices state = _ :=
    Prog.run_ask_of_answer (Prod.ext replied rfl)
  rw [run]
  rfl

theorem listRoutes_tables_refused {instances : List InstanceAttributes}
    {counters : PaginationResult} {failure : ApiError}
    (replied : (inventoryReply provider service choices state).1 = .ok (instances, counters))
    (refused : (tablesReply provider service choices state).1 = .error failure) :
    ((listRoutes provider).run service choices state).outcome =
      some (.error (.plain ("Unable list routes:" ++ failure.text))) := by
  have run : (routesOfTables provider instances).run service (later choices)
      (inventoryReply provider service choices state).2 = _ :=
    Prog.run_ask_of_answer (Prod.ext refused rfl)
  rw [listRoutes_of_inventory replied, run]
  rfl

theorem listRoutes_described {instances : List InstanceAttributes}
    {tables : List RouteTableSet}
    (described : Described provider service choices state instances tables) :
    ((listRoutes provider).run service choices state).outcome =
      (routesOfEntries provider.nodeNameType instances
        (tables.flatMap RouteTableSet.routeEntrys)).map .ok := by
  obtain ⟨counters, first⟩ := described.inventory
  obtain ⟨others, second⟩ := described.routeTables
  have run : (routesOfTables provider instances).run service (later choices)
      (inventoryReply provider service choices state).2 = _ :=
    Prog.run_ask_of_answer (Prod.ext second rfl)
  simp only [Prog.bind] at run
  rw [listRoutes_of_inventory first, run]
  cases routesOfEntries provider.nodeNameType instances
      (tables.flatMap RouteTableSet.routeEntrys) with
  | none => rfl
  | some routes => rfl

/-- A refused query is reported. -/
theorem listRoutes_undescribed
    (failed : ∀ instances tables, ¬ Described provider service choices state instances tables) :
    ((listRoutes provider).run service choices state).outcome ≠ none := by
  cases first : (inventoryReply provider service choices state).1 with
  | error failure =>
      rw [listRoutes_refused first]
      exact Option.some_ne_none _
  | ok found =>
      cases second : (tablesReply provider service choices state).1 with
      | error failure =>
          rw [listRoutes_tables_refused first second]
          exact Option.some_ne_none _
      | ok routed => exact absurd ⟨⟨_, first⟩, ⟨_, second⟩⟩ (failed found.1 routed.1)

/-- The loop over the entries ends when every instance it names has an address. -/
theorem listRoutes_returns_iff {instances : List InstanceAttributes}
    {tables : List RouteTableSet}
    (described : Described provider service choices state instances tables) :
    ((listRoutes provider).run service choices state).outcome ≠ none ↔
      (provider.nodeNameType = .privateIP →
        ∀ entry ∈ tables.flatMap RouteTableSet.routeEntrys,
          entry.nextHopType = nextHopInstance →
          ∀ found, instances.filter (byInstanceId entry.instanceId) = [found] →
            found.privateIpAddress ≠ []) := by
  rw [listRoutes_described described, Option.ne_none_iff_isSome, Option.isSome_map,
    routesOfEntries_isSome_iff]
  simp only [routeOfEntry_returns_iff, mapInstanceToNodeName_isSome_iff]
  constructor
  · intro addressed byAddress entry member toInstance found single
    exact addressed entry member toInstance found single byAddress
  · intro addressed entry member toInstance found single byAddress
    exact addressed byAddress entry member toInstance found single

end Call

/-- `ListRoutes` is exact and does not panic if and only if, with private-IP node
names, every instance that an entry leads to has an address. -/
theorem lists_exactly_iff {ω σ : Type} {provider : RoutingProvider}
    (known : provider.nodeNameType ≠ .unknown)
    (service : Service ω σ NetworkCall NetworkReply) (choices : Nat → ω) (state : σ) :
    ListsExactly provider service choices state ↔
      ∀ instances tables, Described provider service choices state instances tables →
        provider.nodeNameType = .privateIP →
        ∀ entry ∈ tables.flatMap RouteTableSet.routeEntrys,
          entry.nextHopType = nextHopInstance →
          ∀ found, instances.filter (byInstanceId entry.instanceId) = [found] →
            found.privateIpAddress ≠ [] := by
  constructor
  · rintro ⟨returns, -⟩ instances tables described
    exact (listRoutes_returns_iff described).mp returns
  · intro addressed
    constructor
    · by_cases failed : ∀ instances tables,
          ¬ Described provider service choices state instances tables
      · exact listRoutes_undescribed failed
      · push Not at failed
        obtain ⟨instances, tables, described⟩ := failed
        exact (listRoutes_returns_iff described).mpr (addressed instances tables described)
    · intro instances tables described
      have returns :=
        (listRoutes_returns_iff described).mpr (addressed instances tables described)
      rw [listRoutes_described described] at returns ⊢
      cases listed : routesOfEntries provider.nodeNameType instances
          (tables.flatMap RouteTableSet.routeEntrys) with
      | none => exact absurd (by rw [listed]; rfl) returns
      | some routes => exact ⟨routes, rfl, lists_of_routesOfEntries known listed⟩

theorem lists_exactly_iff_sample :
    ListsExactly addressed Network.answer (answering 0) (twoAddresses, oneTable) := by
  refine (lists_exactly_iff (by decide) _ _ _).mpr ?_
  rintro instances tables ⟨⟨counters, first⟩, ⟨others, second⟩⟩ - entry member - found single
  cases first
  cases second
  obtain rfl : entry = ⟨"172.16.0.0/24", nextHopInstance, "i-2", "i-2"⟩ :=
    List.mem_singleton.mp member
  have its : [⟨"i-2", "node-b", ["10.0.0.2"]⟩] = [found] := single
  cases its
  exact List.cons_ne_nil _ _

def unaddressed : Account :=
  { twoDisks with
    ecs := { twoDisks.ecs with instances := [⟨"i-2", "node-b", []⟩] } }

/-- One entry that leads to such an instance makes the whole listing panic. -/
theorem unaddressed_instance_panics :
    ((listRoutes addressed).run Network.answer (answering 0)
        (unaddressed, oneTable)).outcome = none ∧
      ¬ ListsExactly addressed Network.answer (answering 0) (unaddressed, oneTable) := by
  have panics : ((listRoutes addressed).run Network.answer (answering 0)
      (unaddressed, oneTable)).outcome = none := rfl
  exact ⟨panics, fun lists => lists.1 panics⟩

end KubeAliyun.Routes
