import KubeAliyun.Routes.Listing

/-!
# Listed routes can be deleted and created routes are listed

A listed route names its node in one way and the other operations resolve the name
in another.  A deletion always finds the entry the route was listed from, or fails;
a created route is listed under the name of the first address of its instance.
-/

namespace KubeAliyun.Routes

open KubeAliyun.Cloud KubeAliyun.Provider KubeAliyun.Remote KubeAliyun.Volume KubeAliyun.Nodes

def Answered (choices : Nat → NetworkChoice) : Prop :=
  (choices 0).fate = .served ∧ (choices 1).fate = .served

/-- Every choice serves its call and puts a new entry at one position. -/
def answering (position : Nat) : Nat → NetworkChoice := fun index => ⟨served index, position⟩

theorem answered_answering (position : Nat) : Answered (answering position) := ⟨rfl, rfl⟩

section Listings

variable {provider : RoutingProvider} {vpc : Vpc} {table : RouteTable} {account : Account}
  {choices : Nat → NetworkChoice}

theorem settledFor_visible (choice : Choice) (account : Account) :
    (settledFor choice account).ecs.visible = account.ecs.visible := rfl

/-- A listing that returns has read the configured table. -/
theorem listRoutes_ok (configured : Configured provider vpc table) {routes : List Route}
    (listed : ((listRoutes provider).run Network.answer choices (account, vpc)).outcome =
      some (.ok routes)) :
    routesOfEntries provider.nodeNameType account.ecs.visible table.entries =
      some routes := by
  obtain ⟨log, rest, run⟩ := listRoutes_run choices account configured
  rw [run] at listed
  exact ((listing_ok_iff _ _ _ _).mp listed).2.2

theorem listRoutes_answered (configured : Configured provider vpc table)
    (answered : Answered choices) :
    ((listRoutes provider).run Network.answer choices (account, vpc)).outcome =
      (routesOfEntries provider.nodeNameType account.ecs.visible table.entries).map .ok := by
  obtain ⟨log, rest, run⟩ := listRoutes_run choices account configured
  rw [run, listing, if_pos answered.1, if_pos answered.2]

theorem listRoutes_state (configured : Configured provider vpc table) :
    ((listRoutes provider).run Network.answer choices (account, vpc)).state =
      (settledFor (choices 0).toChoice account, vpc) := by
  obtain ⟨log, rest, run⟩ := listRoutes_run choices account configured
  rw [run]

end Listings

/-! ## Deleting a listed route -/

/-- One entry less: the entry that the route was listed from is gone, and so is the
route from the list. -/
structure Removed (provider : RoutingProvider) (inventory : List InstanceAttributes)
    (table next : RouteTable) (routes : List Route) (route : Route) (left : List Route) :
    Prop where
  sameId : next.routeTableId = table.routeTableId
  sameRouter : next.vRouterId = table.vRouterId
  split : ∃ front entry back before after,
    table.entries = front ++ entry :: back ∧ next.entries = front ++ back ∧
    entry.nextHopType = nextHopInstance ∧
    routeOfEntry provider.nodeNameType inventory entry = some (some route) ∧
    routesOfEntries provider.nodeNameType inventory front = some before ∧
    routesOfEntries provider.nodeNameType inventory back = some after ∧
    routes = before ++ route :: after ∧ left = before ++ after

theorem Removed.listed {provider : RoutingProvider} {inventory : List InstanceAttributes}
    {table next : RouteTable} {routes left : List Route} {route : Route}
    (removed : Removed provider inventory table next routes route left) :
    routesOfEntries provider.nodeNameType inventory next.entries = some left := by
  obtain ⟨front, entry, back, before, after, -, entries, -, -, first, second, -, rfl⟩ :=
    removed.split
  rw [entries, routesOfEntries_append, first, second]
  rfl

/-- A deletion for the destination of a listed route takes out the route's entry. -/
theorem delete_removed {provider : RoutingProvider} {inventory : List InstanceAttributes}
    {table next : RouteTable} {routes : List Route} {route : Route} {hop : String}
    (listed : routesOfEntries provider.nodeNameType inventory table.entries = some routes)
    (member : route ∈ routes)
    (deleted : table.delete route.destinationCIDR hop = some next) :
    ∃ left, Removed provider inventory table next routes route left := by
  obtain ⟨sameRouter, sameId, front, entry, back, split, sameCidr, sameHop, rest⟩ :=
    RouteTable.delete_eq_some deleted
  obtain ⟨source, present, own⟩ := entry_of_route listed member
  -- the destination of the route has one entry, so the deleted one is its source
  have cidr : source.destinationCidrBlock = route.destinationCIDR := by
    obtain ⟨-, target, -, -, whole⟩ := (routeOfEntry_iff source route).mp own
    rw [whole]
  have here : entry ∈ table.entries := by simp [split]
  have same : entry = source :=
    table.entry_unique here present (sameCidr.trans cidr.symm)
  rw [← same] at own
  rw [split] at listed
  obtain ⟨before, its, after, first, second, last, rfl⟩ := routesOfEntries_middle listed
  rw [own] at second
  cases second
  refine ⟨before ++ after, sameId, sameRouter, front, entry, back, before, after, split, rest,
    ((routeOfEntry_iff entry route).mp own).1, own, first, last, ?_, rfl⟩
  simp

/-- After a listing, deleting one of its routes fails and changes no table, or it
removes the entry that the route was listed from, and the next listing is the
earlier one without that route. -/
def DeletesExactly (provider : RoutingProvider) (account : Account) (vpc : Vpc)
    (table : RouteTable) (routes : List Route) (route : Route)
    (listing deleting : Nat → NetworkChoice) : Prop :=
  let start := ((listRoutes provider).run Network.answer listing (account, vpc)).state
  let deletion := (deleteRoute provider route).run Network.answer deleting start
  (∃ failure, deletion.outcome = some (some failure) ∧ deletion.state.2 = vpc) ∨
    (deletion.outcome = some none ∧ ∃ next left,
      Removed provider account.ecs.visible table next routes route left ∧
      deletion.state.2 = vpc.put next ∧
      ∀ following, Answered following →
        ((listRoutes provider).run Network.answer following deletion.state).outcome =
          some (.ok left))

/-- Every listed route is deleted exactly, unless the answer to the deletion is lost. -/
theorem delete_listed_route {provider : RoutingProvider} {vpc : Vpc} {table : RouteTable}
    (configured : Configured provider vpc table) (account : Account)
    {listing deleting : Nat → NetworkChoice} {routes : List Route} {route : Route}
    (listed : ((listRoutes provider).run Network.answer listing (account, vpc)).outcome =
      some (.ok routes))
    (member : route ∈ routes) (answers : (deleting 1).fate ≠ .unanswered) :
    DeletesExactly provider account vpc table routes route listing deleting := by
  have content := listRoutes_ok configured listed
  simp only [DeletesExactly, listRoutes_state configured]
  generalize same : settledFor (listing 0).toChoice account = settled
  have inventory : settled.ecs.visible = account.ecs.visible := by
    rw [← same, settledFor_visible]
  obtain ⟨log, rest, run⟩ := deleteRoute_run deleting settled provider route vpc
  simp only [run]
  rcases changed_cases (lookupNode provider.toAliyunProvider (deleting 0).toChoice settled.ecs
      route.targetNode) (deleting 1).toChoice configured
      (fun hop table => table.delete route.destinationCIDR hop) with
    ⟨failure, failed, kept⟩ | ⟨found, next, -, deleted, result⟩
  · refine Or.inl ⟨failure, by rw [failed], ?_⟩
    rcases kept with same | lost
    · exact same
    · exact absurd lost answers
  · right
    obtain ⟨left, removed⟩ := delete_removed content member deleted
    rw [result]
    refine ⟨rfl, next, left, removed, rfl, fun choices answered => ?_⟩
    rw [listRoutes_answered (configured.put removed.sameId removed.sameRouter) answered]
    rw [settledFor_visible, inventory, removed.listed]
    rfl

/-! A small network: one instance with two addresses, and a route to another one. -/

def addressed : RoutingProvider :=
  ⟨⟨"key", "secret", "cn-hangzhou", "vpc-1", "i-1", "node-a", .privateIP⟩, "", "vtb-1"⟩

def twoAddresses : Account :=
  { twoDisks with
    ecs :=
      { twoDisks.ecs with
        instances := [⟨"i-1", "node-a", ["10.0.0.1", "10.0.1.1"]⟩,
          ⟨"i-2", "node-b", ["10.0.0.2"]⟩] } }

def oneRoute : RouteTable where
  vRouterId := "vrt-1"
  routeTableId := "vtb-1"
  entries := [⟨"172.16.0.0/24", nextHopInstance, "i-2", "i-2"⟩]
  cidrsDistinct := List.nodup_singleton _
  hopsAgree := fun entry member _ => by
    rw [List.mem_singleton.mp member]

def oneTable : Vpc := ⟨[oneRoute], List.nodup_singleton _⟩

theorem oneTable_configured : Configured addressed oneTable oneRoute :=
  ⟨by decide, rfl, Or.inl rfl⟩

/-- Routes to both instances around an entry of the router itself. -/
def threeEntries : RouteTable where
  vRouterId := "vrt-1"
  routeTableId := "vtb-1"
  entries := [⟨"172.16.0.0/24", nextHopInstance, "i-2", "i-2"⟩,
    ⟨"100.64.0.0/10", "service", "", ""⟩, ⟨"172.16.1.0/24", nextHopInstance, "i-1", "i-1"⟩]
  cidrsDistinct := by decide
  hopsAgree := by decide

def threeEntriesVpc : Vpc := ⟨[threeEntries], List.nodup_singleton _⟩

theorem threeEntries_configured : Configured addressed threeEntriesVpc threeEntries :=
  ⟨by decide, rfl, Or.inl rfl⟩

theorem delete_listed_route_sample :
    Configured addressed threeEntriesVpc threeEntries ∧
    ((listRoutes addressed).run Network.answer (answering 0)
      (twoAddresses, threeEntriesVpc)).outcome =
        some (.ok [⟨"", "10.0.0.2", "172.16.0.0/24"⟩, ⟨"", "10.0.0.1", "172.16.1.0/24"⟩]) ∧
    DeletesExactly addressed twoAddresses threeEntriesVpc threeEntries
      [⟨"", "10.0.0.2", "172.16.0.0/24"⟩, ⟨"", "10.0.0.1", "172.16.1.0/24"⟩]
      ⟨"", "10.0.0.1", "172.16.1.0/24"⟩ (answering 0) (answering 0) :=
  ⟨threeEntries_configured, rfl,
    delete_listed_route threeEntries_configured twoAddresses rfl (by decide) (by decide)⟩

/-- The instance that a listed route's node resolves to is the one its entry leads to. -/
theorem resolved_hop {provider : RoutingProvider} {inventory : List InstanceAttributes}
    {entry : RouteEntry} {route : Route} {found : InstanceAttributes}
    (own : routeOfEntry provider.nodeNameType inventory entry = some (some route))
    (resolved : instanceByNodeName provider.nodeNameType inventory route.targetNode =
      .ok found) :
    found.instanceId = entry.instanceId := by
  obtain ⟨-, target, single, name, -⟩ := (routeOfEntry_iff entry route).mp own
  have one := (instanceByNodeName_ok_iff _ _ _ _).mp resolved
  have present : target ∈ inventory.filter (byInstanceId entry.instanceId) := by simp [single]
  obtain ⟨member, its⟩ := List.mem_filter.mp present
  have known : provider.nodeNameType ≠ .unknown := by
    intro unknown
    rw [unknown, matching] at one
    have nothing : inventory.filter (NodeNameType.unknown.by route.targetNode) = [] := by
      simp [NodeNameType.by, byEmpty]
    rw [nothing] at one
    cases one
  have fits : target ∈ matching provider.nodeNameType inventory route.targetNode :=
    List.mem_filter.mpr ⟨member, fits_of_name known name⟩
  rw [one] at fits
  rw [← List.mem_singleton.mp fits]
  simpa [byInstanceId] using its

/-- A listed route whose node resolves is deleted by a service that answers. -/
theorem delete_resolved_route {provider : RoutingProvider} {vpc : Vpc} {table : RouteTable}
    (configured : Configured provider vpc table) {account : Account}
    {deleting : Nat → NetworkChoice} {routes : List Route} {route : Route}
    {found : InstanceAttributes}
    (listed : routesOfEntries provider.nodeNameType account.ecs.visible table.entries =
      some routes)
    (member : route ∈ routes) (answered : Answered deleting)
    (resolved : instanceByNodeName provider.nodeNameType account.ecs.visible
      route.targetNode = .ok found) :
    ((deleteRoute provider route).run Network.answer deleting (account, vpc)).outcome =
      some none := by
  obtain ⟨log, rest, run⟩ := deleteRoute_run deleting account provider route vpc
  obtain ⟨entry, present, own⟩ := entry_of_route listed member
  obtain ⟨toInstance, target, -, -, whole⟩ := (routeOfEntry_iff entry route).mp own
  have hop : entry.nextHopId = found.instanceId := by
    rw [← table.hopsAgree entry present toInstance]
    exact (resolved_hop own resolved).symm
  have cidr : entry.destinationCidrBlock = route.destinationCIDR := by rw [whole]
  obtain ⟨next, deleted⟩ := Option.isSome_iff_exists.mp
    (RouteTable.delete_isSome present cidr hop)
  rw [run, lookupNode, if_pos answered.1, resolved,
    changed_served answered.2 configured deleted]

/-! ## Listing a created route -/

/-- A route that was created is listed next, in addition to the routes before. -/
def ListsBack (provider : RoutingProvider) (account : Account) (vpc : Vpc) (route : Route) :
    Prop :=
  ∀ earlier creating following, Answered earlier → Answered following →
    let before := (listRoutes provider).run Network.answer earlier (account, vpc)
    let creation := (createRoute provider route).run Network.answer creating before.state
    let after := (listRoutes provider).run Network.answer following creation.state
    creation.outcome = some none →
      ∃ front listed back, before.outcome = some (.ok (front ++ back)) ∧
        after.outcome = some (.ok (front ++ listed :: back)) ∧
        listed.targetNode = route.targetNode ∧
        listed.destinationCIDR = route.destinationCIDR

/-- With node names that are addresses, the address of the route is the first one of
its instance, and every instance that the table leads to has an address. -/
def NamedByFirstAddress (nodeNameType : NodeNameType) (inventory : List InstanceAttributes)
    (table : RouteTable) (route : Route) : Prop :=
  nodeNameType = .privateIP → ∀ found, matching nodeNameType inventory route.targetNode =
      [found] →
    found.privateIpAddress.head? = some route.targetNode ∧
    ∀ entry ∈ table.entries, entry.nextHopType = nextHopInstance →
      ∀ other ∈ inventory, other.instanceId = entry.instanceId →
        other.privateIpAddress ≠ []

section Created

variable {nodeNameType : NodeNameType} {inventory : List InstanceAttributes}

/-- A table is listed without a panic when each of its entries is. -/
theorem routesOfEntries_isSome_iff (entries : List RouteEntry) :
    (routesOfEntries nodeNameType inventory entries).isSome ↔
      ∀ entry ∈ entries, (routeOfEntry nodeNameType inventory entry).isSome := by
  induction entries with
  | nil => simp [routesOfEntries]
  | cons entry rest ih =>
      rw [routesOfEntries, List.forall_mem_cons, ← ih]
      cases routeOfEntry nodeNameType inventory entry with
      | none => simp
      | some route => simp

theorem byInstanceId_filter (distinct : (inventory.map InstanceAttributes.instanceId).Nodup)
    (id : String) (found : InstanceAttributes) :
    inventory.filter (byInstanceId id) = [found] ↔
      found ∈ inventory ∧ found.instanceId = id := by
  have same : byInstanceId id = fun item => decide (item.instanceId = id) := by
    funext item
    simp [byInstanceId, Bool.beq_eq_decide_eq]
  rw [same, Util.Keyed.filter_eq distinct, ← Util.Keyed.find_eq_some_iff distinct]
  cases Util.Keyed.find InstanceAttributes.instanceId inventory id with
  | none => simp
  | some other => simp

/-- The loop panics at an entry whose instance has no name. -/
theorem routeOfEntry_isSome_iff
    (distinct : (inventory.map InstanceAttributes.instanceId).Nodup) (entry : RouteEntry) :
    (routeOfEntry nodeNameType inventory entry).isSome ↔
      (entry.nextHopType = nextHopInstance → ∀ other ∈ inventory,
        other.instanceId = entry.instanceId →
          (mapInstanceToNodeName nodeNameType other).isSome) := by
  have single := byInstanceId_filter distinct entry.instanceId
  unfold routeOfEntry
  split
  · rename_i otherwise
    simp [otherwise]
  · rename_i toInstance
    simp only [not_not.mp toInstance, true_implies]
    split
    · rename_i empty
      simp only [Option.isSome_some, true_iff]
      intro other member its
      have found := (single other).mpr ⟨member, its⟩
      rw [empty] at found
      cases found
    · rename_i found one
      obtain ⟨member, its⟩ := (single found).mp one
      rw [Option.isSome_map]
      constructor
      · intro named other present same
        have again := (single other).mpr ⟨present, same⟩
        rw [one] at again
        cases again
        exact named
      · intro named
        exact named found member its
    · rename_i first second rest several
      simp only [Option.isSome_some, true_iff]
      intro other member its
      have found := (single other).mpr ⟨member, its⟩
      rw [several] at found
      cases found

theorem mapInstanceToNodeName_isSome_iff (attributes : InstanceAttributes) :
    (mapInstanceToNodeName nodeNameType attributes).isSome ↔
      (nodeNameType = .privateIP → attributes.privateIpAddress ≠ []) := by
  cases nodeNameType with
  | privateIP => simp [mapInstanceToNodeName]
  | hostname => simp [mapInstanceToNodeName]
  | unknown => simp [mapInstanceToNodeName]

/-- The entry of a new route is listed under the name of the instance it leads to. -/
theorem routeOfEntry_created (distinct : (inventory.map InstanceAttributes.instanceId).Nodup)
    {found : InstanceAttributes} (present : found ∈ inventory) {node : String}
    (named : mapInstanceToNodeName nodeNameType found = some node) (cidr : String) :
    routeOfEntry nodeNameType inventory
        ⟨cidr, nextHopInstance, found.instanceId, found.instanceId⟩ =
      some (some ⟨"", node, cidr⟩) := by
  have one := (byInstanceId_filter distinct found.instanceId found).mpr ⟨present, rfl⟩
  exact (routeOfEntry_iff _ _).mpr ⟨rfl, found, one, named, rfl⟩

/-- An instance that a name fits is listed under that name, by its host name or by its
first address. -/
theorem name_of_matching {node : String} {found : InstanceAttributes}
    (one : matching nodeNameType inventory node = [found])
    (first : nodeNameType = .privateIP → found.privateIpAddress.head? = some node) :
    mapInstanceToNodeName nodeNameType found = some node := by
  have fits := fits_of_matching one
  cases nodeNameType with
  | privateIP => exact first rfl
  | hostname =>
      have same : found.hostName = node := by
        simpa [NodeNameType.by, byHostname] using fits
      exact congrArg some same
  | unknown => cases fits

theorem cidr_of_route {entries : List RouteEntry} {routes : List Route} {route : Route}
    (listed : routesOfEntries nodeNameType inventory entries = some routes)
    (member : route ∈ routes) :
    route.destinationCIDR ∈ entries.map RouteEntry.destinationCidrBlock := by
  obtain ⟨entry, present, own⟩ := entry_of_route listed member
  obtain ⟨-, target, -, -, whole⟩ := (routeOfEntry_iff entry route).mp own
  rw [whole]
  exact List.mem_map_of_mem present

/-- The route for a new destination comes from the new entry. -/
theorem route_of_new_entry {entries : List RouteEntry} {entry : RouteEntry}
    {front back : List Route} {listed : Route}
    (before : routesOfEntries nodeNameType inventory entries = some (front ++ back))
    (after : routesOfEntries nodeNameType inventory (entry :: entries) =
      some (front ++ listed :: back))
    (fresh : listed.destinationCIDR ∉ entries.map RouteEntry.destinationCidrBlock) :
    routeOfEntry nodeNameType inventory entry = some (some listed) := by
  rw [routesOfEntries, before] at after
  obtain ⟨own, its, rest⟩ := Option.bind_eq_some_iff.mp after
  have whole : own.toList ++ (front ++ back) = front ++ listed :: back := Option.some.inj rest
  have member : listed ∈ own.toList ++ (front ++ back) := by simp [whole]
  rcases List.mem_append.mp member with here | there
  · rw [its, Option.mem_toList.mp here]
  · exact absurd (cidr_of_route before there) fresh

/-- The list of a table with one more entry has one more route in its place. -/
theorem routesOfEntries_insert {entries : List RouteEntry} {routes : List Route}
    {entry : RouteEntry} {route : Route} (position : Nat)
    (listed : routesOfEntries nodeNameType inventory entries = some routes)
    (own : routeOfEntry nodeNameType inventory entry = some (some route)) :
    ∃ front back, routes = front ++ back ∧
      routesOfEntries nodeNameType inventory
          (entries.take position ++ entry :: entries.drop position) =
        some (front ++ route :: back) := by
  rw [← List.take_append_drop position entries, routesOfEntries_append] at listed
  obtain ⟨front, first, rest⟩ := Option.bind_eq_some_iff.mp listed
  obtain ⟨back, second, rfl⟩ := Option.map_eq_some_iff.mp rest
  refine ⟨front, back, rfl, ?_⟩
  rw [routesOfEntries_append, first, routesOfEntries, own, second]
  rfl

end Created

section CreatedRoute

variable {provider : RoutingProvider} {vpc : Vpc} {table : RouteTable} {account : Account}
  {route : Route}

/-- A creation that succeeds has put a new entry for the one instance of the node. -/
theorem createRoute_none (configured : Configured provider vpc table)
    {choices : Nat → NetworkChoice}
    (succeeded : ((createRoute provider route).run Network.answer choices
      (account, vpc)).outcome = some none) :
    ∃ found next,
      matching provider.nodeNameType account.ecs.visible route.targetNode = [found] ∧
      table.create (choices 1).position route.destinationCIDR found.instanceId = some next ∧
      ((createRoute provider route).run Network.answer choices (account, vpc)).state =
        (settledFor (choices 0).toChoice account, vpc.put next) := by
  obtain ⟨log, rest, run⟩ := createRoute_run choices account provider route vpc
  rw [run] at succeeded
  rcases changed_cases (lookupNode provider.toAliyunProvider (choices 0).toChoice account.ecs
      route.targetNode) (choices 1).toChoice configured
      (fun hop table => table.create (choices 1).position route.destinationCIDR hop) with
    ⟨failure, failed, -⟩ | ⟨found, next, lookup, created, result⟩
  · rw [failed] at succeeded
    cases succeeded
  · refine ⟨found, next, ?_, created, by rw [run, result]⟩
    rw [lookupNode] at lookup
    split at lookup
    · exact (instanceByNodeName_ok_iff _ _ _ _).mp lookup
    · cases lookup

/-- A service that answers creates a route to a node that resolves. -/
theorem createRoute_answered (configured : Configured provider vpc table)
    (fresh : route.destinationCIDR ∉ table.entries.map RouteEntry.destinationCidrBlock)
    {found : InstanceAttributes}
    (one : matching provider.nodeNameType account.ecs.visible route.targetNode = [found])
    {choices : Nat → NetworkChoice} (answered : Answered choices) :
    ((createRoute provider route).run Network.answer choices (account, vpc)).outcome =
      some none := by
  obtain ⟨log, rest, run⟩ := createRoute_run choices account provider route vpc
  have resolved := (instanceByNodeName_ok_iff _ _ _ _).mpr one
  obtain ⟨next, created⟩ := Option.isSome_iff_exists.mp
    (RouteTable.create_isSome fresh (choices 1).position found.instanceId)
  rw [run, lookupNode, if_pos answered.1, resolved,
    changed_served answered.2 configured created]

/-- What listing back means for the entries of the table. -/
theorem listsBack_iff_entries (configured : Configured provider vpc table)
    (fresh : route.destinationCIDR ∉ table.entries.map RouteEntry.destinationCidrBlock) :
    ListsBack provider account vpc route ↔
      ∀ position found,
        matching provider.nodeNameType account.ecs.visible route.targetNode = [found] →
        ∃ front listed back,
          routesOfEntries provider.nodeNameType account.ecs.visible table.entries =
            some (front ++ back) ∧
          routesOfEntries provider.nodeNameType account.ecs.visible
              (table.entries.take position ++
                ⟨route.destinationCIDR, nextHopInstance, found.instanceId, found.instanceId⟩ ::
                  table.entries.drop position) = some (front ++ listed :: back) ∧
          listed.targetNode = route.targetNode ∧
          listed.destinationCIDR = route.destinationCIDR := by
  unfold ListsBack
  simp only [listRoutes_state configured]
  constructor
  · intro listsBack position found one
    have answered := answered_answering position
    have visible : matching provider.nodeNameType
        (settledFor (answering position 0).toChoice account).ecs.visible route.targetNode =
        [found] := one
    have succeeded := createRoute_answered configured fresh visible answered
    obtain ⟨front, listed, back, before, after, same⟩ :=
      listsBack (answering position) (answering position) (answering position) answered answered
        succeeded
    obtain ⟨other, next, again, created, state⟩ := createRoute_none configured succeeded
    have alike : [found] = [other] := one.symm.trans again
    cases alike
    obtain ⟨sameRouter, sameId, -, entries⟩ := RouteTable.create_eq_some created
    have content := listRoutes_ok (configured.put sameId sameRouter) (state ▸ after)
    rw [entries] at content
    exact ⟨front, listed, back, listRoutes_ok configured before, content, same⟩
  · intro inserted earlier creating following first second succeeded
    obtain ⟨found, next, one, created, state⟩ := createRoute_none configured succeeded
    obtain ⟨sameRouter, sameId, -, entries⟩ := RouteTable.create_eq_some created
    obtain ⟨front, listed, back, before, after, same⟩ :=
      inserted (creating 1).position found one
    refine ⟨front, listed, back, ?_, ?_, same⟩
    · rw [listRoutes_answered configured first, before]
      rfl
    · rw [state, listRoutes_answered (configured.put sameId sameRouter) second, entries]
      exact congrArg (Option.map Except.ok) after

/-- A created route is listed back under its node exactly when the node is named after
the first address of its instance. -/
theorem lists_back_iff (configured : Configured provider vpc table)
    (distinct : (account.ecs.instances.map InstanceAttributes.instanceId).Nodup)
    (fresh : route.destinationCIDR ∉ table.entries.map RouteEntry.destinationCidrBlock) :
    ListsBack provider account vpc route ↔
      NamedByFirstAddress provider.nodeNameType account.ecs.visible table route := by
  have ids : (account.ecs.visible.map InstanceAttributes.instanceId).Nodup := by
    rw [visible_eq]
    exact distinct.sublist ((List.take_sublist _ _).map _)
  rw [listsBack_iff_entries configured fresh]
  generalize account.ecs.visible = inventory at ids
  generalize provider.nodeNameType = nodeNameType
  constructor
  · rintro inserted rfl found one
    obtain ⟨front, listed, back, before, after, node, cidr⟩ := inserted 0 found one
    refine ⟨?_, fun entry present toInstance other member same => ?_⟩
    · have own := route_of_new_entry before after (cidr ▸ fresh)
      obtain ⟨-, target, single, name, -⟩ := (routeOfEntry_iff _ _).mp own
      have again := (byInstanceId_filter ids found.instanceId found).mpr
        ⟨mem_of_matching one, rfl⟩
      have alike : [target] = [found] := single.symm.trans again
      cases alike
      rw [← node]
      exact name
    · have returns : (routesOfEntries .privateIP inventory table.entries).isSome := by
        rw [before]
        rfl
      have its := (routesOfEntries_isSome_iff _).mp returns entry present
      have named := (routeOfEntry_isSome_iff ids entry).mp its toInstance other member same
      exact (mapInstanceToNodeName_isSome_iff other).mp named rfl
  · intro named position found one
    have its := name_of_matching one fun addresses => (named addresses found one).1
    have own := routeOfEntry_created ids (mem_of_matching one) its route.destinationCIDR
    have returns : (routesOfEntries nodeNameType inventory table.entries).isSome := by
      rw [routesOfEntries_isSome_iff]
      intro entry present
      rw [routeOfEntry_isSome_iff ids]
      intro toInstance other member same
      rw [mapInstanceToNodeName_isSome_iff]
      intro addresses
      exact (named addresses found one).2 entry present toInstance other member same
    obtain ⟨routes, listed⟩ := Option.isSome_iff_exists.mp returns
    obtain ⟨front, back, rfl, after⟩ := routesOfEntries_insert position listed own
    exact ⟨front, _, back, listed, after, rfl, rfl⟩

end CreatedRoute

theorem lists_back_iff_sample :
    Configured addressed oneTable oneRoute ∧
    (ListsBack addressed twoAddresses oneTable ⟨"", "10.0.0.1", "172.16.1.0/24"⟩ ↔
      NamedByFirstAddress .privateIP twoAddresses.ecs.visible oneRoute
        ⟨"", "10.0.0.1", "172.16.1.0/24"⟩) :=
  ⟨oneTable_configured,
    lists_back_iff oneTable_configured (by decide) (by decide)⟩

/-- A node is named by the second address of its instance; its new route is listed
under the first one. -/
theorem second_address_lost :
    let route : Route := ⟨"", "10.0.1.1", "172.16.1.0/24"⟩
    let creation := (createRoute addressed route).run Network.answer (answering 0)
      (twoAddresses, oneTable)
    creation.outcome = some none ∧
    ((listRoutes addressed).run Network.answer (answering 0) creation.state).outcome =
      some (.ok [⟨"", "10.0.0.1", "172.16.1.0/24"⟩, ⟨"", "10.0.0.2", "172.16.0.0/24"⟩]) ∧
    ¬ListsBack addressed twoAddresses oneTable route := by
  refine ⟨rfl, rfl, fun listsBack => ?_⟩
  obtain ⟨front, listed, back, -, after, node, -⟩ :=
    listsBack (answering 0) (answering 0) (answering 0) (answered_answering 0)
      (answered_answering 0) rfl
  have whole : [⟨"", "10.0.0.1", "172.16.1.0/24"⟩, ⟨"", "10.0.0.2", "172.16.0.0/24"⟩] =
      front ++ listed :: back := Except.ok.inj (Option.some.inj after)
  have member : listed ∈ front ++ listed :: back := by simp
  rw [← whole] at member
  rcases List.mem_cons.mp member with rfl | other
  · exact absurd node (by decide)
  · rw [List.mem_singleton.mp other] at node
    exact absurd node (by decide)

end KubeAliyun.Routes
