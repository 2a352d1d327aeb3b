import KubeAliyun.Balancer.Listeners

/-!
# Synchronising a load balancer

The specifications of `EnsureLoadBalancer` and `UpdateLoadBalancer`: when one of
them reports success, the listeners and backends are the wanted ones, and in
every state on the way, whatever fails, what already matched is still there.
-/

namespace KubeAliyun.Balancer

open KubeAliyun.Cloud KubeAliyun.Remote KubeAliyun.Text KubeAliyun.Provider

def Resolved (provider : AliyunProvider) (inventory : List InstanceAttributes)
    (nodes : List String) (id : String) : Prop :=
  ∃ instances, instancesByNodeNames provider.nodeNameType inventory nodes = .ok instances ∧
    id ∈ instances.map InstanceAttributes.instanceId

theorem Resolved.mem {provider : AliyunProvider} {inventory : List InstanceAttributes}
    {nodes : List String} {id : String} {instances : List InstanceAttributes}
    (resolved : Resolved provider inventory nodes id)
    (found : instancesByNodeNames provider.nodeNameType inventory nodes =
      .ok instances) :
    id ∈ instances.map InstanceAttributes.instanceId := by
  obtain ⟨others, alsoFound, member⟩ := resolved
  rw [found] at alsoFound
  cases alsoFound
  exact member

/-- The content that an operation starts from; a missing load balancer has
none. -/
def View.content (seen : View) : Content :=
  match seen.own with
  | some balancer => balancer.content
  | none => .empty

/-- The listeners are those of the service ports and the backends those of the
nodes. -/
structure Synced (provider : AliyunProvider) (table : LowerTable) (service : KubeService)
    (nodes : List String) (inventory : List InstanceAttributes) (content : Content) :
    Prop where
  listening : Listening table service.ports content
  backends : ∃ instances,
    instancesByNodeNames provider.nodeNameType inventory nodes = .ok instances ∧
      ∀ id, id ∈ content.backends.map BackendServer.serverId ↔
        id ∈ instances.map InstanceAttributes.instanceId

section Operations

variable {name : String} {allowed : Choice → Prop} {creates : Prop}
  {balancer : Cloud.Balancer} {inventory : List InstanceAttributes}
  {table : LowerTable} {ports : List ServicePort} {resolved : String → Prop}

/-! ## Backends -/

theorem removeBackends_ensures {content : Content} (removals : List String)
    (kept : ∀ id ∈ removals, ¬ resolved id) :
    (unlessEmpty removals (removeBackendServers balancer.id removals)).Ensures
      (contract name allowed (Gentle table ports resolved balancer.content creates))
      (fun outcome after => outcome = some none → ∃ next,
        after = holding balancer inventory next ∧ next.listeners = content.listeners ∧
          ∀ id, id ∈ next.backends.map BackendServer.serverId ↔
            id ∈ content.backends.map BackendServer.serverId ∧ id ∉ removals)
      (holding balancer inventory content) := by
  unfold unlessEmpty
  split
  · rename_i empty
    exact fun _ => ⟨content, rfl, rfl, by simp [empty]⟩
  · refine invoke_ensures (permitted_own rfl) kept ?_
    rintro choice reply after - stepped
    rcases change_cases stepped with ⟨next, rfl, changed, rfl⟩ | ⟨error, rfl⟩
    · cases changed
      exact fun _ => ⟨_, rfl, rfl, content.serverIds_removeBackends removals⟩
    · exact fun impossible => nomatch impossible

theorem addBackends_ensures {content : Content} (additions : List BackendServer)
    (new : ∀ server ∈ additions,
      server.serverId ∉ balancer.content.backends.map BackendServer.serverId) :
    (unlessEmpty additions (addBackendServers balancer.id additions)).Ensures
      (contract name allowed (Gentle table ports resolved balancer.content creates))
      (fun outcome after => outcome = some none → ∃ next,
        after = holding balancer inventory next ∧ next.listeners = content.listeners ∧
          ∀ id, id ∈ next.backends.map BackendServer.serverId ↔
            id ∈ content.backends.map BackendServer.serverId ∨
              id ∈ additions.map BackendServer.serverId)
      (holding balancer inventory content) := by
  unfold unlessEmpty
  split
  · rename_i empty
    exact fun _ => ⟨content, rfl, rfl, by simp [empty]⟩
  · refine invoke_ensures (permitted_own rfl) new ?_
    rintro choice reply after - stepped
    rcases change_cases stepped with ⟨next, rfl, changed, rfl⟩ | ⟨error, rfl⟩
    · cases changed
      exact fun _ => ⟨_, rfl, content.addBackends_listeners additions,
        content.serverIds_addBackends additions⟩
    · exact fun impossible => nomatch impossible

/-- Whenever `ensureLBBackends` reports no error, the backends are the given
instances; it leaves the listeners alone. -/
theorem ensureLBBackends_ensures (order : MapOrder) {content : Content}
    {instances : List InstanceAttributes}
    (within : ∀ id, resolved id → id ∈ instances.map InstanceAttributes.instanceId)
    (sameBackends : content.backends = balancer.content.backends) :
    (ensureLBBackends order balancer.describe instances).Ensures
      (contract name allowed (Gentle table ports resolved balancer.content creates))
      (fun outcome after => outcome = some none → ∃ next,
        after = holding balancer inventory next ∧ next.listeners = content.listeners ∧
          ∀ id, id ∈ next.backends.map BackendServer.serverId ↔
            id ∈ instances.map InstanceAttributes.instanceId)
      (holding balancer inventory content) := by
  obtain ⟨missing, going⟩ := diffBackends_spec balancer.content.backends
    balancer.content.serversDistinct (expectedIds instances) []
  unfold ensureLBBackends
  simp only [Cloud.Balancer.describe]
  generalize diffBackends balancer.content.backends (expectedIds instances) [] = diff
    at missing going
  obtain ⟨expected, removals⟩ := diff
  simp only [mem_expectedIds, List.not_mem_nil, false_or] at missing going ⊢
  have added : ∀ id, id ∈ ((order.ids expected.keys).map fun id =>
      BackendServer.mk id 100).map BackendServer.serverId ↔ id ∈ expected := by
    intro id
    rw [List.map_map, AList.mem_keys, ← (order.ids_perm expected.keys).mem_iff]
    simp
  refine Prog.Ensures.bind (removeBackends_ensures removals ?_) ?_ (by simp)
  · intro id member isResolved
    exact ((going id).mp member).2 (within id isResolved)
  rintro (_ | failure) after removed
  · obtain ⟨shorter, rfl, sameListeners, shorterIds⟩ := removed rfl
    refine Prog.Ensures.bind (addBackends_ensures _ ?_) ?_ (by simp)
    · intro server member
      have inside := (added server.serverId).mp (List.mem_map_of_mem member)
      exact ((missing server.serverId).mp inside).2
    rintro (_ | failure) after grown
    · obtain ⟨next, rfl, stillListeners, nextIds⟩ := grown rfl
      refine fun _ => ⟨next, rfl, stillListeners.trans sameListeners, fun id => ?_⟩
      rw [nextIds, shorterIds, added, missing, going, sameBackends]
      tauto
    · exact fun impossible => nomatch impossible
  · exact fun impossible => nomatch impossible

end Operations

/-! ## The operations -/

section Interface

variable {allowed : Choice → Prop} {creates : Prop} {balancer : Cloud.Balancer}
  {table : LowerTable}

theorem Listening.congr {ports : List ServicePort} {content next : Content}
    (listening : Listening table ports content)
    (same : next.listeners = content.listeners) : Listening table ports next := by
  constructor
  · rw [same]
    exact listening.settled
  · rw [same]
    exact listening.running
  · rw [same]
    exact listening.readable
  · rw [same]
    exact listening.complete

/-- The calls that an operation on the service may make when it starts from a
view. -/
def Spares (provider : AliyunProvider) (table : LowerTable) (service : KubeService)
    (nodes : List String) (seen : View) (creates : Prop) : Call → Prop :=
  Gentle table service.ports (Resolved provider seen.inventory nodes) seen.content creates

/-- A returned status is that of the synchronised load balancer left under the
name, and comes without an error. -/
def Ensured (provider : AliyunProvider) (table : LowerTable) (service : KubeService)
    (nodes : List String) (seen : View)
    (outcome : Option (Option LoadBalancerStatus × Option GoError)) (after : View) : Prop :=
  ∀ status error, outcome = some (some status, error) →
    error = none ∧ unsupported service = none ∧ ∃ balancer,
      after = ⟨some balancer, seen.inventory⟩ ∧ status = ⟨[balancer.address]⟩ ∧
      Synced provider table service nodes seen.inventory balancer.content

/-- Without a status there is nothing to ensure. -/
theorem ensured_none (provider : AliyunProvider) (table : LowerTable)
    (service : KubeService) (nodes : List String) (seen : View) (error : Option GoError)
    (after : View) :
    Ensured provider table service nodes seen (some (none, error)) after := by
  intro status other impossible
  cases impossible

/-- The two synchronisations after each other, with the instances at hand. -/
theorem syncLoadBalancer_ensures {provider : AliyunProvider} (order : MapOrder)
    {service : KubeService} {nodes : List String} {seen : View}
    {instances : List InstanceAttributes} (supported : unsupported service = none)
    (found : instancesByNodeNames provider.nodeNameType seen.inventory nodes =
      .ok instances)
    (sameContent : seen.content = balancer.content) :
    (syncLoadBalancer table order service instances balancer.describe).Ensures
      (contract (getLoadBalancerName service) allowed
        (Spares provider table service nodes seen creates))
      (Ensured provider table service nodes seen) ⟨some balancer, seen.inventory⟩ := by
  unfold syncLoadBalancer Spares
  rw [sameContent]
  refine Prog.Ensures.bind (ensureLBListeners_ensures order _) ?_ ?_
  · rintro (_ | failure) after listened
    · obtain ⟨content, rfl, sameBackends, listening⟩ := listened rfl
      refine Prog.Ensures.bind (ensureLBBackends_ensures order
        (fun id resolved => Resolved.mem resolved found) sameBackends) ?_ ?_
      · rintro (_ | failure) after served
        · obtain ⟨next, rfl, sameListeners, backends⟩ := served rfl
          intro status error equal
          cases equal
          exact ⟨rfl, supported, { balancer with content := next }, rfl, rfl,
            listening.congr sameListeners, instances, found, backends⟩
        · exact ensured_none _ _ _ _ _ _ _
      · intro after _ status error impossible
        cases impossible
    · exact ensured_none _ _ _ _ _ _ _
  · intro after _ status error impossible
    cases impossible

/-- A load balancer of the own name may be created where there is none. -/
theorem permitted_create {provider : AliyunProvider} {service : KubeService}
    (inventory : List InstanceAttributes) :
    Permitted (getLoadBalancerName service) ⟨none, inventory⟩
      (.slb (.createLoadBalancer (createArgs provider service))) := by
  refine ⟨?_, ?_⟩
  · intro id impossible
    cases impossible
  · intro args same
    cases same
    exact ⟨createArgs_name provider service, rfl⟩

/-- A load balancer is created and then looked up until it is seen. -/
theorem createAndSync_ensures {provider : AliyunProvider} (order : MapOrder)
    {service : KubeService} {nodes : List String} {inventory : List InstanceAttributes}
    {instances : List InstanceAttributes} (supported : unsupported service = none)
    (found : instancesByNodeNames provider.nodeNameType inventory nodes = .ok instances) :
    (createAndSync provider table order service instances).Ensures
      (contract (getLoadBalancerName service) allowed
        (Spares provider table service nodes ⟨none, inventory⟩ True))
      (Ensured provider table service nodes ⟨none, inventory⟩) ⟨none, inventory⟩ := by
  refine invoke_bind_ensures (permitted_create inventory) trivial ?_
  rintro choice reply after - ⟨id, stepped⟩
  rcases choice.commit_cases (⟨none, inventory⟩ : View) _ with
    ⟨next, made, -, same⟩ | ⟨next, -, -, same⟩ | same
  · rw [same] at stepped
    cases stepped
    cases made
    refine Prog.Ensures.bind (awaitLoadBalancer_ensures (fun _ => gentle_of_reads _)
      provider rfl (.ok none) 3) ?_ ?_
    · rintro lookup after ⟨rfl, whole⟩
      cases lookup with
      | error failure => exact ensured_none _ _ _ _ _ _ _
      | ok listed =>
          cases listed with
          | none => exact ensured_none _ _ _ _ _ _ _
          | some lb =>
              have listed := (whole lb rfl).resolve_left (by simp)
              subst listed
              exact syncLoadBalancer_ensures order supported found rfl
    · intro after _ status error impossible
      cases impossible
  · rw [same] at stepped
    cases stepped
    exact ensured_none _ _ _ _ _ _ _
  · rw [same] at stepped
    cases stepped
    exact ensured_none _ _ _ _ _ _ _

/-- `EnsureLoadBalancer` returns a status only for a synchronised load balancer. -/
theorem ensureLoadBalancer_ensures (provider : AliyunProvider) (order : MapOrder)
    (service : KubeService) (nodes : List String) (seen : View) :
    (ensureLoadBalancer provider table order service nodes).Ensures
      (contract (getLoadBalancerName service) allowed
        (Spares provider table service nodes seen True))
      (Ensured provider table service nodes seen) seen := by
  have panics : ∀ after, Ensured provider table service nodes seen none after := by
    intro after status error impossible
    cases impossible
  obtain ⟨own, inventory⟩ := seen
  unfold ensureLoadBalancer
  cases supported : unsupported service with
  | some failure => exact ensured_none _ _ _ _ _ _ _
  | none =>
      refine Prog.Ensures.bind (getInstancesByNodes_ensures (fun _ => gentle_of_reads _)
        provider nodes _) ?_ (fun after _ => panics after)
      rintro answer after ⟨rfl, reply, same, resolve, -⟩
      cases same
      cases answer with
      | error failure => exact ensured_none _ _ _ _ _ _ _
      | ok instances =>
          have found := resolve instances rfl
          refine Prog.Ensures.bind (getLoadBalancer_ensures (fun _ => gentle_of_reads _)
            provider _) ?_ (fun final _ => panics final)
          rintro lookup after ⟨rfl, reply, same, whole, -⟩
          cases same
          match lookup, whole with
          | .error failure, _ => exact ensured_none _ _ _ _ _ _ _
          | .ok listed, whole =>
              have listedIs := whole listed rfl
              cases own with
              | none =>
                  subst listedIs
                  exact createAndSync_ensures order supported found
              | some balancer =>
                  subst listedIs
                  exact syncLoadBalancer_ensures order supported found rfl

/-- `UpdateLoadBalancer` succeeds only with the load balancer synchronised. -/
theorem updateLoadBalancer_ensures (provider : AliyunProvider) (order : MapOrder)
    (service : KubeService) (nodes : List String) (seen : View) :
    (updateLoadBalancer provider table order service nodes).Ensures
      (contract (getLoadBalancerName service) allowed
        (Spares provider table service nodes seen False))
      (fun outcome after => outcome = some none → ∃ balancer,
        after = ⟨some balancer, seen.inventory⟩ ∧
          Synced provider table service nodes seen.inventory balancer.content) seen := by
  obtain ⟨own, inventory⟩ := seen
  unfold updateLoadBalancer
  refine Prog.Ensures.bind (getLoadBalancer_ensures (fun _ => gentle_of_reads _)
    provider _) ?_ (by simp)
  rintro lookup after ⟨rfl, reply, same, whole, -⟩
  cases same
  match lookup, whole with
  | .error failure, _ => exact fun impossible => nomatch impossible
  | .ok listed, whole =>
      have listedIs := whole listed rfl
      cases own with
      | none =>
          subst listedIs
          exact fun impossible => nomatch impossible
      | some balancer =>
          subst listedIs
          refine Prog.Ensures.bind (ensureLBListeners_ensures order _) ?_ (by simp)
          rintro (_ | failure) after listened
          · obtain ⟨content, rfl, sameBackends, listening⟩ := listened rfl
            refine Prog.Ensures.bind (getInstancesByNodes_ensures
              (fun _ => gentle_of_reads _) provider nodes _) ?_ (by simp)
            rintro answer after ⟨rfl, reply, same, resolve, -⟩
            cases same
            cases answer with
            | error failure => exact fun impossible => nomatch impossible
            | ok instances =>
                have found := resolve instances rfl
                refine (ensureLBBackends_ensures order
                  (fun id resolved => Resolved.mem resolved found) sameBackends).mono ?_
                intro outcome after served succeeded
                obtain ⟨next, rfl, sameListeners, backends⟩ := served succeeded
                exact ⟨{ balancer with content := next }, rfl,
                  listening.congr sameListeners, instances, found, backends⟩
          · exact fun impossible => nomatch impossible

end Interface

end KubeAliyun.Balancer
