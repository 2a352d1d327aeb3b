import KubeAliyun.Cloud.Wire
import KubeAliyun.Text.Strings
import KubeAliyun.Util.Keyed

/-!
# The load balancers of the region

A load balancer has an identity, assigned by the service, and a content: its
listeners, keyed by port number, and its backends, keyed by server id.  Calls
name a load balancer by id; only `DescribeLoadBalancers` shows names.
-/

namespace KubeAliyun.Cloud

/-! ## The content of one load balancer -/

structure Listener where
  port : Int
  protocol : String
  backendServerPort : Int
  status : ListenerStatus
  settings : ListenerSettings
deriving DecidableEq, Repr

def PortNumber (number : Int) : Prop := 1 ≤ number ∧ number ≤ 65535

instance (number : Int) : Decidable (PortNumber number) :=
  inferInstanceAs (Decidable (1 ≤ number ∧ number ≤ 65535))

def Listener.Valid (listener : Listener) : Prop :=
  PortNumber listener.port ∧ PortNumber listener.backendServerPort

instance (listener : Listener) : Decidable listener.Valid :=
  inferInstanceAs (Decidable (PortNumber listener.port ∧ _))

/-- Valid listeners with distinct ports and backends with distinct servers. -/
structure Content where
  listeners : List Listener
  backends : List BackendServer
  listenersValid : ∀ listener ∈ listeners, listener.Valid
  portsDistinct : (listeners.map Listener.port).Nodup
  serversDistinct : (backends.map BackendServer.serverId).Nodup

namespace Content

def empty : Content := ⟨[], [], by simp, List.nodup_nil, List.nodup_nil⟩

def listener? (content : Content) (port : Int) : Option Listener :=
  content.listeners.find? fun listener => listener.port = port

theorem listener?_eq_some_iff (content : Content) (port : Int) (listener : Listener) :
    content.listener? port = some listener ↔
      listener ∈ content.listeners ∧ listener.port = port :=
  Util.Keyed.find_eq_some_iff content.portsDistinct port listener

/-- Two listeners of one content on the same port are the same listener. -/
theorem listener_unique (content : Content) {first second : Listener}
    (one : first ∈ content.listeners) (two : second ∈ content.listeners)
    (same : first.port = second.port) : first = second := by
  have left := (content.listener?_eq_some_iff second.port first).mpr ⟨one, same⟩
  have right := (content.listener?_eq_some_iff second.port second).mpr ⟨two, rfl⟩
  exact Option.some.inj (left.symm.trans right)

def createListener (content : Content) (listener : Listener) : Option Content :=
  if accepted : listener.port ∉ content.listeners.map Listener.port ∧
      listener.Valid then some
    { content with
      listeners := content.listeners ++ [listener]
      listenersValid := by
        intro other member
        rcases List.mem_append.mp member with old | new
        · exact content.listenersValid other old
        · rw [List.mem_singleton.mp new]
          exact accepted.2
      portsDistinct := by
        rw [List.map_append]
        refine List.Nodup.append content.portsDistinct (by simp) ?_
        simpa [List.disjoint_singleton] using accepted.1 }
  else none

def deleteListener (content : Content) (port : Int) : Option Content :=
  if port ∈ content.listeners.map Listener.port then some
    { content with
      listeners := content.listeners.filter fun listener => listener.port ≠ port
      listenersValid := fun listener member =>
        content.listenersValid listener (List.mem_of_mem_filter member)
      portsDistinct :=
        content.portsDistinct.sublist (List.filter_sublist.map _) }
  else none

def startListener (content : Content) (port : Int) (status : ListenerStatus) :
    Option Content :=
  if port ∈ content.listeners.map Listener.port then some
    { content with
      listeners := content.listeners.map fun listener =>
        if listener.port = port then { listener with status } else listener
      listenersValid := by
        intro listener member
        obtain ⟨old, present, rfl⟩ := List.mem_map.mp member
        have valid := content.listenersValid old present
        split <;> exact valid
      portsDistinct := by
        have same : Listener.port ∘ (fun listener : Listener =>
            if listener.port = port then { listener with status } else listener) =
            Listener.port := by
          funext listener
          simp only [Function.comp_apply]
          split <;> rfl
        rw [List.map_map, same]
        exact content.portsDistinct }
  else none

/-- One backend is added; an entry it replaces is dropped. -/
def addBackend (content : Content) (server : BackendServer) : Content :=
  { content with
    backends :=
      (content.backends.filter fun old => old.serverId ≠ server.serverId) ++ [server]
    serversDistinct := by
      rw [List.map_append]
      refine List.Nodup.append
        (content.serversDistinct.sublist (List.filter_sublist.map _)) (by simp) ?_
      simp [List.disjoint_singleton] }

def addBackends (content : Content) (servers : List BackendServer) : Content :=
  servers.foldl addBackend content

def removeBackends (content : Content) (servers : List String) : Content :=
  { content with
    backends := content.backends.filter fun server => server.serverId ∉ servers
    serversDistinct :=
      content.serversDistinct.sublist (List.filter_sublist.map _) }

/-! What each operation leaves, port by port -/

theorem listener?_eq_none_iff (content : Content) (port : Int) :
    content.listener? port = none ↔ port ∉ content.listeners.map Listener.port :=
  Util.Keyed.find_eq_none_iff port

theorem createListener_eq_some {content next : Content} {listener : Listener}
    (created : content.createListener listener = some next) :
    content.listener? listener.port = none ∧
      next.backends = content.backends ∧
      ∀ port, next.listener? port =
        if port = listener.port then some listener else content.listener? port := by
  unfold createListener at created
  split at created
  · rename_i accepted
    cases created
    have free := (content.listener?_eq_none_iff listener.port).mpr accepted.1
    refine ⟨free, rfl, fun port => ?_⟩
    unfold listener? at free ⊢
    simp only [List.find?_append]
    by_cases same : port = listener.port
    · subst same
      simp [free]
    · have apart : listener.port ≠ port := fun equal => same equal.symm
      simp [same, apart]
  · cases created

theorem deleteListener_eq_some {content next : Content} {port : Int}
    (deleted : content.deleteListener port = some next) :
    next.backends = content.backends ∧
      ∀ other, next.listener? other =
        if other = port then none else content.listener? other := by
  unfold deleteListener at deleted
  split at deleted
  · cases deleted
    refine ⟨rfl, fun other => ?_⟩
    unfold listener?
    simp only [List.find?_filter]
    by_cases same : other = port
    · subst same
      simp
    · rw [if_neg same]
      congr 1
      funext listener
      by_cases here : listener.port = other
      · simp [here, same]
      · simp [here]
  · cases deleted

theorem startListener_eq_some {content next : Content} {port : Int}
    {status : ListenerStatus} (started : content.startListener port status = some next) :
    next.backends = content.backends ∧
      ∀ other, next.listener? other =
        (content.listener? other).map fun listener =>
          if other = port then { listener with status } else listener := by
  unfold startListener at started
  split at started
  · cases started
    refine ⟨rfl, fun other => ?_⟩
    have keeps (listener : Listener) :
        (if listener.port = port then { listener with status } else listener).port =
          listener.port := by
      split <;> rfl
    refine (Util.Keyed.find_map keeps other).trans ?_
    change (content.listener? other).map _ = _
    cases found : content.listener? other with
    | none => rfl
    | some listener => simp [((content.listener?_eq_some_iff other listener).mp found).2]
  · cases started

@[simp] theorem addBackends_listeners (content : Content)
    (servers : List BackendServer) :
    (content.addBackends servers).listeners = content.listeners := by
  unfold addBackends
  induction servers generalizing content with
  | nil => rfl
  | cons server rest ih =>
      rw [List.foldl_cons, ih]
      rfl

/-- A backend is kept by an addition that does not name its server. -/
theorem mem_addBackends_of_not_named {content : Content}
    {servers : List BackendServer} {server : BackendServer}
    (present : server ∈ content.backends)
    (unnamed : server.serverId ∉ servers.map BackendServer.serverId) :
    server ∈ (content.addBackends servers).backends := by
  unfold addBackends
  induction servers generalizing content with
  | nil => exact present
  | cons head rest ih =>
      simp only [List.map_cons, List.mem_cons, not_or] at unnamed
      rw [List.foldl_cons]
      apply ih _ unnamed.2
      simp [addBackend, present, unnamed.1]

theorem serverIds_addBackends (content : Content) (servers : List BackendServer)
    (serverId : String) :
    serverId ∈ (content.addBackends servers).backends.map BackendServer.serverId ↔
      serverId ∈ content.backends.map BackendServer.serverId ∨
        serverId ∈ servers.map BackendServer.serverId := by
  unfold addBackends
  induction servers generalizing content with
  | nil => simp
  | cons head rest ih =>
      rw [List.foldl_cons, ih]
      have one : serverId ∈ (content.addBackend head).backends.map
          BackendServer.serverId ↔
          serverId ∈ content.backends.map BackendServer.serverId ∨
            serverId = head.serverId := by
        simp only [addBackend, List.map_append, List.mem_append, List.map_cons,
          List.map_nil, List.mem_singleton, List.mem_map, List.mem_filter,
          decide_eq_true_eq]
        constructor
        · rintro (⟨old, ⟨member, _⟩, same⟩ | same)
          · exact Or.inl ⟨old, member, same⟩
          · exact Or.inr same
        · rintro (⟨old, member, same⟩ | same)
          · by_cases equal : serverId = head.serverId
            · exact Or.inr equal
            · exact Or.inl ⟨old, ⟨member, fun clash => equal (same.symm.trans clash)⟩, same⟩
          · exact Or.inr same
      rw [one, List.map_cons, List.mem_cons, or_assoc]

theorem serverIds_removeBackends (content : Content) (servers : List String)
    (serverId : String) :
    serverId ∈ (content.removeBackends servers).backends.map BackendServer.serverId ↔
      serverId ∈ content.backends.map BackendServer.serverId ∧ serverId ∉ servers := by
  simp only [removeBackends, List.mem_map, List.mem_filter, decide_eq_true_eq]
  constructor
  · rintro ⟨server, ⟨member, kept⟩, same⟩
    exact ⟨⟨server, member, same⟩, same ▸ kept⟩
  · rintro ⟨⟨server, member, same⟩, kept⟩
    exact ⟨server, ⟨member, same.symm ▸ kept⟩, same⟩

end Content

/-! ## The load balancers -/

structure Balancer where
  id : String
  name : String
  address : String
  content : Content

def Balancer.describe (balancer : Balancer) : LoadBalancer where
  loadBalancerId := balancer.id
  loadBalancerName := balancer.name
  address := balancer.address
  listenerPortsAndProtocol := balancer.content.listeners.map fun listener =>
    ⟨listener.port, listener.protocol⟩
  backendServers := balancer.content.backends

structure Slb where
  balancers : List Balancer
  idsDistinct : (balancers.map Balancer.id).Nodup

/-- An id that is not in use: the proposed one, or one longer than all others. -/
def freshId (used : List String) (proposed : String) : String :=
  if proposed ∈ used then proposed ++ "-" ++ used.foldr (· ++ ·) "" else proposed

theorem length_le_foldr_append {used : List String} {id : String}
    (member : id ∈ used) : id.length ≤ (used.foldr (· ++ ·) "").length := by
  induction used with
  | nil => cases member
  | cons head rest ih =>
      rw [List.foldr_cons, String.length_append]
      rcases List.mem_cons.mp member with rfl | later
      · omega
      · have bound := ih later
        omega

theorem freshId_not_mem (used : List String) (proposed : String) :
    freshId used proposed ∉ used := by
  unfold freshId
  split
  · intro member
    have bound := length_le_foldr_append member
    simp only [String.length_append] at bound
    have one : ("-" : String).length = 1 := rfl
    omega
  · assumption

namespace Slb

/-- The first load balancer with a name, which is what the provider looks for. -/
def named (slb : Slb) (name : String) : Option Balancer :=
  slb.balancers.find? fun balancer => balancer.name = name

def byId (slb : Slb) (id : String) : Option Balancer :=
  slb.balancers.find? fun balancer => balancer.id = id

def put (slb : Slb) (id : String) (content : Content) : Slb where
  balancers := slb.balancers.map fun balancer =>
    if balancer.id = id then { balancer with content } else balancer
  idsDistinct := by
    have same : Balancer.id ∘ (fun balancer : Balancer =>
        if balancer.id = id then { balancer with content } else balancer) =
        Balancer.id := by
      funext balancer
      simp only [Function.comp_apply]
      split <;> rfl
    rw [List.map_map, same]
    exact slb.idsDistinct

def create (slb : Slb) (proposed name address : String) : Slb where
  balancers := slb.balancers ++
    [⟨freshId (slb.balancers.map Balancer.id) proposed, name, address, .empty⟩]
  idsDistinct := by
    rw [List.map_append]
    refine List.Nodup.append slb.idsDistinct (by simp) ?_
    simpa [List.disjoint_singleton] using
      freshId_not_mem (slb.balancers.map Balancer.id) proposed

def delete (slb : Slb) (id : String) : Slb where
  balancers := slb.balancers.filter fun balancer => balancer.id ≠ id
  idsDistinct := slb.idsDistinct.sublist (List.filter_sublist.map _)

def modify (slb : Slb) (id : String) (change : Content → Option Content) :
    Option Slb :=
  (slb.byId id).bind fun balancer => (change balancer.content).map (slb.put id)

def answer (choice : Choice) (slb : Slb) :
    (request : SlbCall) → SlbReply request × Slb
  | .describeLoadBalancers _ =>
      (choice.read (some (slb.balancers.map Balancer.describe)), slb)
  | .describeLoadBalancerAttribute id =>
      (choice.read ((slb.byId id).map Balancer.describe), slb)
  | .createLoadBalancer args =>
      choice.commit slb (some
        (slb.create choice.loadBalancerId args.loadBalancerName choice.address))
  | .deleteLoadBalancer id =>
      choice.commit slb ((slb.byId id).map fun _ => slb.delete id)
  | .describeListenerAttribute transport id port =>
      (choice.read ((slb.byId id).bind fun balancer =>
        (balancer.content.listener? port).bind fun listener =>
          if Text.toLower .identity listener.protocol = transport.text then
            some ⟨listener.backendServerPort, listener.status⟩
          else none), slb)
  | .createListener transport args =>
      choice.commit slb (slb.modify args.loadBalancerId fun content =>
        content.createListener ⟨args.listenerPort, transport.text,
          args.backendServerPort, choice.createdStatus, args.settings⟩)
  | .deleteListener id port =>
      choice.commit slb (slb.modify id fun content => content.deleteListener port)
  | .startListener id port =>
      choice.commit slb (slb.modify id fun content =>
        content.startListener port
          (if choice.startsRunning then .running else .starting))
  | .addBackendServers id servers =>
      choice.commit slb (slb.modify id fun content =>
        some (content.addBackends servers))
  | .removeBackendServers id servers =>
      choice.commit slb (slb.modify id fun content =>
        some (content.removeBackends servers))

end Slb

end KubeAliyun.Cloud
