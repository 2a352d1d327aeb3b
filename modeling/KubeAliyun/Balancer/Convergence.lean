import KubeAliyun.Balancer.Sync

/-!
# Convergence

What a successful `EnsureLoadBalancer` or `UpdateLoadBalancer` leaves, for every
run of the account: the listeners and backends that the service and its nodes
ask for, whatever was there before and whatever failed on the way.
-/

namespace KubeAliyun.Balancer

open KubeAliyun.Cloud KubeAliyun.Remote KubeAliyun.Text KubeAliyun.Provider

/-- One listener for every wanted port and protocol, forwarding to its node port
and not stopped, no others, and a backend for every id. -/
structure Converged (table : LowerTable) (ports : List ServicePort) (ids : List String)
    (content : Content) : Prop where
  listeners : ∀ listener ∈ content.listeners, ∃ sp,
    wanted table ports listener.port (toLower table listener.protocol) = some sp ∧
      listener.backendServerPort = sp.nodePort.toInt ∧ listener.status ≠ .stopped
  single : ∀ port protocol, (wanted table ports port protocol).isSome →
    ∃! listener, listener ∈ content.listeners ∧ listener.port = port ∧
      toLower table listener.protocol = protocol
  backends : ∀ id, id ∈ content.backends.map BackendServer.serverId ↔ id ∈ ids

/-- The load balancer of the service has converged in an account, for the
instances its nodes resolve to in an inventory. -/
def LeftConverged (provider : AliyunProvider) (table : LowerTable) (service : KubeService)
    (nodes : List String) (inventory : List InstanceAttributes) (account : Account) : Prop :=
  ∃ balancer instances,
    account.slb.named (getLoadBalancerName service) = some balancer ∧
      instancesByNodeNames provider.nodeNameType inventory nodes = .ok instances ∧
      Converged table service.ports (instances.map InstanceAttributes.instanceId)
        balancer.content

theorem Listening.single {table : LowerTable} {ports : List ServicePort}
    {content : Content} (listening : Listening table ports content) (port : Int)
    (protocol : String) (wish : (wanted table ports port protocol).isSome) :
    ∃! listener, listener ∈ content.listeners ∧ listener.port = port ∧
      toLower table listener.protocol = protocol := by
  obtain ⟨sp, found⟩ := Option.isSome_iff_exists.mp wish
  obtain ⟨listener, member, samePort, sameProtocol⟩ :=
    listening.complete port protocol sp found
  refine ⟨listener, ⟨member, samePort, sameProtocol⟩, ?_⟩
  rintro other ⟨present, otherPort, -⟩
  exact content.listener_unique present member (otherPort.trans samePort.symm)

theorem Synced.leftConverged {provider : AliyunProvider} {table : LowerTable}
    {service : KubeService} {nodes : List String} {inventory : List InstanceAttributes}
    {account : Account} {balancer : Cloud.Balancer}
    (own : account.slb.named (getLoadBalancerName service) = some balancer)
    (synced : Synced provider table service nodes inventory balancer.content) :
    LeftConverged provider table service nodes inventory account := by
  obtain ⟨instances, found, backends⟩ := synced.backends
  refine ⟨balancer, instances, own, found, ?_, synced.listening.single, backends⟩
  intro listener member
  obtain ⟨sp, wish, backendPort⟩ := synced.listening.settled listener member
  exact ⟨sp, wish, backendPort, synced.listening.running listener member⟩

/-- The account refines the contract of a synchronisation in every state. -/
theorem spares_refines (provider : AliyunProvider) (table : LowerTable)
    (service : KubeService) (nodes : List String) (seen : View) (creates : Prop)
    (allowed : Choice → Prop) :
    Refines Account.answer (view (getLoadBalancerName service)) allowed (fun _ => True)
      (contract (getLoadBalancerName service) allowed
        (Spares provider table service nodes seen creates)) := by
  refine contract_refines (fun _ _ _ => trivial) ?_
  rintro ⟨id, impossible⟩
  exact impossible.elim

section Runs

variable (provider : AliyunProvider) (table : LowerTable) (order : MapOrder)
  (service : KubeService) (nodes : List String) (choices : Nat → Choice)
  (account : Account)

/-- What every run of `EnsureLoadBalancer` ends with. -/
theorem ensureLoadBalancer_run :
    let run := (ensureLoadBalancer provider table order service nodes).run
      Account.answer choices account
    Ensured provider table service nodes (view (getLoadBalancerName service) account)
      run.outcome (view (getLoadBalancerName service) run.state) :=
  ((ensureLoadBalancer_ensures provider order service nodes _).run
    (spares_refines provider table service nodes _ True fun _ => True)
    (fun _ => trivial) trivial).2.1

/-- What every successful run of `UpdateLoadBalancer` ends with. -/
theorem updateLoadBalancer_run :
    let run := (updateLoadBalancer provider table order service nodes).run
      Account.answer choices account
    run.outcome = some none → ∃ balancer,
      view (getLoadBalancerName service) run.state =
          ⟨some balancer, account.ecs.visible⟩ ∧
        Synced provider table service nodes account.ecs.visible balancer.content :=
  ((updateLoadBalancer_ensures provider order service nodes
      (view (getLoadBalancerName service) account)).run
    (spares_refines provider table service nodes _ False fun _ => True)
    (fun _ => trivial) trivial).2.1

/-- From every state, for every order of the maps and every pattern of faults, a
reported success means that the load balancer has converged. -/
theorem success_converges :
    (∀ status,
      ((ensureLoadBalancer provider table order service nodes).run Account.answer choices
          account).outcome = some (some status, none) →
        LeftConverged provider table service nodes account.ecs.visible
          ((ensureLoadBalancer provider table order service nodes).run Account.answer
            choices account).state) ∧
      (((updateLoadBalancer provider table order service nodes).run Account.answer choices
          account).outcome = some none →
        LeftConverged provider table service nodes account.ecs.visible
          ((updateLoadBalancer provider table order service nodes).run Account.answer
            choices account).state) := by
  constructor
  · intro status returned
    obtain ⟨-, -, balancer, final, -, synced⟩ :=
      ensureLoadBalancer_run provider table order service nodes choices account status none
        returned
    exact synced.leftConverged (congrArg View.own final)
  · intro returned
    obtain ⟨balancer, final, synced⟩ :=
      updateLoadBalancer_run provider table order service nodes choices account returned
    exact synced.leftConverged (congrArg View.own final)

end Runs

/-! A small region: one load balancer with a stopped listener to keep, a listener
and a backend to remove, and room for one more listener. -/

def sampleProvider : AliyunProvider :=
  ⟨"key", "secret", "cn-hangzhou", "vpc-1", "i-1", "node-a", .hostname⟩

def sampleService : KubeService :=
  ⟨"1-2", none, "None", "", [⟨"TCP", 80, 30080⟩, ⟨"UDP", 53, 30053⟩]⟩

def sampleContent : Content where
  listeners := [⟨80, "tcp", 30080, .stopped, {}⟩, ⟨443, "tcp", 30443, .running, {}⟩]
  backends := [⟨"i-1", 7⟩, ⟨"i-9", 100⟩]
  listenersValid := by decide
  portsDistinct := by decide
  serversDistinct := by decide

def sampleEcs : Ecs where
  instances := [⟨"i-1", "node-a", ["10.0.0.1"]⟩, ⟨"i-2", "node-b", ["10.0.0.2"]⟩]
  disks := [⟨"d-1", .inUse, "i-2", "/dev/xvdb"⟩]
  defaultPageSize := 10
  idsDistinct := by decide
  defaultPageSize_pos := by decide

def sampleAccount : Account where
  ecs := sampleEcs
  slb := ⟨[⟨"lb-1", "a12", "1.2.3.4", sampleContent⟩], by decide⟩

def sampleChoices : Nat → Choice := fun _ =>
  ⟨.served, ⟨"r", 400, "Throttling", "try again"⟩, fun _ => true, "/dev/xvdc", "lb-2",
    "5.6.7.8", .stopped, true⟩

theorem success_converges_sample :
    ((ensureLoadBalancer sampleProvider .identity .stored sampleService ["node-a"]).run
        Account.answer sampleChoices sampleAccount).outcome =
      some (some ⟨["1.2.3.4"]⟩, none) ∧
    LeftConverged sampleProvider .identity sampleService ["node-a"]
      sampleAccount.ecs.visible
      ((ensureLoadBalancer sampleProvider .identity .stored sampleService ["node-a"]).run
        Account.answer sampleChoices sampleAccount).state := by
  have returned : ((ensureLoadBalancer sampleProvider .identity .stored sampleService
      ["node-a"]).run Account.answer sampleChoices sampleAccount).outcome =
      some (some ⟨["1.2.3.4"]⟩, none) := by
    decide
  exact ⟨returned, (success_converges sampleProvider .identity .stored sampleService
    ["node-a"] sampleChoices sampleAccount).1 _ returned⟩

end KubeAliyun.Balancer
