import KubeAliyun.Balancer.Compare
import KubeAliyun.Balancer.Faults
import KubeAliyun.Remote.Exact
import KubeAliyun.Volume.Reads

/-!
# Nodes that cannot be resolved

`EnsureLoadBalancer` resolves the nodes before it touches a load balancer.
`UpdateLoadBalancer` synchronises the listeners first, so a failed resolution leaves
the load balancer alone only when its listeners had nothing to be done.
-/

namespace KubeAliyun.Balancer

open KubeAliyun.Cloud KubeAliyun.Provider KubeAliyun.Remote KubeAliyun.Text KubeAliyun.Util

/-! ## Failing resolutions -/

/-- The account, with the inventory denied to the provider or not. -/
def denying (denied : Option ApiError) : Service Choice Account Call Reply :=
  fun choice account request =>
    match denied, request with
    | some failure, .ecs (.describeInstances _) => (.error failure, account)
    | _, request => Account.answer choice account request

theorem denying_slb (denied : Option ApiError) (choice : Choice) (account : Account)
    (request : SlbCall) :
    denying denied choice account (.slb request) =
      Account.answer choice account (.slb request) := by
  cases denied with
  | none => rfl
  | some failure => rfl

/-- The nodes are not resolved: the inventory is denied, or a node has no single
instance in it. -/
def Unresolvable (provider : AliyunProvider) (nodes : List String) (account : Account)
    (denied : Option ApiError) : Prop :=
  denied ≠ none ∨ ∃ failure,
    instancesByNodeNames provider.nodeNameType account.ecs.visible nodes = .error failure

section Contracts

variable {denied : Option ApiError} {allowed : Choice → Prop}

abbrev deniedContract (denied : Option ApiError) (allowed : Choice → Prop) :
    Contract Account Call Reply :=
  .ofService (denying denied) allowed

/-- Whatever the service answers, the nodes are not resolved, and no load balancer is
touched. -/
theorem getInstancesByNodes_unresolved {provider : AliyunProvider} {nodes : List String}
    {account : Account} (unresolvable : Unresolvable provider nodes account denied) :
    (getInstancesByNodes provider nodes).Ensures (deniedContract denied allowed)
      (fun outcome after => after.slb = account.slb ∧
        ∃ failure, outcome = some (.error failure)) account := by
  apply Prog.Ensures.call_ofService
  intro choice permitted
  cases denied with
  | some failure => exact ⟨_, _, rfl, rfl, _, rfl⟩
  | none =>
      obtain ⟨failure, unresolved⟩ := unresolvable.resolve_left (by simp)
      have answer := Volume.answer_instances choice account
        ⟨provider.region, provider.vpcID, ⟨0, 0⟩⟩
      by_cases served : choice.fate = .served
      · rw [(Choice.read_ok_iff _ _ _).mpr ⟨served, rfl⟩] at answer
        refine ⟨_, _, answer, rfl, failure, ?_⟩
        exact congrArg some unresolved
      · rw [Choice.read_unserved _ _ served] at answer
        exact ⟨_, _, answer, rfl, _, rfl⟩

/-! ## Reading the load balancer -/

structure Found (slb : Slb) (name : String) (allowed : Choice → Prop)
    (outcome : Option (Except ApiError (Option LoadBalancer))) : Prop where
  returned : outcome ≠ none
  described : ∀ lb, outcome = some (.ok (some lb)) →
    ∃ balancer, slb.named name = some balancer ∧ lb = balancer.describe
  prompt : Prompt allowed → ∀ balancer, slb.named name = some balancer →
    outcome = some (.ok (some balancer.describe))

/-- The list of descriptions has the name where the list of load balancers has it. -/
theorem find_described (slb : Slb) (name : String) :
    (slb.balancers.map Balancer.describe).find?
        (fun lb => decide (lb.loadBalancerName = name)) =
      (slb.named name).map Balancer.describe := by
  rw [List.find?_map]
  rfl

/-- A read that the service does not serve ends the lookup. -/
theorem Found.failed {slb : Slb} {name : String} {choice : Choice} (permitted : allowed choice)
    (unserved : choice.fate ≠ .served) :
    Found slb name allowed (some (.error choice.error)) where
  returned := by simp
  described := by simp
  prompt := fun prompt => absurd (prompt choice permitted) unserved

theorem getLoadBalancer_found (provider : AliyunProvider) (name : String)
    (account : Account) :
    (getLoadBalancer provider name).Ensures (deniedContract denied allowed)
      (fun outcome after => after = account ∧ Found account.slb name allowed outcome)
      account := by
  apply Prog.Ensures.call_ofService
  intro choice permitted
  rw [denying_slb]
  have listed : Account.answer choice account (.slb (.describeLoadBalancers provider.region)) =
      (choice.read (some (account.slb.balancers.map Balancer.describe)), account) := rfl
  by_cases served : choice.fate = .served
  · rw [(Choice.read_ok_iff _ _ _).mpr ⟨served, rfl⟩] at listed
    refine ⟨_, _, listed, ?_⟩
    simp only [Prog.bind, find_described]
    cases found : account.slb.named name with
    | none => exact ⟨rfl, by simp, by simp, by simp [found]⟩
    | some balancer =>
        apply Prog.Ensures.call_ofService
        intro second alsoPermitted
        rw [denying_slb]
        have described : Account.answer second account
            (.slb (.describeLoadBalancerAttribute balancer.id)) =
            (second.read ((account.slb.byId balancer.id).map Balancer.describe), account) := rfl
        rw [byId_of_mem (named_mem found).1, Option.map_some] at described
        by_cases alsoServed : second.fate = .served
        · rw [(Choice.read_ok_iff _ _ _).mpr ⟨alsoServed, rfl⟩] at described
          refine ⟨_, _, described, rfl, by simp, ?_, ?_⟩
          · intro lb same
            cases same
            exact ⟨balancer, found, rfl⟩
          · intro _ other alsoFound
            rw [found] at alsoFound
            cases alsoFound
            rfl
        · rw [Choice.read_unserved _ _ alsoServed] at described
          exact ⟨_, _, described, rfl, Found.failed alsoPermitted alsoServed⟩
  · rw [Choice.read_unserved _ _ served] at listed
    exact ⟨_, _, listed, rfl, Found.failed permitted served⟩

theorem denying_answersQuery {table : LowerTable} {account : Account}
    {balancer : Cloud.Balancer} (present : balancer ∈ account.slb.balancers)
    {listener : Listener} (member : listener ∈ balancer.content.listeners) :
    AnswersQuery (deniedContract denied allowed) account (Prompt allowed) table balancer.id
      listener := by
  intro transport lowered
  apply Prog.Ensures.call_ofService
  intro choice permitted
  rw [denying_slb]
  have found := (balancer.content.listener?_eq_some_iff listener.port listener).mpr
    ⟨member, rfl⟩
  have described : Account.answer choice account
      (.slb (.describeListenerAttribute transport balancer.id listener.port)) =
      (choice.read (some ⟨listener.backendServerPort, listener.status⟩), account) := by
    simp only [Account.answer, Slb.answer, byId_of_mem present, Option.bind_some, found,
      if_pos (toLower_transport .identity lowered)]
    rfl
  by_cases served : choice.fate = .served
  · rw [(Choice.read_ok_iff _ _ _).mpr ⟨served, rfl⟩] at described
    refine ⟨_, _, described, rfl, ?_, fun _ _ => rfl⟩
    intro backendPort status same
    cases same
    exact ⟨rfl, rfl, transport, lowered⟩
  · rw [Choice.read_unserved _ _ served] at described
    exact ⟨_, _, described, rfl, fun _ _ impossible => (nomatch impossible),
      fun prompt => absurd (prompt choice permitted) served⟩

/-! ## Listeners that need nothing -/

def Creatable (content : Content) (sp : ServicePort) : Prop :=
  (sp.protocol = "TCP" ∨ sp.protocol = "UDP") ∧ PortNumber sp.port.toInt ∧
    PortNumber sp.nodePort.toInt ∧ content.listener? sp.port.toInt = none

/-- Every listener is wanted as it is, none is stopped, and SLB accepts no further one. -/
structure InSync (table : LowerTable) (ports : List ServicePort) (content : Content) :
    Prop where
  fit : ∀ listener ∈ content.listeners, fits table ports listener = true
  started : ∀ listener ∈ content.listeners, listener.status ≠ .stopped
  complete : ∀ sp, wanted table ports sp.port.toInt (toLower table sp.protocol) = some sp →
    ¬Creatable content sp

/-- The listeners of a load balancer cannot be compared, or need nothing. -/
def NeedsNothing (table : LowerTable) (ports : List ServicePort) (content : Content) : Prop :=
  (∃ listener ∈ content.listeners, Blocked table ports listener) ∨ InSync table ports content

theorem createListener_eq_none {content : Content} {sp : ServicePort}
    (transport : Transport) (status : ListenerStatus) (settings : ListenerSettings)
    (refused : ¬(PortNumber sp.port.toInt ∧ PortNumber sp.nodePort.toInt ∧
      content.listener? sp.port.toInt = none)) :
    content.createListener ⟨sp.port.toInt, transport.text, sp.nodePort.toInt, status,
      settings⟩ = none := by
  unfold Content.createListener
  rw [dif_neg]
  rintro ⟨free, valid⟩
  exact refused ⟨valid.1, valid.2, (content.listener?_eq_none_iff _).mpr free⟩

/-- A listener that SLB does not accept is not created, and the error is returned. -/
theorem createServiceListener_refused {account : Account} {balancer : Cloud.Balancer}
    (present : balancer ∈ account.slb.balancers) (options : AliyunLoadBalancerOptions)
    {sp : ServicePort} (refused : ¬Creatable balancer.content sp) :
    (createServiceListener balancer.describe options sp).Ensures (deniedContract denied allowed)
      (fun outcome after => after = account ∧ ∃ failure, outcome = some (some failure))
      account := by
  have rejected (transport : Transport) (settings : ListenerSettings)
      (invalid : ¬(PortNumber sp.port.toInt ∧ PortNumber sp.nodePort.toInt ∧
        balancer.content.listener? sp.port.toInt = none)) (choice : Choice) :
      denying denied choice account (.slb (.createListener transport
        ⟨balancer.id, sp.port.toInt, sp.nodePort.toInt, settings⟩)) =
        (some choice.error, account) := by
    rw [denying_slb]
    simp only [Account.answer, Slb.answer, Slb.modify, byId_of_mem present, Option.bind_some,
      createListener_eq_none transport choice.createdStatus settings invalid, Option.map_none,
      Choice.commit_none]
    rfl
  unfold createServiceListener
  split
  · rename_i tcp
    apply Prog.Ensures.call_ofService
    intro choice permitted
    exact ⟨_, _, rejected .tcp _ (fun valid => refused ⟨.inl tcp, valid⟩) choice, rfl, _, rfl⟩
  · split
    · rename_i udp
      apply Prog.Ensures.call_ofService
      intro choice permitted
      exact ⟨_, _, rejected .udp _ (fun valid => refused ⟨.inr udp, valid⟩) choice, rfl, _, rfl⟩
    · exact ⟨rfl, _, rfl⟩

/-- The comparison of the listeners of a load balancer of the account. -/
theorem diffListeners_denied (table : LowerTable) (ports : List ServicePort)
    {account : Account} {balancer : Cloud.Balancer}
    (present : balancer ∈ account.slb.balancers) :
    (diffListeners table balancer.describe balancer.describe.listenerPortsAndProtocol
      ⟨expectedPorts table ports, [], []⟩).Ensures (deniedContract denied allowed)
      (fun outcome after => after = account ∧
        Finished (Prompt allowed) table ports balancer.content.listeners outcome) account :=
  diffListeners_compares ports balancer.content.portsDistinct
    fun _ member => denying_answersQuery present member

/-- Listeners that need nothing are left alone, whatever the service answers. -/
theorem ensureLBListeners_keeps {table : LowerTable} {account : Account}
    {balancer : Cloud.Balancer} (present : balancer ∈ account.slb.balancers)
    (order : MapOrder) {ports : List ServicePort} (options : AliyunLoadBalancerOptions)
    (settled : NeedsNothing table ports balancer.content) :
    (ensureLBListeners table order balancer.describe ports options).Ensures
      (deniedContract denied allowed) (fun _ after => after = account) account := by
  apply Prog.Ensures.bind (diffListeners_denied table ports present)
  · rintro result after ⟨kept, finished⟩
    rw [kept]
    cases result with
    | error failure => rfl
    | ok diff =>
        obtain ⟨compared, unblocked⟩ := finished.compared diff rfl
        have inSync : InSync table ports balancer.content := by
          refine settled.resolve_left ?_
          rintro ⟨listener, member, blocked⟩
          exact unblocked listener member blocked
        have noneStopped : diff.stopped = [] :=
          compared.stopped_eq_nil_iff.mpr fun listener member _ => inSync.started listener member
        have noneRemoved : diff.removals = [] := compared.removals_eq_nil_iff.mpr inSync.fit
        simp only [noneStopped, noneRemoved]
        have refused : ∀ sp ∈ order.ports (diff.expected.entries.map Sigma.snd),
            ¬Creatable balancer.content sp := by
          intro sp member
          have left := (order.ports_perm _).mem_iff.mp member
          exact inSync.complete sp ((compared.mem_values_iff sp).mp left).1
        generalize order.ports (diff.expected.entries.map Sigma.snd) = missing at refused
        cases missing with
        | nil => rfl
        | cons sp rest =>
            apply Prog.Ensures.bind (createServiceListener_refused present options
              (refused sp List.mem_cons_self))
            · rintro result after ⟨same, failure, failed⟩
              cases failed
              exact same
            · rintro after ⟨same, failure, failed⟩
              cases failed
  · rintro after ⟨kept, -⟩
    exact kept

/-! ## The two entry points -/

/-- The load balancer of the service, when there is one, needs nothing. -/
def NothingToSync (table : LowerTable) (service : KubeService) (account : Account) : Prop :=
  ∀ balancer, account.slb.named (getLoadBalancerName service) = some balancer →
    NeedsNothing table service.ports balancer.content

theorem ensureLoadBalancer_unresolved {provider : AliyunProvider} {nodes : List String}
    {account : Account} (table : LowerTable) (order : MapOrder) (service : KubeService)
    (unresolvable : Unresolvable provider nodes account denied) :
    (ensureLoadBalancer provider table order service nodes).Ensures
      (deniedContract denied allowed)
      (fun outcome after => (∃ failure, outcome = some (none, some failure)) ∧
        after.slb = account.slb) account := by
  unfold ensureLoadBalancer
  cases unsupported service with
  | some failure => exact ⟨⟨failure, rfl⟩, rfl⟩
  | none =>
      apply Prog.Ensures.bind (getInstancesByNodes_unresolved unresolvable)
      · rintro result after ⟨kept, failure, failed⟩
        cases failed
        exact ⟨⟨failure, rfl⟩, kept⟩
      · rintro after ⟨-, failure, failed⟩
        cases failed

theorem updateLoadBalancer_unresolved {provider : AliyunProvider} {nodes : List String}
    {account : Account} {table : LowerTable} (order : MapOrder) {service : KubeService}
    (unresolvable : Unresolvable provider nodes account denied)
    (settled : NothingToSync table service account) :
    (updateLoadBalancer provider table order service nodes).Ensures
      (deniedContract denied allowed)
      (fun outcome after => outcome ≠ some none ∧ after.slb = account.slb) account := by
  apply Prog.Ensures.bind (getLoadBalancer_found provider (getLoadBalancerName service) account)
  · rintro lookup after ⟨rfl, found⟩
    cases lookup with
    | error failure => exact ⟨by simp, rfl⟩
    | ok result =>
        cases result with
        | none => exact ⟨by simp, rfl⟩
        | some lb =>
            obtain ⟨balancer, named, rfl⟩ := found.described lb rfl
            apply Prog.Ensures.bind (ensureLBListeners_keeps (named_mem named).1 order
              (lbOptions service) (settled balancer named))
            · rintro synced after rfl
              cases synced with
              | some failure => exact ⟨by simp, rfl⟩
              | none =>
                  apply Prog.Ensures.bind (getInstancesByNodes_unresolved unresolvable)
                  · rintro resolved after ⟨kept, failure, failed⟩
                    cases failed
                    exact ⟨by simp, kept⟩
                  · rintro after ⟨-, failure, failed⟩
                    cases failed
            · rintro after rfl
              exact ⟨by simp, rfl⟩
  · rintro after ⟨-, found⟩
    exact absurd rfl found.returned

end Contracts

/-! ## When an update returns -/

/-- A part that returns exactly when no attribute query fails. -/
def ReturnsWhenRead {α : Type} (program : Aliyun α) : Prop :=
  program.Traces fun outcome trace => outcome ≠ none ↔ AttributesRead trace

section Returning

variable {α β : Type}

theorem ReturnsWhenRead.done (value : α) : ReturnsWhenRead (Prog.done value : Aliyun α) := by
  simp [ReturnsWhenRead, Prog.Traces, AttributesRead]

theorem ReturnsWhenRead.bind {program : Aliyun α} {next : α → Aliyun β}
    (first : ReturnsWhenRead program) (second : ∀ value, ReturnsWhenRead (next value)) :
    ReturnsWhenRead (program >>= next) := by
  apply Prog.Traces.bind first
  · intro value trace holds
    have read : AttributesRead trace := holds.mp (by simp)
    apply (second value).mono
    intro outcome rest returns
    rw [returns]
    exact ⟨read.append, fun whole exchange member =>
      whole exchange (List.mem_append_right _ member)⟩
  · intro trace holds
    simpa using holds

/-- A part that always returns and queries no listener. -/
theorem ReturnsWhenRead.of_traces {program : Aliyun α}
    {post : Option α → List SlbExchange → Prop} (traces : program.Traces post)
    (returns : ∀ outcome trace, post outcome trace → outcome ≠ none ∧ AttributesRead trace) :
    ReturnsWhenRead program := by
  apply traces.mono
  intro outcome trace holds
  obtain ⟨returned, read⟩ := returns outcome trace holds
  exact iff_of_true returned read

theorem ReturnsWhenRead.of_reports {good : α → Prop} {program : Aliyun α}
    (reports : SyncReports good program) : ReturnsWhenRead program := by
  apply reports.mono
  intro outcome trace reported
  refine ⟨reported.returned, fun read panicked => ?_⟩
  obtain ⟨exchange, member, failed⟩ := reported.panicked panicked
  exact read exchange member failed

end Returning

theorem updateLoadBalancer_returns (provider : AliyunProvider) (table : LowerTable)
    (order : MapOrder) (service : KubeService) (nodes : List String) :
    ReturnsWhenRead (updateLoadBalancer provider table order service nodes) := by
  apply ReturnsWhenRead.bind
  · exact .of_traces (getLoadBalancer_traces provider (getLoadBalancerName service))
      fun _ _ looked => ⟨looked.answered, looked.read⟩
  · intro lookup
    match lookup with
    | .error failure => exact .done _
    | .ok none => exact .done _
    | .ok (some lb) =>
        apply ReturnsWhenRead.bind
        · exact .of_reports (ensureLBListeners_reports table order lb service.ports
            (lbOptions service))
        · intro synced
          cases synced with
          | some failure => exact .done _
          | none =>
              apply ReturnsWhenRead.bind
              · exact .of_traces
                  (getInstancesByNodes_traces provider nodes (getLoadBalancerName service))
                  fun _ _ called => ⟨called.answered, called.read⟩
              · intro resolved
                cases resolved with
                | error failure => exact .done _
                | ok instances => exact .of_reports (ensureLBBackends_reports order lb instances)

/-! ## The first change of a synchronisation -/

/-- What `ensureLBListeners` does with the result of the comparison. -/
def applyDiff (order : MapOrder) (lb : LoadBalancer) (options : AliyunLoadBalancerOptions) :
    Except GoError ListenerDiff → Aliyun (Option GoError)
  | .error failure => return some failure
  | .ok diff => do
      match ← Prog.forEach (startLoadBalancerListener lb.loadBalancerId) diff.stopped with
      | some failure => return some (.api failure)
      | none =>
          match ← Prog.forEach (deleteLoadBalancerListener lb.loadBalancerId)
              diff.removals with
          | some failure => return some (.api failure)
          | none =>
              Prog.forEach (createServiceListener lb options)
                (order.ports (diff.expected.entries.map Sigma.snd))

section Applying

variable {table : LowerTable} {order : MapOrder} {lb : LoadBalancer}
  {options : AliyunLoadBalancerOptions} {diff : ListenerDiff}

theorem ensureLBListeners_eq (table : LowerTable) (order : MapOrder) (lb : LoadBalancer)
    (ports : List ServicePort) (options : AliyunLoadBalancerOptions) :
    ensureLBListeners table order lb ports options =
      (diffListeners table lb lb.listenerPortsAndProtocol
        ⟨expectedPorts table ports, [], []⟩ >>= applyDiff order lb options) := rfl

theorem applyDiff_starts {port : Int} {rest : List Int} (stopped : diff.stopped = port :: rest) :
    (applyDiff order lb options (.ok diff)).Asks
      (.slb (.startListener lb.loadBalancerId port)) := by
  simp only [applyDiff, stopped]
  exact ⟨_, rfl⟩

theorem applyDiff_deletes {port : Int} {rest : List Int} (stopped : diff.stopped = [])
    (removals : diff.removals = port :: rest) :
    (applyDiff order lb options (.ok diff)).Asks
      (.slb (.deleteListener lb.loadBalancerId port)) := by
  simp only [applyDiff, stopped, removals]
  exact ⟨_, rfl⟩

theorem createServiceListener_asks {sp : ServicePort}
    (supported : sp.protocol = "TCP" ∨ sp.protocol = "UDP") :
    ∃ transport settings, (createServiceListener lb options sp).Asks
      (.slb (.createListener transport
        ⟨lb.loadBalancerId, sp.port.toInt, sp.nodePort.toInt, settings⟩)) := by
  unfold createServiceListener
  rcases supported with tcp | udp
  · rw [if_pos tcp]
    exact ⟨.tcp, { listenerSettings options sp with healthCheckType := "tcp" }, _, rfl⟩
  · rw [if_neg (by simp [udp]), if_pos udp]
    exact ⟨.udp, listenerSettings options sp, _, rfl⟩

theorem applyDiff_creates {sp : ServicePort} {rest : List ServicePort}
    (stopped : diff.stopped = []) (removals : diff.removals = [])
    (first : order.ports (diff.expected.entries.map Sigma.snd) = sp :: rest) {request : Call}
    (asks : (createServiceListener lb options sp).Asks request) :
    (applyDiff order lb options (.ok diff)).Asks request := by
  have creations : applyDiff order lb options (.ok diff) =
      Prog.forEach (createServiceListener lb options) (sp :: rest) := by
    simp only [applyDiff, stopped, removals, first]
    rfl
  rw [creations]
  exact asks.bind _

/-- Only the comparison of the listeners can panic. -/
theorem createServiceListener_returns (lb : LoadBalancer) (options : AliyunLoadBalancerOptions)
    (sp : ServicePort) : (createServiceListener lb options sp).Returns := by
  have started : (Option.map GoError.api <$>
      startLoadBalancerListener lb.loadBalancerId sp.port.toInt).Returns :=
    fun _ => Prog.Returns.done _
  unfold createServiceListener
  split
  · intro reply
    cases reply with
    | none => exact started
    | some failure => exact Prog.Returns.done _
  · split
    · intro reply
      cases reply with
      | none => exact started
      | some failure => exact Prog.Returns.done _
    · exact Prog.Returns.done _

theorem applyDiff_returns (order : MapOrder) (lb : LoadBalancer)
    (options : AliyunLoadBalancerOptions) (compared : Except GoError ListenerDiff) :
    (applyDiff order lb options compared).Returns := by
  cases compared with
  | error failure => exact Prog.Returns.done _
  | ok diff =>
      apply Prog.Returns.bind
      · exact Prog.Returns.forEach (fun port => Prog.Returns.call
          (Call.slb (.startListener lb.loadBalancerId port))) _
      · intro started
        cases started with
        | some failure => exact Prog.Returns.done _
        | none =>
            apply Prog.Returns.bind
            · exact Prog.Returns.forEach (fun port => Prog.Returns.call
                (Call.slb (.deleteListener lb.loadBalancerId port))) _
            · intro removed
              cases removed with
              | some failure => exact Prog.Returns.done _
              | none =>
                  exact Prog.Returns.forEach (createServiceListener_returns lb options) _

end Applying

theorem getInstancesByNodes_returns (provider : AliyunProvider) (nodes : List String) :
    (getInstancesByNodes provider nodes).Returns :=
  (getInstancesByNodes_traces provider nodes "").mono fun _ _ responded => responded.answered

theorem unlessEmpty_returns {α : Type} (items : List α) {request : Aliyun (Option ApiError)}
    (returns : request.Returns) : (unlessEmpty items request).Returns := by
  unfold unlessEmpty
  split
  · exact Prog.Returns.done _
  · exact returns

theorem ensureLBBackends_returns (order : MapOrder) (lb : LoadBalancer)
    (instances : List InstanceAttributes) : (ensureLBBackends order lb instances).Returns := by
  unfold ensureLBBackends
  apply Prog.Returns.bind (unlessEmpty_returns _ (Prog.Returns.call
    (Call.slb (.removeBackendServers lb.loadBalancerId _))))
  intro removed
  cases removed with
  | some failure => exact Prog.Returns.done _
  | none =>
      apply Prog.Returns.bind (unlessEmpty_returns _ (Prog.Returns.call
        (Call.slb (.addBackendServers lb.loadBalancerId _))))
      intro added
      cases added with
      | some failure => exact Prog.Returns.done _
      | none => exact Prog.Returns.done _

theorem denying_refused (denied : Option ApiError) {choice : Choice}
    (refused : choice.fate = .refused) (account : Account) (request : Call) :
    (denying denied choice account request).2.slb = account.slb := by
  cases request with
  | ecs inner =>
      cases denied with
      | none => rfl
      | some failure =>
          cases inner with
          | describeInstances args => rfl
          | describeDisks args => rfl
          | attachDisk args => rfl
          | detachDisk instanceId diskId => rfl
  | slb inner =>
      rw [denying_slb]
      cases inner <;> simp only [Account.answer, Slb.answer, Choice.commit, refused]

/-- Where every call is refused, no load balancer changes. -/
theorem run_refused {α : Type} (denied : Option ApiError) (program : Aliyun α)
    {choices : Nat → Choice} (refused : ∀ index, (choices index).fate = .refused)
    (account : Account) :
    (program.run (denying denied) choices account).state.slb = account.slb := by
  induction program generalizing choices account with
  | done value => rfl
  | crash => rfl
  | ask request next ih =>
      rw [Prog.run_ask]
      simp only
      have others : ∀ index, (later choices index).fate = .refused :=
        fun index => refused (index + 1)
      rw [ih _ others]
      exact denying_refused denied (refused 0) account request

/-- The first call may be answered in any way and all others refused. -/
theorem run_first {α : Type} (denied : Option ApiError) {program : Aliyun α}
    (returns : program.Returns) {request : SlbCall} (asks : program.Asks (.slb request))
    (choice : Choice) (account : Account) :
    program.Reaches (denying denied)
      (fun outcome after => outcome ≠ none ∧
        after.slb = (account.slb.answer choice request).2) account := by
  obtain ⟨next, rfl⟩ := asks
  refine ⟨Prog.prepend choice fun _ => { choice with fate := .refused },
    returns.run _ _ _, ?_⟩
  rw [Prog.run_ask]
  simp only [Prog.later_prepend]
  rw [run_refused denied _ (fun _ => rfl)]
  exact congrArg (fun answer => answer.2.slb) (denying_slb denied choice account request)

/-- When every listener can be compared, a run of `UpdateLoadBalancer` can end with what
the first change after the comparison leaves. -/
theorem update_reaches (provider : AliyunProvider) {table : LowerTable}
    {service : KubeService} (nodes : List String) (denied : Option ApiError)
    {account : Account} {balancer : Cloud.Balancer}
    (named : account.slb.named (getLoadBalancerName service) = some balancer)
    (unblocked : ∀ listener ∈ balancer.content.listeners,
      ¬Blocked table service.ports listener) :
    ∃ diff, Compared table service.ports balancer.content.listeners diff ∧
      ∀ order request choice,
        (applyDiff order balancer.describe (lbOptions service) (.ok diff)).Asks
          (.slb request) →
        (updateLoadBalancer provider table order service nodes).Reaches (denying denied)
          (fun outcome after => outcome ≠ none ∧
            after.slb = (account.slb.answer choice request).2) account := by
  let granted (choice : Choice) : Prop := choice.fate = .served
  have prompt : Prompt granted := fun _ => id
  let served : Nat → Choice := fun _ => Volume.serving fun _ => false
  have grants : ∀ index, granted (served index) := fun _ => rfl
  obtain ⟨stays, found⟩ : _ ∧ Found account.slb (getLoadBalancerName service) granted _ :=
    (getLoadBalancer_found provider (getLoadBalancerName service) account).run_ofService
      served grants
  obtain ⟨kept, finished⟩ :
      _ ∧ Finished (Prompt granted) table service.ports balancer.content.listeners _ :=
    (diffListeners_denied table service.ports (named_mem named).1).run_ofService served grants
  obtain ⟨diff, compares⟩ := finished.prompt prompt unblocked
  refine ⟨diff, (finished.compared diff compares).1, fun order request choice asks => ?_⟩
  apply Prog.Reaches.bind (found.prompt prompt balancer named)
  rw [stays]
  simp only [ensureLBListeners_eq, Prog.bind_assoc]
  apply Prog.Reaches.bind compares
  rw [kept]
  refine run_first denied ?_ (asks.bind _) choice account
  apply Prog.Returns.bind (applyDiff_returns order _ _ _)
  intro synced
  cases synced with
  | some failure => exact Prog.Returns.done _
  | none =>
      apply Prog.Returns.bind (getInstancesByNodes_returns provider nodes)
      intro resolved
      cases resolved with
      | error failure => exact Prog.Returns.done _
      | ok instances => exact ensureLBBackends_returns order _ instances

/-! ## Every first change is a change -/

/-- A granted change of the listener on some port shows in the load balancers. -/
theorem commit_alters {slb : Slb} {name : String} {balancer : Cloud.Balancer}
    (named : slb.named name = some balancer) {choice : Choice} (served : choice.fate = .served)
    {change : Content → Option Content} {next : Content}
    (changed : change balancer.content = some next) (port : Int)
    (differs : next.listener? port ≠ balancer.content.listener? port) :
    (choice.commit slb (slb.modify balancer.id change)).2 ≠ slb := by
  have modified : slb.modify balancer.id change = some (slb.put balancer.id next) := by
    simp only [Slb.modify, byId_of_mem (named_mem named).1, Option.bind_some, changed,
      Option.map_some]
  rw [modified, Choice.commit_served served]
  intro (same : slb.put balancer.id next = slb)
  have seen := named_put slb balancer.id name next
  rw [same, named, Option.map_some, if_pos rfl] at seen
  exact differs (congrArg (fun found => found.content.listener? port) (Option.some.inj seen)).symm

/-- The order in which one service port comes first. -/
def leadingOrder (sp : ServicePort) : MapOrder where
  ports entries := (entries.filter fun entry => entry = sp) ++
    entries.filter fun entry => !decide (entry = sp)
  ids := id
  ports_perm := List.filter_append_perm _
  ids_perm := List.Perm.refl

theorem leadingOrder_first {sp : ServicePort} {entries : List ServicePort}
    (member : sp ∈ entries) : ∃ rest, (leadingOrder sp).ports entries = sp :: rest := by
  have leads : sp ∈ entries.filter fun entry => entry = sp :=
    List.mem_filter.mpr ⟨member, by simp⟩
  obtain ⟨first, rest, split⟩ := List.exists_cons_of_ne_nil (List.ne_nil_of_mem leads)
  have found : first ∈ entries.filter fun entry => entry = sp := by simp [split]
  have same : first = sp := by simpa using (List.mem_filter.mp found).2
  rw [same] at split
  exact ⟨_, congrArg (· ++ _) split⟩

section Altering

variable {slb : Slb} {name : String} {balancer : Cloud.Balancer} {choice : Choice}
  {listener : Listener}

theorem start_alters (named : slb.named name = some balancer) (served : choice.fate = .served)
    (present : listener ∈ balancer.content.listeners) (stopped : listener.status = .stopped) :
    (slb.answer choice (.startListener balancer.id listener.port)).2 ≠ slb := by
  have found := (balancer.content.listener?_eq_some_iff listener.port listener).mpr
    ⟨present, rfl⟩
  obtain ⟨next, started⟩ : ∃ next, balancer.content.startListener listener.port
      (if choice.startsRunning then .running else .starting) = some next :=
    ⟨_, if_pos (List.mem_map_of_mem present)⟩
  refine commit_alters named served started listener.port ?_
  rw [(Content.startListener_eq_some started).2, found, Option.map_some, if_pos rfl]
  intro same
  have status := congrArg Listener.status (Option.some.inj same)
  rw [stopped] at status
  cases starts : choice.startsRunning with
  | true => simp [starts] at status
  | false => simp [starts] at status

theorem delete_alters (named : slb.named name = some balancer) (served : choice.fate = .served)
    (present : listener ∈ balancer.content.listeners) :
    (slb.answer choice (.deleteListener balancer.id listener.port)).2 ≠ slb := by
  have found := (balancer.content.listener?_eq_some_iff listener.port listener).mpr
    ⟨present, rfl⟩
  obtain ⟨next, deleted⟩ : ∃ next, balancer.content.deleteListener listener.port = some next :=
    ⟨_, if_pos (List.mem_map_of_mem present)⟩
  refine commit_alters named served deleted listener.port ?_
  rw [(Content.deleteListener_eq_some deleted).2, found, if_pos rfl]
  simp

theorem create_alters (named : slb.named name = some balancer) (served : choice.fate = .served)
    {sp : ServicePort} (creatable : Creatable balancer.content sp) (transport : Transport)
    (settings : ListenerSettings) :
    (slb.answer choice (.createListener transport
      ⟨balancer.id, sp.port.toInt, sp.nodePort.toInt, settings⟩)).2 ≠ slb := by
  obtain ⟨-, port, nodePort, free⟩ := creatable
  obtain ⟨next, created⟩ : ∃ next, balancer.content.createListener ⟨sp.port.toInt,
      transport.text, sp.nodePort.toInt, choice.createdStatus, settings⟩ = some next :=
    ⟨_, dif_pos ⟨(balancer.content.listener?_eq_none_iff _).mp free, port, nodePort⟩⟩
  refine commit_alters named served created sp.port.toInt ?_
  rw [(Content.createListener_eq_some created).2.2, free, if_pos rfl]
  simp

end Altering

/-- A service port whose listener can be created is still missing after the comparison. -/
theorem Compared.mem_missing {table : LowerTable} {ports : List ServicePort}
    {content : Content} {diff : ListenerDiff}
    (compared : Compared table ports content.listeners diff) {sp : ServicePort}
    (found : wanted table ports sp.port.toInt (toLower table sp.protocol) = some sp)
    (free : content.listener? sp.port.toInt = none) :
    sp ∈ diff.expected.entries.map Sigma.snd := by
  refine (compared.mem_values_iff sp).mpr ⟨found, fun listener member _ same => ?_⟩
  rw [content.listener?_eq_none_iff, ((listenerKey_inj table).mp same).1] at free
  exact free (List.mem_map_of_mem member)

/-- Where the listeners need something, some run of `UpdateLoadBalancer` does a part of
it and returns. -/
theorem update_alters (provider : AliyunProvider) {table : LowerTable}
    {service : KubeService} (nodes : List String) (denied : Option ApiError)
    {account : Account} {balancer : Cloud.Balancer}
    (named : account.slb.named (getLoadBalancerName service) = some balancer)
    (needs : ¬NeedsNothing table service.ports balancer.content) :
    ∃ order, (updateLoadBalancer provider table order service nodes).Reaches (denying denied)
      (fun outcome after => outcome ≠ none ∧ after.slb ≠ account.slb) account := by
  obtain ⟨unblocked, outOfSync⟩ := not_or.mp needs
  obtain ⟨diff, compared, reaches⟩ := update_reaches provider nodes denied named
    fun listener member blocked => unblocked ⟨listener, member, blocked⟩
  let choice := Volume.serving fun _ => false
  have reached (order : MapOrder) {request : SlbCall}
      (asks : (applyDiff order balancer.describe (lbOptions service) (.ok diff)).Asks
        (.slb request)) (alters : (account.slb.answer choice request).2 ≠ account.slb) :
      ∃ order, (updateLoadBalancer provider table order service nodes).Reaches
        (denying denied) (fun outcome after => outcome ≠ none ∧ after.slb ≠ account.slb)
        account := by
    obtain ⟨choices, returned, same⟩ := reaches order request choice asks
    exact ⟨order, choices, returned, fun unchanged => alters (same.symm.trans unchanged)⟩
  cases stopped : diff.stopped with
  | cons port rest =>
      have member : port ∈ diff.stopped := by simp [stopped]
      rw [compared.stopped] at member
      obtain ⟨listener, kept, rfl⟩ := List.mem_map.mp member
      obtain ⟨present, fit⟩ := List.mem_filter.mp kept
      have idle : listener.status = .stopped := by simp at fit; exact fit.2
      exact reached .stored (applyDiff_starts stopped)
        (start_alters named rfl present idle)
  | nil =>
      cases removals : diff.removals with
      | cons port rest =>
          have member : port ∈ diff.removals := by simp [removals]
          rw [compared.removals] at member
          obtain ⟨listener, going, rfl⟩ := List.mem_map.mp member
          exact reached .stored (applyDiff_deletes stopped removals)
            (delete_alters named rfl (List.mem_of_mem_filter going))
      | nil =>
          obtain ⟨sp, found, creatable⟩ : ∃ sp,
              wanted table service.ports sp.port.toInt (toLower table sp.protocol) = some sp ∧
                Creatable balancer.content sp := by
            by_contra nothing
            have fit := compared.removals_eq_nil_iff.mp removals
            refine outOfSync ⟨fit, fun listener member => ?_, fun sp found creatable => ?_⟩
            · exact compared.stopped_eq_nil_iff.mp stopped listener member (fit listener member)
            · exact nothing ⟨sp, found, creatable⟩
          obtain ⟨transport, settings, asks⟩ := createServiceListener_asks creatable.1
          obtain ⟨rest, first⟩ :=
            leadingOrder_first (compared.mem_missing found creatable.2.2.2)
          exact reached (leadingOrder sp) (applyDiff_creates stopped removals first asks)
            (create_alters named rfl creatable transport settings)

section Promise

variable (provider : AliyunProvider) (table : LowerTable) (service : KubeService)
  (nodes : List String) (account : Account)

/-- What is promised of operations whose nodes are not resolved: both return an error,
and neither changes a load balancer. -/
def KeptUnresolved (denied : Option ApiError) (order : MapOrder) (choices : Nat → Choice) :
    Prop :=
  let ensured := (ensureLoadBalancer provider table order service nodes).run
    (denying denied) choices account
  let updated := (updateLoadBalancer provider table order service nodes).run
    (denying denied) choices account
  ((∃ failure, ensured.outcome = some (none, some failure)) ∧
    ensured.state.slb = account.slb) ∧
  ((∃ failure, updated.outcome = some (some failure)) ∧ updated.state.slb = account.slb)

def KeepsUnresolved : Prop :=
  ∀ denied, Unresolvable provider nodes account denied → ∀ order choices,
    KeptUnresolved provider table service nodes account denied order choices

/-- Every attribute query of the run of `UpdateLoadBalancer` is answered. -/
def UpdateReads (denied : Option ApiError) (order : MapOrder) (choices : Nat → Choice) : Prop :=
  AttributesRead ((updateLoadBalancer provider table order service nodes).run
    (denying denied) choices account).trace

end Promise

section Deciding

variable {provider : AliyunProvider} {table : LowerTable} {service : KubeService}
  {nodes : List String} {account : Account} {denied : Option ApiError} {order : MapOrder}
  {choices : Nat → Choice}

theorem updateReads_iff :
    UpdateReads provider table service nodes account denied order choices ↔
      ((updateLoadBalancer provider table order service nodes).run (denying denied) choices
        account).outcome ≠ none :=
  ((updateLoadBalancer_returns provider table order service nodes).run (denying denied)
    choices account).symm

theorem KeptUnresolved.reads
    (kept : KeptUnresolved provider table service nodes account denied order choices) :
    UpdateReads provider table service nodes account denied order choices := by
  obtain ⟨-, ⟨failure, returned⟩, -⟩ := kept
  rw [updateReads_iff, returned]
  simp

/-- Where there is nothing to synchronise, a run whose attribute queries are answered
keeps the promise. -/
theorem keptUnresolved_of_reads (settled : NothingToSync table service account)
    (unresolvable : Unresolvable provider nodes account denied)
    (reads : UpdateReads provider table service nodes account denied order choices) :
    KeptUnresolved provider table service nodes account denied order choices := by
  let anything (_ : Choice) : Prop := True
  have all : ∀ index, anything (choices index) := fun _ => trivial
  have ensured := (ensureLoadBalancer_unresolved table order service
    unresolvable).run_ofService choices all
  obtain ⟨notNil, kept⟩ := (updateLoadBalancer_unresolved order unresolvable
    settled).run_ofService choices all
  obtain ⟨result, same⟩ := Option.ne_none_iff_exists'.mp (updateReads_iff.mp reads)
  cases result with
  | none => exact absurd same notNil
  | some failure => exact ⟨ensured, ⟨failure, same⟩, kept⟩

end Deciding

/-- A run with unresolved nodes keeps the promise only when its attribute queries are
answered, and all such runs keep it exactly when the listeners of the service's load
balancer need nothing. -/
theorem keeps_unresolved_iff (provider : AliyunProvider) (table : LowerTable)
    (service : KubeService) (nodes : List String) (account : Account) :
    (∀ denied order choices,
      KeptUnresolved provider table service nodes account denied order choices →
        UpdateReads provider table service nodes account denied order choices) ∧
    ((∀ denied, Unresolvable provider nodes account denied → ∀ order choices,
      UpdateReads provider table service nodes account denied order choices →
        KeptUnresolved provider table service nodes account denied order choices) ↔
      NothingToSync table service account) := by
  refine ⟨fun _ _ _ => KeptUnresolved.reads, ?_, ?_⟩
  · intro keeps balancer named
    by_contra needs
    let denied : Option ApiError := some (getClientErrorFromString "")
    obtain ⟨order, choices, returned, changed⟩ := update_alters provider nodes denied named needs
    have kept := keeps denied (.inl (by simp [denied])) order choices
      (updateReads_iff.mpr returned)
    exact changed kept.2.2
  · intro settled denied unresolvable order choices reads
    exact keptUnresolved_of_reads settled unresolvable reads

def listenerStates (slb : Slb) : List (List (Int × ListenerStatus)) :=
  slb.balancers.map fun balancer =>
    balancer.content.listeners.map fun listener => (listener.port, listener.status)

/-- One node has no instance: a listener is started, one is deleted and one is created
before the error is returned, although every attribute query is answered. -/
theorem unresolved_update_changes :
    let run := (updateLoadBalancer sampleProvider .identity .stored sampleService
      ["node-z"]).run (denying none) sampleChoices sampleAccount
    (Unresolvable sampleProvider ["node-z"] sampleAccount none ∧
      run.outcome = some (some (.plain "Unable to get instance of node:node-z")) ∧
      listenerStates sampleAccount.slb = [[(80, .stopped), (443, .running)]] ∧
      listenerStates run.state.slb = [[(80, .running), (53, .running)]]) ∧
    ¬KeepsUnresolved sampleProvider .identity sampleService ["node-z"] sampleAccount := by
  intro run
  have unresolved : Unresolvable sampleProvider ["node-z"] sampleAccount none :=
    .inr ⟨.plain "Unable to get instance of node:node-z", rfl⟩
  have before : listenerStates sampleAccount.slb = [[(80, .stopped), (443, .running)]] := by
    decide
  have after : listenerStates run.state.slb = [[(80, .running), (53, .running)]] := by decide
  refine ⟨⟨unresolved, by decide, before, after⟩, fun keeps => ?_⟩
  have kept : run.state.slb = sampleAccount.slb :=
    (keeps none unresolved .stored sampleChoices).2.2
  rw [kept, before] at after
  exact absurd after (by decide)

end KubeAliyun.Balancer
