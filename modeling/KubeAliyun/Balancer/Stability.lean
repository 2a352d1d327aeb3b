import KubeAliyun.Balancer.Convergence

/-!
# Stability

A synchronisation does not disturb what already matches: in every state of every
run, faults or not, settled listeners and resolved backends are where they
were.  And once it has succeeded, the next one finds nothing to do.
-/

namespace KubeAliyun.Balancer

open KubeAliyun.Cloud KubeAliyun.Remote KubeAliyun.Text KubeAliyun.Provider

/-! ## What matches is left alone -/

/-- The settled listeners and resolved backends of one content continue in
another. -/
structure Preserves (table : LowerTable) (ports : List ServicePort)
    (resolved : String → Prop) (initial content : Content) : Prop where
  listeners : ∀ port before, initial.listener? port = some before →
    Settled table ports before →
      ∃ after, content.listener? port = some after ∧ Continues before after
  backends : ∀ server ∈ initial.backends, resolved server.serverId →
    server ∈ content.backends

def NeverStops (content next : Content) : Prop :=
  ∀ port before after, content.listener? port = some before →
    next.listener? port = some after → after.status = .stopped → before.status = .stopped

section Changes

variable {table : LowerTable} {ports : List ServicePort} {resolved : String → Prop}
  {initial content next : Content}

theorem Preserves.refl (content : Content) :
    Preserves table ports resolved content content :=
  ⟨fun _ before found _ => ⟨before, found, .refl before⟩, fun _ member _ => member⟩

theorem NeverStops.refl (content : Content) : NeverStops content content := by
  intro port before after found again stopped
  rw [found] at again
  cases again
  exact stopped

theorem NeverStops.of_listeners_eq (same : next.listeners = content.listeners) :
    NeverStops content next := by
  intro port before after found again stopped
  rw [Content.listener?, same, ← Content.listener?, found] at again
  cases again
  exact stopped

theorem Preserves.create {listener : Listener}
    (kept : Preserves table ports resolved initial content)
    (created : content.createListener listener = some next) :
    Preserves table ports resolved initial next ∧ NeverStops content next := by
  obtain ⟨free, sameBackends, listeners⟩ := Content.createListener_eq_some created
  have elsewhere : ∀ port before, content.listener? port = some before →
      next.listener? port = some before := by
    intro port before found
    rw [listeners, if_neg ?_]
    · exact found
    · rintro rfl
      rw [free] at found
      cases found
  refine ⟨⟨?_, ?_⟩, ?_⟩
  · intro port before found settled
    obtain ⟨after, present, continues⟩ := kept.listeners port before found settled
    exact ⟨after, elsewhere port after present, continues⟩
  · rw [sameBackends]
    exact kept.backends
  · intro port before after found again stopped
    rw [elsewhere port before found] at again
    cases again
    exact stopped

theorem Preserves.delete {port : Int}
    (kept : Preserves table ports resolved initial content)
    (spared : ∀ listener, initial.listener? port = some listener →
      ¬ Settled table ports listener)
    (deleted : content.deleteListener port = some next) :
    Preserves table ports resolved initial next ∧ NeverStops content next := by
  obtain ⟨sameBackends, listeners⟩ := Content.deleteListener_eq_some deleted
  refine ⟨⟨?_, ?_⟩, ?_⟩
  · intro other before found settled
    have apart : other ≠ port := by
      rintro rfl
      exact spared before found settled
    rw [listeners, if_neg apart]
    exact kept.listeners other before found settled
  · rw [sameBackends]
    exact kept.backends
  · intro other before after found again stopped
    rw [listeners] at again
    split at again
    · cases again
    · rw [found] at again
      cases again
      exact stopped

theorem Preserves.start {port : Int} {status : ListenerStatus}
    (kept : Preserves table ports resolved initial content)
    (stopped : ∀ listener, initial.listener? port = some listener →
      Settled table ports listener → listener.status = .stopped)
    (running : status ≠ .stopped)
    (started : content.startListener port status = some next) :
    Preserves table ports resolved initial next ∧ NeverStops content next := by
  obtain ⟨sameBackends, listeners⟩ := Content.startListener_eq_some started
  refine ⟨⟨?_, ?_⟩, ?_⟩
  · intro other before found settled
    obtain ⟨after, present, continues⟩ := kept.listeners other before found settled
    rw [listeners, present]
    refine ⟨_, rfl, ?_⟩
    by_cases here : other = port
    · subst here
      simp only [if_true]
      exact continues.start (stopped before found settled) running
    · simp only [if_neg here]
      exact continues
  · rw [sameBackends]
    exact kept.backends
  · intro other before after found again isStopped
    rw [listeners, found] at again
    cases again
    by_cases here : other = port
    · simp only [if_pos here] at isStopped
      exact absurd isStopped running
    · simp only [if_neg here] at isStopped
      exact isStopped

theorem Preserves.addBackends {servers : List BackendServer}
    (kept : Preserves table ports resolved initial content)
    (new : ∀ server ∈ servers,
      server.serverId ∉ initial.backends.map BackendServer.serverId) :
    Preserves table ports resolved initial (content.addBackends servers) ∧
      NeverStops content (content.addBackends servers) := by
  refine ⟨⟨?_, ?_⟩, .of_listeners_eq (content.addBackends_listeners servers)⟩
  · intro port before found settled
    rw [Content.listener?, Content.addBackends_listeners, ← Content.listener?]
    exact kept.listeners port before found settled
  · intro server member isResolved
    refine Content.mem_addBackends_of_not_named (kept.backends server member isResolved) ?_
    intro named
    obtain ⟨added, inServers, same⟩ := List.mem_map.mp named
    exact new added inServers (same ▸ List.mem_map_of_mem member)

theorem Preserves.removeBackends {servers : List String}
    (kept : Preserves table ports resolved initial content)
    (spared : ∀ id ∈ servers, ¬ resolved id) :
    Preserves table ports resolved initial (content.removeBackends servers) ∧
      NeverStops content (content.removeBackends servers) := by
  refine ⟨⟨kept.listeners, ?_⟩, .of_listeners_eq rfl⟩
  intro server member isResolved
  refine List.mem_filter.mpr ⟨kept.backends server member isResolved, ?_⟩
  exact decide_eq_true fun named => spared _ named isResolved

/-- A change of the content leaves the old content or the changed one. -/
theorem change_state {balancer : Cloud.Balancer} {inventory : List InstanceAttributes}
    {update : Content → Option Content} {choice : Choice} {reply : Option ApiError}
    {after : View} {property : Content → Prop}
    (stepped : (reply, after) = choice.commit (holding balancer inventory content)
      ((holding balancer inventory content).change update))
    (unchanged : property content)
    (changed : ∀ next, update content = some next → property next) :
    ∃ next, after = holding balancer inventory next ∧ property next := by
  have final := congrArg Prod.snd stepped
  simp only at final
  rw [final]
  rcases choice.commit_state (holding balancer inventory content)
      ((holding balancer inventory content).change update) with same | attempt
  · exact ⟨content, same, unchanged⟩
  · rw [holding_change] at attempt
    obtain ⟨next, found, same⟩ := Option.map_eq_some_iff.mp attempt
    exact ⟨next, same.symm, changed next found⟩

/-- A gentle call keeps what matches, whether it succeeds, fails, or fails after
taking effect. -/
theorem preserves_step {name : String} {creates : Prop} {choice : Choice}
    {balancer : Cloud.Balancer} {inventory : List InstanceAttributes} {request : Call}
    {reply : Reply request} {after : View}
    (kept : Preserves table ports resolved initial content)
    (permitted : Permitted name (holding balancer inventory content) request)
    (gentle : Gentle table ports resolved initial creates request)
    (stepped : OwnStep name choice (holding balancer inventory content) request reply after) :
    ∃ next, after = holding balancer inventory next ∧
      Preserves table ports resolved initial next ∧ NeverStops content next := by
  have same : Preserves table ports resolved initial content ∧
      NeverStops content content := ⟨kept, .refl content⟩
  cases request with
  | ecs inner =>
      cases inner with
      | describeInstances args => exact ⟨content, stepped.1, same⟩
      | describeDisks args => exact stepped.elim
      | attachDisk args => exact stepped.elim
      | detachDisk instanceId diskId => exact stepped.elim
  | slb inner =>
      cases inner with
      | describeLoadBalancers regionId => exact ⟨content, stepped.1, same⟩
      | describeLoadBalancerAttribute id => exact ⟨content, stepped.1, same⟩
      | describeListenerAttribute transport id port => exact ⟨content, stepped.1, same⟩
      | createLoadBalancer args => cases (permitted.2 args rfl).2
      | deleteLoadBalancer id => exact gentle.elim
      | createListener transport args =>
          exact change_state stepped same fun next created => kept.create created
      | deleteListener id port =>
          exact change_state stepped same fun next deleted => kept.delete gentle deleted
      | startListener id port =>
          refine change_state stepped same fun next started => ?_
          refine kept.start gentle ?_ started
          split <;> decide
      | addBackendServers id servers =>
          refine change_state stepped same fun next added => ?_
          cases added
          exact kept.addBackends gentle
      | removeBackendServers id servers =>
          refine change_state stepped same fun next removed => ?_
          cases removed
          exact kept.removeBackends gentle

/-- The load balancer seen at first is still there with all that matched. -/
def Undisturbed (table : LowerTable) (ports : List ServicePort) (resolved : String → Prop)
    (before after : View) : Prop :=
  ∀ balancer, before.own = some balancer → ∃ content,
    after.own = some { balancer with content } ∧
      Preserves table ports resolved balancer.content content

theorem Undisturbed.step {name : String} {creates : Prop} {choice : Choice}
    {before seen after : View} {request : Call} {reply : Reply request}
    (undisturbed : Undisturbed table ports resolved before seen)
    (permitted : Permitted name seen request)
    (gentle : Gentle table ports resolved before.content creates request)
    (stepped : OwnStep name choice seen request reply after) :
    Undisturbed table ports resolved before after := by
  intro balancer own
  obtain ⟨content, current, kept⟩ := undisturbed balancer own
  obtain ⟨seenOwn, inventory⟩ := seen
  cases current
  have sameContent : before.content = balancer.content := by
    rw [View.content, own]
  rw [sameContent] at gentle
  obtain ⟨next, rfl, preserved, -⟩ := preserves_step kept permitted gentle stepped
  exact ⟨next, rfl, preserved⟩

end Changes

/-- A run leaves alone what matched at its beginning: it does so in every state,
and no call stops a listener. -/
def RunSpares (provider : AliyunProvider) (table : LowerTable) (service : KubeService)
    (nodes : List String) (account : Account)
    (log : List (Event Account Call Reply)) : Prop :=
  ∀ event ∈ log, ∀ balancer,
    account.slb.named (getLoadBalancerName service) = some balancer →
      ∃ content next,
        event.before.slb.named (getLoadBalancerName service) =
            some { balancer with content } ∧
          event.after.slb.named (getLoadBalancerName service) =
            some { balancer with content := next } ∧
          Preserves table service.ports
            (Resolved provider account.ecs.visible nodes) balancer.content content ∧
          Preserves table service.ports
            (Resolved provider account.ecs.visible nodes) balancer.content next ∧
          NeverStops content next

section Runs

variable (provider : AliyunProvider) (table : LowerTable) (order : MapOrder)
  (service : KubeService) (nodes : List String) (choices : Nat → Choice)
  (account : Account)

/-- The account refines the contract of a synchronisation on the states in which
nothing that matched has been disturbed. -/
theorem undisturbed_refines (creates : Prop) (seen : View) :
    Refines Account.answer (view (getLoadBalancerName service)) (fun _ => True)
      (fun current => Undisturbed table service.ports
        (Resolved provider seen.inventory nodes) seen
        (view (getLoadBalancerName service) current))
      (contract (getLoadBalancerName service) (fun _ => True)
        (Spares provider table service nodes seen creates)) := by
  apply contract_refines
  · intro choice current request undisturbed permitted gentle
    refine undisturbed.step permitted gentle (ownStep_of_answer choice permitted ?_)
    rintro ⟨id, rfl⟩
    exact gentle.elim
  · rintro ⟨id, impossible⟩
    exact impossible.elim

/-- A program within the contract of a synchronisation spares what matches. -/
theorem runSpares_of_ensures {α : Type} {creates : Prop} {program : Aliyun α}
    {post : Option α → View → Prop}
    (ensured : program.Ensures
      (contract (getLoadBalancerName service) (fun _ => True)
        (Spares provider table service nodes
          (view (getLoadBalancerName service) account) creates))
      post (view (getLoadBalancerName service) account)) :
    RunSpares provider table service nodes account
      (program.run Account.answer choices account).log := by
  have start : Undisturbed table service.ports
      (Resolved provider account.ecs.visible nodes)
      (view (getLoadBalancerName service) account)
      (view (getLoadBalancerName service) account) :=
    fun balancer own => ⟨balancer.content, own, .refl balancer.content⟩
  obtain ⟨covered, -, -⟩ := ensured.run
    (undisturbed_refines provider table service nodes creates _) (fun _ => trivial) start
  intro event member balancer own
  obtain ⟨⟨permitted, gentle⟩, ⟨choice, -, stepped⟩, before, -⟩ := covered event member
  obtain ⟨content, current, kept⟩ := before balancer own
  have whole : view (getLoadBalancerName service) event.before =
      holding balancer event.before.ecs.visible content := by
    rw [holding, ← current]
    rfl
  have sameContent : (view (getLoadBalancerName service) account).content =
      balancer.content := by
    rw [View.content, view, own]
  rw [whole] at permitted stepped
  rw [Spares, sameContent] at gentle
  obtain ⟨next, final, preserved, running⟩ := preserves_step kept permitted gentle stepped
  exact ⟨content, next, current, congrArg View.own final, kept, preserved, running⟩

/-- In every run of both operations, also in one that fails midway, every
intermediate state has the listeners and backends that matched at first. -/
theorem sync_spares_matching :
    RunSpares provider table service nodes account
        ((ensureLoadBalancer provider table order service nodes).run Account.answer
          choices account).log ∧
      RunSpares provider table service nodes account
        ((updateLoadBalancer provider table order service nodes).run Account.answer
          choices account).log :=
  ⟨runSpares_of_ensures provider table service nodes choices account
      (ensureLoadBalancer_ensures provider order service nodes _),
    runSpares_of_ensures provider table service nodes choices account
      (updateLoadBalancer_ensures provider order service nodes _)⟩

end Runs

/-! ## A second synchronisation only reads -/

def Grants (choice : Choice) : Prop := choice.fate = .served

theorem prompt_grants : Prompt Grants := fun _ granted => granted

def quiet (name : String) : Contract View Call Reply := contract name Grants Reads

theorem quiet_refines (name : String) :
    Refines Account.answer (view name) Grants (fun _ => True) (quiet name) := by
  refine contract_refines (fun _ _ _ => trivial) ?_
  rintro ⟨id, impossible⟩
  cases impossible

section Quiet

variable {name : String} {balancer : Cloud.Balancer} {inventory : List InstanceAttributes}
  {table : LowerTable} {ports : List ServicePort}

/-- Synchronised listeners leave the accumulators of the diff empty. -/
theorem Diffed.empty {diff : ListenerDiff}
    (diffed : Diffed table ports balancer.content.listeners diff)
    (listening : Listening table ports balancer.content) :
    diff.removals = [] ∧ diff.stopped = [] ∧ diff.expected.entries = [] := by
  refine ⟨?_, ?_, ?_⟩
  · apply List.eq_nil_iff_forall_not_mem.mpr
    intro port member
    obtain ⟨listener, present, -, unsettled⟩ := (diffed.removals port).mp member
    exact unsettled (listening.settled listener present)
  · apply List.eq_nil_iff_forall_not_mem.mpr
    intro port member
    obtain ⟨listener, present, -, -, stopped⟩ := (diffed.stopped port).mp member
    exact listening.running listener present stopped
  · apply List.eq_nil_iff_forall_not_mem.mpr
    rintro ⟨key, sp⟩ entry
    obtain ⟨found, unanswered⟩ :=
      (diffed.expected key sp).mp (AList.mem_lookup_iff.mpr entry)
    have sameKey := expectedPorts_key found
    rw [sameKey, expectedPorts_lookup] at found
    obtain ⟨listener, present, samePort, sameProtocol⟩ :=
      listening.complete _ _ sp found
    refine unanswered listener present (listening.settled listener present) ?_
    rw [sameKey]
    exact (listenerKey_inj table).mpr ⟨samePort.symm, sameProtocol.symm⟩

theorem ensureLBListeners_quiet (order : MapOrder) (options : AliyunLoadBalancerOptions)
    (listening : Listening table ports balancer.content) :
    (ensureLBListeners table order balancer.describe ports options).Ensures (quiet name)
      (fun outcome after => outcome = some none ∧
        after = holding balancer inventory balancer.content)
      (holding balancer inventory balancer.content) := by
  unfold ensureLBListeners
  refine Prog.Ensures.bind (diffListeners_ensures (fun _ reads => reads) rfl) ?_ ?_
  · rintro answer after ⟨rfl, whole, prompt⟩
    obtain ⟨diff, same⟩ := prompt prompt_grants listening.readable
    cases same
    obtain ⟨noRemovals, noneStopped, noneExpected⟩ := (whole diff rfl).empty listening
    have noneOrdered : order.ports [] = [] := (order.ports_perm []).eq_nil
    simp only [noRemovals, noneStopped, noneExpected, List.map_nil, noneOrdered]
    exact ⟨rfl, rfl⟩
  · rintro after ⟨-, -, prompt⟩
    obtain ⟨diff, impossible⟩ := prompt prompt_grants listening.readable
    cases impossible

theorem ensureLBBackends_quiet (order : MapOrder) {instances : List InstanceAttributes}
    (backends : ∀ id, id ∈ balancer.content.backends.map BackendServer.serverId ↔
      id ∈ instances.map InstanceAttributes.instanceId) :
    (ensureLBBackends order balancer.describe instances).Ensures (quiet name)
      (fun outcome after => outcome = some none ∧
        after = holding balancer inventory balancer.content)
      (holding balancer inventory balancer.content) := by
  obtain ⟨missing, going⟩ := diffBackends_spec balancer.content.backends
    balancer.content.serversDistinct (expectedIds instances) []
  unfold ensureLBBackends
  simp only [Cloud.Balancer.describe]
  generalize diffBackends balancer.content.backends (expectedIds instances) [] = diff
    at missing going
  obtain ⟨expected, removals⟩ := diff
  simp only [mem_expectedIds, List.not_mem_nil, false_or, ← backends] at missing going ⊢
  have noRemovals : removals = [] := by
    apply List.eq_nil_iff_forall_not_mem.mpr
    intro id member
    obtain ⟨inside, outside⟩ := (going id).mp member
    exact outside inside
  have noKeys : expected.keys = [] := by
    apply List.eq_nil_iff_forall_not_mem.mpr
    intro id member
    obtain ⟨inside, outside⟩ := (missing id).mp (AList.mem_keys.mpr member)
    exact outside inside
  have noneOrdered : order.ids [] = [] := (order.ids_perm []).eq_nil
  simp only [noRemovals, noKeys, noneOrdered, List.map_nil]
  exact ⟨rfl, rfl⟩

/-- On a synchronised load balancer `EnsureLoadBalancer` reads and succeeds. -/
theorem ensureLoadBalancer_quiet (provider : AliyunProvider) (order : MapOrder)
    {service : KubeService} {nodes : List String} (supported : unsupported service = none)
    (synced : Synced provider table service nodes inventory balancer.content) :
    (ensureLoadBalancer provider table order service nodes).Ensures
      (quiet (getLoadBalancerName service))
      (fun outcome _ => outcome = some (some ⟨[balancer.address]⟩, none))
      ⟨some balancer, inventory⟩ := by
  obtain ⟨instances, found, backends⟩ := synced.backends
  unfold ensureLoadBalancer
  rw [supported]
  refine Prog.Ensures.bind (getInstancesByNodes_ensures (fun _ reads => reads) provider
    nodes _) ?_ (by simp)
  rintro answer after ⟨rfl, reply, same, -, prompt⟩
  cases same
  rw [prompt prompt_grants, found]
  refine Prog.Ensures.bind (getLoadBalancer_ensures (fun _ reads => reads) provider _) ?_
    (by simp)
  rintro lookup after ⟨rfl, reply, same, -, prompt⟩
  cases same
  rw [prompt prompt_grants]
  refine Prog.Ensures.bind (ensureLBListeners_quiet order _ synced.listening) ?_ (by simp)
  rintro failed after ⟨same, rfl⟩
  cases same
  refine Prog.Ensures.bind (ensureLBBackends_quiet order backends) ?_ (by simp)
  rintro failed after ⟨same, rfl⟩
  cases same
  rfl

/-- On a synchronised load balancer `UpdateLoadBalancer` reads and succeeds. -/
theorem updateLoadBalancer_quiet (provider : AliyunProvider) (order : MapOrder)
    {service : KubeService} {nodes : List String}
    (synced : Synced provider table service nodes inventory balancer.content) :
    (updateLoadBalancer provider table order service nodes).Ensures
      (quiet (getLoadBalancerName service))
      (fun outcome _ => outcome = some none) ⟨some balancer, inventory⟩ := by
  obtain ⟨instances, found, backends⟩ := synced.backends
  unfold updateLoadBalancer
  refine Prog.Ensures.bind (getLoadBalancer_ensures (fun _ reads => reads) provider _) ?_
    (by simp)
  rintro lookup after ⟨rfl, reply, same, -, prompt⟩
  cases same
  rw [prompt prompt_grants]
  refine Prog.Ensures.bind (ensureLBListeners_quiet order _ synced.listening) ?_ (by simp)
  rintro failed after ⟨same, rfl⟩
  cases same
  refine Prog.Ensures.bind (getInstancesByNodes_ensures (fun _ reads => reads) provider
    nodes _) ?_ (by simp)
  rintro answer after ⟨rfl, reply, same, -, prompt⟩
  cases same
  have resolves : answer = .ok instances := (prompt prompt_grants).trans found
  rw [resolves]
  refine (ensureLBBackends_quiet order backends).mono ?_
  rintro outcome after ⟨same, -⟩
  exact same

end Quiet

/-- A run that reads only and ends with the given outcome. -/
def ReadsTo {α : Type} (program : Aliyun α) (outcome : α) (choices : Nat → Choice)
    (account : Account) : Prop :=
  (program.run Account.answer choices account).outcome = some outcome ∧
    ∀ event ∈ (program.run Account.answer choices account).log, Reads event.request

theorem readsTo_of_quiet {α : Type} {name : String} {program : Aliyun α} {outcome : α}
    {choices : Nat → Choice} {account : Account} {seen : View}
    (state : view name account = seen)
    (ensured : program.Ensures (quiet name) (fun result _ => result = some outcome) seen)
    (granted : ∀ index, (choices index).fate = .served) :
    ReadsTo program outcome choices account := by
  subst state
  obtain ⟨covered, returned, -⟩ := ensured.run (quiet_refines name) granted trivial
  exact ⟨returned, fun event member => (covered event member).1.2⟩

/-- After one success, under any faults, the next synchronisation without faults
succeeds with the same status and makes no mutating call. -/
theorem success_is_fixpoint (provider : AliyunProvider) (table : LowerTable)
    (order again : MapOrder) (service : KubeService) (nodes : List String)
    (choices granting : Nat → Choice) (account : Account)
    (granted : ∀ index, (granting index).fate = .served) :
    (∀ status,
      ((ensureLoadBalancer provider table order service nodes).run Account.answer choices
          account).outcome = some (some status, none) →
        ReadsTo (ensureLoadBalancer provider table again service nodes)
            (some status, none) granting
            ((ensureLoadBalancer provider table order service nodes).run Account.answer
              choices account).state ∧
          ReadsTo (updateLoadBalancer provider table again service nodes) none granting
            ((ensureLoadBalancer provider table order service nodes).run Account.answer
              choices account).state) ∧
      (((updateLoadBalancer provider table order service nodes).run Account.answer choices
          account).outcome = some none →
        ReadsTo (updateLoadBalancer provider table again service nodes) none granting
          ((updateLoadBalancer provider table order service nodes).run Account.answer
            choices account).state) := by
  constructor
  · intro status returned
    obtain ⟨-, supported, balancer, final, rfl, synced⟩ :=
      ensureLoadBalancer_run provider table order service nodes choices account status none
        returned
    constructor
    · exact readsTo_of_quiet final
        (ensureLoadBalancer_quiet provider again supported synced) granted
    · exact readsTo_of_quiet final (updateLoadBalancer_quiet provider again synced) granted
  · intro returned
    obtain ⟨balancer, final, synced⟩ :=
      updateLoadBalancer_run provider table order service nodes choices account returned
    exact readsTo_of_quiet final (updateLoadBalancer_quiet provider again synced) granted

theorem success_is_fixpoint_sample :
    ReadsTo (ensureLoadBalancer sampleProvider .identity .stored sampleService ["node-a"])
      (some ⟨["1.2.3.4"]⟩, none) sampleChoices
      ((ensureLoadBalancer sampleProvider .identity .stored sampleService ["node-a"]).run
        Account.answer sampleChoices sampleAccount).state :=
  ((success_is_fixpoint sampleProvider .identity .stored .stored sampleService ["node-a"]
    sampleChoices sampleChoices sampleAccount (fun _ => rfl)).1 _ (by decide)).1

end KubeAliyun.Balancer
