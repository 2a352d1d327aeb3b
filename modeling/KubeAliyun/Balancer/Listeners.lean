import KubeAliyun.Balancer.Compare

/-!
# Synchronising the listeners

The diff of the existing listeners against the wanted ports, and the three
loops that start, delete and create what the diff found.  A listener that
already does what its port wants is settled; the loops leave it where it is.
-/

namespace KubeAliyun.Balancer

open KubeAliyun.Cloud KubeAliyun.Remote KubeAliyun.Text KubeAliyun.Provider

/-! ## Settled listeners -/

/-- The listener forwards to the node port its own port is wanted for. -/
def Settled (table : LowerTable) (ports : List ServicePort) (listener : Listener) : Prop :=
  ∃ sp, wanted table ports listener.port (toLower table listener.protocol) = some sp ∧
    listener.backendServerPort = sp.nodePort.toInt

/-- On a valid port the conversion to 32 bits loses nothing. -/
theorem toInt32_eq_iff {number : Int} (valid : PortNumber number) (port : Int32) :
    number.toInt32 = port ↔ number = port.toInt := by
  obtain ⟨low, high⟩ := valid
  constructor
  · rintro rfl
    exact (Int32.toInt_ofInt_of_le (by omega) (by omega)).symm
  · rintro rfl
    exact Int32.ofInt_toInt port

theorem settled_iff_toInt32 {table : LowerTable} {ports : List ServicePort}
    {listener : Listener} {sp : ServicePort} (valid : listener.Valid)
    (found : wanted table ports listener.port (toLower table listener.protocol) = some sp) :
    listener.backendServerPort.toInt32 = sp.nodePort ↔ Settled table ports listener := by
  rw [toInt32_eq_iff valid.2]
  constructor
  · intro same
    exact ⟨sp, found, same⟩
  · rintro ⟨other, alsoFound, same⟩
    rw [found] at alsoFound
    cases alsoFound
    exact same

/-! ## Attributes -/

def holding (balancer : Cloud.Balancer) (inventory : List InstanceAttributes)
    (content : Content) : View :=
  ⟨some { balancer with content }, inventory⟩

theorem holding_change (balancer : Cloud.Balancer) (inventory : List InstanceAttributes)
    (content : Content) (update : Content → Option Content) :
    (holding balancer inventory content).change update =
      (update content).map (holding balancer inventory) := rfl

/-- Calls that address the own load balancer are permitted. -/
theorem permitted_own {name : String} {balancer : Cloud.Balancer}
    {inventory : List InstanceAttributes} {content : Content} {request : SlbCall}
    (aims : target request = some balancer.id) :
    Permitted name (holding balancer inventory content) (.slb request) := by
  constructor
  · intro id same
    rw [aims] at same
    exact ⟨_, rfl, Option.some.inj same⟩
  · rintro args rfl
    cases aims

section Diff

variable {name : String} {allowed : Choice → Prop} {may : Call → Prop}
  {balancer : Cloud.Balancer} {inventory : List InstanceAttributes} {content : Content}
  {table : LowerTable} {ports : List ServicePort}

/-- One attribute query, read with the transport of the listener. -/
theorem readAttribute_ensures (reads : ∀ request, Reads request → may request)
    {listener : Listener} (member : listener ∈ content.listeners) (transport : Transport)
    (lowered : toLower table listener.protocol = transport.text) :
    (invoke (.slb (.describeListenerAttribute transport balancer.id listener.port)) >>=
        readAttribute).Ensures (contract name allowed may)
      (fun outcome after => after = holding balancer inventory content ∧
        Answers (Prompt allowed) table listener outcome)
      (holding balancer inventory content) := by
  refine invoke_bind_ensures (permitted_own rfl) (reads _ rfl) ?_
  rintro choice reply after permitted ⟨rfl, read⟩
  have found : content.listener? listener.port = some listener :=
    (content.listener?_eq_some_iff _ _).mpr ⟨member, rfl⟩
  simp only [holding, Option.bind_some, found, if_pos (toLower_transport .identity lowered)]
    at read
  obtain ⟨whole, prompt⟩ := read_cases reply read permitted
  cases reply with
  | error failure =>
      refine ⟨rfl, fun _ _ impossible => (nomatch impossible), fun served _ => ?_⟩
      cases prompt served _ rfl
  | ok response =>
      have same := Option.some.inj (whole response rfl)
      subst same
      refine ⟨rfl, ?_, fun _ _ => rfl⟩
      intro backendPort status equal
      cases equal
      exact ⟨rfl, rfl, transport, lowered⟩

/-! ## The diff -/

/-- What the accumulators say once the listeners in `processed` have been
compared. -/
structure Diffed (table : LowerTable) (ports : List ServicePort)
    (processed : List Listener) (diff : ListenerDiff) : Prop where
  removals : ∀ port, port ∈ diff.removals ↔
    ∃ listener ∈ processed, listener.port = port ∧ ¬ Settled table ports listener
  stopped : ∀ port, port ∈ diff.stopped ↔
    ∃ listener ∈ processed, listener.port = port ∧ Settled table ports listener ∧
      listener.status = .stopped
  expected : ∀ key sp, diff.expected.lookup key = some sp ↔
    (expectedPorts table ports).lookup key = some sp ∧
      ∀ listener ∈ processed, Settled table ports listener →
        key ≠ listenerKey table listener.port listener.protocol
  readable : ∀ listener ∈ processed, Settled table ports listener →
    Readable table listener

/-- A listener with valid ports fits exactly when it is settled. -/
theorem fits_iff_settled {listener : Listener} (valid : listener.Valid) :
    fits table ports listener = true ↔ Settled table ports listener := by
  cases found : wanted table ports listener.port (toLower table listener.protocol) with
  | none => simp [not_fits_of_unwanted found, Settled, found]
  | some sp =>
      rw [fits_of_wanted found, decide_eq_true_iff]
      exact settled_iff_toInt32 valid found

/-- The accumulators of a comparison in which no listener was blocked. -/
theorem Compared.diffed {diff : ListenerDiff}
    (compared : Compared table ports content.listeners diff)
    (unblocked : ∀ listener ∈ content.listeners, ¬Blocked table ports listener) :
    Diffed table ports content.listeners diff := by
  have fit (listener : Listener) (member : listener ∈ content.listeners) :
      fits table ports listener = true ↔ Settled table ports listener :=
    fits_iff_settled (content.listenersValid listener member)
  refine ⟨fun port => ?_, fun port => ?_, fun key sp => ?_, fun listener member settled => ?_⟩
  · rw [compared.removals, List.mem_map]
    constructor
    · rintro ⟨listener, going, same⟩
      obtain ⟨member, unfit⟩ := List.mem_filter.mp going
      refine ⟨listener, member, same, fun settled => ?_⟩
      simp [(fit listener member).mpr settled] at unfit
    · rintro ⟨listener, member, same, unsettled⟩
      have unfit := mt (fit listener member).mp unsettled
      exact ⟨listener, List.mem_filter.mpr ⟨member, by simpa using unfit⟩, same⟩
  · rw [compared.stopped, List.mem_map]
    constructor
    · rintro ⟨listener, kept, same⟩
      obtain ⟨member, both⟩ := List.mem_filter.mp kept
      obtain ⟨fits, stopped⟩ := (Bool.and_eq_true _ _).mp both
      exact ⟨listener, member, same, (fit listener member).mp fits, of_decide_eq_true stopped⟩
    · rintro ⟨listener, member, same, settled, stopped⟩
      refine ⟨listener, List.mem_filter.mpr ⟨member, ?_⟩, same⟩
      simp [(fit listener member).mpr settled, stopped]
  · rw [compared.expected]
    refine and_congr_right fun _ => forall₂_congr fun listener member => ?_
    rw [fit listener member]
  · by_contra unreadable
    obtain ⟨sp, found, -⟩ := settled
    exact unblocked listener member ⟨by simp [found], unreadable⟩

/-- The diff only reads, and its accumulators cover all listeners; without
faults it completes when the listeners are readable. -/
theorem diffListeners_ensures (reads : ∀ request, Reads request → may request)
    {lb : LoadBalancer} (same : lb.loadBalancerId = balancer.id) :
    (diffListeners table lb (portsAndProtocols content.listeners)
        ⟨expectedPorts table ports, [], []⟩).Ensures (contract name allowed may)
      (fun outcome after => after = holding balancer inventory content ∧
        (∀ result, outcome = some (.ok result) →
          Diffed table ports content.listeners result) ∧
        (Prompt allowed → (∀ listener ∈ content.listeners, Readable table listener) →
          ∃ result, outcome = some (.ok result)))
      (holding balancer inventory content) := by
  have queries (listener : Listener) (member : listener ∈ content.listeners) :
      AnswersQuery (contract name allowed may) (holding balancer inventory content)
        (Prompt allowed) table lb.loadBalancerId listener := by
    intro transport lowered
    rw [same]
    exact readAttribute_ensures reads member transport lowered
  refine (diffListeners_compares ports content.portsDistinct queries).mono ?_
  rintro outcome after ⟨kept, finished⟩
  refine ⟨kept, fun result returned => ?_, fun prompt readable => ?_⟩
  · obtain ⟨compared, unblocked⟩ := finished.compared result returned
    exact compared.diffed unblocked
  · exact finished.prompt prompt fun listener member blocked =>
      blocked.2 (readable listener member)

end Diff

/-! ## Calls that spare what matches -/

/-- The calls of a synchronisation that starts from `initial`: settled
listeners are neither deleted nor, unless stopped, started; backends in
`resolved` are not removed and existing ones not added again. -/
def Gentle (table : LowerTable) (ports : List ServicePort) (resolved : String → Prop)
    (initial : Content) (creates : Prop) : Call → Prop
  | .ecs (.describeInstances _) => True
  | .ecs _ => False
  | .slb (.createLoadBalancer _) => creates
  | .slb (.deleteLoadBalancer _) => False
  | .slb (.deleteListener _ port) => ∀ listener,
      initial.listener? port = some listener → ¬ Settled table ports listener
  | .slb (.startListener _ port) => ∀ listener,
      initial.listener? port = some listener → Settled table ports listener →
        listener.status = .stopped
  | .slb (.addBackendServers _ servers) => ∀ server ∈ servers,
      server.serverId ∉ initial.backends.map BackendServer.serverId
  | .slb (.removeBackendServers _ servers) => ∀ id ∈ servers, ¬ resolved id
  | .slb _ => True

theorem gentle_of_reads {table : LowerTable} {ports : List ServicePort}
    {resolved : String → Prop} {initial : Content} {creates : Prop} (request : Call)
    (reads : Reads request) : Gentle table ports resolved initial creates request := by
  cases request with
  | ecs inner => cases inner <;> trivial
  | slb inner => cases inner <;> trivial

/-- A listener after some calls: its status may have left `Stopped`, all else is
as before. -/
def Continues (before after : Listener) : Prop :=
  ∃ status, after = { before with status } ∧
    (status = before.status ∨ (before.status = .stopped ∧ status ≠ .stopped))

theorem Continues.refl (listener : Listener) : Continues listener listener :=
  ⟨listener.status, rfl, Or.inl rfl⟩

/-- Starting a listener that was stopped at first. -/
theorem Continues.start {before after : Listener} (continues : Continues before after)
    (stopped : before.status = .stopped) {status : ListenerStatus}
    (running : status ≠ .stopped) : Continues before { after with status } := by
  obtain ⟨old, rfl, -⟩ := continues
  exact ⟨status, rfl, Or.inr ⟨stopped, running⟩⟩

/-- A change of the content either goes through, or fails with or without
effect. -/
theorem change_cases {balancer : Cloud.Balancer} {inventory : List InstanceAttributes}
    {content : Content} {update : Content → Option Content} {choice : Choice}
    {reply : Option ApiError} {after : View}
    (stepped : (reply, after) = choice.commit (holding balancer inventory content)
      ((holding balancer inventory content).change update)) :
    (∃ next, reply = none ∧ update content = some next ∧
        after = holding balancer inventory next) ∨
      ∃ error, reply = some error := by
  rw [holding_change] at stepped
  rcases choice.commit_cases (holding balancer inventory content)
      ((update content).map (holding balancer inventory)) with
    ⟨view, attempt, -, same⟩ | ⟨view, attempt, -, same⟩ | same
  · obtain ⟨next, found, rfl⟩ := Option.map_eq_some_iff.mp attempt
    rw [same] at stepped
    cases stepped
    exact Or.inl ⟨next, rfl, found, rfl⟩
  · rw [same] at stepped
    cases stepped
    exact Or.inr ⟨_, rfl⟩
  · rw [same] at stepped
    cases stepped
    exact Or.inr ⟨_, rfl⟩

section Loops

variable {name : String} {allowed : Choice → Prop} {resolved : String → Prop}
  {creates : Prop} {balancer : Cloud.Balancer} {inventory : List InstanceAttributes}
  {table : LowerTable} {ports : List ServicePort}

/-! ## Starting -/

/-- While the ports in `rest` are still to be started. -/
structure Starting (table : LowerTable) (ports : List ServicePort) (initial : Content)
    (rest : List Int) (content : Content) : Prop where
  backends : content.backends = initial.backends
  absent : ∀ port, initial.listener? port = none → content.listener? port = none
  continues : ∀ port before, initial.listener? port = some before →
    ∃ after, content.listener? port = some after ∧ Continues before after ∧
      (Settled table ports before → after.status = .stopped → port ∈ rest)

theorem startLoop_ensures {initial : Content} {diff : ListenerDiff}
    (diffed : Diffed table ports initial.listeners diff) :
    (Prog.forEach (startLoadBalancerListener balancer.id) diff.stopped).Ensures
      (contract name allowed (Gentle table ports resolved initial creates))
      (fun outcome after => outcome = some none → ∃ content,
        after = holding balancer inventory content ∧
          Starting table ports initial [] content)
      (holding balancer inventory initial) := by
  have settledAt : ∀ port ∈ diff.stopped, ∀ before,
      initial.listener? port = some before →
        Settled table ports before ∧ before.status = .stopped := by
    intro port member before found
    obtain ⟨listener, present, samePort, settled, stopped⟩ := (diffed.stopped port).mp member
    have same := (initial.listener?_eq_some_iff port listener).mpr ⟨present, samePort⟩
    rw [found] at same
    cases same
    exact ⟨settled, stopped⟩
  -- the loop invariant remembers that what is left comes from the diff
  refine Prog.Ensures.forEach
    (fun rest seen => (∀ port ∈ rest, port ∈ diff.stopped) ∧
      ∃ content, seen = holding balancer inventory content ∧
        Starting table ports initial rest content) ?_ ?_ _ ?_
  · rintro seen ⟨-, content, rfl, starting⟩ -
    exact ⟨content, rfl, starting⟩
  · rintro port rest seen ⟨fromDiff, content, rfl, starting⟩
    have stoppedHere := settledAt port (fromDiff port List.mem_cons_self)
    refine invoke_ensures (permitted_own rfl)
      (fun listener found _ => (stoppedHere listener found).2) ?_
    rintro choice reply after - stepped
    rcases change_cases stepped with ⟨next, rfl, changed, rfl⟩ | ⟨error, rfl⟩
    · refine ⟨fun _ => ⟨fun other member => fromDiff other (List.mem_cons_of_mem _ member),
        next, rfl, ?_⟩, fun impossible => absurd rfl impossible⟩
      obtain ⟨sameBackends, listeners⟩ := Content.startListener_eq_some changed
      refine ⟨sameBackends.trans starting.backends, ?_, ?_⟩
      · intro other none
        rw [listeners, starting.absent other none]
        rfl
      · intro other before found
        obtain ⟨old, present, continues, waiting⟩ := starting.continues other before found
        rw [listeners, present]
        refine ⟨_, rfl, ?_⟩
        by_cases here : other = port
        · subst here
          have running : (if choice.startsRunning then ListenerStatus.running
              else .starting) ≠ .stopped := by
            split <;> decide
          simp only [if_true]
          exact ⟨continues.start (stoppedHere before found).2 running,
            fun _ stopped => absurd stopped running⟩
        · simp only [if_neg here]
          refine ⟨continues, fun settled stopped => ?_⟩
          exact (List.mem_cons.mp (waiting settled stopped)).resolve_left here
    · exact ⟨fun impossible => (nomatch impossible), fun _ impossible => nomatch impossible⟩
  · refine ⟨fun port member => member, initial, rfl, rfl, fun port none => none, ?_⟩
    intro port before found
    refine ⟨before, found, .refl before, fun settled stopped => ?_⟩
    obtain ⟨present, samePort⟩ := (initial.listener?_eq_some_iff port before).mp found
    exact (diffed.stopped port).mpr ⟨before, present, samePort, settled, stopped⟩

/-! ## Deleting -/

def Spared (table : LowerTable) (ports : List ServicePort) (initial content : Content) :
    Prop :=
  ∀ port before, initial.listener? port = some before → Settled table ports before →
    ∃ after, content.listener? port = some after ∧ Continues before after ∧
      after.status ≠ .stopped

/-- While the ports in `rest` are still to be deleted. -/
structure Deleting (table : LowerTable) (ports : List ServicePort) (initial : Content)
    (rest : List Int) (content : Content) : Prop where
  backends : content.backends = initial.backends
  spared : Spared table ports initial content
  others : ∀ port listener, content.listener? port = some listener →
    (∃ before, initial.listener? port = some before ∧ Settled table ports before) ∨
      port ∈ rest

theorem Starting.deleting {initial content : Content} {diff : ListenerDiff}
    (diffed : Diffed table ports initial.listeners diff)
    (starting : Starting table ports initial [] content) :
    Deleting table ports initial diff.removals content := by
  refine ⟨starting.backends, ?_, ?_⟩
  · intro port before found settled
    obtain ⟨after, present, continues, waiting⟩ := starting.continues port before found
    exact ⟨after, present, continues, fun stopped => nomatch waiting settled stopped⟩
  · intro port listener found
    cases old : initial.listener? port with
    | none =>
        rw [starting.absent port old] at found
        cases found
    | some before =>
        by_cases settled : Settled table ports before
        · exact Or.inl ⟨before, rfl, settled⟩
        · obtain ⟨present, samePort⟩ := (initial.listener?_eq_some_iff port before).mp old
          exact Or.inr ((diffed.removals port).mpr ⟨before, present, samePort, settled⟩)

theorem deleteLoop_ensures {initial content : Content} {diff : ListenerDiff}
    (diffed : Diffed table ports initial.listeners diff)
    (start : Deleting table ports initial diff.removals content) :
    (Prog.forEach (deleteLoadBalancerListener balancer.id) diff.removals).Ensures
      (contract name allowed (Gentle table ports resolved initial creates))
      (fun outcome after => outcome = some none → ∃ content,
        after = holding balancer inventory content ∧
          Deleting table ports initial [] content)
      (holding balancer inventory content) := by
  have unsettledAt : ∀ port ∈ diff.removals, ∀ before,
      initial.listener? port = some before → ¬ Settled table ports before := by
    intro port member before found
    obtain ⟨listener, present, samePort, unsettled⟩ := (diffed.removals port).mp member
    have same := (initial.listener?_eq_some_iff port listener).mpr ⟨present, samePort⟩
    rw [found] at same
    cases same
    exact unsettled
  refine Prog.Ensures.forEach
    (fun rest seen => (∀ port ∈ rest, port ∈ diff.removals) ∧
      ∃ content, seen = holding balancer inventory content ∧
        Deleting table ports initial rest content) ?_ ?_ _ ?_
  · rintro seen ⟨-, content, rfl, deleting⟩ -
    exact ⟨content, rfl, deleting⟩
  · rintro port rest seen ⟨fromDiff, content, rfl, deleting⟩
    have unsettledHere := unsettledAt port (fromDiff port List.mem_cons_self)
    refine invoke_ensures (permitted_own rfl) unsettledHere ?_
    rintro choice reply after - stepped
    rcases change_cases stepped with ⟨next, rfl, changed, rfl⟩ | ⟨error, rfl⟩
    · refine ⟨fun _ => ⟨fun other member => fromDiff other (List.mem_cons_of_mem _ member),
        next, rfl, ?_⟩, fun impossible => absurd rfl impossible⟩
      obtain ⟨sameBackends, listeners⟩ := Content.deleteListener_eq_some changed
      refine ⟨sameBackends.trans deleting.backends, ?_, ?_⟩
      · intro other before found settled
        have apart : other ≠ port := by
          rintro rfl
          exact unsettledHere before found settled
        rw [listeners, if_neg apart]
        exact deleting.spared other before found settled
      · intro other listener found
        rw [listeners] at found
        split at found
        · cases found
        · rename_i apart
          refine (deleting.others other listener found).imp_right fun member => ?_
          exact (List.mem_cons.mp member).resolve_left apart
    · exact ⟨fun impossible => (nomatch impossible), fun _ impossible => nomatch impossible⟩
  · exact ⟨fun port member => member, content, rfl, start⟩

/-! ## Creating -/

structure Made (sp : ServicePort) (listener : Listener) : Prop where
  protocol : (sp.protocol = "TCP" ∧ listener.protocol = "tcp") ∨
    (sp.protocol = "UDP" ∧ listener.protocol = "udp")
  backendPort : listener.backendServerPort = sp.nodePort.toInt
  running : listener.status ≠ .stopped

/-- While the service ports in `rest` are still to be given a listener. -/
structure Creating (table : LowerTable) (ports : List ServicePort) (initial : Content)
    (all rest : List ServicePort) (content : Content) : Prop where
  backends : content.backends = initial.backends
  spared : Spared table ports initial content
  others : ∀ port listener, content.listener? port = some listener →
    (∃ before, initial.listener? port = some before ∧ Settled table ports before) ∨
      ∃ sp ∈ all, sp.port.toInt = port ∧ Made sp listener
  made : ∀ sp ∈ all, sp ∈ rest ∨
    ∃ listener, content.listener? sp.port.toInt = some listener ∧ Made sp listener

/-- Creating and then starting a listener on a free port makes the listener of
one more service port. -/
theorem Creating.advance {initial content created started : Content}
    {all rest : List ServicePort} {sp : ServicePort} {listener : Listener}
    {status : ListenerStatus}
    (creating : Creating table ports initial all (sp :: rest) content)
    (member : sp ∈ all) (made : content.createListener listener = some created)
    (samePort : listener.port = sp.port.toInt)
    (isMade : Made sp { listener with status })
    (start : created.startListener sp.port.toInt status = some started) :
    Creating table ports initial all rest started := by
  obtain ⟨free, sameBackends, afterCreate⟩ := Content.createListener_eq_some made
  obtain ⟨keptBackends, afterStart⟩ := Content.startListener_eq_some start
  rw [samePort] at free afterCreate
  have here : started.listener? sp.port.toInt = some { listener with status } := by
    rw [afterStart, afterCreate]
    simp
  have elsewhere : ∀ port, port ≠ sp.port.toInt →
      started.listener? port = content.listener? port := by
    intro port apart
    rw [afterStart, afterCreate]
    simp [apart]
  refine ⟨keptBackends.trans (sameBackends.trans creating.backends), ?_, ?_, ?_⟩
  · intro port before found settled
    obtain ⟨after, present, rest⟩ := creating.spared port before found settled
    have apart : port ≠ sp.port.toInt := by
      rintro rfl
      rw [free] at present
      cases present
    rw [elsewhere port apart]
    exact ⟨after, present, rest⟩
  · intro port other found
    by_cases same : port = sp.port.toInt
    · subst same
      rw [here] at found
      cases found
      exact Or.inr ⟨sp, member, rfl, isMade⟩
    · rw [elsewhere port same] at found
      exact creating.others port other found
  · intro other inAll
    by_cases same : other.port.toInt = sp.port.toInt
    · rcases creating.made other inAll with waiting | ⟨old, present, -⟩
      · rcases List.mem_cons.mp waiting with rfl | later
        · exact Or.inr ⟨_, here, isMade⟩
        · exact Or.inl later
      · rw [same, free] at present
        cases present
    · rcases creating.made other inAll with waiting | ⟨old, present, done⟩
      · refine Or.inl ((List.mem_cons.mp waiting).resolve_left ?_)
        rintro rfl
        exact same rfl
      · rw [← elsewhere _ same] at present
        exact Or.inr ⟨old, present, done⟩

/-- The two calls for one service port, with the listener they ask for. -/
theorem createAndStart_ensures {initial content : Content}
    {all rest : List ServicePort} {sp : ServicePort} (transport : Transport)
    (settings : ListenerSettings)
    (creating : Creating table ports initial all (sp :: rest) content)
    (member : sp ∈ all)
    (protocol : (sp.protocol = "TCP" ∧ transport.text = "tcp") ∨
      (sp.protocol = "UDP" ∧ transport.text = "udp")) :
    (invoke (.slb (.createListener transport
          ⟨balancer.id, sp.port.toInt, sp.nodePort.toInt, settings⟩)) >>= fun reply =>
        match Option.map GoError.api reply with
        | some failure => (pure (some failure) : Aliyun (Option GoError))
        | none => Option.map GoError.api <$>
            startLoadBalancerListener balancer.id sp.port.toInt).Ensures
      (contract name allowed (Gentle table ports resolved initial creates))
      (fun outcome after => outcome = some none → ∃ content,
        after = holding balancer inventory content ∧
          Creating table ports initial all rest content)
      (holding balancer inventory content) := by
  refine invoke_bind_ensures (permitted_own rfl) trivial ?_
  rintro choice reply after - stepped
  rcases change_cases stepped with ⟨created, rfl, wasMade, rfl⟩ | ⟨error, rfl⟩
  · have free := (Content.createListener_eq_some wasMade).1
    simp only [Option.map_none, Prog.map_eq]
    refine invoke_bind_ensures (permitted_own rfl) ?_ ?_
    · -- a settled listener on this port would have kept it occupied
      intro before found settled
      obtain ⟨still, present, -⟩ := creating.spared _ before found settled
      rw [free] at present
      cases present
    · rintro start reply after - stepped
      rcases change_cases stepped with ⟨started, rfl, wasStarted, rfl⟩ | ⟨error, rfl⟩
      · refine fun _ => ⟨started, rfl,
          creating.advance member wasMade rfl ⟨protocol, rfl, ?_⟩ wasStarted⟩
        simp only
        split <;> decide
      · exact fun impossible => nomatch impossible
  · exact fun impossible => nomatch impossible

theorem createServiceListener_ensures {initial content : Content}
    {all rest : List ServicePort} {sp : ServicePort} {lb : LoadBalancer}
    (same : lb.loadBalancerId = balancer.id) (options : AliyunLoadBalancerOptions)
    (creating : Creating table ports initial all (sp :: rest) content)
    (member : sp ∈ all) :
    (createServiceListener lb options sp).Ensures
      (contract name allowed (Gentle table ports resolved initial creates))
      (fun outcome after => outcome = some none → ∃ content,
        after = holding balancer inventory content ∧
          Creating table ports initial all rest content)
      (holding balancer inventory content) := by
  unfold createServiceListener
  rw [same]
  by_cases tcp : sp.protocol = "TCP"
  · rw [if_pos tcp, Prog.map_eq, Prog.bind_assoc]
    exact createAndStart_ensures .tcp _ creating member (Or.inl ⟨tcp, rfl⟩)
  · by_cases udp : sp.protocol = "UDP"
    · rw [if_neg tcp, if_pos udp, Prog.map_eq, Prog.bind_assoc]
      exact createAndStart_ensures .udp _ creating member (Or.inr ⟨udp, rfl⟩)
    · rw [if_neg tcp, if_neg udp]
      exact fun impossible => nomatch impossible

theorem createLoop_ensures {initial content : Content} {all : List ServicePort}
    {lb : LoadBalancer} (same : lb.loadBalancerId = balancer.id)
    (options : AliyunLoadBalancerOptions)
    (start : Deleting table ports initial [] content) :
    (Prog.forEach (createServiceListener lb options) all).Ensures
      (contract name allowed (Gentle table ports resolved initial creates))
      (fun outcome after => outcome = some none → ∃ content,
        after = holding balancer inventory content ∧
          Creating table ports initial all [] content)
      (holding balancer inventory content) := by
  refine Prog.Ensures.forEach
    (fun rest seen => (∀ sp ∈ rest, sp ∈ all) ∧
      ∃ content, seen = holding balancer inventory content ∧
        Creating table ports initial all rest content) ?_ ?_ _ ?_
  · rintro seen ⟨-, content, rfl, creating⟩ -
    exact ⟨content, rfl, creating⟩
  · rintro sp rest seen ⟨within, content, rfl, creating⟩
    refine (createServiceListener_ensures same options creating
      (within sp List.mem_cons_self)).mono ?_
    intro outcome after advanced
    refine ⟨fun succeeded => ⟨?_, advanced succeeded⟩,
      fun failed succeeded => absurd succeeded failed⟩
    intro other later
    exact within other (List.mem_cons_of_mem _ later)
  · refine ⟨fun sp member => member, content, rfl, start.backends, start.spared, ?_,
      fun sp member => Or.inl member⟩
    intro port listener found
    refine (start.others port listener found).imp_right fun impossible => ?_
    cases impossible

/-! ## The synchronised listeners -/

/-- The listeners are those the service ports want, and all are started. -/
structure Listening (table : LowerTable) (ports : List ServicePort) (content : Content) :
    Prop where
  settled : ∀ listener ∈ content.listeners, Settled table ports listener
  running : ∀ listener ∈ content.listeners, listener.status ≠ .stopped
  readable : ∀ listener ∈ content.listeners, Readable table listener
  complete : ∀ port protocol sp, wanted table ports port protocol = some sp →
    ∃ listener ∈ content.listeners, listener.port = port ∧
      toLower table listener.protocol = protocol

/-- The service ports left in the map are wanted under their own key. -/
theorem Diffed.mem_values {listeners : List Listener} {diff : ListenerDiff}
    (diffed : Diffed table ports listeners diff) {sp : ServicePort}
    (member : sp ∈ diff.expected.entries.map Sigma.snd) :
    wanted table ports sp.port.toInt (toLower table sp.protocol) = some sp := by
  obtain ⟨⟨key, value⟩, entry, rfl⟩ := List.mem_map.mp member
  have found := ((diffed.expected key value).mp (AList.mem_lookup_iff.mpr entry)).1
  rw [expectedPorts_key found, expectedPorts_lookup] at found
  exact found

theorem Made.lowered {sp : ServicePort} {listener : Listener} (made : Made sp listener) :
    toLower table listener.protocol = toLower table sp.protocol ∧
      Readable table listener := by
  rcases made.protocol with ⟨tcp, text⟩ | ⟨udp, text⟩
  · have lowered : toLower table listener.protocol = "tcp" := by
      rw [text]
      exact toLower_tcp table
    exact ⟨by rw [lowered, tcp, toLower_TCP], .tcp, lowered⟩
  · have lowered : toLower table listener.protocol = "udp" := by
      rw [text]
      exact toLower_udp table
    exact ⟨by rw [lowered, udp, toLower_UDP], .udp, lowered⟩

theorem Creating.listening {initial content : Content} {diff : ListenerDiff}
    {all : List ServicePort} (diffed : Diffed table ports initial.listeners diff)
    (values : ∀ sp, sp ∈ all ↔ sp ∈ diff.expected.entries.map Sigma.snd)
    (creating : Creating table ports initial all [] content) :
    Listening table ports content := by
  -- a listener of the end is a settled one of the beginning or made for its port
  have origin : ∀ listener ∈ content.listeners,
      (∃ before ∈ initial.listeners, Settled table ports before ∧
        Continues before listener ∧ listener.status ≠ .stopped) ∨
      ∃ sp ∈ all, sp.port.toInt = listener.port ∧ Made sp listener := by
    intro listener member
    have found := (content.listener?_eq_some_iff listener.port listener).mpr ⟨member, rfl⟩
    rcases creating.others listener.port listener found with ⟨before, old, settled⟩ | made
    · obtain ⟨after, present, continues, running⟩ := creating.spared _ before old settled
      rw [found] at present
      cases present
      exact Or.inl ⟨before, ((initial.listener?_eq_some_iff _ _).mp old).1, settled,
        continues, running⟩
    · exact Or.inr made
  refine ⟨?_, ?_, ?_, ?_⟩
  · intro listener member
    rcases origin listener member with ⟨before, -, settled, continues, -⟩ |
      ⟨sp, inAll, samePort, made⟩
    · obtain ⟨status, rfl, -⟩ := continues
      exact settled
    · have wish := diffed.mem_values ((values sp).mp inAll)
      rw [samePort, ← made.lowered.1] at wish
      exact ⟨sp, wish, made.backendPort⟩
  · intro listener member
    rcases origin listener member with ⟨-, -, -, -, running⟩ | ⟨sp, -, -, made⟩
    · exact running
    · exact made.running
  · intro listener member
    rcases origin listener member with ⟨before, old, settled, continues, -⟩ |
      ⟨sp, -, -, made⟩
    · obtain ⟨status, rfl, -⟩ := continues
      exact diffed.readable before old settled
    · exact made.lowered.2
  · intro port protocol sp wish
    obtain ⟨-, -, rfl, rfl⟩ := wanted_eq_some wish
    rw [← expectedPorts_lookup] at wish
    by_cases kept : ∃ before ∈ initial.listeners, Settled table ports before ∧
        listenerKey table sp.port.toInt sp.protocol =
          listenerKey table before.port before.protocol
    · obtain ⟨before, old, settled, sameKey⟩ := kept
      obtain ⟨samePort, sameProtocol⟩ := (listenerKey_inj table).mp sameKey
      have found := (initial.listener?_eq_some_iff before.port before).mpr ⟨old, rfl⟩
      obtain ⟨after, present, ⟨status, rfl, -⟩, -⟩ :=
        creating.spared before.port before found settled
      exact ⟨_, ((content.listener?_eq_some_iff _ _).mp present).1, samePort.symm,
        sameProtocol.symm⟩
    · have left := (diffed.expected _ sp).mpr ⟨wish, fun listener member settled same =>
        kept ⟨listener, member, settled, same⟩⟩
      have inAll : sp ∈ all :=
        (values sp).mpr (List.mem_map.mpr ⟨⟨_, sp⟩, AList.mem_lookup_iff.mp left, rfl⟩)
      rcases creating.made sp inAll with impossible | ⟨listener, found, made⟩
      · cases impossible
      · obtain ⟨member, samePort⟩ := (content.listener?_eq_some_iff _ _).mp found
        exact ⟨listener, member, samePort, made.lowered.1⟩

/-- Whenever `ensureLBListeners` reports no error, the listeners are the wanted
ones; it leaves the backends alone. -/
theorem ensureLBListeners_ensures (order : MapOrder) (options : AliyunLoadBalancerOptions) :
    (ensureLBListeners table order balancer.describe ports options).Ensures
      (contract name allowed (Gentle table ports resolved balancer.content creates))
      (fun outcome after => outcome = some none → ∃ content,
        after = holding balancer inventory content ∧
          content.backends = balancer.content.backends ∧ Listening table ports content)
      (holding balancer inventory balancer.content) := by
  unfold ensureLBListeners
  refine Prog.Ensures.bind (diffListeners_ensures (fun _ => gentle_of_reads _) rfl) ?_
    (by simp)
  rintro answer after ⟨rfl, whole, -⟩
  cases answer with
  | error failure => exact fun impossible => nomatch impossible
  | ok diff =>
      have diffed := whole diff rfl
      refine Prog.Ensures.bind (startLoop_ensures diffed) ?_ (by simp)
      rintro (_ | failure) after started
      · obtain ⟨content, rfl, starting⟩ := started rfl
        refine Prog.Ensures.bind
          (deleteLoop_ensures diffed (starting.deleting diffed)) ?_ (by simp)
        rintro (_ | failure) after deleted
        · obtain ⟨content, rfl, deleting⟩ := deleted rfl
          refine (createLoop_ensures rfl options deleting).mono ?_
          intro outcome after made succeeded
          obtain ⟨content, rfl, creating⟩ := made succeeded
          refine ⟨content, rfl, creating.backends, creating.listening diffed fun sp => ?_⟩
          exact (order.ports_perm _).mem_iff
        · exact fun impossible => nomatch impossible
      · exact fun impossible => nomatch impossible

end Loops

end KubeAliyun.Balancer
