import KubeAliyun.Balancer.Store

/-!
# Services do not disturb each other

Operations on services with different names, interleaved call by call.  Each
operation is compared with a copy of itself that runs alone: they make the same
calls up to the id of the load balancer, get the same answers up to ids and
addresses, and so end alike.
-/

namespace KubeAliyun.Balancer

open KubeAliyun.Cloud KubeAliyun.Remote KubeAliyun.Text KubeAliyun.Provider

/-! ## Choices and answers that are alike -/

/-- Choices that agree on everything but what the service assigns to a new load
balancer. -/
structure AlikeChoices (choice twin : Choice) : Prop where
  fate : choice.fate = twin.fate
  error : choice.error = twin.error
  createdStatus : choice.createdStatus = twin.createdStatus
  startsRunning : choice.startsRunning = twin.startsRunning

def ownCoupling (name : String) : Coupling Choice View Call Reply where
  step := OwnStep name
  permit := Permitted name
  alike := AlikeChoices

section Answers

variable {choice twin : Choice}

theorem read_alike {α : Type} (alike : AlikeChoices choice twin)
    {found other : Option α} {reply echo : Except ApiError α}
    (read : reply = choice.read found) (twinRead : echo = twin.read other)
    (both : found.isSome = other.isSome) :
    (∃ value twinValue, found = some value ∧ other = some twinValue ∧
        reply = .ok value ∧ echo = .ok twinValue) ∨
      ∃ failure, reply = .error failure ∧ echo = .error failure := by
  unfold Choice.read at read twinRead
  rw [← alike.fate, ← alike.error] at twinRead
  cases found with
  | none =>
      cases other with
      | none =>
          refine Or.inr ⟨choice.error, ?_⟩
          cases fate : choice.fate <;> rw [fate] at read twinRead <;>
            exact ⟨read, twinRead⟩
      | some twinValue => cases both
  | some value =>
      cases other with
      | none => cases both
      | some twinValue =>
          cases fate : choice.fate <;> rw [fate] at read twinRead
          · exact Or.inl ⟨value, twinValue, rfl, rfl, read, twinRead⟩
          · exact Or.inr ⟨choice.error, read, twinRead⟩
          · exact Or.inr ⟨choice.error, read, twinRead⟩

theorem commit_alike {σ : Type} (alike : AlikeChoices choice twin)
    {state twinState after twinAfter : σ} {attempt other : Option σ}
    {reply echo : Option ApiError} (stepped : (reply, after) = choice.commit state attempt)
    (twinStepped : (echo, twinAfter) = twin.commit twinState other)
    (both : attempt.isSome = other.isSome) :
    reply = echo ∧ ((after = state ∧ twinAfter = twinState) ∨
      (attempt = some after ∧ other = some twinAfter)) := by
  unfold Choice.commit at stepped twinStepped
  rw [← alike.fate, ← alike.error] at twinStepped
  cases attempt with
  | none =>
      cases other with
      | none =>
          cases fate : choice.fate <;> rw [fate] at stepped twinStepped <;>
            cases stepped <;> cases twinStepped <;> exact ⟨rfl, Or.inl ⟨rfl, rfl⟩⟩
      | some twinNext => cases both
  | some next =>
      cases other with
      | none => cases both
      | some twinNext =>
          cases fate : choice.fate <;> rw [fate] at stepped twinStepped <;>
            cases stepped <;> cases twinStepped
          · exact ⟨rfl, Or.inr ⟨rfl, rfl⟩⟩
          · exact ⟨rfl, Or.inl ⟨rfl, rfl⟩⟩
          · exact ⟨rfl, Or.inr ⟨rfl, rfl⟩⟩

end Answers

/-! ## Lockstep on one load balancer -/

/-- Two views that differ in the identity of the load balancer only. -/
def Twins (balancer twinBalancer : Cloud.Balancer) (inventory : List InstanceAttributes)
    (seen twinSeen : View) : Prop :=
  ∃ content, seen = holding balancer inventory content ∧
    twinSeen = holding twinBalancer inventory content

def Together {α : Type} (balancer twinBalancer : Cloud.Balancer)
    (inventory : List InstanceAttributes) (outcome twinOutcome : Option α)
    (seen twinSeen : View) : Prop :=
  outcome = twinOutcome ∧ Twins balancer twinBalancer inventory seen twinSeen

section Lockstep

variable {name : String} {balancer twinBalancer : Cloud.Balancer}
  {inventory : List InstanceAttributes} {seen twinSeen : View}

/-- The rule of one call made on both sides. -/
theorem invoke_bind_paired {α β : Type} {post : Option α → Option β → View → View → Prop}
    {request twinRequest : Call} {next : Reply request → Aliyun α}
    {follow : Reply twinRequest → Aliyun β}
    (permitted : Permitted name seen request)
    (twinPermitted : Permitted name twinSeen twinRequest)
    (answers : ∀ choice twin reply echo after twinAfter, AlikeChoices choice twin →
      OwnStep name choice seen request reply after →
      OwnStep name twin twinSeen twinRequest echo twinAfter →
      (next reply).Paired (ownCoupling name) post (follow echo) after twinAfter) :
    (invoke request >>= next).Paired (ownCoupling name) post
      (invoke twinRequest >>= follow) seen twinSeen :=
  ⟨permitted, twinPermitted, answers⟩

theorem invoke_paired {request twinRequest : Call}
    {post : Option (Reply request) → Option (Reply twinRequest) → View → View → Prop}
    (permitted : Permitted name seen request)
    (twinPermitted : Permitted name twinSeen twinRequest)
    (answers : ∀ choice twin reply echo after twinAfter, AlikeChoices choice twin →
      OwnStep name choice seen request reply after →
      OwnStep name twin twinSeen twinRequest echo twinAfter →
      post (some reply) (some echo) after twinAfter) :
    (invoke request).Paired (ownCoupling name) post (invoke twinRequest) seen twinSeen :=
  ⟨permitted, twinPermitted, answers⟩

/-- The same change of the same content is answered and made alike. -/
theorem change_alike {choice twin : Choice} (alike : AlikeChoices choice twin)
    {update twinUpdate : Content → Option Content} {content : Content}
    {reply echo : Option ApiError} {after twinAfter : View}
    (same : update content = twinUpdate content)
    (stepped : (reply, after) = choice.commit (holding balancer inventory content)
      ((holding balancer inventory content).change update))
    (twinStepped : (echo, twinAfter) = twin.commit (holding twinBalancer inventory content)
      ((holding twinBalancer inventory content).change twinUpdate)) :
    reply = echo ∧ Twins balancer twinBalancer inventory after twinAfter := by
  rw [holding_change] at stepped twinStepped
  rw [← same] at twinStepped
  have both : ((update content).map (holding balancer inventory)).isSome =
      ((update content).map (holding twinBalancer inventory)).isSome := by
    simp
  obtain ⟨replies, unchanged | changed⟩ := commit_alike alike stepped twinStepped both
  · exact ⟨replies, content, unchanged.1, unchanged.2⟩
  · obtain ⟨next, found, made⟩ := Option.map_eq_some_iff.mp changed.1
    obtain ⟨twinNext, twinFound, twinMade⟩ := Option.map_eq_some_iff.mp changed.2
    rw [found] at twinFound
    cases twinFound
    exact ⟨replies, next, made.symm, twinMade.symm⟩

/-! ### Listeners -/

theorem readAttribute_paired (transport : Transport) (port : Int)
    (twins : Twins balancer twinBalancer inventory seen twinSeen) :
    (invoke (.slb (.describeListenerAttribute transport balancer.id port)) >>=
        readAttribute).Paired (ownCoupling name) (Together balancer twinBalancer inventory)
      (invoke (.slb (.describeListenerAttribute transport twinBalancer.id port)) >>=
        readAttribute) seen twinSeen := by
  obtain ⟨content, rfl, rfl⟩ := twins
  refine invoke_bind_paired (permitted_own rfl) (permitted_own rfl) ?_
  rintro choice twin reply echo after twinAfter alike ⟨rfl, read⟩ ⟨rfl, twinRead⟩
  have twins : Twins balancer twinBalancer inventory
      (holding balancer inventory content) (holding twinBalancer inventory content) :=
    ⟨content, rfl, rfl⟩
  rcases read_alike alike read twinRead rfl with
    ⟨value, twinValue, found, other, rfl, rfl⟩ | ⟨failure, rfl, rfl⟩
  · have same : value = twinValue := Option.some.inj (found.symm.trans other)
    subst same
    exact ⟨rfl, twins⟩
  · exact ⟨rfl, twins⟩

theorem getLBListenerAttributes_paired (table : LowerTable) {lb twinLb : LoadBalancer}
    (id : lb.loadBalancerId = balancer.id) (twinId : twinLb.loadBalancerId = twinBalancer.id)
    (pp : ListenerPortAndProtocol)
    (twins : Twins balancer twinBalancer inventory seen twinSeen) :
    (getLBListenerAttributes table lb pp).Paired (ownCoupling name)
      (Together balancer twinBalancer inventory)
      (getLBListenerAttributes table twinLb pp) seen twinSeen := by
  unfold getLBListenerAttributes
  rw [id, twinId]
  by_cases tcp : toLower table pp.listenerProtocol = "tcp"
  · rw [if_pos tcp, if_pos tcp]
    exact readAttribute_paired .tcp _ twins
  · rw [if_neg tcp, if_neg tcp]
    by_cases udp : toLower table pp.listenerProtocol = "udp"
    · rw [if_pos udp, if_pos udp]
      exact readAttribute_paired .udp _ twins
    · rw [if_neg udp, if_neg udp]
      exact ⟨rfl, twins⟩

/-- Continue two programs that have ended together. -/
theorem together_bind {α β γ : Type} {left right : Aliyun α} {next : α → Aliyun β}
    {follow : α → Aliyun γ} {post : Option β → Option γ → View → View → Prop}
    (first : left.Paired (ownCoupling name) (Together balancer twinBalancer inventory) right
      seen twinSeen)
    (rest : ∀ value after twinAfter, Twins balancer twinBalancer inventory after twinAfter →
      (next value).Paired (ownCoupling name) post (follow value) after twinAfter)
    (panics : ∀ after twinAfter, Twins balancer twinBalancer inventory after twinAfter →
      post none none after twinAfter) :
    (left >>= next).Paired (ownCoupling name) post (right >>= follow) seen twinSeen := by
  refine Prog.Paired.bind first ?_ ?_
  · rintro value twinValue after twinAfter ⟨same, twins⟩
    cases same
    exact rest value after twinAfter twins
  · rintro after twinAfter ⟨-, twins⟩
    exact panics after twinAfter twins

/-- Two programs that end together, and the rest unless they report a failure,
which is returned. -/
theorem together_unless {ε δ : Type} {left right : Aliyun (Option ε)}
    {next follow : Option ε → Aliyun (Option δ)} {wrap : ε → δ}
    (first : left.Paired (ownCoupling name) (Together balancer twinBalancer inventory) right
      seen twinSeen)
    (returned : ∀ failure, next (some failure) = .done (some (wrap failure)))
    (twinReturned : ∀ failure, follow (some failure) = .done (some (wrap failure)))
    (rest : ∀ after twinAfter, Twins balancer twinBalancer inventory after twinAfter →
      (next none).Paired (ownCoupling name) (Together balancer twinBalancer inventory)
        (follow none) after twinAfter) :
    (left >>= next).Paired (ownCoupling name) (Together balancer twinBalancer inventory)
      (right >>= follow) seen twinSeen := by
  refine together_bind first ?_ (fun _ _ twins => ⟨rfl, twins⟩)
  intro outcome after twinAfter twins
  cases outcome with
  | none => exact rest after twinAfter twins
  | some failure =>
      rw [returned, twinReturned]
      exact ⟨rfl, twins⟩

theorem diffListeners_paired (table : LowerTable) {lb twinLb : LoadBalancer}
    (id : lb.loadBalancerId = balancer.id) (twinId : twinLb.loadBalancerId = twinBalancer.id)
    (rest : List ListenerPortAndProtocol) (diff : ListenerDiff)
    (twins : Twins balancer twinBalancer inventory seen twinSeen) :
    (diffListeners table lb rest diff).Paired (ownCoupling name)
      (Together balancer twinBalancer inventory)
      (diffListeners table twinLb rest diff) seen twinSeen := by
  induction rest generalizing diff seen twinSeen with
  | nil => exact ⟨rfl, twins⟩
  | cons listener rest ih =>
      cases found : diff.expected.lookup
          (listenerKey table listener.listenerPort listener.listenerProtocol) with
      | none =>
          rw [diffListeners_unexpected lb listener rest found,
            diffListeners_unexpected twinLb listener rest found]
          exact ih _ twins
      | some sp =>
          rw [diffListeners_expected lb listener rest found,
            diffListeners_expected twinLb listener rest found]
          refine together_bind
            (getLBListenerAttributes_paired table id twinId listener twins) ?_ ?_
          · intro answer after twinAfter twins
            cases answer with
            | error failure => exact ⟨rfl, twins⟩
            | ok attributes => exact ih _ twins
          · intro after twinAfter twins
            exact ⟨rfl, twins⟩

/-- A loop whose bodies end together ends together. -/
theorem forEach_paired {α ε : Type} {body twinBody : α → Aliyun (Option ε)}
    (items : List α)
    (step : ∀ item seen twinSeen, Twins balancer twinBalancer inventory seen twinSeen →
      (body item).Paired (ownCoupling name) (Together balancer twinBalancer inventory)
        (twinBody item) seen twinSeen)
    (twins : Twins balancer twinBalancer inventory seen twinSeen) :
    (Prog.forEach body items).Paired (ownCoupling name)
      (Together balancer twinBalancer inventory) (Prog.forEach twinBody items) seen
      twinSeen := by
  refine Prog.Paired.forEach (Twins balancer twinBalancer inventory) ?_ ?_ items twins
  · intro after twinAfter still
    exact ⟨rfl, still⟩
  · intro item before twinBefore still
    refine (step item before twinBefore still).mono ?_
    rintro outcome twinOutcome after twinAfter ⟨rfl, final⟩
    exact ⟨fun ended => ⟨ended, final⟩, fun ended => ended, fun _ => ⟨rfl, final⟩⟩

theorem startListener_paired (port : Int)
    (twins : Twins balancer twinBalancer inventory seen twinSeen) :
    (startLoadBalancerListener balancer.id port).Paired (ownCoupling name)
      (Together balancer twinBalancer inventory)
      (startLoadBalancerListener twinBalancer.id port) seen twinSeen := by
  obtain ⟨content, rfl, rfl⟩ := twins
  refine invoke_paired (permitted_own rfl) (permitted_own rfl) ?_
  intro choice twin reply echo after twinAfter alike stepped twinStepped
  obtain ⟨same, twins⟩ := change_alike alike (by rw [alike.startsRunning]) stepped twinStepped
  exact ⟨congrArg some same, twins⟩

theorem deleteListener_paired (port : Int)
    (twins : Twins balancer twinBalancer inventory seen twinSeen) :
    (deleteLoadBalancerListener balancer.id port).Paired (ownCoupling name)
      (Together balancer twinBalancer inventory)
      (deleteLoadBalancerListener twinBalancer.id port) seen twinSeen := by
  obtain ⟨content, rfl, rfl⟩ := twins
  refine invoke_paired (permitted_own rfl) (permitted_own rfl) ?_
  intro choice twin reply echo after twinAfter alike stepped twinStepped
  obtain ⟨same, twins⟩ := change_alike alike rfl stepped twinStepped
  exact ⟨congrArg some same, twins⟩

theorem createListener_paired (transport : Transport) (port backendPort : Int)
    (settings : ListenerSettings)
    (twins : Twins balancer twinBalancer inventory seen twinSeen) :
    (invoke (.slb (.createListener transport
        ⟨balancer.id, port, backendPort, settings⟩))).Paired (ownCoupling name)
      (Together balancer twinBalancer inventory)
      (invoke (.slb (.createListener transport
        ⟨twinBalancer.id, port, backendPort, settings⟩))) seen twinSeen := by
  obtain ⟨content, rfl, rfl⟩ := twins
  refine invoke_paired (permitted_own rfl) (permitted_own rfl) ?_
  intro choice twin reply echo after twinAfter alike stepped twinStepped
  obtain ⟨same, twins⟩ := change_alike alike (by rw [alike.createdStatus]) stepped twinStepped
  exact ⟨congrArg some same, twins⟩

/-- Renaming the values of two programs that end together. -/
theorem together_map {α β : Type} {left right : Aliyun α} (rename : α → β)
    (paired : left.Paired (ownCoupling name) (Together balancer twinBalancer inventory) right
      seen twinSeen) :
    (rename <$> left).Paired (ownCoupling name) (Together balancer twinBalancer inventory)
      (rename <$> right) seen twinSeen := by
  rw [Prog.map_eq, Prog.map_eq]
  refine together_bind paired ?_ ?_
  · intro value after twinAfter twins
    exact ⟨rfl, twins⟩
  · intro after twinAfter twins
    exact ⟨rfl, twins⟩

theorem createServiceListener_paired {lb twinLb : LoadBalancer}
    (id : lb.loadBalancerId = balancer.id) (twinId : twinLb.loadBalancerId = twinBalancer.id)
    (options : AliyunLoadBalancerOptions) (sp : ServicePort)
    (twins : Twins balancer twinBalancer inventory seen twinSeen) :
    (createServiceListener lb options sp).Paired (ownCoupling name)
      (Together balancer twinBalancer inventory)
      (createServiceListener twinLb options sp) seen twinSeen := by
  unfold createServiceListener
  rw [id, twinId]
  by_cases tcp : sp.protocol = "TCP"
  · rw [if_pos tcp, if_pos tcp]
    exact together_unless (together_map _ (createListener_paired .tcp _ _ _ twins))
      (fun _ => rfl) (fun _ => rfl)
      fun _ _ twins => together_map _ (startListener_paired _ twins)
  · rw [if_neg tcp, if_neg tcp]
    by_cases udp : sp.protocol = "UDP"
    · rw [if_pos udp, if_pos udp]
      exact together_unless (together_map _ (createListener_paired .udp _ _ _ twins))
        (fun _ => rfl) (fun _ => rfl)
        fun _ _ twins => together_map _ (startListener_paired _ twins)
    · rw [if_neg udp, if_neg udp]
      exact ⟨rfl, twins⟩

theorem ensureLBListeners_paired (table : LowerTable) (order : MapOrder)
    {lb twinLb : LoadBalancer} (id : lb.loadBalancerId = balancer.id)
    (twinId : twinLb.loadBalancerId = twinBalancer.id)
    (sameListeners : lb.listenerPortsAndProtocol = twinLb.listenerPortsAndProtocol)
    (ports : List ServicePort) (options : AliyunLoadBalancerOptions)
    (twins : Twins balancer twinBalancer inventory seen twinSeen) :
    (ensureLBListeners table order lb ports options).Paired (ownCoupling name)
      (Together balancer twinBalancer inventory)
      (ensureLBListeners table order twinLb ports options) seen twinSeen := by
  unfold ensureLBListeners
  rw [sameListeners, id, twinId]
  refine together_bind (diffListeners_paired table id twinId _ _ twins) ?_
    (fun _ _ twins => ⟨rfl, twins⟩)
  intro answer after twinAfter twins
  cases answer with
  | error failure => exact ⟨rfl, twins⟩
  | ok diff =>
      refine together_unless (forEach_paired diff.stopped
        (fun port _ _ => startListener_paired port) twins) (fun _ => rfl) (fun _ => rfl) ?_
      intro after twinAfter twins
      refine together_unless (forEach_paired diff.removals
        (fun port _ _ => deleteListener_paired port) twins) (fun _ => rfl) (fun _ => rfl) ?_
      intro after twinAfter twins
      exact forEach_paired _ (fun sp _ _ =>
        createServiceListener_paired id twinId options sp) twins

/-! ### Backends -/

theorem unlessEmpty_paired {α : Type} (items : List α) {left right : Aliyun (Option ApiError)}
    (paired : left.Paired (ownCoupling name) (Together balancer twinBalancer inventory) right
      seen twinSeen)
    (twins : Twins balancer twinBalancer inventory seen twinSeen) :
    (unlessEmpty items left).Paired (ownCoupling name)
      (Together balancer twinBalancer inventory) (unlessEmpty items right) seen twinSeen := by
  unfold unlessEmpty
  split
  · exact ⟨rfl, twins⟩
  · exact paired

theorem removeBackends_paired (servers : List String)
    (twins : Twins balancer twinBalancer inventory seen twinSeen) :
    (removeBackendServers balancer.id servers).Paired (ownCoupling name)
      (Together balancer twinBalancer inventory)
      (removeBackendServers twinBalancer.id servers) seen twinSeen := by
  obtain ⟨content, rfl, rfl⟩ := twins
  refine invoke_paired (permitted_own rfl) (permitted_own rfl) ?_
  intro choice twin reply echo after twinAfter alike stepped twinStepped
  obtain ⟨same, twins⟩ := change_alike alike rfl stepped twinStepped
  exact ⟨congrArg some same, twins⟩

theorem addBackends_paired (servers : List BackendServer)
    (twins : Twins balancer twinBalancer inventory seen twinSeen) :
    (addBackendServers balancer.id servers).Paired (ownCoupling name)
      (Together balancer twinBalancer inventory)
      (addBackendServers twinBalancer.id servers) seen twinSeen := by
  obtain ⟨content, rfl, rfl⟩ := twins
  refine invoke_paired (permitted_own rfl) (permitted_own rfl) ?_
  intro choice twin reply echo after twinAfter alike stepped twinStepped
  obtain ⟨same, twins⟩ := change_alike alike rfl stepped twinStepped
  exact ⟨congrArg some same, twins⟩

theorem ensureLBBackends_paired (order : MapOrder) {lb twinLb : LoadBalancer}
    (id : lb.loadBalancerId = balancer.id) (twinId : twinLb.loadBalancerId = twinBalancer.id)
    (sameBackends : lb.backendServers = twinLb.backendServers)
    (instances : List InstanceAttributes)
    (twins : Twins balancer twinBalancer inventory seen twinSeen) :
    (ensureLBBackends order lb instances).Paired (ownCoupling name)
      (Together balancer twinBalancer inventory)
      (ensureLBBackends order twinLb instances) seen twinSeen := by
  unfold ensureLBBackends
  rw [sameBackends, id, twinId]
  refine together_unless (unlessEmpty_paired _ (removeBackends_paired _ twins) twins)
    (fun _ => rfl) (fun _ => rfl) ?_
  intro after twinAfter twins
  exact together_unless (unlessEmpty_paired _ (addBackends_paired _ twins) twins)
    (fun _ => rfl) (fun _ => rfl) fun _ _ twins => ⟨rfl, twins⟩

end Lockstep

/-! ## Lockstep of the operations -/

/-- Two views of a name: no load balancer in either, or one with the same
content. -/
inductive AlikeViews : View → View → Prop
  | absent (inventory : List InstanceAttributes) :
      AlikeViews ⟨none, inventory⟩ ⟨none, inventory⟩
  | present {balancer twinBalancer : Cloud.Balancer}
      (inventory : List InstanceAttributes)
      (same : balancer.content = twinBalancer.content) :
      AlikeViews ⟨some balancer, inventory⟩ ⟨some twinBalancer, inventory⟩

theorem AlikeViews.refl (seen : View) : AlikeViews seen seen := by
  obtain ⟨own, inventory⟩ := seen
  cases own with
  | none => exact .absent inventory
  | some balancer => exact .present inventory rfl

theorem Twins.alike {balancer twinBalancer : Cloud.Balancer}
    {inventory : List InstanceAttributes} {seen twinSeen : View}
    (twins : Twins balancer twinBalancer inventory seen twinSeen) :
    AlikeViews seen twinSeen := by
  obtain ⟨content, rfl, rfl⟩ := twins
  exact .present inventory rfl

theorem AlikeViews.inventory {seen twinSeen : View} (alike : AlikeViews seen twinSeen) :
    seen.inventory = twinSeen.inventory := by
  cases alike <;> rfl

theorem AlikeViews.content {seen twinSeen : View} (alike : AlikeViews seen twinSeen) :
    seen.own.map Cloud.Balancer.content = twinSeen.own.map Cloud.Balancer.content := by
  cases alike with
  | absent inventory => rfl
  | present inventory same => exact congrArg some same

inductive LookedUp : Option (Except ApiError (Option LoadBalancer)) →
    Option (Except ApiError (Option LoadBalancer)) → View → View → Prop
  | failed (failure : ApiError) {seen twinSeen : View}
      (alike : AlikeViews seen twinSeen) :
      LookedUp (some (.error failure)) (some (.error failure)) seen twinSeen
  | absent (inventory : List InstanceAttributes) :
      LookedUp (some (.ok none)) (some (.ok none)) ⟨none, inventory⟩ ⟨none, inventory⟩
  | present {balancer twinBalancer : Cloud.Balancer}
      (inventory : List InstanceAttributes)
      (same : balancer.content = twinBalancer.content) :
      LookedUp (some (.ok (some balancer.describe)))
        (some (.ok (some twinBalancer.describe)))
        ⟨some balancer, inventory⟩ ⟨some twinBalancer, inventory⟩

section Operations

variable {name : String} {seen twinSeen : View}

theorem permitted_list (region : String) (seen : View) :
    Permitted name seen (.slb (.describeLoadBalancers region)) := by
  refine ⟨?_, ?_⟩
  · intro id impossible
    cases impossible
  · intro args impossible
    cases impossible

theorem getLoadBalancer_paired (provider : AliyunProvider)
    (alike : AlikeViews seen twinSeen) :
    (getLoadBalancer provider name).Paired (ownCoupling name) LookedUp
      (getLoadBalancer provider name) seen twinSeen := by
  unfold getLoadBalancer
  refine invoke_bind_paired (permitted_list _ _) (permitted_list _ _) ?_
  rintro choice twin reply echo after twinAfter alikeChoices
    ⟨rfl, lbs, read, first⟩ ⟨rfl, twinLbs, twinRead, twinFirst⟩
  rcases read_alike alikeChoices read twinRead rfl with
    ⟨value, twinValue, found, other, rfl, rfl⟩ | ⟨failure, rfl, rfl⟩
  · cases found
    cases other
    simp only [first, twinFirst]
    cases alike with
    | absent inventory => exact .absent inventory
    | present inventory same =>
        -- the second query, for the attributes of the load balancer
        refine invoke_bind_paired (permitted_own rfl) (permitted_own rfl) ?_
        rintro choice twin reply echo after twinAfter alike ⟨rfl, read⟩ ⟨rfl, twinRead⟩
        rcases read_alike alike read twinRead rfl with
          ⟨value, twinValue, found, other, rfl, rfl⟩ | ⟨failure, rfl, rfl⟩
        · cases found
          cases other
          exact .present inventory same
        · exact .failed failure (.present inventory same)
  · exact .failed failure alike

/-- The lookups after a creation end alike too, possibly without an answer. -/
theorem awaitLoadBalancer_paired (provider : AliyunProvider)
    {last : Except ApiError (Option LoadBalancer)} (missed : ∀ lb, last ≠ .ok (some lb))
    (retry : Nat) (alike : AlikeViews seen twinSeen) :
    (awaitLoadBalancer provider name last retry).Paired (ownCoupling name)
      (fun outcome twinOutcome after twinAfter =>
        LookedUp outcome twinOutcome after twinAfter ∨
          (outcome = some (.ok none) ∧ twinOutcome = some (.ok none) ∧
            AlikeViews after twinAfter))
      (awaitLoadBalancer provider name last retry) seen twinSeen := by
  induction retry generalizing last seen twinSeen with
  | zero =>
      match last, missed with
      | .error failure, _ => exact Or.inl (.failed failure alike)
      | .ok none, _ => exact Or.inr ⟨rfl, rfl, alike⟩
      | .ok (some lb), missed => exact absurd rfl (missed lb)
  | succ retry ih =>
      refine Prog.Paired.bind (getLoadBalancer_paired provider alike) ?_ ?_
      · intro value twinValue after twinAfter looked
        cases looked with
        | failed failure alike => exact ih (by simp) alike
        | absent inventory => exact ih (by simp) (.absent inventory)
        | present inventory same => exact Or.inl (.present inventory same)
      · intro after twinAfter looked
        cases looked

theorem getInstancesByNodes_paired (provider : AliyunProvider) (nodes : List String)
    (alike : AlikeViews seen twinSeen) :
    (getInstancesByNodes provider nodes).Paired (ownCoupling name)
      (fun outcome twinOutcome after twinAfter => outcome = twinOutcome ∧
        after = seen ∧ twinAfter = twinSeen)
      (getInstancesByNodes provider nodes) seen twinSeen := by
  unfold getInstancesByNodes getInstancesByNodeNames getInstances
  rw [Prog.bind_assoc]
  refine invoke_bind_paired rfl rfl ?_
  rintro choice twin reply echo after twinAfter alikeChoices
    ⟨rfl, page, read⟩ ⟨rfl, twinPage, twinRead⟩
  rcases read_alike alikeChoices read twinRead rfl with
    ⟨value, twinValue, found, other, rfl, rfl⟩ | ⟨failure, rfl, rfl⟩
  · cases found
    cases other
    rw [alike.inventory]
    exact ⟨rfl, rfl, rfl⟩
  · exact ⟨rfl, rfl, rfl⟩

def Returned.withoutAddress : Returned → Returned
  | .got status found error => .got (status.map fun _ => ⟨[]⟩) found error
  | .ensured status error => .ensured (status.map fun _ => ⟨[]⟩) error
  | .updated error => .updated error
  | .deleted error => .deleted error

def EndAlike (outcome twinOutcome : Option Returned) (after twinAfter : View) : Prop :=
  outcome.map Returned.withoutAddress = twinOutcome.map Returned.withoutAddress ∧
    AlikeViews after twinAfter

def StatusAlike (outcome twinOutcome : Option (Option LoadBalancerStatus × Option GoError))
    (after twinAfter : View) : Prop :=
  outcome.map (fun result => (result.1.isSome, result.2)) =
      twinOutcome.map (fun result => (result.1.isSome, result.2)) ∧
    AlikeViews after twinAfter

section Described

variable {balancer twinBalancer : Cloud.Balancer}

theorem Twins.of_content (inventory : List InstanceAttributes)
    (same : balancer.content = twinBalancer.content) :
    Twins balancer twinBalancer inventory ⟨some balancer, inventory⟩
      ⟨some twinBalancer, inventory⟩ :=
  ⟨balancer.content, rfl, by rw [same]; rfl⟩

theorem describe_listeners_alike (same : balancer.content = twinBalancer.content) :
    balancer.describe.listenerPortsAndProtocol =
      twinBalancer.describe.listenerPortsAndProtocol := by
  simp only [Cloud.Balancer.describe, same]

theorem describe_backends_alike (same : balancer.content = twinBalancer.content) :
    balancer.describe.backendServers = twinBalancer.describe.backendServers := by
  simp only [Cloud.Balancer.describe, same]

end Described

theorem syncLoadBalancer_paired (table : LowerTable) (order : MapOrder)
    (service : KubeService) (instances : List InstanceAttributes)
    {balancer twinBalancer : Cloud.Balancer} (inventory : List InstanceAttributes)
    (same : balancer.content = twinBalancer.content) :
    (syncLoadBalancer table order service instances balancer.describe).Paired
      (ownCoupling name) StatusAlike
      (syncLoadBalancer table order service instances twinBalancer.describe)
      ⟨some balancer, inventory⟩ ⟨some twinBalancer, inventory⟩ := by
  unfold syncLoadBalancer
  refine together_bind (ensureLBListeners_paired table order rfl rfl
    (describe_listeners_alike same) _ _ (Twins.of_content inventory same)) ?_
    (fun _ _ twins => ⟨rfl, twins.alike⟩)
  rintro (_ | failure) after twinAfter twins
  · refine together_bind (ensureLBBackends_paired order rfl rfl
      (describe_backends_alike same) instances twins) ?_
      (fun _ _ twins => ⟨rfl, twins.alike⟩)
    rintro (_ | failure) after twinAfter twins
    · exact ⟨rfl, twins.alike⟩
    · exact ⟨rfl, twins.alike⟩
  · exact ⟨rfl, twins.alike⟩

theorem createAndSync_paired (provider : AliyunProvider) (table : LowerTable)
    (order : MapOrder) (service : KubeService) (instances : List InstanceAttributes)
    (inventory : List InstanceAttributes) :
    (createAndSync provider table order service instances).Paired
      (ownCoupling (getLoadBalancerName service)) StatusAlike
      (createAndSync provider table order service instances)
      ⟨none, inventory⟩ ⟨none, inventory⟩ := by
  unfold createAndSync
  refine invoke_bind_paired (permitted_create inventory) (permitted_create inventory) ?_
  rintro choice twin reply echo after twinAfter alike ⟨id, stepped⟩ ⟨twinId, twinStepped⟩
  obtain ⟨sameReply, states⟩ := commit_alike alike stepped twinStepped rfl
  have views : AlikeViews after twinAfter := by
    rcases states with ⟨rfl, rfl⟩ | ⟨made, twinMade⟩
    · exact .absent inventory
    · cases made
      cases twinMade
      exact .present inventory rfl
  have sameReply : reply = echo := sameReply
  subst sameReply
  cases reply with
  | some failure => exact ⟨rfl, views⟩
  | none =>
      refine Prog.Paired.bind (awaitLoadBalancer_paired provider (by simp) 3 views) ?_ ?_
      · rintro lookup twinLookup final twinFinal (looked | ⟨rest⟩)
        · cases looked with
          | failed failure alike => exact ⟨rfl, alike⟩
          | absent inventory => exact ⟨rfl, .absent inventory⟩
          | present inventory same =>
              exact syncLoadBalancer_paired table order service instances inventory same
        · obtain ⟨first, second, alike⟩ := rest
          cases first
          cases second
          exact ⟨rfl, alike⟩
      · rintro final twinFinal (looked | ⟨impossible, -⟩)
        · cases looked
        · cases impossible

theorem ensureLoadBalancer_paired (provider : AliyunProvider) (table : LowerTable)
    (order : MapOrder) (service : KubeService) (nodes : List String)
    (alike : AlikeViews seen twinSeen) :
    (ensureLoadBalancer provider table order service nodes).Paired
      (ownCoupling (getLoadBalancerName service)) StatusAlike
      (ensureLoadBalancer provider table order service nodes) seen twinSeen := by
  unfold ensureLoadBalancer
  cases unsupported service with
  | some failure => exact ⟨rfl, alike⟩
  | none =>
      refine Prog.Paired.bind (getInstancesByNodes_paired provider nodes alike) ?_ ?_
      · rintro answer twinAnswer after twinAfter ⟨same, rfl, rfl⟩
        cases same
        cases answer with
        | error failure => exact ⟨rfl, alike⟩
        | ok instances =>
            refine Prog.Paired.bind (getLoadBalancer_paired provider alike) ?_ ?_
            · intro lookup twinLookup after twinAfter looked
              cases looked with
              | failed failure alike => exact ⟨rfl, alike⟩
              | absent inventory =>
                  exact createAndSync_paired provider table order service instances inventory
              | present inventory same =>
                  exact syncLoadBalancer_paired table order service instances inventory same
            · intro after twinAfter looked
              cases looked
      · rintro after twinAfter ⟨-, rfl, rfl⟩
        exact ⟨rfl, alike⟩

theorem updateLoadBalancer_paired (provider : AliyunProvider) (table : LowerTable)
    (order : MapOrder) (service : KubeService) (nodes : List String)
    (alike : AlikeViews seen twinSeen) :
    (updateLoadBalancer provider table order service nodes).Paired
      (ownCoupling (getLoadBalancerName service))
      (fun outcome twinOutcome after twinAfter =>
        outcome = twinOutcome ∧ AlikeViews after twinAfter)
      (updateLoadBalancer provider table order service nodes) seen twinSeen := by
  unfold updateLoadBalancer
  refine Prog.Paired.bind (getLoadBalancer_paired provider alike) ?_ ?_
  · intro lookup twinLookup after twinAfter looked
    cases looked with
    | failed failure alike => exact ⟨rfl, alike⟩
    | absent inventory => exact ⟨rfl, .absent inventory⟩
    | @present balancer twinBalancer inventory same =>
        refine together_bind (ensureLBListeners_paired table order rfl rfl
          (describe_listeners_alike same) _ _ (Twins.of_content inventory same)) ?_
          (fun _ _ twins => ⟨rfl, twins.alike⟩)
        rintro (_ | failure) after twinAfter twins
        · refine Prog.Paired.bind
            (getInstancesByNodes_paired provider nodes twins.alike) ?_ ?_
          · rintro answer twinAnswer final twinFinal ⟨sameAnswer, rfl, rfl⟩
            cases sameAnswer
            cases answer with
            | error failure => exact ⟨rfl, twins.alike⟩
            | ok instances =>
                refine (ensureLBBackends_paired order rfl rfl
                  (describe_backends_alike same) instances twins).mono ?_
                rintro outcome twinOutcome after twinAfter ⟨sameOutcome, twins⟩
                exact ⟨sameOutcome, twins.alike⟩
          · rintro final twinFinal ⟨-, rfl, rfl⟩
            exact ⟨rfl, twins.alike⟩
        · exact ⟨rfl, twins.alike⟩
  · intro after twinAfter looked
    cases looked

theorem ensureLoadBalancerDeleted_paired (provider : AliyunProvider)
    (service : KubeService) (alike : AlikeViews seen twinSeen) :
    (ensureLoadBalancerDeleted provider service).Paired
      (ownCoupling (getLoadBalancerName service))
      (fun outcome twinOutcome after twinAfter =>
        outcome = twinOutcome ∧ AlikeViews after twinAfter)
      (ensureLoadBalancerDeleted provider service) seen twinSeen := by
  unfold ensureLoadBalancerDeleted
  refine Prog.Paired.bind (getLoadBalancer_paired provider alike) ?_ ?_
  · intro lookup twinLookup after twinAfter looked
    cases looked with
    | failed failure alike => exact ⟨rfl, alike⟩
    | absent inventory => exact ⟨rfl, .absent inventory⟩
    | present inventory same =>
        simp only [Prog.map_eq]
        refine invoke_bind_paired (permitted_own rfl) (permitted_own rfl) ?_
        intro choice twin reply echo after twinAfter alikeChoices stepped twinStepped
        obtain ⟨sameReply, states⟩ := commit_alike alikeChoices stepped twinStepped rfl
        refine ⟨congrArg (fun error => some (Option.map GoError.api error)) sameReply, ?_⟩
        rcases states with ⟨rfl, rfl⟩ | ⟨gone, twinGone⟩
        · exact .present inventory same
        · cases gone
          cases twinGone
          exact .absent inventory
  · intro after twinAfter looked
    cases looked

theorem getLoadBalancerForService_paired (provider : AliyunProvider)
    (service : KubeService) (alike : AlikeViews seen twinSeen) :
    (getLoadBalancerForService provider service).Paired
      (ownCoupling (getLoadBalancerName service))
      (fun outcome twinOutcome after twinAfter =>
        outcome.map (fun result => (result.1.isSome, result.2)) =
            twinOutcome.map (fun result => (result.1.isSome, result.2)) ∧
          AlikeViews after twinAfter)
      (getLoadBalancerForService provider service) seen twinSeen := by
  unfold getLoadBalancerForService
  refine Prog.Paired.bind (getLoadBalancer_paired provider alike) ?_ ?_
  · intro lookup twinLookup after twinAfter looked
    cases looked with
    | failed failure alike => exact ⟨rfl, alike⟩
    | absent inventory => exact ⟨rfl, .absent inventory⟩
    | present inventory same => exact ⟨rfl, .present inventory same⟩
  · intro after twinAfter looked
    cases looked

/-- Statuses that are both there or both missing agree without their address. -/
theorem withoutAddress_status {status twinStatus : Option LoadBalancerStatus}
    (same : status.isSome = twinStatus.isSome) :
    (status.map fun _ => (⟨[]⟩ : LoadBalancerStatus)) = twinStatus.map fun _ => ⟨[]⟩ := by
  cases status with
  | none =>
      cases twinStatus with
      | none => rfl
      | some _ => cases same
  | some _ =>
      cases twinStatus with
      | none => cases same
      | some _ => rfl

theorem operation_paired (provider : AliyunProvider) (table : LowerTable)
    (service : KubeService) (operation : Operation) (alike : AlikeViews seen twinSeen) :
    (operation.program provider table service).Paired
      (ownCoupling (getLoadBalancerName service)) EndAlike
      (operation.program provider table service) seen twinSeen := by
  cases operation with
  | get =>
      refine (getLoadBalancerForService_paired provider service alike).map ?_
      rintro (_ | ⟨status, rest⟩) (_ | ⟨twinStatus, twinRest⟩) after twinAfter ⟨same, views⟩
      · exact ⟨rfl, views⟩
      · cases same
      · cases same
      · obtain ⟨statuses, sameRest⟩ := Prod.mk.inj (Option.some.inj same)
        cases sameRest
        exact ⟨congrArg (fun kept => some (Returned.got kept rest.1 rest.2))
          (withoutAddress_status statuses), views⟩
  | ensure order nodes =>
      refine (ensureLoadBalancer_paired provider table order service nodes alike).map ?_
      rintro (_ | ⟨status, error⟩) (_ | ⟨twinStatus, twinError⟩) after twinAfter ⟨same, views⟩
      · exact ⟨rfl, views⟩
      · cases same
      · cases same
      · obtain ⟨statuses, sameError⟩ := Prod.mk.inj (Option.some.inj same)
        cases sameError
        exact ⟨congrArg (fun kept => some (Returned.ensured kept error))
          (withoutAddress_status statuses), views⟩
  | update order nodes =>
      refine (updateLoadBalancer_paired provider table order service nodes alike).map ?_
      rintro outcome twinOutcome after twinAfter ⟨same, views⟩
      cases same
      exact ⟨rfl, views⟩
  | delete =>
      refine (ensureLoadBalancerDeleted_paired provider service alike).map ?_
      rintro outcome twinOutcome after twinAfter ⟨same, views⟩
      cases same
      exact ⟨rfl, views⟩

end Operations

/-! ## Interleavings -/

section Interleaved

variable {ι : Type}

/-- Services with different names see the account through separate views. -/
theorem services_separated (services : ι → KubeService)
    (distinct : Function.Injective fun index => getLoadBalancerName (services index)) :
    Separated Account.answer (fun index => view (getLoadBalancerName (services index)))
      SoleNames (fun index => ownCoupling (getLoadBalancerName (services index))) where
  step := by
    intro index choice account request sole permitted
    exact ownStep_of_answer choice permitted fun _ => sole _
  keeps := by
    intro index choice account request sole permitted
    exact soleNames_answer choice permitted sole
  frame := by
    intro index other choice account request different _ permitted
    exact view_other choice permitted fun same => different (distinct same)

/-- The operations on services as processes over one account. -/
def operationPool (provider : AliyunProvider) (table : LowerTable)
    (services : ι → KubeService) (operations : ι → Operation)
    (choices : ι → Nat → Choice) (account : Account) :
    Pool ι Choice Account Call Reply Returned :=
  ⟨fun index => ⟨(operations index).program provider table (services index),
    choices index⟩, account⟩

def contentOf (name : String) (account : Account) : Option Content :=
  (account.slb.named name).map Cloud.Balancer.content

/-- In every interleaving, a call leaves the load balancers of other names as they
are, and an operation that has ended returned what it returns alone and left
the content it leaves alone, up to ids and addresses. -/
theorem operations_isolated [DecidableEq ι] (provider : AliyunProvider) (table : LowerTable)
    (services : ι → KubeService) (operations : ι → Operation)
    (choices alone : ι → Nat → Choice) (account : Account) (schedule : List ι)
    (distinct : Function.Injective fun index => getLoadBalancerName (services index))
    (alike : ∀ index position, AlikeChoices (choices index position) (alone index position))
    (sole : SoleNames account) :
    let reached := (operationPool provider table services operations choices account).runs
      Account.answer schedule
    SoleNames reached.state ∧
      (∀ index other, other ≠ getLoadBalancerName (services index) →
        (reached.step Account.answer index).state.slb.named other =
          reached.state.slb.named other) ∧
      ∀ index (result : Option Returned),
        (reached.process index).program = result.elim .crash .done →
        let solo := ((operations index).program provider table (services index)).run
          Account.answer (alone index) account
        result.map Returned.withoutAddress =
            solo.outcome.map Returned.withoutAddress ∧
          contentOf (getLoadBalancerName (services index)) reached.state =
            contentOf (getLoadBalancerName (services index)) solo.state := by
  have separated := services_separated services distinct
  have start : (operationPool provider table services operations choices
      account).Accompanied Account.answer
      (fun index => view (getLoadBalancerName (services index))) SoleNames
      (fun index => ownCoupling (getLoadBalancerName (services index)))
      (fun _ => EndAlike)
      (fun index => (((operations index).program provider table (services index)).run
        Account.answer (alone index) account).outcome)
      (fun index => (((operations index).program provider table (services index)).run
        Account.answer (alone index) account).state) := by
    refine ⟨sole, fun index => ⟨⟨(operations index).program provider table
      (services index), alone index⟩, account, ⟨sole, alike index, ?_⟩, rfl, rfl⟩⟩
    exact operation_paired provider table (services index) (operations index) (.refl _)
  refine ⟨(start.runs separated schedule).1, ?_, ?_⟩
  · intro index other different
    rcases (start.runs separated schedule).moves index with
      still | ⟨choice, request, permitted, moved⟩
    · rw [still]
    · rw [moved]
      exact congrArg View.own (view_other choice permitted different)
  · intro index result ended
    obtain ⟨sameResult, views⟩ :=
      Pool.ends_as_alone separated start schedule index result ended
    exact ⟨sameResult, views.content⟩

/-- Two services, one losing its load balancer while the other one is
synchronised. -/
theorem operations_isolated_sample :
    contentOf "a12" ((operationPool sampleProvider .identity
        (fun index : Bool => if index then sampleService else { sampleService with uid := "3" })
        (fun index => if index then .delete else .ensure .stored ["node-a"])
        (fun _ => sampleChoices) sampleAccount).runs Account.answer
          [true, false, true, false, true]).state =
      contentOf "a12" ((Operation.delete.program sampleProvider .identity sampleService).run
        Account.answer sampleChoices sampleAccount).state := by
  refine ((operations_isolated sampleProvider .identity
    (fun index : Bool => if index then sampleService else { sampleService with uid := "3" })
    (fun index => if index then .delete else .ensure .stored ["node-a"])
    (fun _ => sampleChoices) (fun _ => sampleChoices) sampleAccount
    [true, false, true, false, true] ?_ ?_ ?_).2.2 true (some (.deleted none)) rfl).2
  · intro first second
    cases first <;> cases second <;> decide
  · intro index position
    exact ⟨rfl, rfl, rfl, rfl⟩
  · intro name
    unfold Sole sampleAccount
    exact List.length_filter_le _ _

end Interleaved

end KubeAliyun.Balancer
