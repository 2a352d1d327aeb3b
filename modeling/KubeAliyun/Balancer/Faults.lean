import KubeAliyun.Balancer.Convergence
import KubeAliyun.Remote.Trace

/-!
# Failing calls

What the load balancer operations make of failing calls, against every service.
A failed attribute query of a listener is the one failure that is not turned into
an error, and a load balancer that stays unlisted after its creation is the one
case without a status and without an error.
-/

namespace KubeAliyun.Balancer

open KubeAliyun.Cloud KubeAliyun.Provider KubeAliyun.Remote KubeAliyun.Text

/-! ## Exchanges -/

def failureOf {α : Type} : Except ApiError α → Option ApiError
  | .error failure => some failure
  | .ok _ => none

def replyFailure : (request : Call) → Reply request → Option ApiError
  | .ecs (.describeInstances _), reply => failureOf reply
  | .ecs (.describeDisks _), reply => failureOf reply
  | .ecs (.attachDisk _), reply => reply
  | .ecs (.detachDisk _ _), reply => reply
  | .slb (.describeLoadBalancers _), reply => failureOf reply
  | .slb (.describeLoadBalancerAttribute _), reply => failureOf reply
  | .slb (.createLoadBalancer _), reply => reply
  | .slb (.deleteLoadBalancer _), reply => reply
  | .slb (.describeListenerAttribute _ _ _), reply => failureOf reply
  | .slb (.createListener _ _), reply => reply
  | .slb (.deleteListener _ _), reply => reply
  | .slb (.startListener _ _), reply => reply
  | .slb (.addBackendServers _ _), reply => reply
  | .slb (.removeBackendServers _ _), reply => reply

abbrev SlbExchange : Type := Exchange Call Reply

def Failed (exchange : SlbExchange) : Prop :=
  replyFailure exchange.request exchange.reply ≠ none

def QueriesListener : Call → Prop
  | .slb (.describeListenerAttribute _ _ _) => True
  | _ => False

def AttributeFailed (exchange : SlbExchange) : Prop :=
  QueriesListener exchange.request ∧ Failed exchange

/-- The calls that synchronise listeners and backends. -/
def Synchronises : Call → Prop
  | .slb (.describeListenerAttribute _ _ _) => True
  | .slb (.createListener _ _) => True
  | .slb (.deleteListener _ _) => True
  | .slb (.startListener _ _) => True
  | .slb (.addBackendServers _ _) => True
  | .slb (.removeBackendServers _ _) => True
  | _ => False

/-- A part of the synchronisation that panics exactly on a failed attribute query and
succeeds only when no call failed. -/
abbrev SyncReports {α : Type} (good : α → Prop) (program : Aliyun α) : Prop :=
  program.Reports Synchronises Failed AttributeFailed good

/-! ## Parts of the synchronisation -/

/-- A call that changes something and whose error is the result, perhaps wrapped. -/
theorem change_reports {ε : Type} (request : Call) (inScope : Synchronises request)
    (changes : ¬QueriesListener request) {result : Reply request → Option ε}
    (own : ∀ reply, result reply = none → replyFailure request reply = none) :
    SyncReports (· = none) (Prog.ask request fun reply => .done (result reply)) := by
  apply Prog.Reports.ask inScope
  · rintro reply ⟨queries, -⟩
    exact changes queries
  · intro reply failed
    refine ⟨result reply, rfl, ?_⟩
    intro nothing
    exact failed (own reply nothing)
  · intro reply succeeded
    exact Prog.Reports.done _

theorem startListener_reports (loadBalancerId : String) (port : Int) :
    SyncReports (· = none) (startLoadBalancerListener loadBalancerId port) :=
  change_reports (.slb (.startListener loadBalancerId port)) trivial not_false
    fun _ => id

theorem deleteListener_reports (loadBalancerId : String) (port : Int) :
    SyncReports (· = none) (deleteLoadBalancerListener loadBalancerId port) :=
  change_reports (.slb (.deleteListener loadBalancerId port)) trivial not_false
    fun _ => id

/-- A call whose error is passed on as an error of the provider. -/
theorem wrapped_reports {program : Aliyun (Option ApiError)}
    (reports : SyncReports (· = none) program) :
    SyncReports (· = none) (Option.map GoError.api <$> program) := by
  apply Prog.Reports.bind reports
  · intro value succeeded
    exact Prog.Reports.done _
  · intro value failed
    refine ⟨value.map GoError.api, rfl, ?_⟩
    simpa using failed

theorem createListener_reports (transport : Transport) (args : CreateListenerArgs) :
    SyncReports (· = none)
      (Prog.ask (Call.slb (.createListener transport args)) .done :
        Aliyun (Option ApiError)) :=
  change_reports (.slb (.createListener transport args)) trivial not_false
    fun _ => id

/-- Two steps, of which the second is only taken when the first succeeds. -/
theorem then_reports {ε : Type} {first : Aliyun (Option ε)}
    {next : Option ε → Aliyun (Option GoError)} (one : SyncReports (· = none) first)
    (two : SyncReports (· = none) (next none))
    (stops : ∀ failure, ∃ error, next (some failure) = .done (some error)) :
    SyncReports (· = none) (first >>= next) := by
  apply Prog.Reports.bind one
  · intro result succeeded
    rw [succeeded]
    exact two
  · intro result failed
    cases result with
    | none => exact absurd rfl failed
    | some failure =>
        obtain ⟨error, ended⟩ := stops failure
        exact ⟨some error, ended, by simp⟩

theorem createServiceListener_reports (lb : LoadBalancer)
    (options : AliyunLoadBalancerOptions) (sp : ServicePort) :
    SyncReports (· = none) (createServiceListener lb options sp) := by
  have started := wrapped_reports (startListener_reports lb.loadBalancerId sp.port.toInt)
  unfold createServiceListener
  by_cases tcp : sp.protocol = "TCP"
  · rw [if_pos tcp]
    exact then_reports (wrapped_reports (createListener_reports .tcp _)) started
      fun failure => ⟨failure, rfl⟩
  · rw [if_neg tcp]
    by_cases udp : sp.protocol = "UDP"
    · rw [if_pos udp]
      exact then_reports (wrapped_reports (createListener_reports .udp _)) started
        fun failure => ⟨failure, rfl⟩
    · rw [if_neg udp]
      exact Prog.Reports.done _

/-! ## The difference of the listeners -/

def Succeeds {ε α : Type} : Except ε α → Prop
  | .ok _ => True
  | .error _ => False

/-- Reading a missing response panics. -/
theorem readAttribute_reports (transport : Transport) (loadBalancerId : String) (port : Int) :
    SyncReports Succeeds
      (Prog.ask (Call.slb (.describeListenerAttribute transport loadBalancerId port))
        readAttribute) := by
  intro reply
  cases reply with
  | error failure =>
      have failed : AttributeFailed ⟨.slb (.describeListenerAttribute transport loadBalancerId
          port), .error failure⟩ := ⟨trivial, by simp [Failed, replyFailure, failureOf]⟩
      exact ⟨by simp [Synchronises], fun _ => ⟨_, List.mem_singleton.mpr rfl, failed⟩,
        by simp, by simp⟩
  | ok response =>
      have fine : ¬Failed ⟨.slb (.describeListenerAttribute transport loadBalancerId port),
          .ok response⟩ := by simp [Failed, replyFailure, failureOf]
      exact ⟨by simp [Synchronises], by simp,
        fun _ => List.forall_mem_singleton.mpr fun cause => fine cause.2,
        fun _ _ _ => List.forall_mem_singleton.mpr fine⟩

theorem getLBListenerAttributes_reports (table : LowerTable) (lb : LoadBalancer)
    (pp : ListenerPortAndProtocol) :
    SyncReports Succeeds (getLBListenerAttributes table lb pp) := by
  unfold getLBListenerAttributes
  split
  · exact readAttribute_reports .tcp _ _
  · split
    · exact readAttribute_reports .udp _ _
    · exact Prog.Reports.done _

theorem diffListeners_reports (table : LowerTable) (lb : LoadBalancer)
    (listeners : List ListenerPortAndProtocol) (diff : ListenerDiff) :
    SyncReports Succeeds (diffListeners table lb listeners diff) := by
  induction listeners generalizing diff with
  | nil => exact Prog.Reports.done _
  | cons listener rest ih =>
      cases found : diff.expected.lookup
          (listenerKey table listener.listenerPort listener.listenerProtocol) with
      | none =>
          rw [diffListeners_unexpected lb listener rest found]
          exact ih _
      | some sp =>
          rw [diffListeners_expected lb listener rest found]
          apply Prog.Reports.bind (getLBListenerAttributes_reports table lb listener)
          · intro result succeeded
            cases result with
            | error failure => exact absurd succeeded not_false
            | ok attributes => exact ih _
          · intro result failed
            cases result with
            | error failure => exact ⟨.error failure, rfl, not_false⟩
            | ok attributes => exact absurd trivial failed

theorem ensureLBListeners_reports (table : LowerTable) (order : MapOrder) (lb : LoadBalancer)
    (ports : List ServicePort) (options : AliyunLoadBalancerOptions) :
    SyncReports (· = none) (ensureLBListeners table order lb ports options) := by
  unfold ensureLBListeners
  apply Prog.Reports.bind (diffListeners_reports table lb _ _)
  · intro result succeeded
    cases result with
    | error failure => exact absurd succeeded not_false
    | ok diff =>
        refine then_reports
          (Prog.Reports.forEach fun port _ => startListener_reports lb.loadBalancerId port) ?_
          fun failure => ⟨.api failure, rfl⟩
        refine then_reports
          (Prog.Reports.forEach fun port _ => deleteListener_reports lb.loadBalancerId port) ?_
          fun failure => ⟨.api failure, rfl⟩
        exact Prog.Reports.forEach fun sp _ => createServiceListener_reports lb options sp
  · intro result failed
    cases result with
    | error failure => exact ⟨some failure, rfl, by simp⟩
    | ok diff => exact absurd trivial failed

/-! ## Failures of a listener synchronisation -/

def Describes : Call → Prop
  | .ecs (.describeInstances _) => True
  | .ecs (.describeDisks _) => True
  | .slb request => request.Mutates = false
  | _ => False

/-- Every failure is reported: the synchronisation returns, it succeeds only when no
call failed, and a failed attribute query is an error before anything is changed. -/
def ReportsEveryFailure {ω σ : Type} (service : Service ω σ Call Reply) (state : σ)
    (run : Run ω σ Call Reply (Option GoError)) : Prop :=
  run.outcome ≠ none ∧
    (run.outcome = some none → ∀ exchange ∈ run.trace, ¬Failed exchange) ∧
    ((∃ exchange ∈ run.trace, AttributeFailed exchange) →
      (∃ failure, run.outcome = some (some failure)) ∧
      (∀ exchange ∈ run.trace, Describes exchange.request) ∧
      ((∀ choice before request, Describes request →
        (service choice before request).2 = before) → run.state = state))

/-- Against every service, all failures of a synchronisation are reported exactly when
no attribute query fails. -/
theorem listener_failures_reported_iff {ω σ : Type} (service : Service ω σ Call Reply)
    (choices : Nat → ω) (state : σ) (table : LowerTable) (order : MapOrder)
    (lb : LoadBalancer) (ports : List ServicePort) (options : AliyunLoadBalancerOptions) :
    let run := (ensureLBListeners table order lb ports options).run service choices state
    ReportsEveryFailure service state run ↔
      ∀ exchange ∈ run.trace, ¬AttributeFailed exchange := by
  intro run
  have reported : Reported Synchronises Failed AttributeFailed (· = none) run.outcome run.trace :=
    (ensureLBListeners_reports table order lb ports options).run service choices state
  constructor
  · rintro ⟨returned, -⟩
    exact reported.returned returned
  · intro harmless
    refine ⟨?_, fun succeeded => reported.succeeded none succeeded rfl, ?_⟩
    · intro panicked
      obtain ⟨exchange, member, failed⟩ := reported.panicked panicked
      exact harmless exchange member failed
    · rintro ⟨exchange, member, failed⟩
      exact absurd failed (harmless exchange member)

def sampleBalancer : LoadBalancer :=
  ⟨"lb-1", "a12", "1.2.3.4", [⟨80, "tcp"⟩, ⟨443, "tcp"⟩], [⟨"i-1", 7⟩, ⟨"i-9", 100⟩]⟩

/-- One attribute query is refused: the synchronisation panics. -/
theorem refused_query_panics :
    let choices : Nat → Choice := fun index =>
      { sampleChoices index with fate := .refused }
    let run := (ensureLBListeners .identity .stored sampleBalancer sampleService.ports {}).run
      Account.answer choices sampleAccount
    run.outcome = none ∧ run.log.length = 1 ∧
      ¬ReportsEveryFailure Account.answer sampleAccount run := by
  intro choices run
  have panicked : run.outcome = none := by decide
  exact ⟨panicked, rfl, fun reports => reports.1 panicked⟩

/-! ## A status or an error -/

theorem unlessEmpty_reports {α : Type} (items : List α) {request : Aliyun (Option ApiError)}
    (reports : SyncReports (· = none) request) :
    SyncReports (· = none) (unlessEmpty items request) := by
  unfold unlessEmpty
  split
  · exact Prog.Reports.done _
  · exact reports

theorem ensureLBBackends_reports (order : MapOrder) (lb : LoadBalancer)
    (instances : List InstanceAttributes) :
    SyncReports (· = none) (ensureLBBackends order lb instances) := by
  have removes (servers : List String) : SyncReports (· = none)
      (removeBackendServers lb.loadBalancerId servers) :=
    change_reports (.slb (.removeBackendServers lb.loadBalancerId servers)) trivial
      not_false fun _ => id
  have adds (servers : List BackendServer) : SyncReports (· = none)
      (addBackendServers lb.loadBalancerId servers) :=
    change_reports (.slb (.addBackendServers lb.loadBalancerId servers)) trivial
      not_false fun _ => id
  unfold ensureLBBackends
  refine then_reports (unlessEmpty_reports _ (removes _)) ?_
    fun failure => ⟨.api failure, rfl⟩
  refine then_reports (unlessEmpty_reports _ (adds _)) ?_ fun failure => ⟨.api failure, rfl⟩
  exact Prog.Reports.done _

/-- A non-nil status and a nil error, or a nil status and a non-nil error. -/
def StatusOrError (result : Option LoadBalancerStatus × Option GoError) : Prop :=
  result.1.isSome ≠ result.2.isSome

def Unlisted (name : String) : SlbExchange → Prop
  | ⟨.slb (.describeLoadBalancers _), .ok lbs⟩ => ∀ lb ∈ lbs, lb.loadBalancerName ≠ name
  | _ => False

/-- The last call listed the load balancers and the name was not among them. -/
def EndsUnlisted (name : String) (trace : List SlbExchange) : Prop :=
  ∃ exchange, trace.getLast? = some exchange ∧ Unlisted name exchange

theorem endsUnlisted_append (name : String) (trace rest : List SlbExchange) :
    EndsUnlisted name (trace ++ rest) ↔
      EndsUnlisted name rest ∨ (rest = [] ∧ EndsUnlisted name trace) := by
  cases rest with
  | nil => simp [EndsUnlisted]
  | cons exchange others => simp [EndsUnlisted, List.getLast?_append, List.getLast?_cons]

theorem endsUnlisted_after {name : String} {trace rest : List SlbExchange}
    (called : rest ≠ []) : EndsUnlisted name (trace ++ rest) ↔ EndsUnlisted name rest := by
  rw [endsUnlisted_append]
  simp [called]

/-- A synchronisation does not list load balancers. -/
theorem not_endsUnlisted {name : String} {trace : List SlbExchange}
    (inScope : ∀ exchange ∈ trace, Synchronises exchange.request) :
    ¬EndsUnlisted name trace := by
  rintro ⟨exchange, last, unlisted⟩
  have own := inScope exchange (List.mem_of_getLast? last)
  unfold Unlisted at unlisted
  split at unlisted
  · exact own
  · exact unlisted

def AttributesRead (trace : List SlbExchange) : Prop :=
  ∀ exchange ∈ trace, ¬AttributeFailed exchange

theorem AttributesRead.append {trace rest : List SlbExchange} (first : AttributesRead trace)
    (second : AttributesRead rest) : AttributesRead (trace ++ rest) :=
  List.forall_mem_append.mpr ⟨first, second⟩

/-- A single call of another kind. -/
theorem attributesRead_single (request : Call) (other : ¬QueriesListener request)
    (reply : Reply request) : AttributesRead [⟨request, reply⟩] :=
  List.forall_mem_singleton.mpr fun failed => other failed.1

/-- What a synchronisation leaves: a status or an error unless an attribute query
failed. -/
structure SyncEnds (outcome : Option (Option LoadBalancerStatus × Option GoError))
    (trace : List SlbExchange) : Prop where
  inScope : ∀ exchange ∈ trace, Synchronises exchange.request
  panicked : outcome = none → ¬AttributesRead trace
  returned : ∀ result, outcome = some result → StatusOrError result ∧ AttributesRead trace

theorem syncLoadBalancer_traces (table : LowerTable) (order : MapOrder)
    (service : KubeService) (instances : List InstanceAttributes) (lb : LoadBalancer) :
    (syncLoadBalancer table order service instances lb).Traces SyncEnds := by
  have panics {α : Type} {good : α → Prop} {trace : List SlbExchange}
      (reported : Reported Synchronises Failed AttributeFailed good none trace) :
      ¬AttributesRead trace := by
    obtain ⟨exchange, member, failed⟩ := reported.panicked rfl
    exact fun read => read exchange member failed
  apply Prog.Traces.bind (ensureLBListeners_reports table order lb service.ports
    (lbOptions service))
  · intro listeners trace first
    have read : AttributesRead trace := first.returned (by simp)
    cases listeners with
    | some failure =>
        refine ⟨?_, by simp, fun result same => ?_⟩
        · simpa using first.inScope
        · cases same
          simpa [StatusOrError] using read
    | none =>
        apply Prog.Traces.bind (ensureLBBackends_reports order lb instances)
        · intro backends rest second
          have within := List.forall_mem_append.mpr ⟨first.inScope, second.inScope⟩
          have whole := read.append (second.returned (by simp))
          cases backends with
          | some failure =>
              refine ⟨by simpa using within, by simp, fun result same => ?_⟩
              cases same
              simpa [StatusOrError] using whole
          | none =>
              refine ⟨by simpa using within, by simp, fun result same => ?_⟩
              cases same
              simpa [StatusOrError] using whole
        · intro rest second
          refine ⟨List.forall_mem_append.mpr ⟨first.inScope, second.inScope⟩, fun _ => ?_,
            by simp⟩
          intro whole
          exact panics second fun exchange member =>
            whole exchange (List.mem_append_right _ member)
  · intro trace first
    exact ⟨first.inScope, fun _ => panics first, by simp⟩

/-- What lookups of the load balancer leave: it is missing exactly when the last call
listed others only. -/
structure LookupEnds (name : String) (outcome : Option (Except ApiError (Option LoadBalancer)))
    (trace : List SlbExchange) : Prop where
  read : AttributesRead trace
  called : trace ≠ []
  answered : outcome ≠ none
  missing : outcome = some (.ok none) ↔ EndsUnlisted name trace

theorem getLoadBalancer_traces (provider : AliyunProvider) (name : String) :
    (getLoadBalancer provider name).Traces (LookupEnds name) := by
  intro reply
  have listed : AttributesRead [⟨.slb (.describeLoadBalancers provider.region), reply⟩] :=
    attributesRead_single (.slb (.describeLoadBalancers provider.region)) not_false
      reply
  cases reply with
  | error failure =>
      refine ⟨listed, by simp, by simp, ?_⟩
      simp [EndsUnlisted, Unlisted]
  | ok lbs =>
      cases found : lbs.find? fun lb => lb.loadBalancerName = name with
      | none =>
          simp only [Prog.bind, found]
          refine ⟨listed, by simp, by simp, ?_⟩
          simpa [EndsUnlisted, Unlisted] using found
      | some lb =>
          simp only [Prog.bind, found]
          intro details
          have described : AttributesRead
              [⟨.slb (.describeLoadBalancerAttribute lb.loadBalancerId), details⟩] :=
            attributesRead_single
              (.slb (.describeLoadBalancerAttribute lb.loadBalancerId)) not_false
              details
          cases details with
          | error failure =>
              refine ⟨listed.append described, by simp, by simp, ?_⟩
              simp [EndsUnlisted, Unlisted]
          | ok whole =>
              refine ⟨listed.append described, by simp, by simp, ?_⟩
              simp [EndsUnlisted, Unlisted]

/-- Later lookups decide. -/
theorem LookupEnds.append {name : String}
    {outcome : Option (Except ApiError (Option LoadBalancer))}
    {trace rest : List SlbExchange} (second : LookupEnds name outcome rest)
    (first : AttributesRead trace) : LookupEnds name outcome (trace ++ rest) where
  read := first.append second.read
  called := by simp [second.called]
  answered := second.answered
  missing := by rw [second.missing, endsUnlisted_after second.called]

theorem LookupEnds.done {name : String} {trace : List SlbExchange}
    {value : Except ApiError (Option LoadBalancer)}
    (looked : LookupEnds name (some value) trace) :
    (Prog.done value : Aliyun (Except ApiError (Option LoadBalancer))).Traces
      fun outcome rest => LookupEnds name outcome (trace ++ rest) := by
  simpa only [Prog.Traces, List.append_nil] using looked

theorem awaitLoadBalancer_traces (provider : AliyunProvider) (name : String)
    (last : Except ApiError (Option LoadBalancer)) (retry : Nat) :
    (awaitLoadBalancer provider name last (retry + 1)).Traces (LookupEnds name) := by
  induction retry generalizing last with
  | zero =>
      apply Prog.Traces.bind (getLoadBalancer_traces provider name)
      · intro value trace looked
        match value with
        | .ok (some lb) => exact looked.done
        | .ok none => exact looked.done
        | .error failure => exact looked.done
      · intro trace looked
        exact looked
  | succ retry ih =>
      apply Prog.Traces.bind (getLoadBalancer_traces provider name)
      · intro value trace looked
        match value with
        | .ok (some lb) => exact looked.done
        | .ok none => exact (ih (.ok none)).mono fun _ _ later => later.append looked.read
        | .error failure =>
            exact (ih (.error failure)).mono fun _ _ later => later.append looked.read
      · intro trace looked
        exact looked

/-- What other calls leave: they return, and the last of them lists nothing. -/
structure Responded {α : Type} (name : String) (outcome : Option α)
    (trace : List SlbExchange) : Prop where
  read : AttributesRead trace
  called : trace ≠ []
  listed : ¬EndsUnlisted name trace
  answered : outcome ≠ none

theorem getInstancesByNodes_traces (provider : AliyunProvider) (nodes : List String)
    (name : String) :
    (getInstancesByNodes provider nodes).Traces (Responded name) := by
  intro reply
  have read : AttributesRead [⟨.ecs (.describeInstances
      ⟨provider.region, provider.vpcID, ⟨0, 0⟩⟩), reply⟩] :=
    attributesRead_single (.ecs (.describeInstances
      ⟨provider.region, provider.vpcID, ⟨0, 0⟩⟩)) not_false reply
  cases reply with
  | error failure => exact ⟨read, by simp, by simp [EndsUnlisted, Unlisted], by simp⟩
  | ok page => exact ⟨read, by simp, by simp [EndsUnlisted, Unlisted], by simp⟩

theorem createLoadBalancer_traces (args : CreateLoadBalancerArgs) (name : String) :
    (createLoadBalancer args).Traces (Responded name) := by
  intro reply
  have read : AttributesRead [⟨.slb (.createLoadBalancer args), reply⟩] :=
    attributesRead_single (.slb (.createLoadBalancer args)) not_false reply
  exact ⟨read, by simp, by simp [EndsUnlisted, Unlisted], by simp⟩

/-- The outcome is a status or an error exactly when all attributes were read and the
last call did not leave the load balancer unlisted. -/
def Concludes (name : String)
    (outcome : Option (Option LoadBalancerStatus × Option GoError))
    (trace : List SlbExchange) : Prop :=
  (∃ result, outcome = some result ∧ StatusOrError result) ↔
    AttributesRead trace ∧ ¬EndsUnlisted name trace

section Concluding

variable {name : String} {trace : List SlbExchange}

theorem concludes_error (failure : GoError) (read : AttributesRead trace)
    (listed : ¬EndsUnlisted name trace) :
    (Prog.done (none, some failure) :
      Aliyun (Option LoadBalancerStatus × Option GoError)).Traces fun outcome rest =>
        Concludes name outcome (trace ++ rest) := by
  simp only [Prog.Traces, List.append_nil]
  exact ⟨fun _ => ⟨read, listed⟩, fun _ => ⟨_, rfl, by simp [StatusOrError]⟩⟩

theorem concludes_nothing (unlisted : EndsUnlisted name trace) :
    (Prog.done (none, none) :
      Aliyun (Option LoadBalancerStatus × Option GoError)).Traces fun outcome rest =>
        Concludes name outcome (trace ++ rest) := by
  simp only [Prog.Traces, List.append_nil]
  constructor
  · rintro ⟨result, same, either⟩
    cases same
    exact absurd rfl either
  · rintro ⟨-, listed⟩
    exact absurd unlisted listed

theorem concludes_sync {outcome : Option (Option LoadBalancerStatus × Option GoError)}
    {rest : List SlbExchange} (read : AttributesRead trace)
    (listed : ¬EndsUnlisted name trace) (ended : SyncEnds outcome rest) :
    Concludes name outcome (trace ++ rest) := by
  have last : ¬EndsUnlisted name (trace ++ rest) := by
    rw [endsUnlisted_append]
    rintro (own | ⟨-, before⟩)
    · exact not_endsUnlisted ended.inScope own
    · exact listed before
  constructor
  · rintro ⟨result, same, -⟩
    exact ⟨read.append (ended.returned result same).2, last⟩
  · rintro ⟨whole, -⟩
    cases outcome with
    | none =>
        have tail : AttributesRead rest := fun exchange member =>
          whole exchange (List.mem_append_right _ member)
        exact absurd tail (ended.panicked rfl)
    | some result => exact ⟨result, rfl, (ended.returned result rfl).1⟩

/-- After a lookup: an error ends the operation, a load balancer is synchronised, and
a missing one is left to what comes next. -/
theorem concludes_lookup {lookup : Aliyun (Except ApiError (Option LoadBalancer))}
    {next : Except ApiError (Option LoadBalancer) →
      Aliyun (Option LoadBalancerStatus × Option GoError)}
    (read : AttributesRead trace) (looks : lookup.Traces (LookupEnds name))
    (failed : ∀ failure, ∃ error, next (.error failure) = .done (none, some error))
    (found : ∀ lb, (next (.ok (some lb))).Traces SyncEnds)
    (missing : ∀ before, AttributesRead before → EndsUnlisted name before →
      (next (.ok none)).Traces fun outcome rest => Concludes name outcome (before ++ rest)) :
    (lookup >>= next).Traces fun outcome rest => Concludes name outcome (trace ++ rest) := by
  apply Prog.Traces.bind_after looks
  · intro value calls looked
    have after := read.append looked.read
    have unlisted := looked.missing
    rw [← endsUnlisted_after looked.called] at unlisted
    cases value with
    | error failure =>
        obtain ⟨error, ended⟩ := failed failure
        rw [ended]
        exact concludes_error error after fun gone => nomatch unlisted.mpr gone
    | ok result =>
        cases result with
        | none => exact missing _ after (unlisted.mp rfl)
        | some lb =>
            apply (found lb).mono
            intro outcome rest ended
            exact concludes_sync after (fun gone => nomatch unlisted.mpr gone) ended
  · intro calls looked
    exact absurd rfl looked.answered

end Concluding

theorem createAndSync_traces (provider : AliyunProvider) (table : LowerTable)
    (order : MapOrder) (service : KubeService) (instances : List InstanceAttributes)
    {earlier : List SlbExchange} (read : AttributesRead earlier) :
    (createAndSync provider table order service instances).Traces fun outcome trace =>
      Concludes (getLoadBalancerName service) outcome (earlier ++ trace) := by
  apply Prog.Traces.bind_after
    (createLoadBalancer_traces (createArgs provider service) (getLoadBalancerName service))
  · intro created trace called
    have before := read.append called.read
    cases created with
    | some failure =>
        apply concludes_error _ before
        rw [endsUnlisted_after called.called]
        exact called.listed
    | none =>
        apply concludes_lookup before (awaitLoadBalancer_traces provider _ (.ok none) 2)
        · exact fun failure => ⟨.api failure, rfl⟩
        · exact syncLoadBalancer_traces table order service instances
        · intro calls _ unlisted
          exact concludes_nothing unlisted
  · intro trace called
    exact absurd rfl called.answered

theorem ensureLoadBalancer_traces (provider : AliyunProvider) (table : LowerTable)
    (order : MapOrder) (service : KubeService) (nodes : List String) :
    (ensureLoadBalancer provider table order service nodes).Traces
      (Concludes (getLoadBalancerName service)) := by
  unfold ensureLoadBalancer
  cases unsupported service with
  | some failure =>
      have read : AttributesRead [] := by simp [AttributesRead]
      exact concludes_error failure read (by simp [EndsUnlisted])
  | none =>
      apply Prog.Traces.bind
        (getInstancesByNodes_traces provider nodes (getLoadBalancerName service))
      · intro resolved trace called
        cases resolved with
        | error failure => exact concludes_error failure called.read called.listed
        | ok instances =>
            apply concludes_lookup called.read (getLoadBalancer_traces provider _)
            · exact fun failure => ⟨.api failure, rfl⟩
            · exact syncLoadBalancer_traces table order service instances
            · intro calls after _
              exact createAndSync_traces provider table order service instances after
      · intro trace called
        exact absurd rfl called.answered

/-- Against every service, `EnsureLoadBalancer` returns a status or an error exactly
when no attribute query fails and the last lookup after a creation finds the load
balancer or fails. -/
theorem status_or_error_iff {ω σ : Type} (service : Service ω σ Call Reply)
    (choices : Nat → ω) (state : σ) (provider : AliyunProvider) (table : LowerTable)
    (order : MapOrder) (kube : KubeService) (nodes : List String) :
    let run := (ensureLoadBalancer provider table order kube nodes).run service choices state
    (∃ result, run.outcome = some result ∧ StatusOrError result) ↔
      AttributesRead run.trace ∧ ¬EndsUnlisted (getLoadBalancerName kube) run.trace :=
  (ensureLoadBalancer_traces provider table order kube nodes).run service choices state

/-- A service that accepts every change and never lists a load balancer. -/
def unlistingReply : (request : Call) → Reply request
  | .ecs (.describeInstances _) => .ok ([], ⟨0, 1, 10⟩)
  | .ecs (.describeDisks _) => .ok ([], ⟨0, 1, 10⟩)
  | .ecs (.attachDisk _) => none
  | .ecs (.detachDisk _ _) => none
  | .slb (.describeLoadBalancers _) => .ok []
  | .slb (.describeLoadBalancerAttribute _) => .error ⟨"r", 404, "NotFound", "no such id"⟩
  | .slb (.createLoadBalancer _) => none
  | .slb (.deleteLoadBalancer _) => none
  | .slb (.describeListenerAttribute _ _ _) => .error ⟨"r", 404, "NotFound", "no such id"⟩
  | .slb (.createListener _ _) => none
  | .slb (.deleteListener _ _) => none
  | .slb (.startListener _ _) => none
  | .slb (.addBackendServers _ _) => none
  | .slb (.removeBackendServers _ _) => none

def unlisting : Service Unit Unit Call Reply := fun _ state request =>
  (unlistingReply request, state)

/-- The load balancer is created and not yet listed after three lookups: neither a
status nor an error is returned. -/
theorem created_unlisted :
    let run := (ensureLoadBalancer sampleProvider .identity .stored sampleService []).run
      unlisting (fun _ => ()) ()
    run.outcome = some (none, none) ∧ run.log.length = 6 ∧
      ¬∃ result, run.outcome = some result ∧ StatusOrError result := by
  intro run
  have nothing : run.outcome = some (none, none) := rfl
  refine ⟨nothing, rfl, ?_⟩
  rintro ⟨result, same, either⟩
  rw [nothing] at same
  cases same
  exact either rfl

end KubeAliyun.Balancer
