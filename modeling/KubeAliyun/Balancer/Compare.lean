import KubeAliyun.Balancer.Contract

/-!
# The comparison of the listeners

What the loop over the existing listeners returns, for every service whose attribute
queries leave its state alone: the accumulators as filters of the listeners, and the
one way in which the loop can end early without a failing call.
-/

namespace KubeAliyun.Balancer

open KubeAliyun.Cloud KubeAliyun.Provider KubeAliyun.Remote KubeAliyun.Text

/-! ## Listeners as they are listed and queried -/

def portsAndProtocols (listeners : List Listener) : List ListenerPortAndProtocol :=
  listeners.map fun listener => ⟨listener.port, listener.protocol⟩

/-- The provider can query listeners of this protocol. -/
def Readable (table : LowerTable) (listener : Listener) : Prop :=
  ∃ transport : Transport, toLower table listener.protocol = transport.text

/-- Only the spellings of a transport are read with it, whatever the table. -/
theorem toLower_transport {table : LowerTable} (other : LowerTable) {text : String}
    {transport : Transport} (lowered : toLower table text = transport.text) :
    toLower other text = transport.text := by
  have plain : transport.text.toList.all
      fun letter => letter.toNat < 128 ∧ letter ≠ 'k' ∧ letter ≠ 'i' := by
    cases transport <;> decide
  refine toLower_of_plain other ?_ lowered
  intro letter member
  exact of_decide_eq_true (List.all_eq_true.mp plain letter member)

/-! ## The accumulators -/

/-- The listener forwards to the node port that is wanted, as the provider reads it. -/
def fits (table : LowerTable) (ports : List ServicePort) (listener : Listener) : Bool :=
  match wanted table ports listener.port (toLower table listener.protocol) with
  | none => false
  | some sp => listener.backendServerPort.toInt32 = sp.nodePort

theorem fits_of_wanted {table : LowerTable} {ports : List ServicePort} {listener : Listener}
    {sp : ServicePort}
    (found : wanted table ports listener.port (toLower table listener.protocol) = some sp) :
    fits table ports listener = decide (listener.backendServerPort.toInt32 = sp.nodePort) := by
  simp only [fits, found]

theorem not_fits_of_unwanted {table : LowerTable} {ports : List ServicePort}
    {listener : Listener}
    (unwanted : wanted table ports listener.port (toLower table listener.protocol) = none) :
    fits table ports listener = false := by
  simp only [fits, unwanted]

theorem wanted_of_fits {table : LowerTable} {ports : List ServicePort} {listener : Listener}
    (fit : fits table ports listener = true) :
    ∃ sp, wanted table ports listener.port (toLower table listener.protocol) = some sp := by
  cases found : wanted table ports listener.port (toLower table listener.protocol) with
  | none =>
      rw [not_fits_of_unwanted found] at fit
      cases fit
  | some sp => exact ⟨sp, rfl⟩

/-- What the accumulators hold after the listeners in `seen`. -/
structure Compared (table : LowerTable) (ports : List ServicePort) (seen : List Listener)
    (diff : ListenerDiff) : Prop where
  removals : diff.removals =
    (seen.filter fun listener => !fits table ports listener).map Listener.port
  stopped : diff.stopped = (seen.filter fun listener =>
    fits table ports listener && decide (listener.status = .stopped)).map Listener.port
  expected : ∀ key sp, diff.expected.lookup key = some sp ↔
    (expectedPorts table ports).lookup key = some sp ∧
      ∀ listener ∈ seen, fits table ports listener →
        key ≠ listenerKey table listener.port listener.protocol

section Comparing

variable {table : LowerTable} {ports : List ServicePort} {seen : List Listener}
  {diff : ListenerDiff} {listener : Listener}

theorem Compared.start (table : LowerTable) (ports : List ServicePort) :
    Compared table ports [] ⟨expectedPorts table ports, [], []⟩ :=
  ⟨rfl, rfl, by simp⟩

theorem Compared.remove (compared : Compared table ports seen diff)
    (unfit : fits table ports listener = false) :
    Compared table ports (seen ++ [listener])
      { diff with removals := diff.removals ++ [listener.port] } where
  removals := by simp [compared.removals, List.filter_append, unfit]
  stopped := by simp [compared.stopped, List.filter_append, unfit]
  expected key sp := by
    rw [compared.expected]
    simp [unfit, or_imp, forall_and]

theorem Compared.keep (compared : Compared table ports seen diff)
    (fit : fits table ports listener = true) :
    Compared table ports (seen ++ [listener])
      { diff with
        expected := diff.expected.erase (listenerKey table listener.port listener.protocol)
        stopped := if listener.status = .stopped then diff.stopped ++ [listener.port]
          else diff.stopped } where
  removals := by simp [compared.removals, List.filter_append, fit]
  stopped := by
    by_cases stopped : listener.status = .stopped
    · simp [compared.stopped, List.filter_append, fit, stopped]
    · simp [compared.stopped, List.filter_append, fit, stopped]
  expected key sp := by
    by_cases here : key = listenerKey table listener.port listener.protocol
    · rw [here, AList.lookup_erase]
      simp [fit]
    · rw [AList.lookup_erase_ne here, compared.expected]
      simp [fit, here, or_imp, forall_and]

/-- The key of a listener on another port is still as at first. -/
theorem Compared.lookup_next (compared : Compared table ports seen diff)
    (apart : listener.port ∉ seen.map Listener.port) :
    diff.expected.lookup (listenerKey table listener.port listener.protocol) =
      wanted table ports listener.port (toLower table listener.protocol) := by
  rw [← expectedPorts_lookup]
  apply Option.ext
  intro sp
  rw [compared.expected]
  constructor
  · exact fun found => found.1
  · refine fun found => ⟨found, fun old member _ same => apart ?_⟩
    rw [((listenerKey_inj table).mp same).1]
    exact List.mem_map_of_mem member

/-- The service ports that are left: wanted, and answered by no listener that fits. -/
theorem Compared.mem_values_iff (compared : Compared table ports seen diff) (sp : ServicePort) :
    sp ∈ diff.expected.entries.map Sigma.snd ↔
      wanted table ports sp.port.toInt (toLower table sp.protocol) = some sp ∧
        ∀ listener ∈ seen, fits table ports listener →
          listenerKey table sp.port.toInt sp.protocol ≠
            listenerKey table listener.port listener.protocol := by
  rw [← expectedPorts_lookup, ← compared.expected]
  constructor
  · intro member
    obtain ⟨⟨key, value⟩, entry, rfl⟩ := List.mem_map.mp member
    have found := AList.mem_lookup_iff.mpr entry
    rw [← expectedPorts_key ((compared.expected key value).mp found).1]
    exact found
  · intro found
    exact List.mem_map.mpr ⟨_, AList.mem_lookup_iff.mp found, rfl⟩

theorem Compared.removals_eq_nil_iff (compared : Compared table ports seen diff) :
    diff.removals = [] ↔ ∀ listener ∈ seen, fits table ports listener = true := by
  rw [compared.removals, List.map_eq_nil_iff, List.filter_eq_nil_iff]
  simp

theorem Compared.stopped_eq_nil_iff (compared : Compared table ports seen diff) :
    diff.stopped = [] ↔ ∀ listener ∈ seen, fits table ports listener = true →
      listener.status ≠ .stopped := by
  rw [compared.stopped, List.map_eq_nil_iff, List.filter_eq_nil_iff]
  simp

end Comparing

/-! ## The loop -/

/-- What a query for the attributes of a listener may return; a prompt service answers
for every listener that can be queried. -/
def Answers (prompt : Prop) (table : LowerTable) (listener : Listener)
    (outcome : Option (Except GoError (Int32 × ListenerStatus))) : Prop :=
  (∀ backendPort status, outcome = some (.ok (backendPort, status)) →
      backendPort = listener.backendServerPort.toInt32 ∧ status = listener.status ∧
        Readable table listener) ∧
    (prompt → Readable table listener → outcome =
      some (.ok (listener.backendServerPort.toInt32, listener.status)))

/-- The service answers the query of a listener with its own transport and keeps its
state. -/
def AnswersQuery {σ : Type} (contract : Contract σ Call Reply) (state : σ) (prompt : Prop)
    (table : LowerTable) (loadBalancerId : String) (listener : Listener) : Prop :=
  ∀ transport : Transport, toLower table listener.protocol = transport.text →
    (Prog.ask (Call.slb (.describeListenerAttribute transport loadBalancerId listener.port))
        readAttribute).Ensures contract
      (fun outcome after => after = state ∧ Answers prompt table listener outcome) state

/-- A listener of another protocol is not queried. -/
theorem getLBListenerAttributes_answers {σ : Type} {contract : Contract σ Call Reply}
    {state : σ} {prompt : Prop} {table : LowerTable} {lb : LoadBalancer} {listener : Listener}
    (answers : AnswersQuery contract state prompt table lb.loadBalancerId listener) :
    (getLBListenerAttributes table lb ⟨listener.port, listener.protocol⟩).Ensures contract
      (fun outcome after => after = state ∧ Answers prompt table listener outcome) state := by
  unfold getLBListenerAttributes
  split
  · rename_i tcp
    exact answers .tcp tcp
  · split
    · rename_i udp
      exact answers .udp udp
    · rename_i notTcp notUdp
      refine ⟨rfl, by simp, fun _ readable => ?_⟩
      obtain ⟨transport, lowered⟩ := readable
      cases transport with
      | tcp => exact absurd lowered notTcp
      | udp => exact absurd lowered notUdp

/-- A wanted listener of a protocol that cannot be queried ends the comparison. -/
def Blocked (table : LowerTable) (ports : List ServicePort) (listener : Listener) : Prop :=
  wanted table ports listener.port (toLower table listener.protocol) ≠ none ∧
    ¬Readable table listener

structure Finished (prompt : Prop) (table : LowerTable) (ports : List ServicePort)
    (listeners : List Listener) (outcome : Option (Except GoError ListenerDiff)) : Prop where
  compared : ∀ diff, outcome = some (.ok diff) → Compared table ports listeners diff ∧
    ∀ listener ∈ listeners, ¬Blocked table ports listener
  prompt : prompt → (∀ listener ∈ listeners, ¬Blocked table ports listener) →
    ∃ diff, outcome = some (.ok diff)

/-- A query that returns no attributes, of a service that is prompt, is for a listener
that blocks the comparison. -/
theorem Answers.blocked {prompt : Prop} {table : LowerTable} {ports : List ServicePort}
    {listener : Listener} {outcome : Option (Except GoError (Int32 × ListenerStatus))}
    (answers : Answers prompt table listener outcome)
    (failed : ∀ attributes, outcome ≠ some (.ok attributes))
    (asked : wanted table ports listener.port (toLower table listener.protocol) ≠ none)
    (prompted : prompt) : Blocked table ports listener :=
  ⟨asked, fun readable => failed _ (answers.2 prompted readable)⟩

/-- A comparison may fail at a listener that blocks it. -/
theorem Finished.failed {prompt : Prop} {table : LowerTable} {ports : List ServicePort}
    {listeners : List Listener} {listener : Listener}
    {outcome : Option (Except GoError ListenerDiff)} (member : listener ∈ listeners)
    (blocked : prompt → Blocked table ports listener)
    (failed : ∀ diff, outcome ≠ some (.ok diff)) :
    Finished prompt table ports listeners outcome :=
  ⟨fun diff same => absurd same (failed diff),
    fun prompted free => absurd (blocked prompted) (free listener member)⟩

theorem diffListeners_finished {σ : Type} {contract : Contract σ Call Reply} {state : σ}
    {prompt : Prop} {table : LowerTable} {ports : List ServicePort} {lb : LoadBalancer}
    (rest : List Listener) {seen : List Listener} {diff : ListenerDiff}
    (queries : ∀ listener ∈ rest,
      AnswersQuery contract state prompt table lb.loadBalancerId listener)
    (distinct : ((seen ++ rest).map Listener.port).Nodup)
    (unblocked : ∀ listener ∈ seen, ¬Blocked table ports listener)
    (compared : Compared table ports seen diff) :
    (diffListeners table lb (portsAndProtocols rest) diff).Ensures contract
      (fun outcome after => after = state ∧
        Finished prompt table ports (seen ++ rest) outcome) state := by
  induction rest generalizing seen diff with
  | nil =>
      refine ⟨rfl, ?_, fun _ _ => ⟨diff, rfl⟩⟩
      intro final same
      cases same
      rw [List.append_nil]
      exact ⟨compared, unblocked⟩
  | cons listener rest ih =>
      have whole : seen ++ listener :: rest = (seen ++ [listener]) ++ rest := by simp
      rw [whole] at distinct ⊢
      have later := fun other member => queries other (List.mem_cons_of_mem _ member)
      have apart : listener.port ∉ seen.map Listener.port := by
        rw [List.map_append, List.map_append] at distinct
        have front := (List.nodup_append.mp distinct).1
        intro member
        exact (List.nodup_append.mp front).2.2 _ member _ (by simp) rfl
      have grown (free : ¬Blocked table ports listener) :
          ∀ other ∈ seen ++ [listener], ¬Blocked table ports other :=
        List.forall_mem_append.mpr ⟨unblocked, List.forall_mem_singleton.mpr free⟩
      have lookup := compared.lookup_next apart
      rw [portsAndProtocols, List.map_cons]
      cases found : wanted table ports listener.port (toLower table listener.protocol) with
      | none =>
          rw [diffListeners_unexpected lb ⟨listener.port, listener.protocol⟩ _ (lookup.trans found)]
          exact ih later distinct (grown fun blocked => blocked.1 found)
            (compared.remove (not_fits_of_unwanted found))
      | some sp =>
          have asked : wanted table ports listener.port (toLower table listener.protocol) ≠
              none := by simp [found]
          have member : listener ∈ seen ++ [listener] ++ rest := by simp
          rw [diffListeners_expected lb ⟨listener.port, listener.protocol⟩ _ (lookup.trans found)]
          -- an unanswered query is fatal, and an unreadable protocol an error
          apply Prog.Ensures.bind
            (getLBListenerAttributes_answers (queries listener List.mem_cons_self))
          · rintro result after ⟨rfl, answers⟩
            cases result with
            | error failure =>
                exact ⟨rfl, Finished.failed member (answers.blocked (by simp) asked) (by simp)⟩
            | ok attributes =>
                obtain ⟨backendPort, status⟩ := attributes
                obtain ⟨rfl, rfl, readable⟩ := answers.1 backendPort status rfl
                have free := grown fun blocked => blocked.2 readable
                have fit := fits_of_wanted found
                simp only [diffRest, learned]
                split
                case isTrue same =>
                  rw [(wanted_eq_some found).2.2.1]
                  exact ih later distinct free (compared.keep (by simp [fit, same]))
                case isFalse differs =>
                  exact ih later distinct free (compared.remove (by simp [fit, differs]))
          · rintro after ⟨rfl, answers⟩
            exact ⟨rfl, Finished.failed member (answers.blocked (by simp) asked) (by simp)⟩

/-- The whole comparison. -/
theorem diffListeners_compares {σ : Type} {contract : Contract σ Call Reply} {state : σ}
    {prompt : Prop} {table : LowerTable} {lb : LoadBalancer} (ports : List ServicePort)
    {listeners : List Listener} (distinct : (listeners.map Listener.port).Nodup)
    (queries : ∀ listener ∈ listeners,
      AnswersQuery contract state prompt table lb.loadBalancerId listener) :
    (diffListeners table lb (portsAndProtocols listeners)
        ⟨expectedPorts table ports, [], []⟩).Ensures contract
      (fun outcome after => after = state ∧ Finished prompt table ports listeners outcome)
      state := by
  have start : ((([] : List Listener) ++ listeners).map Listener.port).Nodup := distinct
  exact diffListeners_finished listeners queries start (by simp) (Compared.start table ports)

end KubeAliyun.Balancer
