import KubeAliyun.Balancer.OwnView
import Mathlib.Data.List.Induction

/-!
# What a service wants of its load balancer

The service ports decide which listeners there should be, the nodes which
backends.  The code keeps both wishes in maps; here they are read back as
functions of the port list and of the instance list.
-/

namespace KubeAliyun.Balancer

open KubeAliyun.Cloud KubeAliyun.Remote KubeAliyun.Text KubeAliyun.Provider

/-! ## Listener keys -/

/-- A key determines the port and the lower-cased protocol. -/
theorem listenerKey_inj (table : LowerTable) {port other : Int}
    {protocol otherProtocol : String} :
    listenerKey table port protocol = listenerKey table other otherProtocol ↔
      port = other ∧ toLower table protocol = toLower table otherProtocol := by
  constructor
  · intro same
    have runes := congrArg String.toList same
    simp only [listenerKey, String.toList_append] at runes
    have bar : ("|" : String).toList = ['|'] := rfl
    simp only [bar, List.append_assoc, List.singleton_append] at runes
    obtain ⟨ports, protocols⟩ := separated_inj
      (not_mem_decimal (by decide) (by decide) port)
      (not_mem_decimal (by decide) (by decide) other) runes
    exact ⟨decimal_injective (String.toList_inj.mp ports), String.toList_inj.mp protocols⟩
  · rintro ⟨rfl, same⟩
    rw [listenerKey, listenerKey, same]

/-! ## Wanted ports -/

/-- The service port that decides the listener on a port with a lower-cased
protocol: the last one that has a node port. -/
def wanted (table : LowerTable) (ports : List ServicePort) (port : Int)
    (protocol : String) : Option ServicePort :=
  (ports.filter fun sp => sp.nodePort ≠ 0 ∧ sp.port.toInt = port ∧
    toLower table sp.protocol = protocol).getLast?

theorem wanted_concat (table : LowerTable) (ports : List ServicePort) (sp : ServicePort)
    (port : Int) (protocol : String) :
    wanted table (ports ++ [sp]) port protocol =
      if sp.nodePort ≠ 0 ∧ sp.port.toInt = port ∧ toLower table sp.protocol = protocol
      then some sp else wanted table ports port protocol := by
  unfold wanted
  rw [List.filter_append]
  by_cases fits : sp.nodePort ≠ 0 ∧ sp.port.toInt = port ∧
      toLower table sp.protocol = protocol
  · rw [if_pos fits, List.filter_singleton, decide_eq_true fits]
    exact List.getLast?_concat
  · rw [if_neg fits, List.filter_singleton, decide_eq_false fits]
    exact congrArg List.getLast? (List.append_nil _)

theorem wanted_eq_some {table : LowerTable} {ports : List ServicePort} {port : Int}
    {protocol : String} {sp : ServicePort}
    (found : wanted table ports port protocol = some sp) :
    sp ∈ ports ∧ sp.nodePort ≠ 0 ∧ sp.port.toInt = port ∧
      toLower table sp.protocol = protocol := by
  have member := List.mem_filter.mp (List.mem_of_getLast? found)
  exact ⟨member.1, by simpa using member.2⟩

/-- The map of expected ports answers with the wanted port. -/
theorem expectedPorts_lookup (table : LowerTable) (ports : List ServicePort) (port : Int)
    (protocol : String) :
    (expectedPorts table ports).lookup (listenerKey table port protocol) =
      wanted table ports port (toLower table protocol) := by
  induction ports using List.reverseRecOn with
  | nil => rfl
  | append_singleton front sp ih =>
      have last : expectedPorts table (front ++ [sp]) =
          addExpected table (expectedPorts table front) sp := by
        rw [expectedPorts, List.foldl_append]
        rfl
      rw [last, wanted_concat, addExpected]
      by_cases noNodePort : sp.nodePort = 0
      · rw [if_pos noNodePort, if_neg (by simp [noNodePort]), ih]
      · rw [if_neg noNodePort]
        by_cases same : listenerKey table sp.port.toInt sp.protocol =
            listenerKey table port protocol
        · rw [same, AList.lookup_insert,
            if_pos ⟨noNodePort, (listenerKey_inj table).mp same⟩]
        · rw [AList.lookup_insert_ne (Ne.symm same), ih, if_neg]
          rintro ⟨-, agree⟩
          exact same ((listenerKey_inj table).mpr agree)

/-- Every expected port stands under its own key. -/
theorem expectedPorts_key {table : LowerTable} {ports : List ServicePort} {key : String}
    {sp : ServicePort} (found : (expectedPorts table ports).lookup key = some sp) :
    key = listenerKey table sp.port.toInt sp.protocol := by
  induction ports using List.reverseRecOn with
  | nil => cases found
  | append_singleton front last ih =>
      rw [expectedPorts, List.foldl_append] at found
      change (addExpected table (expectedPorts table front) last).lookup key = some sp
        at found
      rw [addExpected] at found
      by_cases noNodePort : last.nodePort = 0
      · rw [if_pos noNodePort] at found
        exact ih found
      · rw [if_neg noNodePort] at found
        by_cases same : key = listenerKey table last.port.toInt last.protocol
        · rw [same, AList.lookup_insert] at found
          cases found
          exact same
        · rw [AList.lookup_insert_ne same] at found
          exact ih found

/-! ## One listener of the comparison -/

/-- The diff once the attributes of an expected listener are known. -/
def learned (table : LowerTable) (listener : ListenerPortAndProtocol) (sp : ServicePort)
    (diff : ListenerDiff) (attributes : Int32 × ListenerStatus) : ListenerDiff :=
  if attributes.1 = sp.nodePort then
    { diff with
      expected := diff.expected.erase
        (listenerKey table listener.listenerPort listener.listenerProtocol)
      stopped := if attributes.2 = .stopped then
        diff.stopped ++ [sp.port.toInt] else diff.stopped }
  else
    { diff with removals := diff.removals ++ [listener.listenerPort] }

/-- The rest of the loop, given the answer to the query for an expected listener. -/
def diffRest (table : LowerTable) (lb : LoadBalancer) (rest : List ListenerPortAndProtocol)
    (learn : Int32 × ListenerStatus → ListenerDiff) :
    Except GoError (Int32 × ListenerStatus) → Aliyun (Except GoError ListenerDiff)
  | .error failure => return .error failure
  | .ok attributes => diffListeners table lb rest (learn attributes)

section DiffListeners

variable {table : LowerTable} (lb : LoadBalancer) (listener : ListenerPortAndProtocol)
  (rest : List ListenerPortAndProtocol) {diff : ListenerDiff}

theorem diffListeners_unexpected
    (absent : diff.expected.lookup
      (listenerKey table listener.listenerPort listener.listenerProtocol) = none) :
    diffListeners table lb (listener :: rest) diff =
      diffListeners table lb rest
        { diff with removals := diff.removals ++ [listener.listenerPort] } := by
  rw [diffListeners]
  simp only [absent]

theorem diffListeners_expected {sp : ServicePort}
    (found : diff.expected.lookup
      (listenerKey table listener.listenerPort listener.listenerProtocol) = some sp) :
    diffListeners table lb (listener :: rest) diff =
      getLBListenerAttributes table lb listener >>=
        diffRest table lb rest (learned table listener sp diff) := by
  rw [diffListeners]
  simp only [found]
  congr 1
  funext answer
  cases answer with
  | error failure => rfl
  | ok attributes =>
      simp only [diffRest, learned]
      split <;> rfl

end DiffListeners

/-! ## Wanted backends -/

/-- The map of expected ids holds the ids of the instances. -/
theorem mem_expectedIds (instances : List InstanceAttributes) (id : String) :
    id ∈ expectedIds instances ↔ id ∈ instances.map InstanceAttributes.instanceId := by
  induction instances using List.reverseRecOn with
  | nil => simp [expectedIds]
  | append_singleton front last ih =>
      have step : expectedIds (front ++ [last]) =
          (expectedIds front).insert last.instanceId true := by
        rw [expectedIds, List.foldl_append]
        rfl
      rw [step, AList.mem_insert, ih, List.map_append, List.mem_append,
        List.map_singleton, List.mem_singleton, or_comm]

/-- What the diff of the backends leaves: the ids still missing and the servers
that have to go. -/
theorem diffBackends_spec (backends : List BackendServer)
    (distinct : (backends.map BackendServer.serverId).Nodup) (expected : ExpectedIds)
    (removals : List String) :
    (∀ id, id ∈ (diffBackends backends expected removals).1 ↔
        id ∈ expected ∧ id ∉ backends.map BackendServer.serverId) ∧
      ∀ id, id ∈ (diffBackends backends expected removals).2 ↔
        id ∈ removals ∨ (id ∈ backends.map BackendServer.serverId ∧ id ∉ expected) := by
  induction backends generalizing expected removals with
  | nil => simp [diffBackends]
  | cons server rest ih =>
      obtain ⟨fresh, tail⟩ := List.nodup_cons.mp distinct
      unfold diffBackends
      cases found : expected.lookup server.serverId with
      | some flag =>
          have present : server.serverId ∈ expected := by
            rw [← AList.lookup_isSome, found]
            rfl
          obtain ⟨missing, going⟩ := ih tail (expected.erase server.serverId) removals
          refine ⟨fun id => ?_, fun id => ?_⟩
          · rw [missing id, AList.mem_erase, List.map_cons, List.mem_cons]
            tauto
          · rw [going id, AList.mem_erase, List.map_cons, List.mem_cons]
            constructor
            · rintro (old | ⟨member, gone⟩)
              · exact Or.inl old
              · refine Or.inr ⟨Or.inr member, fun inside => gone ⟨?_, inside⟩⟩
                rintro rfl
                exact fresh member
            · rintro (old | ⟨rfl | member, gone⟩)
              · exact Or.inl old
              · exact absurd present gone
              · exact Or.inr ⟨member, fun inside => gone inside.2⟩
      | none =>
          have absent : server.serverId ∉ expected := by
            rw [← AList.lookup_eq_none, found]
          obtain ⟨missing, going⟩ := ih tail expected (removals ++ [server.serverId])
          refine ⟨fun id => ?_, fun id => ?_⟩
          · rw [missing id, List.map_cons, List.mem_cons]
            constructor
            · rintro ⟨inside, notLater⟩
              refine ⟨inside, ?_⟩
              rintro (rfl | later)
              · exact absent inside
              · exact notLater later
            · rintro ⟨inside, outside⟩
              exact ⟨inside, fun later => outside (Or.inr later)⟩
          · rw [going id, List.map_cons, List.mem_cons, List.mem_append,
              List.mem_singleton]
            constructor
            · rintro ((old | rfl) | ⟨member, gone⟩)
              · exact Or.inl old
              · exact Or.inr ⟨Or.inl rfl, absent⟩
              · exact Or.inr ⟨Or.inr member, gone⟩
            · rintro (old | ⟨rfl | member, gone⟩)
              · exact Or.inl (Or.inl old)
              · exact Or.inl (Or.inr rfl)
              · exact Or.inr ⟨member, gone⟩

end KubeAliyun.Balancer
