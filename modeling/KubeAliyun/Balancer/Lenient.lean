import KubeAliyun.Balancer.Compare
import KubeAliyun.Balancer.Faults
import KubeAliyun.Remote.Exact
import KubeAliyun.Util.Keyed

/-!
# A service that refuses only what it must

The service holds at most one listener on each port of the load balancer.  It refuses
to create a listener on an occupied port, to delete or start one where there is none,
and to describe one as of another protocol; it accepts everything else, with any port
number.  The synchronisation of the listeners never runs into a refusal there, and
what it leaves does not depend on the order of the maps.
-/

namespace KubeAliyun.Balancer

open KubeAliyun.Cloud KubeAliyun.Provider KubeAliyun.Remote KubeAliyun.Text KubeAliyun.Util

/-! ## The service -/

abbrev Board : Type := Int → Option Listener

/-- How the service carries out what it accepts, and what it says otherwise. -/
structure Manner where
  created : Int → ListenerStatus
  started : Int → ListenerStatus → ListenerStatus
  refusal : ApiError
  other : (request : Call) → Reply request

namespace Board

def query (board : Board) (transport : Transport) (port : Int) : Option ListenerAttribute :=
  (board port).bind fun listener =>
    if toLower .identity listener.protocol = transport.text then
      some ⟨listener.backendServerPort, listener.status⟩
    else none

def create (board : Board) (listener : Listener) : Option Board :=
  if board listener.port = none then some (Function.update board listener.port listener)
  else none

def delete (board : Board) (port : Int) : Option Board :=
  (board port).map fun _ => Function.update board port none

def start (board : Board) (port : Int) (status : ListenerStatus → ListenerStatus) :
    Option Board :=
  (board port).map fun listener =>
    Function.update board port (some { listener with status := status listener.status })

end Board

namespace Manner

def change (manner : Manner) (board : Board) : Option Board → Option ApiError × Board
  | some next => (none, next)
  | none => (some manner.refusal, board)

def read (manner : Manner) : Option ListenerAttribute → Except ApiError ListenerAttribute
  | some response => .ok response
  | none => .error manner.refusal

end Manner

def lenient (loadBalancerId : String) : Service Manner Board Call Reply :=
  fun manner board request =>
    match request with
    | .slb (.describeListenerAttribute transport id port) =>
        if id = loadBalancerId then (manner.read (board.query transport port), board)
        else (manner.other (.slb (.describeListenerAttribute transport id port)), board)
    | .slb (.createListener transport args) =>
        if args.loadBalancerId = loadBalancerId then
          manner.change board (board.create ⟨args.listenerPort, transport.text,
            args.backendServerPort, manner.created args.listenerPort, args.settings⟩)
        else (manner.other (.slb (.createListener transport args)), board)
    | .slb (.deleteListener id port) =>
        if id = loadBalancerId then manner.change board (board.delete port)
        else (manner.other (.slb (.deleteListener id port)), board)
    | .slb (.startListener id port) =>
        if id = loadBalancerId then
          manner.change board (board.start port (manner.started port))
        else (manner.other (.slb (.startListener id port)), board)
    | request => (manner.other request, board)

/-! What the service replies to accepted calls. -/

section Accepted

variable {loadBalancerId : String} (manner : Manner) {board : Board}

theorem lenient_query (transport : Transport) {listener : Listener} {port : Int}
    (present : board port = some listener)
    (fits : toLower .identity listener.protocol = transport.text) :
    lenient loadBalancerId manner board
        (.slb (.describeListenerAttribute transport loadBalancerId port)) =
      (.ok ⟨listener.backendServerPort, listener.status⟩, board) := by
  refine (if_pos rfl).trans ?_
  rw [Board.query, present, Option.bind_some, if_pos fits]
  rfl

theorem lenient_create (transport : Transport) (port backendPort : Int)
    (settings : ListenerSettings) (free : board port = none) :
    lenient loadBalancerId manner board
        (.slb (.createListener transport ⟨loadBalancerId, port, backendPort, settings⟩)) =
      (none, Function.update board port (some
        ⟨port, transport.text, backendPort, manner.created port, settings⟩)) := by
  refine (if_pos rfl).trans ?_
  rw [Board.create, if_pos free]
  rfl

theorem lenient_delete {listener : Listener} {port : Int}
    (present : board port = some listener) :
    lenient loadBalancerId manner board (.slb (.deleteListener loadBalancerId port)) =
      (none, Function.update board port none) := by
  refine (if_pos rfl).trans ?_
  rw [Board.delete, present]
  rfl

theorem lenient_start {listener : Listener} {port : Int}
    (present : board port = some listener) :
    lenient loadBalancerId manner board (.slb (.startListener loadBalancerId port)) =
      (none, Function.update board port
        (some { listener with status := manner.started port listener.status })) := by
  refine (if_pos rfl).trans ?_
  rw [Board.start, present]
  rfl

end Accepted

/-- The contract of the service when its manners are restricted. -/
abbrev lenientContract (loadBalancerId : String) (allowed : Manner → Prop) :
    Contract Board Call Reply :=
  .ofService (lenient loadBalancerId) allowed

/-! ## One listener -/

section OneListener

variable {loadBalancerId : String} {allowed : Manner → Prop}

def Restarted (allowed : Manner → Prop) (port : Int) (before after : Option Listener) : Prop :=
  ∃ listener manner, allowed manner ∧ before = some listener ∧
    after = some { listener with status := manner.started port listener.status }

theorem startListener_owns (port : Int) :
    Prog.OwnsCell (lenientContract loadBalancerId allowed) port (· ≠ none)
      (Restarted allowed port) (startLoadBalancerListener loadBalancerId port) := by
  intro board occupied
  obtain ⟨listener, present⟩ := Option.ne_none_iff_exists'.mp occupied
  apply Prog.Ensures.call_ofService
  intro manner permitted
  refine ⟨none, _, lenient_start manner present, ?_⟩
  refine Prog.Yields.done ⟨rfl, ⟨listener, manner, permitted, present, by simp⟩, ?_⟩
  intro other elsewhere
  exact Function.update_of_ne elsewhere _ _

theorem deleteListener_owns (port : Int) :
    Prog.OwnsCell (lenientContract loadBalancerId allowed) port (· ≠ none)
      (fun _ after => after = none) (deleteLoadBalancerListener loadBalancerId port) := by
  intro board occupied
  obtain ⟨listener, present⟩ := Option.ne_none_iff_exists'.mp occupied
  apply Prog.Ensures.call_ofService
  intro manner permitted
  refine ⟨none, _, lenient_delete manner present, ?_⟩
  refine Prog.Yields.done ⟨rfl, by simp, ?_⟩
  intro other elsewhere
  exact Function.update_of_ne elsewhere _ _

/-- The listener that the provider asks for on behalf of a service port. -/
def requestedListener (options : AliyunLoadBalancerOptions) (sp : ServicePort)
    (status : ListenerStatus) : Listener :=
  if sp.protocol = "TCP" then
    ⟨sp.port.toInt, "tcp", sp.nodePort.toInt, status,
      { listenerSettings options sp with healthCheckType := "tcp" }⟩
  else ⟨sp.port.toInt, "udp", sp.nodePort.toInt, status, listenerSettings options sp⟩

def Installed (allowed : Manner → Prop) (options : AliyunLoadBalancerOptions) (sp : ServicePort)
    (after : Option Listener) : Prop :=
  ∃ first second, allowed first ∧ allowed second ∧
    after = some (requestedListener options sp
      (second.started sp.port.toInt (first.created sp.port.toInt)))

/-- Creating a listener on a free port and starting it. -/
theorem createAndStart_owns (transport : Transport) (sp : ServicePort)
    (settings : ListenerSettings) (options : AliyunLoadBalancerOptions)
    (requested : ∀ status, requestedListener options sp status =
      ⟨sp.port.toInt, transport.text, sp.nodePort.toInt, status, settings⟩)
    {next : Option GoError → Aliyun (Option GoError)}
    (continues : next none = Option.map GoError.api <$>
      startLoadBalancerListener loadBalancerId sp.port.toInt) :
    Prog.OwnsCell (lenientContract loadBalancerId allowed) sp.port.toInt (· = none)
      (fun _ after => Installed allowed options sp after)
      (Option.map GoError.api <$> invoke (.slb (.createListener transport
          ⟨loadBalancerId, sp.port.toInt, sp.nodePort.toInt, settings⟩)) >>= next) := by
  intro board free
  apply Prog.Ensures.call_ofService
  intro first permitted
  refine ⟨none, _, lenient_create first transport _ _ _ free, ?_⟩
  change (next none).Yields _ _ _
  rw [continues]
  apply Prog.Yields.bind (startListener_owns sp.port.toInt _ (by simp))
  rintro result after ⟨rfl, ⟨listener, second, alsoPermitted, present, started⟩, kept⟩
  rw [Function.update_self] at present
  cases present
  refine Prog.Yields.done ⟨rfl, ⟨first, second, permitted, alsoPermitted, ?_⟩, ?_⟩
  · rw [started, requested]
  · intro other elsewhere
    rw [kept other elsewhere]
    exact Function.update_of_ne elsewhere _ _

theorem createServiceListener_owns {lb : LoadBalancer} {sp : ServicePort}
    (options : AliyunLoadBalancerOptions)
    (supported : sp.protocol = "TCP" ∨ sp.protocol = "UDP") :
    Prog.OwnsCell (lenientContract lb.loadBalancerId allowed) sp.port.toInt (· = none)
      (fun _ after => Installed allowed options sp after)
      (createServiceListener lb options sp) := by
  unfold createServiceListener
  by_cases tcp : sp.protocol = "TCP"
  · rw [if_pos tcp]
    exact createAndStart_owns .tcp sp _ options (fun status => if_pos tcp) rfl
  · have udp : sp.protocol = "UDP" := supported.resolve_left tcp
    rw [if_neg tcp, if_pos udp]
    exact createAndStart_owns .udp sp _ options (fun status => if_neg tcp) rfl

end OneListener

/-! ## Reading -/

/-- Service ports that are forwarded have a protocol that load balancers offer. -/
def Supported (ports : List ServicePort) : Prop :=
  ∀ sp ∈ ports, sp.nodePort ≠ 0 → sp.protocol = "TCP" ∨ sp.protocol = "UDP"

/-- The transport of a listener that a service port wants. -/
theorem Supported.transport {table : LowerTable} {ports : List ServicePort}
    (supported : Supported ports) {port : Int} {protocol : String} {sp : ServicePort}
    (found : wanted table ports port protocol = some sp) :
    ∃ transport : Transport, protocol = transport.text := by
  obtain ⟨member, forwarded, -, lowered⟩ := wanted_eq_some found
  rcases supported sp member forwarded with tcp | udp
  · rw [tcp, toLower_TCP] at lowered
    exact ⟨.tcp, lowered.symm⟩
  · rw [udp, toLower_UDP] at lowered
    exact ⟨.udp, lowered.symm⟩

/-- No listener of such ports ends the comparison early. -/
theorem Supported.unblocked {table : LowerTable} {ports : List ServicePort}
    (supported : Supported ports) (listener : Listener) : ¬Blocked table ports listener := by
  rintro ⟨isWanted, unreadable⟩
  obtain ⟨sp, found⟩ := Option.ne_none_iff_exists'.mp isWanted
  exact unreadable (supported.transport found)

section Reading

variable {table : LowerTable} {ports : List ServicePort} {lb : LoadBalancer}
  {allowed : Manner → Prop} {board : Board}

theorem lenient_answersQuery {listener : Listener}
    (present : board listener.port = some listener) :
    AnswersQuery (lenientContract lb.loadBalancerId allowed) board True table
      lb.loadBalancerId listener := by
  intro transport lowered
  apply Prog.Ensures.call_ofService
  intro manner permitted
  refine ⟨_, _, lenient_query manner transport present (toLower_transport .identity lowered),
    rfl, ?_, fun _ _ => rfl⟩
  intro backendPort status same
  cases same
  exact ⟨rfl, rfl, transport, lowered⟩

/-- The comparison reads every listener it asks for. -/
theorem diffListeners_yields (supported : Supported ports) (listeners : List Listener)
    (distinct : (listeners.map Listener.port).Nodup)
    (present : ∀ listener ∈ listeners, board listener.port = some listener) :
    (diffListeners table lb (portsAndProtocols listeners)
        ⟨expectedPorts table ports, [], []⟩).Yields (lenientContract lb.loadBalancerId allowed)
      (fun result after => after = board ∧ ∃ diff, result = .ok diff ∧
        Compared table ports listeners diff) board := by
  have queries (listener : Listener) (member : listener ∈ listeners) :
      AnswersQuery (lenientContract lb.loadBalancerId allowed) board True table
        lb.loadBalancerId listener :=
    lenient_answersQuery (present listener member)
  refine (diffListeners_compares ports distinct queries).mono ?_
  rintro outcome after ⟨kept, finished⟩
  obtain ⟨diff, rfl⟩ := finished.prompt trivial fun listener _ => supported.unblocked listener
  exact ⟨.ok diff, rfl, kept, diff, rfl, (finished.compared diff rfl).1⟩

end Reading

/-! ## Service ports with port numbers of their own -/

def forwarded (ports : List ServicePort) : List ServicePort :=
  ports.filter fun sp => sp.nodePort ≠ 0

def portNumber (sp : ServicePort) : Int := sp.port.toInt

/-- Forwarded service ports have distinct port numbers. -/
def DistinctPorts (ports : List ServicePort) : Prop :=
  ((forwarded ports).map ServicePort.port).Nodup

def portFor (ports : List ServicePort) (port : Int) : Option ServicePort :=
  Keyed.find portNumber (forwarded ports) port

section Distinct

variable {table : LowerTable} {ports : List ServicePort}

theorem DistinctPorts.numbers (distinct : DistinctPorts ports) :
    ((forwarded ports).map portNumber).Nodup := by
  have numbers : (forwarded ports).map portNumber =
      ((forwarded ports).map ServicePort.port).map Int32.toInt := by
    rw [List.map_map]
    rfl
  rw [numbers]
  exact distinct.map fun first second same => Int32.toInt_inj.mp same

theorem portFor_iff (distinct : DistinctPorts ports) (port : Int) (sp : ServicePort) :
    portFor ports port = some sp ↔
      sp ∈ ports ∧ sp.nodePort ≠ 0 ∧ sp.port.toInt = port := by
  rw [portFor, Keyed.find_eq_some_iff distinct.numbers, forwarded, List.mem_filter]
  simp [portNumber, and_assoc]

/-- With distinct port numbers a port is wanted for the protocol of its service port. -/
theorem wanted_iff (distinct : DistinctPorts ports) (port : Int) (protocol : String)
    (sp : ServicePort) :
    wanted table ports port protocol = some sp ↔
      portFor ports port = some sp ∧ toLower table sp.protocol = protocol := by
  rw [portFor_iff distinct]
  constructor
  · intro found
    obtain ⟨member, forwarded, number, lowered⟩ := wanted_eq_some found
    exact ⟨⟨member, forwarded, number⟩, lowered⟩
  · rintro ⟨⟨member, forwarded, number⟩, lowered⟩
    cases found : wanted table ports port protocol with
    | none =>
        have candidate : sp ∈ ports.filter fun sp => sp.nodePort ≠ 0 ∧ sp.port.toInt = port ∧
            toLower table sp.protocol = protocol :=
          List.mem_filter.mpr ⟨member, by simp [forwarded, number, lowered]⟩
        rw [wanted, List.getLast?_eq_none_iff] at found
        rw [found] at candidate
        cases candidate
    | some other =>
        obtain ⟨alsoMember, alsoForwarded, alsoNumber, -⟩ := wanted_eq_some found
        have one := (portFor_iff distinct port sp).mpr ⟨member, forwarded, number⟩
        have two := (portFor_iff distinct port other).mpr
          ⟨alsoMember, alsoForwarded, alsoNumber⟩
        rw [one] at two
        exact two.symm

end Distinct

/-! ## The synchronised board -/

def boardOf (listeners : List Listener) : Board := Keyed.find Listener.port listeners

/-- A listener that fits stays, and is started if it was stopped. -/
def KeptAs (allowed : Manner → Prop) (listener : Listener) (after : Option Listener) : Prop :=
  if listener.status = .stopped then Restarted allowed listener.port (some listener) after
  else after = some listener

/-- Where no listener fits, there is one for the service port afterwards, or none. -/
def ReplacedBy (allowed : Manner → Prop) (options : AliyunLoadBalancerOptions) :
    Option ServicePort → Option Listener → Prop
  | none, after => after = none
  | some sp, after => Installed allowed options sp after

inductive LeftOn (allowed : Manner → Prop) (table : LowerTable) (ports : List ServicePort)
    (options : AliyunLoadBalancerOptions) (board : Board) (port : Int) :
    Option Listener → Prop where
  | fitting {listener : Listener} {after : Option Listener}
      (present : board port = some listener) (fit : fits table ports listener = true)
      (kept : KeptAs allowed listener after) :
      LeftOn allowed table ports options board port after
  | unfitting {after : Option Listener}
      (unfit : ∀ listener, board port = some listener → fits table ports listener = false)
      (replaced : ReplacedBy allowed options (portFor ports port) after) :
      LeftOn allowed table ports options board port after

theorem KeptAs.unique {manner : Manner} {listener : Listener} {first second : Option Listener}
    (one : KeptAs (· = manner) listener first) (two : KeptAs (· = manner) listener second) :
    first = second := by
  unfold KeptAs at one two
  split at one
  · rename_i stopped
    rw [if_pos stopped] at two
    obtain ⟨old, _, rfl, same, rfl⟩ := one
    obtain ⟨alsoOld, _, rfl, alsoSame, rfl⟩ := two
    cases same
    cases alsoSame
    rfl
  · rename_i running
    rw [if_neg running] at two
    rw [one, two]

theorem ReplacedBy.unique {manner : Manner} {options : AliyunLoadBalancerOptions}
    {wish : Option ServicePort} {first second : Option Listener}
    (one : ReplacedBy (· = manner) options wish first)
    (two : ReplacedBy (· = manner) options wish second) : first = second := by
  cases wish with
  | none => exact one.trans two.symm
  | some sp =>
      obtain ⟨_, _, rfl, rfl, rfl⟩ := one
      obtain ⟨_, _, rfl, rfl, rfl⟩ := two
      rfl

/-- A service with one manner leaves one result. -/
theorem LeftOn.unique {manner : Manner} {table : LowerTable} {ports : List ServicePort}
    {options : AliyunLoadBalancerOptions} {board : Board} {port : Int}
    {first second : Option Listener}
    (one : LeftOn (· = manner) table ports options board port first)
    (two : LeftOn (· = manner) table ports options board port second) : first = second := by
  cases one with
  | fitting present fit kept =>
      cases two with
      | fitting alsoPresent _ alsoKept =>
          rw [present] at alsoPresent
          cases alsoPresent
          exact kept.unique alsoKept
      | unfitting unfit =>
          rw [unfit _ present] at fit
          cases fit
  | unfitting unfit replaced =>
      cases two with
      | fitting present fit =>
          rw [unfit _ present] at fit
          cases fit
      | unfitting _ alsoReplaced => exact replaced.unique alsoReplaced

section Phases

variable {table : LowerTable} {ports : List ServicePort} {listeners : List Listener}
  {diff : ListenerDiff}

theorem boardOf_iff (distinct : (listeners.map Listener.port).Nodup) (port : Int)
    (listener : Listener) :
    boardOf listeners port = some listener ↔
      listener ∈ listeners ∧ listener.port = port :=
  Keyed.find_eq_some_iff distinct port listener

/-- A port is started when its listener fits and is stopped. -/
theorem Compared.mem_stopped (compared : Compared table ports listeners diff)
    (distinct : (listeners.map Listener.port).Nodup) (port : Int) :
    port ∈ diff.stopped ↔ ∃ listener, boardOf listeners port = some listener ∧
      fits table ports listener = true ∧ listener.status = .stopped := by
  rw [compared.stopped, List.mem_map]
  simp only [List.mem_filter, Bool.and_eq_true, decide_eq_true_eq, boardOf_iff distinct]
  constructor
  · rintro ⟨listener, ⟨member, fit, stopped⟩, same⟩
    exact ⟨listener, ⟨member, same⟩, fit, stopped⟩
  · rintro ⟨listener, ⟨member, same⟩, fit, stopped⟩
    exact ⟨listener, ⟨member, fit, stopped⟩, same⟩

/-- A port is deleted when its listener does not fit. -/
theorem Compared.mem_removals (compared : Compared table ports listeners diff)
    (distinct : (listeners.map Listener.port).Nodup) (port : Int) :
    port ∈ diff.removals ↔ ∃ listener, boardOf listeners port = some listener ∧
      fits table ports listener = false := by
  rw [compared.removals, List.mem_map]
  simp only [List.mem_filter, Bool.not_eq_true', boardOf_iff distinct]
  constructor
  · rintro ⟨listener, ⟨member, unfit⟩, same⟩
    exact ⟨listener, ⟨member, same⟩, unfit⟩
  · rintro ⟨listener, ⟨member, same⟩, unfit⟩
    exact ⟨listener, ⟨member, unfit⟩, same⟩

/-- A service port is created when no listener on its port number fits. -/
theorem Compared.mem_created (compared : Compared table ports listeners diff)
    (distinct : (listeners.map Listener.port).Nodup) (apart : DistinctPorts ports)
    (sp : ServicePort) :
    sp ∈ diff.expected.entries.map Sigma.snd ↔
      portFor ports sp.port.toInt = some sp ∧
        ∀ listener, boardOf listeners sp.port.toInt = some listener →
          fits table ports listener = false := by
  rw [compared.mem_values_iff, wanted_iff apart]
  constructor
  · rintro ⟨⟨found, -⟩, unanswered⟩
    refine ⟨found, fun listener present => ?_⟩
    obtain ⟨listed, number⟩ := (boardOf_iff distinct _ _).mp present
    -- a listener that fits on this port number would have answered the key
    by_contra fit
    rw [Bool.not_eq_false] at fit
    obtain ⟨other, wish⟩ := wanted_of_fits fit
    rw [wanted_iff apart, number, found] at wish
    obtain ⟨same, lowered⟩ := wish
    cases same
    exact unanswered listener listed fit
      ((listenerKey_inj table).mpr ⟨number.symm, lowered⟩)
  · rintro ⟨found, unfit⟩
    refine ⟨⟨found, rfl⟩, fun listener listed fit same => ?_⟩
    have number := ((listenerKey_inj table).mp same).1
    rw [unfit listener ((boardOf_iff distinct _ _).mpr ⟨listed, number.symm⟩)] at fit
    cases fit

/-- Service ports to create have port numbers of their own. -/
theorem Compared.created_distinct (compared : Compared table ports listeners diff)
    (distinct : (listeners.map Listener.port).Nodup) (apart : DistinctPorts ports) :
    ((diff.expected.entries.map Sigma.snd).map portNumber).Nodup := by
  rw [List.map_map]
  apply List.Nodup.map_on _ (List.NodupKeys.nodup diff.expected.nodupKeys)
  rintro ⟨key, sp⟩ entry ⟨other, also⟩ alsoEntry number
  have one := (compared.mem_created distinct apart sp).mp
    (List.mem_map.mpr ⟨⟨key, sp⟩, entry, rfl⟩)
  have two := (compared.mem_created distinct apart also).mp
    (List.mem_map.mpr ⟨⟨other, also⟩, alsoEntry, rfl⟩)
  have same : sp = also := by
    have numbers : sp.port.toInt = also.port.toInt := number
    rw [numbers] at one
    exact Option.some.inj (one.1.symm.trans two.1)
  subst same
  have first := ((compared.expected key sp).mp (AList.mem_lookup_iff.mpr entry)).1
  have second := ((compared.expected other sp).mp (AList.mem_lookup_iff.mpr alsoEntry)).1
  rw [expectedPorts_key first, expectedPorts_key second]

theorem Compared.not_stopped (compared : Compared table ports listeners diff)
    (distinct : (listeners.map Listener.port).Nodup) {port : Int}
    (unfit : ∀ listener, boardOf listeners port = some listener →
      fits table ports listener = false) : port ∉ diff.stopped := by
  rw [compared.mem_stopped distinct]
  rintro ⟨listener, present, fit, -⟩
  rw [unfit listener present] at fit
  cases fit

/-- The first two loops: `started` and `deleted` are the boards they leave. -/
structure Cleared (allowed : Manner → Prop) (diff : ListenerDiff)
    (board started deleted : Board) : Prop where
  starts : ∀ port ∈ diff.stopped, Restarted allowed port (board port) (started port)
  startsOnly : ∀ port, port ∉ diff.stopped → started port = board port
  deletes : ∀ port ∈ diff.removals, deleted port = none
  deletesOnly : ∀ port, port ∉ diff.removals → deleted port = started port

/-- A port without a listener that fits is free then. -/
theorem Cleared.free {allowed : Manner → Prop} {started deleted : Board}
    (cleared : Cleared allowed diff (boardOf listeners) started deleted)
    (compared : Compared table ports listeners diff)
    (distinct : (listeners.map Listener.port).Nodup) {port : Int}
    (unfit : ∀ listener, boardOf listeners port = some listener →
      fits table ports listener = false) : deleted port = none := by
  by_cases removed : port ∈ diff.removals
  · exact cleared.deletes port removed
  · rw [cleared.deletesOnly port removed,
      cleared.startsOnly port (compared.not_stopped distinct unfit)]
    cases present : boardOf listeners port with
    | none => rfl
    | some listener =>
        exact absurd ((compared.mem_removals distinct port).mpr
          ⟨listener, present, unfit listener present⟩) removed

/-- All three loops: `final` is the board at the end. -/
structure Phased (allowed : Manner → Prop) (options : AliyunLoadBalancerOptions)
    (diff : ListenerDiff) (creations : List ServicePort) (board started deleted final : Board) :
    Prop extends Cleared allowed diff board started deleted where
  creates : ∀ sp ∈ creations, Installed allowed options sp (final sp.port.toInt)
  createsOnly : ∀ port, port ∉ creations.map portNumber → final port = deleted port

/-- A listener that fits is not removed. -/
theorem Compared.not_removed (compared : Compared table ports listeners diff)
    (distinct : (listeners.map Listener.port).Nodup) {port : Int} {listener : Listener}
    (present : boardOf listeners port = some listener)
    (fit : fits table ports listener = true) : port ∉ diff.removals := by
  rw [compared.mem_removals distinct]
  rintro ⟨other, alsoPresent, unfit⟩
  rw [present] at alsoPresent
  cases alsoPresent
  rw [fit] at unfit
  cases unfit

/-- Listeners are created on wanted ports without a listener that fits. -/
theorem Compared.of_created {creations : List ServicePort}
    (compared : Compared table ports listeners diff)
    (distinct : (listeners.map Listener.port).Nodup) (apart : DistinctPorts ports)
    (all : ∀ sp, sp ∈ creations ↔ sp ∈ diff.expected.entries.map Sigma.snd) {port : Int}
    (created : port ∈ creations.map portNumber) :
    portFor ports port ≠ none ∧ ∀ listener, boardOf listeners port = some listener →
      fits table ports listener = false := by
  obtain ⟨sp, member, rfl⟩ := List.mem_map.mp created
  obtain ⟨wish, unfit⟩ := (compared.mem_created distinct apart sp).mp ((all sp).mp member)
  exact ⟨fun none => absurd (wish.symm.trans none) (by simp), unfit⟩

section Left

variable {allowed : Manner → Prop} {options : AliyunLoadBalancerOptions}
  {creations : List ServicePort} {started deleted final : Board}

theorem Cleared.kept (cleared : Cleared allowed diff (boardOf listeners) started deleted)
    (compared : Compared table ports listeners diff)
    (distinct : (listeners.map Listener.port).Nodup) {port : Int} {listener : Listener}
    (present : boardOf listeners port = some listener)
    (fit : fits table ports listener = true) :
    KeptAs allowed listener (deleted port) := by
  have number := ((boardOf_iff distinct port listener).mp present).2
  rw [cleared.deletesOnly port (compared.not_removed distinct present fit)]
  unfold KeptAs
  split
  · rename_i stopped
    have starting := cleared.starts port
      ((compared.mem_stopped distinct port).mpr ⟨listener, present, fit, stopped⟩)
    rw [number, ← present]
    exact starting
  · rename_i running
    rw [cleared.startsOnly port, present]
    rw [compared.mem_stopped distinct]
    rintro ⟨other, alsoPresent, -, stopped⟩
    rw [present] at alsoPresent
    cases alsoPresent
    exact running stopped

theorem Phased.leftOn
    (phased : Phased allowed options diff creations (boardOf listeners) started deleted final)
    (compared : Compared table ports listeners diff)
    (distinct : (listeners.map Listener.port).Nodup) (apart : DistinctPorts ports)
    (all : ∀ sp, sp ∈ creations ↔ sp ∈ diff.expected.entries.map Sigma.snd) (port : Int) :
    LeftOn allowed table ports options (boardOf listeners) port (final port) := by
  by_cases fitting : ∃ listener, boardOf listeners port = some listener ∧
      fits table ports listener = true
  · obtain ⟨listener, present, fit⟩ := fitting
    have uncreated : port ∉ creations.map portNumber := by
      intro created
      have unfit := (compared.of_created distinct apart all created).2 listener present
      rw [fit] at unfit
      cases unfit
    refine LeftOn.fitting present fit ?_
    rw [phased.createsOnly port uncreated]
    exact phased.kept compared distinct present fit
  · have unfit : ∀ listener, boardOf listeners port = some listener →
        fits table ports listener = false := by
      intro listener present
      exact Bool.eq_false_iff.mpr fun fit => fitting ⟨listener, present, fit⟩
    refine LeftOn.unfitting unfit ?_
    cases found : portFor ports port with
    | some sp =>
        have number := ((portFor_iff apart port sp).mp found).2.2
        have created := (all sp).mpr ((compared.mem_created distinct apart sp).mpr
          ⟨number ▸ found, number ▸ unfit⟩)
        have installed := phased.creates sp created
        rw [number] at installed
        exact installed
    | none =>
        change final port = none
        rw [phased.createsOnly port fun created =>
          (compared.of_created distinct apart all created).1 found]
        exact phased.free compared distinct unfit

end Left

end Phases

/-- The synchronisation succeeds and leaves on every port what the port needs. -/
theorem ensureLBListeners_yields {table : LowerTable} {ports : List ServicePort}
    {listeners : List Listener} {lb : LoadBalancer} (allowed : Manner → Prop)
    (order : MapOrder) (options : AliyunLoadBalancerOptions)
    (supported : Supported ports) (apart : DistinctPorts ports)
    (distinct : (listeners.map Listener.port).Nodup)
    (listed : lb.listenerPortsAndProtocol = portsAndProtocols listeners) :
    (ensureLBListeners table order lb ports options).Yields
      (lenientContract lb.loadBalancerId allowed)
      (fun result after => result = none ∧ ∀ port,
        LeftOn allowed table ports options (boardOf listeners) port (after port))
      (boardOf listeners) := by
  unfold ensureLBListeners
  rw [listed]
  apply Prog.Yields.bind (diffListeners_yields supported listeners distinct
    fun listener member => (boardOf_iff distinct _ _).mpr ⟨member, rfl⟩)
  rintro result board ⟨rfl, diff, rfl, compared⟩
  have stoppedOnce : (diff.stopped.map id).Nodup := by
    rw [List.map_id, compared.stopped]
    exact distinct.sublist (List.filter_sublist.map _)
  have removedOnce : (diff.removals.map id).Nodup := by
    rw [List.map_id, compared.removals]
    exact distinct.sublist (List.filter_sublist.map _)
  apply Prog.Yields.bind (Prog.forEach_cells stoppedOnce
    (fun port _ => startListener_owns port) fun port member => by
      obtain ⟨listener, present, -⟩ := (compared.mem_stopped distinct port).mp member
      simp [present])
  rintro result started ⟨rfl, starts, startsOnly⟩
  apply Prog.Yields.bind (Prog.forEach_cells removedOnce
    (fun port _ => deleteListener_owns port) fun port member => by
      obtain ⟨listener, present, unfit⟩ := (compared.mem_removals distinct port).mp member
      have running : port ∉ diff.stopped.map id := by
        rw [List.map_id]
        refine compared.not_stopped distinct fun other alsoPresent => ?_
        rw [present] at alsoPresent
        cases alsoPresent
        exact unfit
      rw [id_eq, startsOnly port running, present]
      simp)
  rintro result deleted ⟨rfl, deletes, deletesOnly⟩
  have cleared : Cleared allowed diff (boardOf listeners) started deleted :=
    ⟨starts, by simpa using startsOnly, deletes, by simpa using deletesOnly⟩
  have permuted := order.ports_perm (diff.expected.entries.map Sigma.snd)
  have createdOnce : ((order.ports (diff.expected.entries.map Sigma.snd)).map
      portNumber).Nodup :=
    (permuted.map portNumber).nodup_iff.mpr (compared.created_distinct distinct apart)
  refine Prog.Ensures.mono (Prog.forEach_cells createdOnce
    (fun sp member => createServiceListener_owns options (by
      have wish := ((compared.mem_created distinct apart sp).mp (permuted.mem_iff.mp member)).1
      obtain ⟨own, forwarded, -⟩ := (portFor_iff apart _ _).mp wish
      exact supported sp own forwarded))
    fun sp member => cleared.free compared distinct
      ((compared.mem_created distinct apart sp).mp (permuted.mem_iff.mp member)).2) ?_
  rintro outcome final ⟨value, rfl, rfl, installed, createsOnly⟩
  have phased : Phased allowed options diff _ (boardOf listeners) started deleted final :=
    ⟨cleared, installed, createsOnly⟩
  exact ⟨none, rfl, rfl, phased.leftOn compared distinct apart fun sp => permuted.mem_iff⟩

/-- Where the service refuses only what it must, no call of a synchronisation is
refused, and the order of the maps does not matter. -/
theorem sync_never_refused {table : LowerTable} {ports : List ServicePort}
    {listeners : List Listener} {lb : LoadBalancer} (options : AliyunLoadBalancerOptions)
    (supported : Supported ports) (apart : DistinctPorts ports)
    (distinct : (listeners.map Listener.port).Nodup)
    (listed : lb.listenerPortsAndProtocol = portsAndProtocols listeners) :
    let sync (order : MapOrder) (choices : Nat → Manner) :=
      (ensureLBListeners table order lb ports options).run (lenient lb.loadBalancerId) choices
        (boardOf listeners)
    (∀ order choices, (sync order choices).outcome = some none ∧
      ∀ exchange ∈ (sync order choices).trace, ¬Failed exchange) ∧
    ∀ manner order other,
      (sync order fun _ => manner).state = (sync other fun _ => manner).state := by
  intro sync
  have yields (allowed : Manner → Prop) (order : MapOrder) :
      (ensureLBListeners table order lb ports options).Yields
        (lenientContract lb.loadBalancerId allowed)
        (fun result after => result = none ∧ ∀ port,
          LeftOn allowed table ports options (boardOf listeners) port (after port))
        (boardOf listeners) :=
    ensureLBListeners_yields allowed order options supported apart distinct listed
  refine ⟨fun order choices => ?_, fun manner order other => ?_⟩
  · obtain ⟨result, returned, rfl, -⟩ :=
      (yields (fun _ => True) order).run_ofService choices fun _ => trivial
    have reported : Reported Synchronises Failed AttributeFailed (· = none) _ _ :=
      (ensureLBListeners_reports table order lb ports options).run
        (lenient lb.loadBalancerId) choices (boardOf listeners)
    exact ⟨returned, reported.succeeded none returned rfl⟩
  · obtain ⟨_, -, -, first⟩ :=
      (yields (· = manner) order).run_ofService (fun _ => manner) fun _ => rfl
    obtain ⟨_, -, -, second⟩ :=
      (yields (· = manner) other).run_ofService (fun _ => manner) fun _ => rfl
    funext port
    exact (first port).unique (second port)

/-- A service that creates stopped listeners and starts them at once. -/
def promptManner : Manner :=
  ⟨fun _ => .stopped, fun _ _ => .running, ⟨"r", 400, "Refused", "refused"⟩, unlistingReply⟩

theorem sync_never_refused_sample :
    Supported sampleService.ports ∧ DistinctPorts sampleService.ports ∧
    ∀ order, ((ensureLBListeners .identity order sampleBalancer sampleService.ports {}).run
      (lenient "lb-1") (fun _ => promptManner)
      (boardOf sampleContent.listeners)).outcome = some none := by
  have supported : Supported sampleService.ports := by
    unfold Supported
    decide
  have apart : DistinctPorts sampleService.ports := by
    unfold DistinctPorts
    decide
  have whole := @sync_never_refused .identity sampleService.ports sampleContent.listeners
    sampleBalancer {} supported apart sampleContent.portsDistinct rfl
  exact ⟨supported, apart, fun order => (whole.1 order fun _ => promptManner).1⟩

end KubeAliyun.Balancer
