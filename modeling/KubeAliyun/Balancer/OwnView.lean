import KubeAliyun.Provider.LoadBalancer
import KubeAliyun.Remote.Pool

/-!
# A service's own load balancer

The name is the only link between a service and its load balancer.  Seen through
one name, the region is at most one load balancer, and the calls that address
it step this view alone; calls made under one name leave the views of all
other names as they are.
-/

namespace KubeAliyun.Balancer

open KubeAliyun.Cloud KubeAliyun.Remote

/-! ## Names and ids in the region -/

def Sole (slb : Slb) (name : String) : Prop :=
  (slb.balancers.filter fun balancer => balancer.name = name).length ≤ 1

/-- Load balancers with one id are the same. -/
theorem balancer_unique (slb : Slb) {first second : Cloud.Balancer}
    (one : first ∈ slb.balancers) (two : second ∈ slb.balancers)
    (same : first.id = second.id) : first = second :=
  List.inj_on_of_nodup_map slb.idsDistinct one two same

theorem named_mem {slb : Slb} {name : String} {balancer : Cloud.Balancer}
    (found : slb.named name = some balancer) :
    balancer ∈ slb.balancers ∧ balancer.name = name :=
  Util.Keyed.find_key found

/-- A load balancer is found under its id. -/
theorem byId_of_mem {slb : Slb} {balancer : Cloud.Balancer}
    (member : balancer ∈ slb.balancers) : slb.byId balancer.id = some balancer :=
  (Util.Keyed.find_eq_some_iff slb.idsDistinct balancer.id balancer).mpr ⟨member, rfl⟩

theorem named_put (slb : Slb) (id name : String) (content : Content) :
    (slb.put id content).named name =
      (slb.named name).map fun balancer =>
        if balancer.id = id then { balancer with content } else balancer := by
  have keeps (balancer : Cloud.Balancer) :
      (if balancer.id = id then { balancer with content } else balancer).name =
        balancer.name := by
    split <;> rfl
  exact Util.Keyed.find_map keeps name

theorem named_create (slb : Slb) (proposed made address name : String) :
    (slb.create proposed made address).named name =
      (slb.named name).or
        (if made = name then
          some ⟨freshId (slb.balancers.map Cloud.Balancer.id) proposed, made, address,
            .empty⟩
        else none) := by
  unfold Slb.named Slb.create
  rw [List.find?_append]
  congr 1
  by_cases same : made = name <;> simp [same]

/-- Deleting the load balancer of one name does not change another name. -/
theorem named_delete_other {slb : Slb} {name other : String}
    {balancer : Cloud.Balancer} (found : slb.named name = some balancer)
    (different : other ≠ name) :
    (slb.delete balancer.id).named other = slb.named other := by
  obtain ⟨member, itsName⟩ := named_mem found
  unfold Slb.named Slb.delete
  simp only
  have apart : ∀ candidate ∈ slb.balancers, candidate.id = balancer.id →
      candidate.name ≠ other := by
    intro candidate present same clash
    rw [balancer_unique slb present member same, itsName] at clash
    exact different clash.symm
  generalize slb.balancers = balancers at apart
  induction balancers with
  | nil => rfl
  | cons head rest ih =>
      have tail := ih fun candidate present => apart candidate (List.mem_cons_of_mem _ present)
      by_cases same : head.id = balancer.id
      · have otherName := apart head List.mem_cons_self same
        simp only [List.filter_cons, same, ne_eq, not_true_eq_false, decide_false,
          Bool.false_eq_true, if_false, List.find?_cons, otherName]
        exact tail
      · simp only [List.filter_cons, ne_eq, same, not_false_eq_true, decide_true,
          if_true, List.find?_cons]
        cases decide (head.name = other) with
        | true => rfl
        | false => exact tail

/-- With a sole name, deleting its load balancer leaves none. -/
theorem named_delete_own {slb : Slb} {name : String} {balancer : Cloud.Balancer}
    (found : slb.named name = some balancer) (sole : Sole slb name) :
    (slb.delete balancer.id).named name = none := by
  obtain ⟨member, itsName⟩ := named_mem found
  rw [Slb.named, List.find?_eq_none]
  intro candidate remaining
  obtain ⟨present, otherId⟩ := List.mem_filter.mp remaining
  have different : candidate.id ≠ balancer.id := by simpa using otherId
  have notNamed : candidate.name ≠ name := by
    intro clash
    -- two load balancers with the name cannot fit in a list of length one
    have one : candidate ∈ slb.balancers.filter (fun b => b.name = name) :=
      List.mem_filter.mpr ⟨present, by simpa using clash⟩
    have two : balancer ∈ slb.balancers.filter (fun b => b.name = name) :=
      List.mem_filter.mpr ⟨member, by simpa using itsName⟩
    have bound : (slb.balancers.filter fun b => b.name = name).length ≤ 1 := sole
    generalize slb.balancers.filter (fun b => decide (b.name = name)) = list
      at one two bound
    match list, one, two, bound with
    | [only], one, two, _ =>
        have first := List.mem_singleton.mp one
        have second := List.mem_singleton.mp two
        exact different (by rw [first, second])
  simpa using notNamed

theorem named_eq_none_iff (slb : Slb) (name : String) :
    slb.named name = none ↔
      slb.balancers.filter (fun balancer => balancer.name = name) = [] := by
  rw [Slb.named, List.find?_eq_none, List.filter_eq_nil_iff]

/-! ## Soleness is kept -/

theorem Sole.put {slb : Slb} {name : String} (sole : Sole slb name) (id : String)
    (content : Content) : Sole (slb.put id content) name := by
  have same : ((slb.put id content).balancers.filter
      fun balancer => balancer.name = name).length =
      (slb.balancers.filter fun balancer => balancer.name = name).length := by
    unfold Slb.put
    simp only
    rw [List.filter_map, List.length_map]
    congr 2
    funext balancer
    simp only [Function.comp_apply]
    split <;> rfl
  unfold Sole
  rw [same]
  exact sole

theorem Sole.delete {slb : Slb} {name : String} (sole : Sole slb name) (id : String) :
    Sole (slb.delete id) name := by
  have shorter : ((slb.delete id).balancers.filter
      fun balancer => balancer.name = name).Sublist
      (slb.balancers.filter fun balancer => balancer.name = name) :=
    List.filter_sublist.filter _
  exact Nat.le_trans shorter.length_le sole

theorem Sole.create {slb : Slb} {name : String} (sole : Sole slb name)
    (proposed made address : String) (absent : made = name → slb.named name = none) :
    Sole (slb.create proposed made address) name := by
  unfold Sole Slb.create
  simp only
  rw [List.filter_append, List.length_append]
  by_cases same : made = name
  · have none := (named_eq_none_iff slb name).mp (absent same)
    simp [none, same]
  · have bound : (slb.balancers.filter fun balancer => balancer.name = name).length ≤ 1 :=
      sole
    simpa [same] using bound

/-! ## The view of one name -/

/-- What the operations on one service depend on: its own load balancer and the
instances a lookup gets to see. -/
structure View where
  own : Option Cloud.Balancer
  inventory : List InstanceAttributes

def view (name : String) (account : Account) : View :=
  ⟨account.slb.named name, account.ecs.visible⟩

/-- Give the own load balancer a new content, when it exists and admits it. -/
def View.change (seen : View) (update : Content → Option Content) : Option View :=
  seen.own.bind fun balancer =>
    (update balancer.content).map fun content =>
      { seen with own := some { balancer with content } }

def target : SlbCall → Option String
  | .describeLoadBalancers _ => none
  | .createLoadBalancer _ => none
  | .describeLoadBalancerAttribute id => some id
  | .deleteLoadBalancer id => some id
  | .describeListenerAttribute _ id _ => some id
  | .createListener _ args => some args.loadBalancerId
  | .deleteListener id _ => some id
  | .startListener id _ => some id
  | .addBackendServers id _ => some id
  | .removeBackendServers id _ => some id

/-- The calls an operation may make for a name: the lists, its own load balancer,
and a creation while there is none. -/
def Permitted (name : String) (seen : View) : Call → Prop
  | .ecs (.describeInstances args) => args.pagination = ⟨0, 0⟩
  | .ecs _ => False
  | .slb request =>
      (∀ id, target request = some id → ∃ balancer, seen.own = some balancer ∧ balancer.id = id) ∧
        ∀ args, request = .createLoadBalancer args →
          args.loadBalancerName = name ∧ seen.own = none

/-- How a permitted call steps the view. -/
def OwnStep (name : String) (choice : Choice) (seen : View) :
    (request : Call) → Reply request → View → Prop
  | .ecs (.describeInstances _), reply, after =>
      after = seen ∧ ∃ page, reply = choice.read (some (seen.inventory, page))
  | .ecs _, _, _ => False
  | .slb (.describeLoadBalancers _), reply, after =>
      after = seen ∧ ∃ lbs : List LoadBalancer, reply = choice.read (some lbs) ∧
        lbs.find? (fun lb => lb.loadBalancerName = name) =
          seen.own.map Cloud.Balancer.describe
  | .slb (.describeLoadBalancerAttribute _), reply, after =>
      after = seen ∧ reply = choice.read (seen.own.map Cloud.Balancer.describe)
  | .slb (.createLoadBalancer _), reply, after =>
      ∃ id, (reply, after) = choice.commit seen
        (some { seen with own := some ⟨id, name, choice.address, .empty⟩ })
  | .slb (.deleteLoadBalancer _), reply, after =>
      (reply, after) = choice.commit seen (some { seen with own := none })
  | .slb (.describeListenerAttribute transport _ port), reply, after =>
      after = seen ∧ reply = choice.read (seen.own.bind fun balancer =>
        (balancer.content.listener? port).bind fun listener =>
          if Text.toLower .identity listener.protocol = transport.text then
            some ⟨listener.backendServerPort, listener.status⟩
          else none)
  | .slb (.createListener transport args), reply, after =>
      (reply, after) = choice.commit seen (seen.change fun content =>
        content.createListener ⟨args.listenerPort, transport.text,
          args.backendServerPort, choice.createdStatus, args.settings⟩)
  | .slb (.deleteListener _ port), reply, after =>
      (reply, after) = choice.commit seen (seen.change fun content =>
        content.deleteListener port)
  | .slb (.startListener _ port), reply, after =>
      (reply, after) = choice.commit seen (seen.change fun content =>
        content.startListener port
          (if choice.startsRunning then .running else .starting))
  | .slb (.addBackendServers _ servers), reply, after =>
      (reply, after) = choice.commit seen (seen.change fun content =>
        some (content.addBackends servers))
  | .slb (.removeBackendServers _ servers), reply, after =>
      (reply, after) = choice.commit seen (seen.change fun content =>
        some (content.removeBackends servers))

/-! ## The account refines the view -/

/-- A change of the own load balancer's content, seen in the region and seen in
the view. -/
theorem commit_modify {account : Account} {name : String} {balancer : Cloud.Balancer}
    (found : account.slb.named name = some balancer) (choice : Choice)
    (update : Content → Option Content) :
    ((choice.commit account.slb (account.slb.modify balancer.id update)).1,
      view name { account with
        slb := (choice.commit account.slb (account.slb.modify balancer.id update)).2 }) =
      choice.commit (view name account) ((view name account).change update) := by
  have own := byId_of_mem (named_mem found).1
  have seenOwn : (view name account).own = some balancer := found
  rw [choice.commit_map (fun slb => view name { account with slb })]
  congr 1
  rw [Slb.modify, own, View.change, seenOwn]
  cases changed : update balancer.content with
  | none => simp [changed]
  | some content =>
      have stepped : (account.slb.put balancer.id content).named name =
          some { balancer with content } := by
        rw [named_put, found]
        simp
      simp [changed, view, stepped]

/-- Every permitted call of the account steps the view as `OwnStep` says; only
a deletion needs the name to be sole. -/
theorem ownStep_of_answer {name : String} {account : Account} {request : Call}
    (choice : Choice) (permitted : Permitted name (view name account) request)
    (sole : (∃ id, request = .slb (.deleteLoadBalancer id)) → Sole account.slb name) :
    OwnStep name choice (view name account) request
      (account.answer choice request).1
      (view name (account.answer choice request).2) := by
  cases request with
  | ecs inner =>
      cases inner with
      | describeInstances args =>
          obtain ⟨regionId, vpcId, page⟩ := args
          have whole : page = ⟨0, 0⟩ := permitted
          subst whole
          exact ⟨rfl, _, rfl⟩
      | describeDisks args => exact permitted.elim
      | attachDisk args => exact permitted.elim
      | detachDisk instanceId diskId => exact permitted.elim
  | slb inner =>
      obtain ⟨addressed, creates⟩ := permitted
      -- the calls that name an id name the own load balancer
      have own : ∀ id, target inner = some id →
          ∃ balancer, account.slb.named name = some balancer ∧ balancer.id = id ∧
            account.slb.byId id = some balancer := by
        intro id aims
        obtain ⟨balancer, found, same⟩ := addressed id aims
        exact ⟨balancer, found, same, same ▸ byId_of_mem (named_mem found).1⟩
      cases inner with
      | describeLoadBalancers regionId =>
          refine ⟨rfl, _, rfl, ?_⟩
          rw [List.find?_map]
          rfl
      | describeLoadBalancerAttribute id =>
          obtain ⟨balancer, found, -, listed⟩ := own id rfl
          refine ⟨rfl, congrArg (fun entry => choice.read
            (Option.map Cloud.Balancer.describe entry)) ?_⟩
          exact listed.trans found.symm
      | createLoadBalancer args =>
          obtain ⟨itsName, absent⟩ := creates args rfl
          refine ⟨freshId (account.slb.balancers.map Cloud.Balancer.id)
            choice.loadBalancerId, ?_⟩
          have absent : account.slb.named name = none := absent
          refine (choice.commit_map (fun slb => view name { account with slb }) _ _).trans ?_
          simp [view, named_create, absent, itsName]
      | deleteLoadBalancer id =>
          obtain ⟨balancer, found, rfl, listed⟩ := own id rfl
          have gone := named_delete_own found (sole ⟨balancer.id, rfl⟩)
          refine (choice.commit_map (fun slb => view name { account with slb }) _ _).trans ?_
          simp [listed, view, gone]
      | describeListenerAttribute transport id port =>
          obtain ⟨balancer, found, -, listed⟩ := own id rfl
          refine ⟨rfl, congrArg (fun entry => choice.read (Option.bind entry _)) ?_⟩
          exact listed.trans found.symm
      | createListener transport args =>
          obtain ⟨balancer, found, same, -⟩ := own args.loadBalancerId rfl
          have stepped := commit_modify found choice fun content =>
            content.createListener ⟨args.listenerPort, transport.text,
              args.backendServerPort, choice.createdStatus, args.settings⟩
          rw [same] at stepped
          exact stepped
      | deleteListener id port =>
          obtain ⟨balancer, found, rfl, -⟩ := own id rfl
          exact commit_modify found choice _
      | startListener id port =>
          obtain ⟨balancer, found, rfl, -⟩ := own id rfl
          exact commit_modify found choice _
      | addBackendServers id servers =>
          obtain ⟨balancer, found, rfl, -⟩ := own id rfl
          exact commit_modify found choice _
      | removeBackendServers id servers =>
          obtain ⟨balancer, found, rfl, -⟩ := own id rfl
          exact commit_modify found choice _

/-! ## Other names -/

def SoleNames (account : Account) : Prop := ∀ name, Sole account.slb name

/-- What a call may do to the region on behalf of one name. -/
inductive Effect (name : String) (before : Slb) : Slb → Prop
  | same : Effect name before before
  | put {balancer : Cloud.Balancer} (content : Content)
      (found : before.named name = some balancer) :
      Effect name before (before.put balancer.id content)
  | create (proposed address : String) (absent : before.named name = none) :
      Effect name before (before.create proposed name address)
  | delete {balancer : Cloud.Balancer} (found : before.named name = some balancer) :
      Effect name before (before.delete balancer.id)

theorem effect_commit {slb : Slb} {name : String} (choice : Choice)
    {attempt : Option Slb} (covered : ∀ next, attempt = some next → Effect name slb next) :
    Effect name slb (choice.commit slb attempt).2 := by
  rcases choice.commit_state slb attempt with same | changed
  · rw [same]
    exact .same
  · exact covered _ changed

theorem effect_modify {slb : Slb} {name : String} {balancer : Cloud.Balancer}
    (found : slb.named name = some balancer) (choice : Choice)
    (update : Content → Option Content) :
    Effect name slb (choice.commit slb (slb.modify balancer.id update)).2 := by
  apply effect_commit
  intro next changed
  obtain ⟨_, _, later⟩ := Option.bind_eq_some_iff.mp changed
  obtain ⟨content, _, put⟩ := Option.map_eq_some_iff.mp later
  rw [← put]
  exact .put content found

/-- A permitted call leaves the inventory and has an effect under its own name
only. -/
theorem effect_of_answer {name : String} {account : Account} {request : Call}
    (choice : Choice) (permitted : Permitted name (view name account) request) :
    (account.answer choice request).2.ecs.visible = account.ecs.visible ∧
      Effect name account.slb (account.answer choice request).2.slb := by
  cases request with
  | ecs inner =>
      cases inner with
      | describeInstances args => exact ⟨rfl, .same⟩
      | describeDisks args => exact permitted.elim
      | attachDisk args => exact permitted.elim
      | detachDisk instanceId diskId => exact permitted.elim
  | slb inner =>
      refine ⟨rfl, ?_⟩
      obtain ⟨addressed, creates⟩ := permitted
      have own : ∀ id, target inner = some id →
          ∃ balancer, account.slb.named name = some balancer ∧ balancer.id = id :=
        addressed
      cases inner with
      | describeLoadBalancers regionId => exact .same
      | describeLoadBalancerAttribute id => exact .same
      | describeListenerAttribute transport id port => exact .same
      | createLoadBalancer args =>
          obtain ⟨itsName, absent⟩ := creates args rfl
          refine effect_commit choice fun next made => ?_
          rw [itsName] at made
          cases made
          exact .create _ _ absent
      | deleteLoadBalancer id =>
          obtain ⟨balancer, found, rfl⟩ := own id rfl
          refine effect_commit choice fun next gone => ?_
          obtain ⟨_, _, rfl⟩ := Option.map_eq_some_iff.mp gone
          exact .delete found
      | createListener transport args =>
          obtain ⟨balancer, found, same⟩ := own args.loadBalancerId rfl
          have changed := effect_modify found choice fun content =>
            content.createListener ⟨args.listenerPort, transport.text,
              args.backendServerPort, choice.createdStatus, args.settings⟩
          rw [same] at changed
          exact changed
      | deleteListener id port =>
          obtain ⟨balancer, found, rfl⟩ := own id rfl
          exact effect_modify found choice _
      | startListener id port =>
          obtain ⟨balancer, found, rfl⟩ := own id rfl
          exact effect_modify found choice _
      | addBackendServers id servers =>
          obtain ⟨balancer, found, rfl⟩ := own id rfl
          exact effect_modify found choice _
      | removeBackendServers id servers =>
          obtain ⟨balancer, found, rfl⟩ := own id rfl
          exact effect_modify found choice _

/-- Other names keep their load balancers. -/
theorem Effect.named_other {name other : String} {before after : Slb}
    (effect : Effect name before after) (different : other ≠ name) :
    after.named other = before.named other := by
  cases effect with
  | same => rfl
  | @put balancer content found =>
      rw [named_put]
      cases theirs : before.named other with
      | none => rfl
      | some candidate =>
          obtain ⟨member, itsName⟩ := named_mem found
          obtain ⟨present, otherName⟩ := named_mem theirs
          have apart : candidate.id ≠ balancer.id := by
            intro same
            have equal := balancer_unique before present member same
            rw [equal, itsName] at otherName
            exact different otherName.symm
          simp [apart]
  | create proposed address absent =>
      rw [named_create, if_neg different.symm, Option.or_none]
  | delete found => exact named_delete_other found different

theorem Effect.sole {name any : String} {before after : Slb}
    (effect : Effect name before after) (sole : Sole before any) : Sole after any := by
  cases effect with
  | same => exact sole
  | put content found => exact sole.put _ content
  | create proposed address absent =>
      exact sole.create proposed name address fun same => same ▸ absent
  | delete found => exact sole.delete _

/-- A permitted call under one name does not change the view of another. -/
theorem view_other {name other : String} {account : Account} {request : Call}
    (choice : Choice) (permitted : Permitted name (view name account) request)
    (different : other ≠ name) :
    view other (account.answer choice request).2 = view other account := by
  obtain ⟨sameInventory, effect⟩ := effect_of_answer choice permitted
  simp only [view, sameInventory, effect.named_other different]

theorem soleNames_answer {name : String} {account : Account} {request : Call}
    (choice : Choice) (permitted : Permitted name (view name account) request)
    (sole : SoleNames account) : SoleNames (account.answer choice request).2 :=
  fun any => (effect_of_answer choice permitted).2.sole (sole any)

end KubeAliyun.Balancer
