import KubeAliyun.Balancer.Store
import KubeAliyun.Remote.Sharing

/-!
# Operations while somebody else writes

The load balancer of a service is written by the worker of its key and by the loop that
follows the nodes.  Whatever is answered, an update makes no call that creates or deletes a
load balancer, so that beside it the operations that ensure or delete one still end as they
report; only the content of the load balancer is then anybody's.
-/

namespace KubeAliyun.Balancer

open KubeAliyun.Cloud KubeAliyun.Remote KubeAliyun.Text KubeAliyun.Provider

/-! ## Calls, whatever is answered -/

/-- The calls on one load balancer that keep it. -/
def Serves (id : String) : Call → Prop
  | .ecs _ => False
  | .slb request => target request = some id ∧ ∀ other, request ≠ .deleteLoadBalancer other

def Harmless : Call → Prop
  | .ecs (.describeInstances _) => True
  | .ecs _ => False
  | .slb request => ¬Founds (.slb request)

theorem serves_harmless {id : String} (request : Call) (serves : Serves id request) :
    Harmless request := by
  cases request with
  | ecs inner => exact serves.elim
  | slb inner =>
      rintro (⟨args, ⟨⟩⟩ | ⟨other, ⟨⟩⟩)
      · cases serves.1
      · exact serves.2 other rfl

theorem reads_harmless (request : Call) (reads : Reads request) : Harmless request := by
  cases request with
  | ecs inner => cases inner <;> exact reads
  | slb inner => exact reads_found_nothing _ reads

section Calls

variable (table : LowerTable) (order : MapOrder) (lb : LoadBalancer)

theorem getLBListenerAttributes_within (pp : ListenerPortAndProtocol) :
    (getLBListenerAttributes table lb pp).Within (Serves lb.loadBalancerId) := by
  have read : ∀ reply, (readAttribute reply).Within (Serves lb.loadBalancerId) := by
    rintro (failure | response) <;> trivial
  unfold getLBListenerAttributes
  split_ifs
  · exact (Prog.Within.call ⟨rfl, by simp⟩).bind read
  · exact (Prog.Within.call ⟨rfl, by simp⟩).bind read
  · trivial

theorem diffListeners_within (listeners : List ListenerPortAndProtocol) (diff : ListenerDiff) :
    (diffListeners table lb listeners diff).Within (Serves lb.loadBalancerId) := by
  induction listeners generalizing diff with
  | nil => trivial
  | cons listener rest ih =>
      unfold diffListeners
      dsimp only
      cases diff.expected.lookup
          (listenerKey table listener.listenerPort listener.listenerProtocol) with
      | none => exact ih _
      | some sp =>
          refine (getLBListenerAttributes_within table lb listener).bind ?_
          rintro (failure | ⟨backendPort, status⟩)
          · trivial
          · dsimp only
            split_ifs
            · exact ih _
            · exact ih _
            · exact ih _

theorem createServiceListener_within (options : AliyunLoadBalancerOptions) (sp : ServicePort) :
    (createServiceListener lb options sp).Within (Serves lb.loadBalancerId) := by
  have started : (Option.map GoError.api <$> startLoadBalancerListener lb.loadBalancerId
      sp.port.toInt).Within (Serves lb.loadBalancerId) :=
    (Prog.Within.call ⟨rfl, by simp⟩).map _
  unfold createServiceListener
  split
  · refine ⟨⟨rfl, by simp⟩, fun reply => ?_⟩
    cases reply with
    | none => exact started
    | some failure => trivial
  · split
    · refine ⟨⟨rfl, by simp⟩, fun reply => ?_⟩
      cases reply with
      | none => exact started
      | some failure => trivial
    · trivial

theorem ensureLBListeners_within (ports : List ServicePort)
    (options : AliyunLoadBalancerOptions) :
    (ensureLBListeners table order lb ports options).Within (Serves lb.loadBalancerId) := by
  unfold ensureLBListeners
  refine (diffListeners_within table lb _ _).bind ?_
  rintro (failure | diff)
  · trivial
  · refine (Prog.Within.forEach (fun port => Prog.Within.call ⟨rfl, by simp⟩) _).bind ?_
    rintro (_ | failure)
    · refine (Prog.Within.forEach (fun port => Prog.Within.call ⟨rfl, by simp⟩) _).bind ?_
      rintro (_ | failure)
      · exact Prog.Within.forEach (createServiceListener_within lb options) _
      · trivial
    · trivial

theorem ensureLBBackends_within (instances : List InstanceAttributes) :
    (ensureLBBackends order lb instances).Within (Serves lb.loadBalancerId) := by
  have guarded {α : Type} (items : List α) {request : Aliyun (Option ApiError)}
      (within : request.Within (Serves lb.loadBalancerId)) :
      (unlessEmpty items request).Within (Serves lb.loadBalancerId) := by
    unfold unlessEmpty
    split
    · trivial
    · exact within
  unfold ensureLBBackends
  refine (guarded _ (Prog.Within.call ⟨rfl, by simp⟩)).bind ?_
  rintro (_ | failure)
  · refine (guarded _ (Prog.Within.call ⟨rfl, by simp⟩)).bind ?_
    rintro (_ | failure) <;> trivial
  · trivial

theorem syncLoadBalancer_within (service : KubeService) (instances : List InstanceAttributes) :
    (syncLoadBalancer table order service instances lb).Within (Serves lb.loadBalancerId) := by
  unfold syncLoadBalancer
  refine (ensureLBListeners_within table order lb _ _).bind ?_
  rintro (_ | failure)
  · refine (ensureLBBackends_within order lb instances).bind ?_
    rintro (_ | failure) <;> trivial
  · trivial

theorem getInstancesByNodes_within (provider : AliyunProvider) (nodes : List String) :
    (getInstancesByNodes provider nodes).Within fun request =>
      ∃ args, request = .ecs (.describeInstances args) ∧ args.pagination = ⟨0, 0⟩ := by
  unfold getInstancesByNodes getInstancesByNodeNames getInstances
  refine Prog.Within.bind ((Prog.Within.call ⟨_, rfl, rfl⟩).bind ?_) ?_
  · rintro (failure | ⟨instances, page⟩) <;> trivial
  · rintro (failure | instances) <;> trivial

theorem getLoadBalancer_within (provider : AliyunProvider) (name : String) :
    (getLoadBalancer provider name).Within Harmless := by
  unfold getLoadBalancer
  refine (Prog.Within.call (reads_harmless (.slb (.describeLoadBalancers _)) rfl)).bind ?_
  rintro (failure | lbs)
  · trivial
  · dsimp only
    cases lbs.find? fun lb => lb.loadBalancerName = name with
    | none => trivial
    | some lb =>
        refine (Prog.Within.call
          (reads_harmless (.slb (.describeLoadBalancerAttribute _)) rfl)).bind ?_
        rintro (failure | found) <;> trivial

theorem getLoadBalancerForService_within (provider : AliyunProvider) (service : KubeService) :
    (getLoadBalancerForService provider service).Within Harmless := by
  unfold getLoadBalancerForService
  refine (getLoadBalancer_within provider _).bind ?_
  rintro (failure | _ | lb) <;> trivial

/-- An update neither creates nor deletes a load balancer, whatever it is told. -/
theorem updateLoadBalancer_within (provider : AliyunProvider) (service : KubeService)
    (nodes : List String) :
    (updateLoadBalancer provider table order service nodes).Within Harmless := by
  unfold updateLoadBalancer
  refine (getLoadBalancer_within provider _).bind ?_
  rintro (failure | _ | lb)
  · trivial
  · trivial
  · refine ((ensureLBListeners_within table order lb _ _).mono serves_harmless).bind ?_
    rintro (_ | failure)
    · refine ((getInstancesByNodes_within provider nodes).mono ?_).bind ?_
      · rintro request ⟨args, rfl, -⟩
        trivial
      · rintro (failure | instances)
        · trivial
        · exact (ensureLBBackends_within order lb instances).mono serves_harmless
    · trivial

end Calls

/-! ## What harmless calls leave -/

/-- The same load balancer, whatever has been written to it. -/
structure Altered (before after : View) : Prop where
  own : after.own.map Cloud.Balancer.id = before.own.map Cloud.Balancer.id
  inventory : after.inventory = before.inventory

theorem Altered.refl (seen : View) : Altered seen seen := ⟨rfl, rfl⟩

theorem Altered.trans (first second third : View) (one : Altered first second)
    (two : Altered second third) : Altered first third :=
  ⟨two.own.trans one.own, two.inventory.trans one.inventory⟩

theorem Altered.none_iff {before after : View} (altered : Altered before after) :
    after.own = none ↔ before.own = none := by
  rw [← Option.map_eq_none_iff, altered.own, Option.map_eq_none_iff]

theorem Altered.some {before after : View} (altered : Altered before after)
    {balancer : Cloud.Balancer} (own : before.own = some balancer) :
    ∃ written, after.own = some written ∧ written.id = balancer.id := by
  have same := altered.own
  rw [own] at same
  exact Option.map_eq_some_iff.mp same

theorem named_id (account : Account) (name : String) :
    (account.slb.named name).map Cloud.Balancer.id =
      ((identities account).find? fun entry => entry.2 = name).map Prod.fst := by
  unfold Slb.named identities
  rw [List.find?_map, Option.map_map]
  rfl

theorem altered_of_identities {before after : Account}
    (same : identities after = identities before)
    (visible : after.ecs.visible = before.ecs.visible) (name : String) :
    Altered (view name before) (view name after) := by
  refine ⟨?_, visible⟩
  rw [view, view, named_id, named_id, same]

theorem soleNames_of_identities {before after : Account}
    (same : identities after = identities before) (sole : SoleNames before) :
    SoleNames after := by
  have count (account : Account) (name : String) :
      (account.slb.balancers.filter fun balancer => balancer.name = name).length =
        ((identities account).filter fun entry => entry.2 = name).length := by
    unfold identities
    rw [List.filter_map, List.length_map]
    rfl
  intro name
  have before := sole name
  unfold Sole at before ⊢
  rw [count] at before ⊢
  rwa [same]

theorem harmless_identities (choice : Choice) (account : Account) {request : Call}
    (harmless : Harmless request) :
    identities (account.answer choice request).2 = identities account := by
  cases request with
  | ecs inner => rfl
  | slb inner =>
      exact identities_answer choice account (fun args made => harmless (Or.inl ⟨args, made⟩))
        fun id gone => harmless (Or.inr ⟨id, gone⟩)

theorem harmless_visible (choice : Choice) (account : Account) {request : Call}
    (harmless : Harmless request) :
    (account.answer choice request).2.ecs.visible = account.ecs.visible := by
  cases request with
  | ecs inner =>
      cases inner with
      | describeInstances args => rfl
      | describeDisks args => exact harmless.elim
      | attachDisk args => exact harmless.elim
      | detachDisk instanceId diskId => exact harmless.elim
  | slb inner => rfl

def rewrites (account : Account) (name : String) : Call → Bool
  | .ecs _ => false
  | .slb request =>
      request.Mutates && ((target request).bind account.slb.byId).any (·.name == name)

/-- Writing to one load balancer leaves those of other names alone. -/
theorem named_modify_other {slb : Slb} {id name : String} (choice : Choice)
    (update : Content → Option Content)
    (elsewhere : (slb.byId id).any (·.name == name) = false) :
    (choice.commit slb (slb.modify id update)).2.named name = slb.named name := by
  rcases choice.commit_state slb (slb.modify id update) with same | changed
  · rw [same]
  · obtain ⟨balancer, found, later⟩ := Option.bind_eq_some_iff.mp changed
    obtain ⟨content, -, put⟩ := Option.map_eq_some_iff.mp later
    rw [← put, named_put]
    cases theirs : slb.named name with
    | none => rfl
    | some other =>
        obtain ⟨member, itsName⟩ := named_mem theirs
        have apart : other.id ≠ id := by
          rintro rfl
          rw [byId_of_mem member] at elsewhere
          simp [itsName] at elsewhere
        simp [apart]

/-- A harmless call leaves a load balancer alone that it does not write to. -/
theorem harmless_view (choice : Choice) {account : Account} {request : Call}
    (harmless : Harmless request) {name : String}
    (spared : rewrites account name request = false) :
    view name (account.answer choice request).2 = view name account := by
  have visible := harmless_visible choice account harmless
  refine congrArg₂ View.mk ?_ visible
  cases request with
  | ecs inner => rfl
  | slb inner =>
      cases inner with
      | describeLoadBalancers regionId => rfl
      | describeLoadBalancerAttribute id => rfl
      | describeListenerAttribute transport id port => rfl
      | createLoadBalancer args => exact absurd (Or.inl ⟨args, rfl⟩) harmless
      | deleteLoadBalancer id => exact absurd (Or.inr ⟨id, rfl⟩) harmless
      | createListener transport args => exact named_modify_other choice _ spared
      | deleteListener id port => exact named_modify_other choice _ spared
      | startListener id port => exact named_modify_other choice _ spared
      | addBackendServers id servers => exact named_modify_other choice _ spared
      | removeBackendServers id servers => exact named_modify_other choice _ spared

/-! ## The operations -/

abbrev loose (name : String) : Contract View Call Reply :=
  contract name (fun _ => True) fun _ => True

section Operations

variable {name : String}

/-- One call of an operation beside others that write. -/
theorem invoke_withstands {α : Type} {request : Call} {next : Reply request → Aliyun α}
    {post : Option α → View → Prop} {seen : View}
    (permitted : ∀ moved, Altered seen moved → Permitted name moved request)
    (answers : ∀ moved choice reply after, Altered seen moved →
      OwnStep name choice moved request reply after →
      (next reply).Withstands (loose name) Altered post after) :
    (invoke request >>= next).Withstands (loose name) Altered post seen := by
  intro moved move
  refine ⟨⟨permitted moved move, trivial⟩, ?_⟩
  rintro reply after ⟨choice, -, stepped⟩
  exact answers moved choice reply after move stepped

/-- What a lookup finds is still there, and what it does not find is not. -/
def Sighted (seen : View) (outcome : Option (Except ApiError (Option LoadBalancer)))
    (after : View) : Prop :=
  Altered seen after ∧ (outcome = some (.ok none) → seen.own = none) ∧
    ∀ lb, outcome = some (.ok (some lb)) →
      seen.own.map Cloud.Balancer.id = some lb.loadBalancerId

theorem getLoadBalancer_withstands (provider : AliyunProvider) (seen : View) :
    (getLoadBalancer provider name).Withstands (loose name) Altered (Sighted seen) seen := by
  unfold getLoadBalancer
  refine invoke_withstands (fun moved _ => ⟨by simp [target], by simp⟩) ?_
  rintro moved choice reply after move ⟨rfl, lbs, read, first⟩
  cases reply with
  | error failure =>
      intro last step
      exact ⟨move.trans _ _ _ step, by simp, by simp⟩
  | ok listed =>
      cases ((choice.read_ok_iff _ _).mp read.symm).2
      simp only [first]
      cases own : after.own with
      | none =>
          intro last step
          refine ⟨move.trans _ _ _ step, fun _ => move.none_iff.mp own, by simp⟩
      | some balancer =>
          refine invoke_withstands (fun moved again => ⟨?_, by simp⟩) ?_
          · rintro id ⟨⟩
            exact again.some own
          · rintro later choice answer final again ⟨rfl, read⟩
            have both := move.trans _ _ _ again
            cases answer with
            | error failure =>
                intro last step
                exact ⟨both.trans _ _ _ step, by simp, by simp⟩
            | ok found =>
                obtain ⟨written, there, rfl⟩ :=
                  Option.map_eq_some_iff.mp ((choice.read_ok_iff _ _).mp read.symm).2
                intro last step
                refine ⟨both.trans _ _ _ step, by simp, ?_⟩
                rintro lb ⟨⟩
                rw [← both.own, there]
                rfl

/-- Lookups until the load balancer is seen, as long as it is there. -/
theorem awaitLoadBalancer_withstands (provider : AliyunProvider) {seen : View} {id : String}
    (own : seen.own.map Cloud.Balancer.id = some id)
    (last : Except ApiError (Option LoadBalancer)) (retry : Nat) :
    (awaitLoadBalancer provider name last retry).Withstands (loose name) Altered
      (fun outcome after => after.own.map Cloud.Balancer.id = some id ∧
        ∀ lb, outcome = some (.ok (some lb)) → last = .ok (some lb) ∨ lb.loadBalancerId = id)
      seen := by
  induction retry generalizing last seen with
  | zero =>
      refine fun moved move => ⟨move.own.trans own, fun lb same => Or.inl ?_⟩
      exact Option.some.inj same
  | succ retry ih =>
      have again : ∀ missed after, (∀ lb, missed ≠ .ok (some lb)) → Altered seen after →
          (awaitLoadBalancer provider name missed retry).Withstands (loose name) Altered
            (fun outcome final => final.own.map Cloud.Balancer.id = some id ∧
              ∀ lb, outcome = some (.ok (some lb)) →
                last = .ok (some lb) ∨ lb.loadBalancerId = id) after := by
        intro missed after nothing move
        refine (ih (move.own.trans own) missed).mono ?_
        rintro outcome final ⟨still, found⟩
        exact ⟨still, fun lb same => Or.inr ((found lb same).resolve_left (nothing lb))⟩
      refine Prog.Withstands.bind Altered.refl (getLoadBalancer_withstands provider seen) ?_ ?_
      · rintro (failure | _ | lb) after ⟨move, -, found⟩
        · exact again _ after (by simp) move
        · exact again _ after (by simp) move
        · intro final step
          refine ⟨step.own.trans (move.own.trans own), ?_⟩
          rintro other ⟨⟩
          exact Or.inr (Option.some.inj ((found lb rfl).symm.trans own))
      · rintro after ⟨move, -, -⟩
        exact ⟨move.own.trans own, by simp⟩

theorem change_altered {seen after : View} {update : Content → Option Content} {choice : Choice}
    {reply : Option ApiError}
    (stepped : (reply, after) = choice.commit seen (seen.change update)) : Altered seen after := by
  have final : after = (choice.commit seen (seen.change update)).2 := congrArg Prod.snd stepped
  rcases choice.commit_state seen (seen.change update) with same | changed
  · rw [final, same]
    exact Altered.refl seen
  · rw [← final] at changed
    obtain ⟨balancer, own, later⟩ := Option.bind_eq_some_iff.mp changed
    obtain ⟨content, -, rfl⟩ := Option.map_eq_some_iff.mp later
    refine ⟨?_, rfl⟩
    rw [own]
    rfl

/-- Calls that keep the own load balancer at most write to it. -/
theorem serves_altered {id : String} {seen after : View} {choice : Choice} {request : Call}
    {reply : Reply request} (serves : Serves id request)
    (stepped : OwnStep name choice seen request reply after) : Altered seen after := by
  cases request with
  | ecs inner => exact serves.elim
  | slb inner =>
      cases inner with
      | describeLoadBalancers regionId => exact stepped.1 ▸ Altered.refl after
      | describeLoadBalancerAttribute id => exact stepped.1 ▸ Altered.refl after
      | describeListenerAttribute transport id port => exact stepped.1 ▸ Altered.refl after
      | createLoadBalancer args => cases serves.1
      | deleteLoadBalancer other => exact absurd rfl (serves.2 other)
      | createListener transport args => exact change_altered stepped
      | deleteListener id port => exact change_altered stepped
      | startListener id port => exact change_altered stepped
      | addBackendServers id servers => exact change_altered stepped
      | removeBackendServers id servers => exact change_altered stepped

/-- Synchronising a load balancer keeps it. -/
theorem syncLoadBalancer_withstands (table : LowerTable) (order : MapOrder)
    (service : KubeService) (instances : List InstanceAttributes) (lb : LoadBalancer)
    {seen : View} (own : seen.own.map Cloud.Balancer.id = some lb.loadBalancerId) :
    (syncLoadBalancer table order service instances lb).Withstands (loose name) Altered
      (fun _ after => after.own.map Cloud.Balancer.id = some lb.loadBalancerId) seen := by
  refine (syncLoadBalancer_within table order lb service instances).withstands ?_ ?_ ?_ own
  · exact fun view moved kept move => move.own.trans kept
  · intro view request kept serves
    obtain ⟨balancer, there, same⟩ := Option.map_eq_some_iff.mp kept
    cases request with
    | ecs inner => exact serves.elim
    | slb inner =>
        refine ⟨⟨fun id aims => ⟨balancer, there, ?_⟩, ?_⟩, trivial⟩
        · exact same.trans (Option.some.inj (serves.1.symm.trans aims))
        · rintro args rfl
          cases serves.1
  · rintro view request reply after kept serves ⟨choice, -, stepped⟩
    exact (serves_altered serves stepped).own.trans kept

theorem getInstancesByNodes_withstands (provider : AliyunProvider) (nodes : List String)
    (seen : View) :
    (getInstancesByNodes provider nodes).Withstands (loose name) Altered
      (fun _ after => Altered seen after) seen := by
  refine (getInstancesByNodes_within provider nodes).withstands ?_ ?_ ?_ (Altered.refl seen)
  · exact fun view moved kept move => kept.trans _ _ _ move
  · rintro view request - ⟨args, rfl, whole⟩
    exact ⟨whole, trivial⟩
  · rintro view request reply after kept ⟨args, rfl, -⟩ ⟨choice, -, rfl, -⟩
    exact kept

/-- A returned status means that there is a load balancer. -/
def Stands (outcome : Option (Option LoadBalancerStatus × Option GoError)) (after : View) :
    Prop :=
  ∀ status error, outcome = some (some status, error) → after.own ≠ none

theorem syncLoadBalancer_stands (table : LowerTable) (order : MapOrder)
    (service : KubeService) (instances : List InstanceAttributes) {lb : LoadBalancer}
    {seen : View} (own : seen.own.map Cloud.Balancer.id = some lb.loadBalancerId) :
    (syncLoadBalancer table order service instances lb).Withstands (loose name) Altered Stands
      seen := by
  refine (syncLoadBalancer_withstands table order service instances lb own).mono ?_
  intro outcome after still status error _ gone
  rw [gone] at still
  cases still

theorem failed_stands (error : Option GoError) (seen : View) :
    (pure (none, error) : Aliyun (Option LoadBalancerStatus × Option GoError)).Withstands
      (loose name) Altered Stands seen := by
  rintro moved - status other ⟨⟩

theorem createAndSync_withstands (provider : AliyunProvider) (table : LowerTable)
    (order : MapOrder) (service : KubeService) (instances : List InstanceAttributes)
    {seen : View} (absent : seen.own = none) :
    (createAndSync provider table order service instances).Withstands
      (loose (getLoadBalancerName service)) Altered Stands seen := by
  unfold createAndSync
  refine invoke_withstands (fun moved move => ?_) ?_
  · refine ⟨by simp [target], ?_⟩
    rintro args ⟨⟩
    exact ⟨createArgs_name provider service, move.none_iff.mpr absent⟩
  · rintro moved choice reply after move ⟨id, stepped⟩
    cases reply with
    | some failure => exact failed_stands _ after
    | none =>
        have made : after.own.map Cloud.Balancer.id = some id := by
          rcases choice.commit_cases moved (some { moved with
              own := some ⟨id, getLoadBalancerName service, choice.address, .empty⟩ }) with
            ⟨next, attempt, -, same⟩ | ⟨next, attempt, -, same⟩ | same
          · cases attempt
            cases stepped.trans same
            rfl
          · cases stepped.trans same
          · cases stepped.trans same
        refine Prog.Withstands.bind Altered.refl
          (awaitLoadBalancer_withstands provider made (.ok none) 3) ?_ ?_
        · rintro (failure | _ | lb) final ⟨still, found⟩
          · exact failed_stands _ final
          · exact failed_stands _ final
          · have listed := (found lb rfl).resolve_left (by simp)
            exact syncLoadBalancer_stands table order service instances (listed ▸ still)
        · rintro final - status error ⟨⟩

/-- A reported success of `EnsureLoadBalancer` means that there is a load balancer. -/
theorem ensureLoadBalancer_withstands (provider : AliyunProvider) (table : LowerTable)
    (order : MapOrder) (service : KubeService) (nodes : List String) (seen : View) :
    (ensureLoadBalancer provider table order service nodes).Withstands
      (loose (getLoadBalancerName service)) Altered Stands seen := by
  have panics : ∀ after, Stands none after := by rintro after status error ⟨⟩
  unfold ensureLoadBalancer
  cases unsupported service with
  | some failure => exact failed_stands _ seen
  | none =>
      refine Prog.Withstands.bind Altered.refl (getInstancesByNodes_withstands provider nodes seen)
        ?_ (fun after _ => panics after)
      rintro (failure | instances) after -
      · exact failed_stands _ after
      · refine Prog.Withstands.bind Altered.refl (getLoadBalancer_withstands provider after) ?_
          (fun final _ => panics final)
        rintro (failure | _ | lb) final ⟨move, missing, found⟩
        · exact failed_stands _ final
        · exact createAndSync_withstands provider table order service instances
            (move.none_iff.mpr (missing rfl))
        · exact syncLoadBalancer_stands table order service instances
            (move.own.trans (found lb rfl))

/-- A reported success of `EnsureLoadBalancerDeleted` means that there is none. -/
theorem ensureLoadBalancerDeleted_withstands (provider : AliyunProvider)
    (service : KubeService) (seen : View) :
    (ensureLoadBalancerDeleted provider service).Withstands
      (loose (getLoadBalancerName service)) Altered
      (fun outcome after => outcome = some none → after.own = none) seen := by
  unfold ensureLoadBalancerDeleted
  refine Prog.Withstands.bind Altered.refl (getLoadBalancer_withstands provider seen) ?_
    (by simp)
  rintro (failure | _ | lb) after ⟨move, missing, found⟩
  · rintro moved - ⟨⟩
  · exact fun moved step _ => step.none_iff.mpr (move.none_iff.mpr (missing rfl))
  · have own : after.own.map Cloud.Balancer.id = some lb.loadBalancerId :=
      move.own.trans (found lb rfl)
    refine invoke_withstands (fun moved step => ⟨?_, by simp⟩) ?_
    · rintro id ⟨⟩
      exact Option.map_eq_some_iff.mp (step.own.trans own)
    · rintro moved choice reply last step stepped
      rcases choice.commit_cases moved (some { moved with own := none }) with
        ⟨next, attempt, -, same⟩ | ⟨next, attempt, -, same⟩ | same
      · cases attempt
        cases stepped.trans same
        exact fun final again _ => again.none_iff.mpr rfl
      · cases stepped.trans same
        rintro final - ⟨⟩
      · cases stepped.trans same
        rintro final - ⟨⟩

/-- `GetLoadBalancer` reports a load balancer as missing only where there is none. -/
theorem getLoadBalancerForService_withstands (provider : AliyunProvider)
    (service : KubeService) (seen : View) :
    (getLoadBalancerForService provider service).Withstands
      (loose (getLoadBalancerName service)) Altered
      (fun outcome after => ∀ status, outcome = some (status, false, none) → after.own = none)
      seen := by
  unfold getLoadBalancerForService
  refine Prog.Withstands.bind Altered.refl (getLoadBalancer_withstands provider seen) ?_
    (by simp)
  rintro (failure | _ | lb) after ⟨move, missing, -⟩
  · rintro moved - status ⟨⟩
  · exact fun moved step status _ => step.none_iff.mpr (move.none_iff.mpr (missing rfl))
  · rintro moved - status ⟨⟩

end Operations

end KubeAliyun.Balancer
