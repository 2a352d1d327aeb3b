import KubeAliyun.Balancer.Interference
import KubeAliyun.Controller.ServiceController
import KubeAliyun.Remote.Trace

/-!
# One synchronisation of a service

What the controller does with one key, seen through the name of one load balancer:
which versions of a service it cannot tell apart, and what its programs leave behind
when they report success, alone or beside others that write to the load balancer.
-/

namespace KubeAliyun.Services

open KubeAliyun.Cloud KubeAliyun.Provider KubeAliyun.Remote KubeAliyun.Kube
  KubeAliyun.Controller KubeAliyun.Balancer

/-! ## Versions that are alike -/

/-- Two versions ask for the same: both for no load balancer, or both for one and the
provider reads the same of them. -/
def Alike (first second : V1Service) : Prop :=
  wantsLoadBalancer first = wantsLoadBalancer second ∧
    (wantsLoadBalancer first = true → first.provided = second.provided)

theorem Alike.refl (service : V1Service) : Alike service service := ⟨rfl, fun _ => rfl⟩

theorem Alike.trans {first second third : V1Service} (one : Alike first second)
    (two : Alike second third) : Alike first third :=
  ⟨one.1.trans two.1, fun wants => (one.2 wants).trans (two.2 (one.1 ▸ wants))⟩

theorem portEqualForLB_eq {x y : NamedPort} (same : portEqualForLB x y = true) : x = y := by
  unfold portEqualForLB at same
  obtain ⟨⟨protocol, port, nodePort⟩, name⟩ := x
  obtain ⟨⟨protocol', port', nodePort'⟩, name'⟩ := y
  simp only [ne_eq, ite_not] at same
  split_ifs at same with names protocols ports nodePorts
  simp_all

/-- Two lists of one length that agree pair by pair. -/
theorem eq_of_all_zip {α : Type} {same : α → α → Bool}
    (sound : ∀ first second, same first second = true → first = second) {x y : List α}
    (lengths : x.length = y.length)
    (agree : ((x.zip y).all fun pair => same pair.1 pair.2) = true) : x = y := by
  induction x generalizing y with
  | nil => exact (List.eq_nil_of_length_eq_zero lengths.symm).symm
  | cons head rest ih =>
      cases y with
      | nil => cases lengths
      | cons other others =>
          rw [List.zip_cons_cons, List.all_cons, Bool.and_eq_true] at agree
          rw [sound head other agree.1, ih (Nat.succ.inj lengths) agree.2]

theorem portSlicesEqualForLB_eq {x y : List NamedPort}
    (same : portSlicesEqualForLB x y = true) : x = y := by
  unfold portSlicesEqualForLB at same
  split_ifs at same with lengths
  exact eq_of_all_zip (fun _ _ => portEqualForLB_eq) (not_not.mp lengths) same

theorem portsEqualForLB_eq {x y : V1Service} (same : portsEqualForLB x y = true) :
    x.ports = y.ports := by
  unfold portsEqualForLB getPortsForLB at same
  split_ifs at same
  exact portSlicesEqualForLB_eq same

theorem unless_true {condition : Prop} [Decidable condition] {rest : Bool} :
    (if condition then true else rest) = false ↔ ¬condition ∧ rest = false := by
  split
  · simp [*]
  · simp [*]

/-- A change that `needsUpdate` does not see asks for nothing new. -/
theorem alike_of_needsUpdate {oldService newService : V1Service}
    (unseen : needsUpdate oldService newService = false) : Alike oldService newService := by
  unfold needsUpdate at unseen
  by_cases neither : (!wantsLoadBalancer oldService && !wantsLoadBalancer newService) = true
  · rw [Bool.and_eq_true, Bool.not_eq_true', Bool.not_eq_true'] at neither
    refine ⟨neither.1.trans neither.2.symm, fun wants => ?_⟩
    rw [neither.1] at wants
    cases wants
  · rw [if_neg neither] at unseen
    simp only [unless_true] at unseen
    obtain ⟨differ, -, ports, address, -, -, annotations, uids, -⟩ := unseen
    rw [Bool.or_eq_true, not_or, Bool.not_eq_true, Bool.not_eq_false', bne_iff_ne,
      not_not] at ports
    refine ⟨not_not.mp differ, fun _ => ?_⟩
    unfold V1Service.provided
    rw [not_not.mp uids, not_not.mp annotations, ports.2, portsEqualForLB_eq ports.1]
    unfold loadBalancerIPsAreEqual at address
    rw [Bool.not_eq_true', Bool.not_eq_false, beq_iff_eq] at address
    rw [address]

theorem Alike.balancerName {first second : V1Service} (alike : Alike first second)
    (wants : wantsLoadBalancer first = true) : first.balancerName = second.balancerName := by
  rw [V1Service.balancerName, alike.2 wants]
  rfl

/-! ## Calls under one name -/

/-- The calls of the controller under one name: those of the provider, and updates of the
status, which do not show in the account. -/
def control (name : String) : Contract View ControlCall ControlReply where
  step seen request := match request with
    | .inl inner => fun reply after => ∃ choice, OwnStep name choice seen inner reply after
    | .inr _ => fun _ after => after = seen
  permit seen request := match request with
    | .inl inner => Permitted name seen inner
    | .inr _ => True
  event _ _ _ _ := True

/-- A program of the provider under its name, among the calls of the controller. -/
theorem lift_ensures {name : String} {may : Call → Prop} {α : Type}
    {post : Option α → View → Prop} {program : Aliyun α} {seen : View}
    (ensured : program.Ensures (contract name (fun _ => True) may) post seen) :
    (program.lift : Controlled α).Ensures (control name) post seen := by
  refine Prog.Ensures.lift ?_ ?_ ?_ ensured
  · exact fun permitted => permitted.1
  · rintro state request reply after - ⟨choice, stepped⟩
    exact ⟨choice, trivial, stepped⟩
  · exact fun _ _ => trivial

theorem lift_withstands {name : String} {α : Type} {post : Option α → View → Prop}
    {program : Aliyun α} {seen : View}
    (held : program.Withstands (loose name) Altered post seen) :
    (program.lift : Controlled α).Withstands (control name) Altered post seen := by
  refine Prog.Withstands.lift ?_ ?_ held
  · exact fun permitted => permitted.1
  · rintro state request reply after - ⟨choice, stepped⟩
    exact ⟨choice, trivial, stepped⟩

/-- The account with the API server refines the contract of each name. -/
theorem control_refines (name : String) :
    Refines controlAnswer (view name) (fun _ => True) SoleNames (control name) where
  step := by
    intro choice account request _ sole permitted
    cases request with
    | inl inner =>
        exact ⟨choice.toChoice, ownStep_of_answer choice.toChoice permitted fun _ => sole name⟩
    | inr inner =>
        cases inner with
        | updateStatus service => rfl
  keeps := by
    intro choice account request _ sole permitted
    cases request with
    | inl inner => exact soleNames_answer choice.toChoice permitted sole
    | inr inner =>
        cases inner with
        | updateStatus service => exact sole

/-- A call under one name does not show under another. -/
theorem control_frame {name other : String} {account : Account} {request : ControlCall}
    (choice : ControlChoice) (permitted : (control name).permit (view name account) request)
    (different : other ≠ name) :
    view other (controlAnswer choice account request).2 = view other account := by
  cases request with
  | inl inner => exact view_other choice.toChoice permitted different
  | inr inner =>
      cases inner with
      | updateStatus service => rfl

/-! ## What the programs leave -/

section Programs

variable {controller : ServiceController}

def balancedNodes (nodes : List Node) : List String :=
  (nodes.filter includeNodeFromNodeList).map Node.name

/-- There is a load balancer if a version asks for one, and none if it does not. -/
def Standing (service : V1Service) (seen : View) : Prop :=
  if wantsLoadBalancer service then seen.own ≠ none else seen.own = none

/-- A version is in effect with the nodes that were listed: its load balancer is
synchronised, or there is none where it asks for none. -/
def InEffect (controller : ServiceController) (listed : Except GoError (List Node))
    (service : V1Service) (seen : View) : Prop :=
  if wantsLoadBalancer service then
    ∃ nodes balancer, listed = .ok nodes ∧ seen.own = some balancer ∧
      Synced controller.balancer controller.table service.provided (balancedNodes nodes)
        seen.inventory balancer.content
  else seen.own = none

def Reporting (request : ControlCall) : Prop := ∃ inner, request = .inr inner

theorem persistLoop_within (service : V1Service) (attempts : Nat)
    (failure : Option StatusError) : (persistLoop service attempts failure).Within Reporting := by
  induction attempts generalizing failure with
  | zero => trivial
  | succ attempts ih =>
      refine (Prog.Within.call ⟨.updateStatus service, rfl⟩).bind ?_
      rintro (_ | failure)
      · trivial
      · dsimp only
        split_ifs
        · trivial
        · trivial
        · exact ih (some failure)

theorem writeState_within (service : V1Service) (newState : List LoadBalancerIngress) :
    (writeState service newState).Within Reporting := by
  unfold writeState
  split
  · trivial
  · refine (persistLoop_within _ _ _).bind ?_
    rintro (_ | failure) <;> trivial

theorem writeState_ensures (name : String) (service : V1Service)
    (newState : List LoadBalancerIngress) (seen : View) :
    (writeState service newState).Ensures (control name) (fun _ after => after = seen) seen := by
  refine (writeState_within service newState).ensures ?_ ?_ rfl
  · rintro view request - ⟨inner, rfl⟩
    trivial
  · rintro view request reply after rfl ⟨inner, rfl⟩ same
    exact ⟨trivial, same⟩

theorem writeState_withstands (name : String) (service : V1Service)
    (newState : List LoadBalancerIngress) (seen : View) :
    (writeState service newState).Withstands (control name) Altered
      (fun _ after => Altered seen after) seen := by
  refine (writeState_within service newState).withstands ?_ ?_ ?_ (Altered.refl seen)
  · exact fun view moved kept move => kept.trans _ _ _ move
  · rintro view request - ⟨inner, rfl⟩
    trivial
  · rintro view request reply after kept ⟨inner, rfl⟩ same
    exact (same : after = view) ▸ kept

/-- `GetLoadBalancer` reports a load balancer as missing only where there is none. -/
theorem lookup_ensures (service : V1Service) (seen : View) :
    (getLoadBalancerForService controller.balancer service.provided).Ensures
      (contract service.balancerName (fun _ => True) fun _ => True)
      (fun outcome after => after = seen ∧
        ∀ status, outcome = some (status, false, none) → seen.own = none) seen := by
  unfold getLoadBalancerForService
  refine Prog.Ensures.bind (getLoadBalancer_ensures (fun _ _ => trivial)
    controller.balancer seen) ?_ ?_
  · rintro lookup after ⟨rfl, reply, same, whole, -⟩
    cases same
    cases lookup with
    | error failure => exact ⟨rfl, fun status impossible => by cases impossible⟩
    | ok listed =>
        have own := whole listed rfl
        cases listed with
        | none =>
            refine ⟨rfl, fun status _ => ?_⟩
            exact Option.map_eq_none_iff.mp own.symm
        | some lb => exact ⟨rfl, fun status impossible => by cases impossible⟩
  · rintro after ⟨rfl, reply, impossible, -⟩
    cases impossible

/-- `createLoadBalancerIfNeeded` reports success only with the version in effect. -/
theorem createLoadBalancerIfNeeded_ensures (listed : Except GoError (List Node))
    (order : MapOrder) (key : String) (service : V1Service) (seen : View) :
    (createLoadBalancerIfNeeded controller listed order key service).Ensures
      (control service.balancerName)
      (fun outcome after => ∀ retry, outcome = some (none, retry) →
        InEffect controller listed service after) seen := by
  unfold createLoadBalancerIfNeeded
  cases wants : wantsLoadBalancer service with
  | false =>
      have absent {after : View} (none : after.own = none) :
          InEffect controller listed service after := by
        rw [InEffect, wants]
        exact none
      have written {after : View} (gone : after.own = none) :
          (writeState service []).Ensures (control service.balancerName)
            (fun outcome last => ∀ retry, outcome = some (none, retry) →
              InEffect controller listed service last) after :=
        (writeState_ensures _ service [] after).mono fun outcome last same _ _ =>
          absent (same ▸ gone)
      refine Prog.Ensures.bind (lift_ensures (lookup_ensures service seen)) ?_
        (fun after _ retry impossible => by cases impossible)
      rintro ⟨status, present, failure⟩ after ⟨rfl, missing⟩
      cases failure with
      | some failure => exact fun retry impossible => by cases impossible
      | none =>
          cases present with
          | false => exact written (missing status rfl)
          | true =>
              refine Prog.Ensures.bind (lift_ensures
                (ensureLoadBalancerDeleted_ensures _)) ?_
                (fun last _ retry impossible => by cases impossible)
              rintro (_ | failure) last deleted
              · exact written (deleted rfl)
              · exact fun retry impossible => by cases impossible
  | true =>
      cases listed with
      | error failure => exact fun retry impossible => by cases impossible
      | ok nodes =>
          refine Prog.Ensures.bind (lift_ensures (ensureLoadBalancer_ensures controller.balancer
            order service.provided (balancedNodes nodes) seen)) ?_
            (fun after _ retry impossible => by cases impossible)
          rintro ⟨status, failure⟩ after ensured
          cases failure with
          | some failure =>
              cases status <;> exact fun retry impossible => by cases impossible
          | none =>
              cases status with
              | none => exact fun retry impossible => by cases impossible
              | some status =>
                  obtain ⟨-, -, balancer, same, -, synced⟩ := ensured status none rfl
                  refine (writeState_ensures _ service _ after).mono ?_
                  intro outcome last still retry _
                  rw [still, same, InEffect, wants]
                  exact ⟨nodes, balancer, rfl, rfl, synced⟩

/-- Beside others that write, success still means that there is a load balancer, or none. -/
theorem createLoadBalancerIfNeeded_withstands (listed : Except GoError (List Node))
    (order : MapOrder) (key : String) (service : V1Service) (seen : View) :
    (createLoadBalancerIfNeeded controller listed order key service).Withstands
      (control service.balancerName) Altered
      (fun outcome after => ∀ retry, outcome = some (none, retry) → Standing service after)
      seen := by
  have failed {failure : GoError} {again : Bool} (after : View) :
      (pure (some failure, again) : Controlled (Option GoError × Bool)).Withstands
        (control service.balancerName) Altered
        (fun outcome last => ∀ retry, outcome = some (none, retry) → Standing service last)
        after := by
    rintro moved - retry ⟨⟩
  unfold createLoadBalancerIfNeeded
  cases wants : wantsLoadBalancer service with
  | false =>
      have written {after : View} (gone : after.own = none) :
          (writeState service []).Withstands (control service.balancerName) Altered
            (fun outcome last => ∀ retry, outcome = some (none, retry) →
              Standing service last) after := by
        refine (writeState_withstands _ service [] after).mono fun outcome last moved _ _ => ?_
        rw [Standing, wants]
        exact moved.none_iff.mpr gone
      refine Prog.Withstands.bind Altered.refl (lift_withstands
        (getLoadBalancerForService_withstands controller.balancer service.provided seen)) ?_
        (fun after _ retry impossible => by cases impossible)
      rintro ⟨status, present, failure⟩ after missing
      cases failure with
      | some failure => exact failed after
      | none =>
          cases present with
          | false => exact written (missing status rfl)
          | true =>
              refine Prog.Withstands.bind Altered.refl (lift_withstands
                (ensureLoadBalancerDeleted_withstands controller.balancer service.provided after))
                ?_ (fun last _ retry impossible => by cases impossible)
              rintro (_ | failure) last deleted
              · exact written (deleted rfl)
              · exact failed last
  | true =>
      cases listed with
      | error failure => exact failed seen
      | ok nodes =>
          refine Prog.Withstands.bind Altered.refl (lift_withstands
            (ensureLoadBalancer_withstands controller.balancer controller.table order
              service.provided (balancedNodes nodes) seen)) ?_
            (fun after _ retry impossible => by cases impossible)
          rintro ⟨status, failure⟩ after stands
          cases failure with
          | some failure => cases status <;> exact failed after
          | none =>
              cases status with
              | none => rintro moved - retry ⟨⟩
              | some status =>
                  refine (writeState_withstands _ service _ after).mono ?_
                  intro outcome last moved retry _
                  rw [Standing, wants]
                  exact fun gone => stands status none rfl (moved.none_iff.mp gone)

def TaskDone (controller : ServiceController) (listed : Except GoError (List Node))
    (task : SyncTask) (seen : View) : Prop :=
  match task with
  | .update service => InEffect controller listed service seen
  | .delete _ => seen.own = none
  | .ignore _ => True

/-- What a task that succeeds leaves even if others have written meanwhile. -/
def TaskStands (task : SyncTask) (seen : View) : Prop :=
  match task with
  | .update service => Standing service seen
  | .delete _ => seen.own = none
  | .ignore _ => True

/-- The service whose load balancer a task handles. -/
def subject : SyncTask → Option V1Service
  | .update service => some service
  | .delete service => some service
  | .ignore _ => none

/-- The calls of a task stay under the name of its service, and success means done. -/
theorem task_ensures (listed : Except GoError (List Node)) (order : MapOrder) (key : String)
    {task : SyncTask} {service : V1Service} (handles : subject task = some service)
    (seen : View) :
    (task.program controller listed order key).Ensures (control service.balancerName)
      (fun outcome after => outcome = some none → TaskDone controller listed task after)
      seen := by
  cases task with
  | update own =>
      cases handles
      refine (createLoadBalancerIfNeeded_ensures listed order key service seen).map.mono ?_
      rintro outcome after ⟨original, rfl, left⟩ succeeded
      cases original with
      | none => cases succeeded
      | some result =>
          obtain ⟨failure, retry⟩ := result
          cases succeeded
          exact left retry rfl
  | delete own =>
      cases handles
      exact lift_ensures (ensureLoadBalancerDeleted_ensures seen)
  | ignore failure => cases handles

theorem task_withstands (listed : Except GoError (List Node)) (order : MapOrder) (key : String)
    {task : SyncTask} {service : V1Service} (handles : subject task = some service)
    (seen : View) :
    (task.program controller listed order key).Withstands (control service.balancerName) Altered
      (fun outcome after => outcome = some none → TaskStands task after) seen := by
  cases task with
  | update own =>
      cases handles
      refine (createLoadBalancerIfNeeded_withstands listed order key service seen).map.mono ?_
      rintro outcome after ⟨original, rfl, left⟩ succeeded
      cases original with
      | none => cases succeeded
      | some result =>
          obtain ⟨failure, retry⟩ := result
          cases succeeded
          exact left retry rfl
  | delete own =>
      cases handles
      exact lift_withstands (ensureLoadBalancerDeleted_withstands controller.balancer
        service.provided seen)
  | ignore failure => cases handles

/-! ## The node loop -/

/-- The calls of the controller that keep all load balancers. -/
def Sweeping : ControlCall → Prop
  | .inl inner => Harmless inner
  | .inr _ => True

theorem lockedUpdateLoadBalancerHosts_within (order : MapOrder) (service : V1Service)
    (hosts : List Node) :
    (lockedUpdateLoadBalancerHosts controller order service hosts).Within Sweeping := by
  unfold lockedUpdateLoadBalancerHosts
  cases wantsLoadBalancer service with
  | false => trivial
  | true =>
      refine ((updateLoadBalancer_within _ _ _ _ _).lift fun _ harmless => harmless).bind ?_
      rintro (_ | failure)
      · trivial
      · refine ((getLoadBalancerForService_within _ _).lift fun _ harmless => harmless).bind ?_
        rintro ⟨status, _ | _, _ | unknown⟩ <;> trivial

theorem updateLoadBalancerHosts_within (order : Nat → MapOrder) (hosts : List Node)
    (services : List (Option V1Service)) :
    (updateLoadBalancerHosts controller order hosts services).Within Sweeping := by
  induction services with
  | nil => trivial
  | cons entry rest ih =>
      cases entry with
      | none => exact ih
      | some service =>
          exact (lockedUpdateLoadBalancerHosts_within _ service hosts).bind fun _ =>
            ih.bind fun _ => trivial

theorem nodeSyncLoop_within (order : Nat → MapOrder) (listed : Except GoError (List Node))
    (cached : List (Option V1Service)) (state : HostState) :
    (nodeSyncLoop controller order listed cached state).Within Sweeping := by
  unfold nodeSyncLoop
  cases listed with
  | error failure => trivial
  | ok nodes =>
      dsimp only
      split
      · exact (updateLoadBalancerHosts_within order _ _).bind fun _ => trivial
      · exact (updateLoadBalancerHosts_within order _ _).bind fun _ => trivial

/-- No two of the services share a load balancer. -/
def Distinct (services : List (Option V1Service)) : Prop :=
  ∀ one two, some one ∈ services → some two ∈ services →
    one.balancerName = two.balancerName → one = two

/-- The loop keeps none but the services it was given. -/
theorem updateLoadBalancerHosts_gives (order : Nat → MapOrder) (hosts : List Node)
    (services : List (Option V1Service)) :
    (updateLoadBalancerHosts controller order hosts services).Gives fun left =>
      ∀ service ∈ left, some service ∈ services := by
  induction services with
  | nil => exact Prog.Gives.done (by simp)
  | cons entry rest ih =>
      have later {left : List V1Service} (kept : ∀ service ∈ left, some service ∈ rest) :
          ∀ service ∈ left, some service ∈ entry :: rest :=
        fun service member => List.mem_cons_of_mem _ (kept service member)
      cases entry with
      | none => exact ih.mono fun outcome _ given left same => later (given left same)
      | some own =>
          refine Prog.Gives.bind (Prog.Gives.any _) fun failure _ =>
            ih.bind fun left kept => Prog.Gives.done ?_
          split
          · intro service member
            rcases List.mem_cons.mp member with rfl | member
            · exact List.mem_cons_self
            · exact later kept service member
          · exact later kept

theorem nodeSyncLoop_gives (order : Nat → MapOrder) (listed : Except GoError (List Node))
    {cached : List (Option V1Service)} {state : HostState} (distinct : Distinct cached)
    (kept : Distinct (state.servicesToUpdate.map some)) :
    (nodeSyncLoop controller order listed cached state).Gives fun hosts =>
      Distinct (hosts.servicesToUpdate.map some) := by
  have fewer {services : List (Option V1Service)} {left : List V1Service}
      (whole : Distinct services) (within : ∀ service ∈ left, some service ∈ services) :
      Distinct (left.map some) := by
    intro one two first second
    exact whole one two (within one (by simpa using first)) (within two (by simpa using second))
  unfold nodeSyncLoop
  cases listed with
  | error failure => exact Prog.Gives.done kept
  | ok nodes =>
      dsimp only
      split
      · exact (updateLoadBalancerHosts_gives order _ _).bind fun left within =>
          Prog.Gives.done (fewer kept within)
      · exact (updateLoadBalancerHosts_gives order _ _).bind fun left within =>
          Prog.Gives.done (fewer distinct within)

end Programs

end KubeAliyun.Services
