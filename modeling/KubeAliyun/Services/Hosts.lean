import KubeAliyun.Services.Quiescence

/-!
# Following the nodes

What a round of `nodeSyncLoop` does when no worker makes a call meanwhile, from any state that
the controller can reach: every service that the round takes up is kept for the next one or
points to the nodes that are ready.
-/

namespace KubeAliyun.Services

open KubeAliyun.Cloud KubeAliyun.Provider KubeAliyun.Remote KubeAliyun.Kube
  KubeAliyun.Controller KubeAliyun.Balancer

/-! ## One service -/

section Sweeps

variable {controller : ServiceController} {hosts : List Node}

/-- The load balancer of a version points to the nodes, if there is one. -/
def Pointed (controller : ServiceController) (nodes : List String) (service : V1Service)
    (seen : View) : Prop :=
  seen.own = none ∨ ∃ balancer, seen.own = some balancer ∧
    Synced controller.balancer controller.table service.provided nodes seen.inventory
      balancer.content

/-- An update that is not kept for a retry has worked, or there was nothing to update. -/
theorem lockedUpdateLoadBalancerHosts_ensures (order : MapOrder) (service : V1Service)
    (seen : View) :
    (lockedUpdateLoadBalancerHosts controller order service hosts).Ensures
      (control service.balancerName)
      (fun outcome after => outcome = some none → wantsLoadBalancer service = true →
        Pointed controller (nodeNames hosts) service after) seen := by
  unfold lockedUpdateLoadBalancerHosts
  cases wants : wantsLoadBalancer service with
  | false => exact fun _ impossible => by cases impossible
  | true =>
      refine Prog.Ensures.bind (lift_ensures (updateLoadBalancer_ensures controller.balancer
        order service.provided (nodeNames hosts) seen)) ?_
        (fun _ _ impossible => by cases impossible)
      rintro (_ | failure) after updated
      · obtain ⟨balancer, rfl, synced⟩ := updated rfl
        exact fun _ _ => Or.inr ⟨balancer, rfl, synced⟩
      · refine Prog.Ensures.bind (lift_ensures (lookup_ensures service after)) ?_
          (fun _ _ impossible => by cases impossible)
        rintro ⟨status, present, unknown⟩ last ⟨rfl, missing⟩
        cases present with
        | true => exact fun impossible => by cases impossible
        | false =>
            cases unknown with
            | some error => exact fun impossible => by cases impossible
            | none => exact fun _ _ => Or.inl (missing status rfl)

/-- The account beside one name, as the programs under that name leave it. -/
theorem control_refines_beside (name : String) (beside : String → View) :
    Refines controlAnswer (view name) (fun _ => True)
      (fun account => SoleNames account ∧ ∀ other, other ≠ name → view other account = beside other)
      (control name) where
  step := fun permitted good => (control_refines name).step permitted good.1
  keeps := fun {choice _ _} admitted good permitted =>
    ⟨(control_refines name).keeps admitted good.1 permitted, fun other different =>
      (control_frame choice permitted different).trans (good.2 other different)⟩

/-! ## Several services -/

structure Followed (controller : ServiceController) (nodes : List String)
    (services : List (Option V1Service)) (before after : Account)
    (retried : Option (List V1Service)) : Prop where
  sole : SoleNames after
  others : ∀ name, (∀ service, some service ∈ services → service.balancerName ≠ name) →
    view name after = view name before
  kept : ∀ left, retried = some left → ∀ service ∈ left, some service ∈ services
  pointed : ∀ left, retried = some left → ∀ service, some service ∈ services →
    wantsLoadBalancer service = true → service ∉ left →
      Pointed controller nodes service (view service.balancerName after)

theorem lockedUpdateLoadBalancerHosts_run (controller : ServiceController) (hosts : List Node)
    (order : MapOrder) (service : V1Service) (choices : Nat → ControlChoice) {account : Account}
    (sole : SoleNames account) :
    let run := (lockedUpdateLoadBalancerHosts controller order service hosts).run controlAnswer
      choices account
    (run.outcome = some none → wantsLoadBalancer service = true →
        Pointed controller (nodeNames hosts) service (view service.balancerName run.state)) ∧
      SoleNames run.state ∧
      ∀ other, other ≠ service.balancerName → view other run.state = view other account :=
  ((lockedUpdateLoadBalancerHosts_ensures order service _).run
    (control_refines_beside service.balancerName fun other => view other account)
    (fun _ => trivial) ⟨sole, fun _ _ => rfl⟩).2

section Cons

variable {nodes : List String} {service : V1Service} {rest : List (Option V1Service)}
  {before middle after : Account} {retried : Option (List V1Service)}

theorem Followed.skip (followed : Followed controller nodes rest before after retried) :
    Followed controller nodes (none :: rest) before after retried where
  sole := followed.sole
  others name elsewhere := followed.others name fun service member =>
    elsewhere service (List.mem_cons_of_mem _ member)
  kept left same service member := List.mem_cons_of_mem _ (followed.kept left same service member)
  pointed left same service member :=
    followed.pointed left same service (List.mem_of_ne_of_mem (by simp) member)

/-- A service is updated before the others, which leave its load balancer alone. -/
theorem Followed.cons (distinct : Distinct (some service :: rest)) {failure : Option GoError}
    (updated : failure = none → wantsLoadBalancer service = true →
      Pointed controller nodes service (view service.balancerName middle))
    (beside : ∀ other, other ≠ service.balancerName → view other middle = view other before)
    (followed : Followed controller nodes rest middle after retried) :
    Followed controller nodes (some service :: rest) before after
      (retried.map fun left => if failure.isSome then service :: left else left) where
  sole := followed.sole
  others name elsewhere := by
    have apart : name ≠ service.balancerName := (elsewhere service List.mem_cons_self).symm
    rw [← beside name apart]
    exact followed.others name fun other member => elsewhere other (List.mem_cons_of_mem _ member)
  kept := by
    rintro _ same other member
    obtain ⟨left, retries, rfl⟩ := Option.map_eq_some_iff.mp same
    split at member
    · rcases List.mem_cons.mp member with rfl | member
      · exact List.mem_cons_self
      · exact List.mem_cons_of_mem _ (followed.kept left retries other member)
    · exact List.mem_cons_of_mem _ (followed.kept left retries other member)
  pointed := by
    rintro _ same other member wants absent
    obtain ⟨left, retries, rfl⟩ := Option.map_eq_some_iff.mp same
    by_cases later : some other ∈ rest
    · refine followed.pointed left retries other later wants fun again => absent ?_
      split
      · exact List.mem_cons_of_mem _ again
      · exact again
    · obtain rfl : other = service := by simpa [later] using member
      have worked : failure = none := by
        by_contra failed
        rw [if_pos (Option.isSome_iff_ne_none.mpr failed)] at absent
        exact absent List.mem_cons_self
      rw [followed.others other.balancerName]
      · exact updated worked wants
      · intro third present shared
        have twin := distinct third other (List.mem_cons_of_mem _ present) List.mem_cons_self shared
        exact later (twin ▸ present)

end Cons

theorem updateLoadBalancerHosts_followed (order : Nat → MapOrder)
    {services : List (Option V1Service)} (distinct : Distinct services)
    (choices : Nat → ControlChoice) {account : Account} (sole : SoleNames account) :
    let run := (updateLoadBalancerHosts controller order hosts services).run controlAnswer choices
      account
    Followed controller (nodeNames hosts) services account run.state run.outcome := by
  induction services generalizing choices account with
  | nil =>
      refine ⟨sole, fun _ _ => rfl, ?_, ?_⟩
      · rintro _ ⟨⟩ service ⟨⟩
      · rintro _ ⟨⟩ service ⟨⟩
  | cons entry rest ih =>
      have fewer : Distinct rest := fun one two first second =>
        distinct one two (List.mem_cons_of_mem _ first) (List.mem_cons_of_mem _ second)
      cases entry with
      | none => exact (ih fewer choices sole).skip
      | some service =>
          obtain ⟨updated, soleThen, beside⟩ := lockedUpdateLoadBalancerHosts_run controller hosts
            (order rest.length) service choices sole
          dsimp only [updateLoadBalancerHosts]
          cases ended : ((lockedUpdateLoadBalancerHosts controller (order rest.length) service
              hosts).run controlAnswer choices account).outcome with
          | none =>
              obtain ⟨panicked, stopped⟩ := Prog.run_bind_none ended
              rw [panicked, stopped]
              refine ⟨soleThen, fun name elsewhere => ?_, ?_, ?_⟩
              · exact beside name (elsewhere service List.mem_cons_self).symm
              · rintro _ ⟨⟩
              · rintro _ ⟨⟩
          | some failure =>
              have tail : ∀ later state, (updateLoadBalancerHosts controller order hosts rest >>=
                  fun left => pure (if failure.isSome then service :: left else left)).run
                    controlAnswer later state = _ :=
                Prog.run_map _ (updateLoadBalancerHosts controller order hosts rest)
              rw [Prog.run_bind_some ended]
              dsimp only
              rw [tail]
              exact Followed.cons distinct (fun worked => updated (worked ▸ ended)) beside
                (ih fewer _ soleThen)

end Sweeps

/-! ## A round -/

def readyHosts (nodes : List Node) : List Node := nodes.filter getNodeConditionPredicate

def takenUp (state : HostState) (nodes : List Node) (cached : List (Option V1Service)) :
    List (Option V1Service) :=
  if nodeSlicesEqualForLB (readyHosts nodes) state.knownHosts then
    state.servicesToUpdate.map some
  else cached

theorem nodeSyncLoop_ok (controller : ServiceController) (order : Nat → MapOrder)
    (nodes : List Node) (cached : List (Option V1Service)) (state : HostState) :
    ∃ known, nodeSyncLoop controller order (.ok nodes) cached state =
      (updateLoadBalancerHosts controller order (readyHosts nodes) (takenUp state nodes cached) >>=
        fun left => .done ⟨known, left⟩) := by
  by_cases same : nodeSlicesEqualForLB (readyHosts nodes) state.knownHosts = true
  · refine ⟨state.knownHosts, ?_⟩
    rw [takenUp, if_pos same]
    exact if_pos same
  · refine ⟨readyHosts nodes, ?_⟩
    rw [takenUp, if_neg same]
    exact if_neg same

/-- What a round leaves of the services that it has taken up. -/
theorem nodeSyncLoop_follows (controller : ServiceController) (order : Nat → MapOrder)
    (nodes : List Node) {cached : List (Option V1Service)} {state : HostState}
    (distinct : Distinct (takenUp state nodes cached)) (choices : Nat → ControlChoice)
    {account : Account} (sole : SoleNames account) :
    let run := (nodeSyncLoop controller order (.ok nodes) cached state).run controlAnswer choices
      account
    ∀ hosts, run.outcome = some hosts → ∀ service, some service ∈ takenUp state nodes cached →
      wantsLoadBalancer service = true → service ∈ hosts.servicesToUpdate ∨
        Pointed controller (nodeNames (readyHosts nodes)) service
          (view service.balancerName run.state) := by
  intro run hosts ended service member wants
  obtain ⟨known, shape⟩ := nodeSyncLoop_ok controller order nodes cached state
  let updates := (updateLoadBalancerHosts controller order (readyHosts nodes)
    (takenUp state nodes cached)).run controlAnswer choices account
  have followed : Followed controller (nodeNames (readyHosts nodes)) (takenUp state nodes cached)
      account updates.state updates.outcome :=
    updateLoadBalancerHosts_followed order distinct choices sole
  have whole : run = ⟨updates.outcome.map (HostState.mk known), updates.log, updates.state,
      updates.rest⟩ := by
    dsimp only [run]
    rw [shape]
    exact Prog.run_map (HostState.mk known) _ choices account
  rw [whole] at ended ⊢
  obtain ⟨left, finished, rfl⟩ := Option.map_eq_some_iff.mp ended
  by_cases kept : service ∈ left
  · exact Or.inl kept
  · exact Or.inr (followed.pointed left finished service member wants kept)

/-- The loop on its own comes to the end of its program. -/
theorem callRounds_run (controller : ServiceController) (program : Controlled HostState)
    (choices : Nat → ControlChoice) (system : System) :
    let run := program.run controlAnswer choices system.account
    ∃ rewritten rest,
      System.run controller { system with round := some ⟨program, choices⟩ }
          (List.replicate run.log.length .callRound) =
        { system with
          round := some ⟨run.outcome.elim .crash .done, rest⟩
          account := run.state
          rewritten } := by
  induction program generalizing system choices with
  | done value => exact ⟨system.rewritten, choices, rfl⟩
  | crash => exact ⟨system.rewritten, choices, rfl⟩
  | ask request next ih =>
      let answer := controlAnswer (choices 0) system.account request
      obtain ⟨rewritten, rest, same⟩ := ih answer.1 (later choices) { system with
        account := answer.2
        rewritten := fun name =>
          if System.rewriting system.account name (.ask request next) then
            system.rewritten name + 1
          else system.rewritten name }
      exact ⟨rewritten, rest, same⟩

/-- A whole round on its own. -/
theorem round_alone (controller : ServiceController) {system : System}
    (free : system.round = none) (listed : Except GoError (List Node)) (keys : List String)
    (order : Nat → MapOrder) (choices : Nat → ControlChoice) :
    let cached := keys.map fun key => (system.cache key).map CachedService.state
    let run := (nodeSyncLoop controller order listed cached system.hosts).run controlAnswer
      choices system.account
    let final := system.run controller ([.beginRound listed keys order choices] ++
      List.replicate run.log.length .callRound ++ [.endRound])
    final.account = run.state ∧
      ((∃ last : System, final = last.restart) ∨ run.outcome = some final.hosts) := by
  intro cached run final
  have begun : system.beginRound controller listed keys order choices =
      { system with
        round := some ⟨nodeSyncLoop controller order listed cached system.hosts, choices⟩ } := by
    unfold System.beginRound
    rw [free]
  have steps : final = System.endRound (System.run controller (system.beginRound controller
      listed keys order choices) (List.replicate run.log.length .callRound)) :=
    List.foldl_concat ..
  obtain ⟨rewritten, rest, called⟩ := callRounds_run controller
    (nodeSyncLoop controller order listed cached system.hosts) choices system
  rw [begun, called] at steps
  rw [steps]
  cases ended : run.outcome with
  | none => exact ⟨rfl, Or.inl ⟨_, rfl⟩⟩
  | some hosts => exact ⟨rfl, Or.inr rfl⟩

/-- In every state that the controller reaches, a round of the loop during which no worker
makes a call leaves each service that it takes up kept for the next round, without a load
balancer, or with one that has converged for its version and the nodes that are ready; or the
process is taken down. -/
theorem round_follows {owner : String → String} (controller : ServiceController)
    {store : AList fun _ : String => V1Service} {account : Account} {moves : List Move}
    (sole : SoleNames account)
    (stored : ∀ key service, store.lookup key = some service →
      owner service.balancerName = key)
    (owned : ∀ move ∈ moves, move.Owned owner) {system : System}
    (reached : (System.start store account).run controller moves = system)
    (free : system.round = none) (nodes : List Node) (keys : List String)
    (order : Nat → MapOrder) (choices : Nat → ControlChoice) :
    ∃ count, let final := system.run controller ([.beginRound (.ok nodes) keys order choices] ++
        List.replicate count .callRound ++ [.endRound])
      (∃ last : System, final = last.restart) ∨
        ∀ service, some service ∈ takenUp system.hosts nodes
            (keys.map fun key => (system.cache key).map CachedService.state) →
          wantsLoadBalancer service = true →
          service ∈ final.hosts.servicesToUpdate ∨
            final.account.slb.named service.balancerName = none ∨
            LeftConverged controller.balancer controller.table service.provided
              (nodeNames (readyHosts nodes)) final.account.ecs.visible final.account := by
  subst reached
  have orderly : Orderly owner controller ((System.start store account).run controller moves) :=
    (Orderly.start sole stored).run owned
  generalize (System.start store account).run controller moves = system at orderly free
  let cached := keys.map fun key => (system.cache key).map CachedService.state
  have distinct : Distinct (takenUp system.hosts nodes cached) := by
    unfold takenUp
    split
    · exact orderly.hosts
    · exact cached_distinct orderly keys
  let run := (nodeSyncLoop controller order (.ok nodes) cached system.hosts).run controlAnswer
    choices system.account
  refine ⟨run.log.length, ?_⟩
  intro final
  have alone : final.account = run.state ∧
      ((∃ last : System, final = last.restart) ∨ run.outcome = some final.hosts) :=
    round_alone controller free (.ok nodes) keys order choices
  refine alone.2.imp id fun ended service member wants => ?_
  rcases nodeSyncLoop_follows controller order nodes distinct choices orderly.sole final.hosts
    ended service member wants with kept | absent | ⟨balancer, own, synced⟩
  · exact Or.inl kept
  · refine Or.inr (Or.inl ?_)
    rw [alone.1]
    exact absent
  · refine Or.inr (Or.inr ?_)
    rw [alone.1]
    exact synced.leftConverged own

end KubeAliyun.Services
