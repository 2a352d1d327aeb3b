import KubeAliyun.Balancer.Convergence

/-!
# Load balancers as a store

The four operations on one service, executed one after another.  Whatever
fails, and also when a call takes effect and still reports an error, at most
one load balancer carries the service's name.
-/

namespace KubeAliyun.Balancer

open KubeAliyun.Cloud KubeAliyun.Remote KubeAliyun.Text KubeAliyun.Provider

/-! ## Operations -/

/-- A call of the load balancer interface for a service. -/
inductive Operation where
  | get
  | ensure (order : MapOrder) (nodes : List String)
  | update (order : MapOrder) (nodes : List String)
  | delete

inductive Returned where
  | got (status : Option LoadBalancerStatus) (found : Bool) (error : Option GoError)
  | ensured (status : Option LoadBalancerStatus) (error : Option GoError)
  | updated (error : Option GoError)
  | deleted (error : Option GoError)
deriving DecidableEq, Repr

def Operation.program (provider : AliyunProvider) (table : LowerTable)
    (service : KubeService) : Operation → Aliyun Returned
  | .get => (fun result => .got result.1 result.2.1 result.2.2) <$>
      getLoadBalancerForService provider service
  | .ensure order nodes => (fun result => .ensured result.1 result.2) <$>
      ensureLoadBalancer provider table order service nodes
  | .update order nodes => .updated <$>
      updateLoadBalancer provider table order service nodes
  | .delete => .deleted <$> ensureLoadBalancerDeleted provider service

/-- One executed call: the state it started from and its run. -/
structure Executed where
  operation : Operation
  before : Account
  run : Run Choice Account Call Reply Returned

/-- Execute calls one after another, each with the choices the service makes for
it. -/
def execute (provider : AliyunProvider) (table : LowerTable) (service : KubeService) :
    List (Operation × (Nat → Choice)) → Account → List Executed
  | [], _ => []
  | (operation, choices) :: rest, account =>
      let run := (operation.program provider table service).run Account.answer choices
        account
      ⟨operation, account, run⟩ :: execute provider table service rest run.state

def carrying (account : Account) (name : String) : List Cloud.Balancer :=
  account.slb.balancers.filter fun balancer => balancer.name = name

/-- Which load balancers there are, whatever is in them. -/
def identities (account : Account) : List (String × String) :=
  account.slb.balancers.map fun balancer => (balancer.id, balancer.name)

theorem carrying_of_named {account : Account} {name : String} {balancer : Cloud.Balancer}
    (found : account.slb.named name = some balancer) (sole : Sole account.slb name) :
    carrying account name = [balancer] := by
  have member : balancer ∈ carrying account name := by
    obtain ⟨present, itsName⟩ := named_mem found
    exact List.mem_filter.mpr ⟨present, by simpa using itsName⟩
  have bound : (carrying account name).length ≤ 1 := sole
  match carrying account name, member, bound with
  | [only], member, _ => rw [List.mem_singleton.mp member]

/-! ## Identities -/

theorem identities_put (account : Account) (id : String) (content : Content) :
    identities { account with slb := account.slb.put id content } = identities account := by
  unfold identities Slb.put
  simp only [List.map_map]
  apply List.map_congr_left
  intro balancer _
  simp only [Function.comp_apply]
  split <;> rfl

theorem identities_modify (choice : Choice) (account : Account) (id : String)
    (update : Content → Option Content) :
    identities { account with
      slb := (choice.commit account.slb (account.slb.modify id update)).2 } =
      identities account := by
  rcases choice.commit_state account.slb (account.slb.modify id update) with same | changed
  · rw [same]
  · obtain ⟨_, _, later⟩ := Option.bind_eq_some_iff.mp changed
    obtain ⟨content, _, put⟩ := Option.map_eq_some_iff.mp later
    rw [← put]
    exact identities_put account id content

/-- Only creating and deleting a load balancer changes which there are. -/
theorem identities_answer (choice : Choice) (account : Account) {request : Call}
    (noCreate : ∀ args, request ≠ .slb (.createLoadBalancer args))
    (noDelete : ∀ id, request ≠ .slb (.deleteLoadBalancer id)) :
    identities (account.answer choice request).2 = identities account := by
  cases request with
  | ecs inner => rfl
  | slb inner =>
      cases inner with
      | describeLoadBalancers regionId => rfl
      | describeLoadBalancerAttribute id => rfl
      | describeListenerAttribute transport id port => rfl
      | createLoadBalancer args => exact absurd rfl (noCreate args)
      | deleteLoadBalancer id => exact absurd rfl (noDelete id)
      | createListener transport args => exact identities_modify choice account _ _
      | deleteListener id port => exact identities_modify choice account _ _
      | startListener id port => exact identities_modify choice account _ _
      | addBackendServers id servers => exact identities_modify choice account _ _
      | removeBackendServers id servers => exact identities_modify choice account _ _

/-! ## One operation -/

section Single

variable {provider : AliyunProvider} {table : LowerTable} {service : KubeService}
  {choices : Nat → Choice} {account : Account}

/-- A load balancer is created or deleted. -/
def Founds (request : Call) : Prop :=
  (∃ args, request = .slb (.createLoadBalancer args)) ∨
    ∃ id, request = .slb (.deleteLoadBalancer id)

/-- The account refines every contract on the states with a sole name; contracts
that found nothing also keep the identities. -/
theorem sole_refines (name : String) (may : Call → Prop) (fixed : Prop)
    (standing : List (String × String))
    (founds : fixed → ∀ request, may request → ¬ Founds request) :
    Refines Account.answer (view name) (fun _ => True)
      (fun current => Sole current.slb name ∧ (fixed → identities current = standing))
      (contract name (fun _ => True) may) := by
  apply contract_refines
  · rintro choice current request ⟨sole, same⟩ permitted within
    refine ⟨(effect_of_answer choice permitted).2.sole sole, fun isFixed => ?_⟩
    have neither := founds isFixed request within
    rw [identities_answer choice current
      (fun args created => neither (Or.inl ⟨args, created⟩))
      (fun id deleted => neither (Or.inr ⟨id, deleted⟩))]
    exact same isFixed
  · rintro - current ⟨sole, -⟩
    exact sole

def SoleThroughout (name : String) (run : Run Choice Account Call Reply Returned) : Prop :=
  (∀ event ∈ run.log, Sole event.before.slb name ∧ Sole event.after.slb name) ∧
    Sole run.state.slb name

/-- Which load balancers there are is the same in every state of a run. -/
def FoundsNothing (before : Account) (run : Run Choice Account Call Reply Returned) : Prop :=
  (∀ event ∈ run.log, identities event.before = identities before ∧
      identities event.after = identities before) ∧
    identities run.state = identities before

/-- What a contract says about a run that starts with a sole name. -/
theorem run_of_ensures {name : String} {may : Call → Prop} {program : Aliyun Returned}
    {post : Option Returned → View → Prop} (sole : Sole account.slb name)
    (ensured : program.Ensures (contract name (fun _ => True) may) post
      (view name account)) :
    SoleThroughout name (program.run Account.answer choices account) ∧
      ((∀ request, may request → ¬ Founds request) →
        FoundsNothing account (program.run Account.answer choices account)) ∧
      post (program.run Account.answer choices account).outcome
        (view name (program.run Account.answer choices account).state) := by
  obtain ⟨covered, final, last⟩ := ensured.run
    (sole_refines name may (∀ request, may request → ¬ Founds request)
      (identities account) id) (fun _ => trivial) ⟨sole, fun _ => rfl⟩
  refine ⟨⟨?_, last.1⟩, ?_, final⟩
  · intro event member
    obtain ⟨-, -, before, after⟩ := covered event member
    exact ⟨before.1, after.1⟩
  · intro founds
    refine ⟨fun event member => ?_, last.2 founds⟩
    obtain ⟨-, -, before, after⟩ := covered event member
    exact ⟨before.2 founds, after.2 founds⟩

/-- A status found by `GetLoadBalancer` is read, nothing more. -/
theorem getLoadBalancerForService_ensures (seen : View) :
    (getLoadBalancerForService provider service).Ensures
      (contract (getLoadBalancerName service) (fun _ => True) Reads)
      (fun _ after => after = seen) seen := by
  unfold getLoadBalancerForService
  refine Prog.Ensures.bind (getLoadBalancer_ensures (fun _ reads => reads) provider seen)
    ?_ ?_
  · rintro lookup after ⟨rfl, -⟩
    match lookup with
    | .error failure => rfl
    | .ok none => rfl
    | .ok (some lb) => rfl
  · rintro after ⟨rfl, -⟩
    rfl

/-- `EnsureLoadBalancerDeleted` succeeds only when no load balancer is left. -/
theorem ensureLoadBalancerDeleted_ensures (seen : View) :
    (ensureLoadBalancerDeleted provider service).Ensures
      (contract (getLoadBalancerName service) (fun _ => True) fun _ => True)
      (fun outcome after => outcome = some none → after.own = none) seen := by
  obtain ⟨own, inventory⟩ := seen
  unfold ensureLoadBalancerDeleted
  refine Prog.Ensures.bind (getLoadBalancer_ensures (fun _ _ => trivial) provider _) ?_
    (by simp)
  rintro lookup after ⟨rfl, reply, same, whole, -⟩
  cases same
  cases lookup with
  | error failure => exact fun impossible => nomatch impossible
  | ok listed =>
      have listedIs := whole listed rfl
      cases own with
      | none =>
          subst listedIs
          exact fun _ => rfl
      | some balancer =>
          subst listedIs
          simp only [Option.map_some, Prog.map_eq]
          refine invoke_bind_ensures (permitted_own rfl) trivial ?_
          rintro choice reply after - stepped
          rcases choice.commit_cases (⟨some balancer, inventory⟩ : View) _ with
            ⟨next, attempt, -, same⟩ | ⟨next, -, -, same⟩ | same
          · have final := stepped.trans same
            cases final
            cases attempt
            exact fun _ => rfl
          · have final := stepped.trans same
            cases final
            exact fun impossible => nomatch impossible
          · have final := stepped.trans same
            cases final
            exact fun impossible => nomatch impossible

theorem reads_found_nothing (request : Call) (reads : Reads request) : ¬ Founds request := by
  rintro (⟨args, rfl⟩ | ⟨id, rfl⟩)
  · cases reads
  · cases reads

theorem spares_found_nothing {nodes : List String} {seen : View} (request : Call)
    (within : Spares provider table service nodes seen False request) :
    ¬ Founds request := by
  rintro (⟨args, rfl⟩ | ⟨id, rfl⟩)
  · exact within
  · exact within

/-- What one executed call must satisfy. -/
def Executed.Lawful (service : KubeService) (step : Executed) : Prop :=
  SoleThroughout (getLoadBalancerName service) step.run ∧
    match step.operation with
    | .get => FoundsNothing step.before step.run
    | .update _ _ => FoundsNothing step.before step.run
    | .ensure _ _ => ∀ status error, step.run.outcome = some (.ensured (some status) error) →
        ∃ balancer, carrying step.run.state (getLoadBalancerName service) = [balancer] ∧
          status = ⟨[balancer.address]⟩
    | .delete => step.run.outcome = some (.deleted none) →
        carrying step.run.state (getLoadBalancerName service) = []

theorem operation_lawful (operation : Operation)
    (sole : Sole account.slb (getLoadBalancerName service)) :
    Executed.Lawful service ⟨operation, account,
      (operation.program provider table service).run Account.answer choices account⟩ := by
  cases operation with
  | get =>
      obtain ⟨throughout, founds, -⟩ := run_of_ensures sole
        (getLoadBalancerForService_ensures _).map
      exact ⟨throughout, founds reads_found_nothing⟩
  | update order nodes =>
      obtain ⟨throughout, founds, -⟩ := run_of_ensures sole
        (updateLoadBalancer_ensures provider order service nodes _).map
      exact ⟨throughout, founds spares_found_nothing⟩
  | ensure order nodes =>
      obtain ⟨throughout, -, ensured⟩ := run_of_ensures sole
        (ensureLoadBalancer_ensures provider order service nodes _).map
      refine ⟨throughout, fun status error returned => ?_⟩
      obtain ⟨original, same, holds⟩ := ensured
      have result : original = some (some status, error) := by
        match original, returned.symm.trans same with
        | some (some _, _), renamed =>
            cases renamed
            rfl
      obtain ⟨-, -, balancer, final, address, -⟩ := holds status error result
      exact ⟨balancer, carrying_of_named (congrArg View.own final) throughout.2, address⟩
  | delete =>
      obtain ⟨throughout, -, deleted⟩ := run_of_ensures sole
        (ensureLoadBalancerDeleted_ensures _).map
      refine ⟨throughout, fun returned => ?_⟩
      obtain ⟨original, same, holds⟩ := deleted
      have result : original = some none := by
        match original, returned.symm.trans same with
        | some none, _ => rfl
      exact (named_eq_none_iff _ _).mp (holds result)

end Single

/-! ## Sequences of operations -/

/-- Over every sequence of calls on a service, with faults at every call, at most
one load balancer carries the name; a reported deletion leaves none, a
reported status belongs to the only one, and the other calls found nothing. -/
theorem execute_lawful (provider : AliyunProvider) (table : LowerTable)
    (service : KubeService) (operations : List (Operation × (Nat → Choice)))
    (account : Account) (sole : SoleNames account) :
    ∀ step ∈ execute provider table service operations account,
      step.Lawful service := by
  have own : Sole account.slb (getLoadBalancerName service) := sole _
  clear sole
  induction operations generalizing account with
  | nil => simp [execute]
  | cons head rest ih =>
      obtain ⟨operation, choices⟩ := head
      have first : Executed.Lawful service ⟨operation, account,
          (operation.program provider table service).run Account.answer choices account⟩ :=
        operation_lawful operation own
      intro step member
      rcases List.mem_cons.mp member with rfl | later
      · exact first
      · exact ih _ first.1.2 step later

/-- A deletion whose answer is lost, a deletion that finds nothing left, and a
new load balancer. -/
theorem execute_lawful_sample :
    SoleNames sampleAccount ∧ ∀ step ∈ execute sampleProvider .identity sampleService
      [(.delete, fun index =>
          { sampleChoices index with fate := if index = 2 then .unanswered else .served }),
        (.delete, sampleChoices), (.ensure .stored ["node-a"], sampleChoices)]
      sampleAccount, step.Lawful sampleService := by
  have sole : SoleNames sampleAccount := by
    intro name
    unfold Sole sampleAccount
    exact List.length_filter_le _ _
  exact ⟨sole, execute_lawful sampleProvider .identity sampleService _ sampleAccount sole⟩

end KubeAliyun.Balancer
