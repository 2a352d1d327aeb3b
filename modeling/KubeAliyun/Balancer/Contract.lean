import KubeAliyun.Balancer.Wanted
import KubeAliyun.Remote.Logic

/-!
# The contract of operations on one load balancer

Operations on a service are proved against the view of its name: the account's
answers step this view, and `may` restricts further which calls are made.  The
first specifications are those of the functions that only read.
-/

namespace KubeAliyun.Balancer

open KubeAliyun.Cloud KubeAliyun.Remote KubeAliyun.Text KubeAliyun.Provider

def Reads : Call → Prop
  | .ecs (.describeInstances _) => True
  | .ecs _ => False
  | .slb request => request.Mutates = false

/-- Answers under the choices `allowed`, calls within `may`; every event is a
step of the view. -/
def contract (name : String) (allowed : Choice → Prop) (may : Call → Prop) :
    Contract View Call Reply where
  step seen request reply after :=
    ∃ choice, allowed choice ∧ OwnStep name choice seen request reply after
  permit seen request := Permitted name seen request ∧ may request
  event seen request reply after :=
    ∃ choice, allowed choice ∧ OwnStep name choice seen request reply after

/-- No call fails for a reason of the service's own. -/
def Prompt (allowed : Choice → Prop) : Prop :=
  ∀ choice, allowed choice → choice.fate = .served

/-- The account refines the contract on every set of states that the permitted
calls keep; operations that may delete need sole names. -/
theorem contract_refines {name : String} {allowed : Choice → Prop} {may : Call → Prop}
    {good : Account → Prop}
    (keeps : ∀ {choice account request}, good account →
      Permitted name (view name account) request → may request →
      good (account.answer choice request).2)
    (deletes : (∃ id, may (.slb (.deleteLoadBalancer id))) →
      ∀ account, good account → Sole account.slb name) :
    Refines Account.answer (view name) allowed good (contract name allowed may) where
  step := by
    rintro choice account request permittedChoice goodState ⟨permitted, within⟩
    refine ⟨choice, permittedChoice, ownStep_of_answer choice permitted ?_⟩
    rintro ⟨id, rfl⟩
    exact deletes ⟨id, within⟩ account goodState
  keeps := by
    rintro choice account request - goodState ⟨permitted, within⟩
    exact keeps goodState permitted within

section Reading

variable {name : String} {allowed : Choice → Prop} {may : Call → Prop}

/-- A read that is served returns what is there. -/
theorem read_cases {α : Type} {choice : Choice} {found : Option α}
    (reply : Except ApiError α) (read : reply = choice.read found)
    (permitted : allowed choice) :
    (∀ value, reply = .ok value → found = some value) ∧
      (Prompt allowed → ∀ value, found = some value → reply = .ok value) := by
  subst read
  constructor
  · intro value ok
    exact ((choice.read_ok_iff found value).mp ok).2
  · intro prompt value present
    exact (choice.read_ok_iff found value).mpr ⟨prompt choice permitted, present⟩

/-- The rule of one call. -/
theorem invoke_ensures {seen : View} {request : Call}
    {post : Option (Reply request) → View → Prop}
    (permitted : Permitted name seen request) (within : may request)
    (answers : ∀ choice reply after, allowed choice →
      OwnStep name choice seen request reply after → post (some reply) after) :
    (invoke request).Ensures (contract name allowed may) post seen := by
  refine ⟨⟨permitted, within⟩, ?_⟩
  rintro reply after ⟨choice, permittedChoice, stepped⟩
  exact ⟨⟨choice, permittedChoice, stepped⟩,
    answers choice reply after permittedChoice stepped⟩

/-- The rule of one call that something follows. -/
theorem invoke_bind_ensures {α : Type} {post : Option α → View → Prop} {seen : View}
    {request : Call} {next : Reply request → Aliyun α}
    (permitted : Permitted name seen request) (within : may request)
    (answers : ∀ choice reply after, allowed choice →
      OwnStep name choice seen request reply after →
      (next reply).Ensures (contract name allowed may) post after) :
    (invoke request >>= next).Ensures (contract name allowed may) post seen := by
  refine ⟨⟨permitted, within⟩, ?_⟩
  rintro reply after ⟨choice, permittedChoice, stepped⟩
  exact ⟨⟨choice, permittedChoice, stepped⟩,
    answers choice reply after permittedChoice stepped⟩

/-- What looking up the own load balancer gives. -/
theorem getLoadBalancer_ensures (reads : ∀ request, Reads request → may request)
    (provider : AliyunProvider) (seen : View) :
    (getLoadBalancer provider name).Ensures (contract name allowed may)
      (fun outcome after => after = seen ∧ ∃ reply, outcome = some reply ∧
        (∀ found, reply = .ok found → found = seen.own.map Cloud.Balancer.describe) ∧
        (Prompt allowed → reply = .ok (seen.own.map Cloud.Balancer.describe))) seen := by
  unfold getLoadBalancer
  refine invoke_bind_ensures ⟨by simp [target], by simp⟩ (reads _ rfl) ?_
  rintro choice reply after permitted ⟨rfl, lbs, read, first⟩
  obtain ⟨whole, prompt⟩ := read_cases reply read permitted
  cases reply with
  | error failure =>
      refine ⟨rfl, .error failure, rfl, by simp, fun served => ?_⟩
      cases prompt served lbs rfl
  | ok listed =>
      have same : lbs = listed := Option.some.inj (whole listed rfl)
      subst same
      simp only [first]
      cases own : after.own with
      | none => exact ⟨rfl, .ok none, rfl, by simp, fun _ => rfl⟩
      | some balancer =>
          refine invoke_bind_ensures ⟨?_, by simp⟩ (reads _ rfl) ?_
          · intro id aims
            cases aims
            exact ⟨balancer, own, rfl⟩
          rintro choice answer again permitted ⟨rfl, read⟩
          rw [own] at read
          obtain ⟨whole, prompt⟩ := read_cases answer read permitted
          cases answer with
          | error failure =>
              refine ⟨rfl, .error failure, rfl, by simp, fun served => ?_⟩
              cases prompt served _ rfl
          | ok found =>
              have same : balancer.describe = found := Option.some.inj (whole found rfl)
              subst same
              refine ⟨rfl, .ok (some balancer.describe), rfl, ?_, fun _ => rfl⟩
              intro other equal
              exact (Except.ok.inj equal).symm

/-- The lookups after a creation find the own load balancer or fail. -/
theorem awaitLoadBalancer_ensures (reads : ∀ request, Reads request → may request)
    (provider : AliyunProvider) {seen : View} {balancer : Cloud.Balancer}
    (own : seen.own = some balancer) (last : Except ApiError (Option LoadBalancer))
    (retry : Nat) :
    (awaitLoadBalancer provider name last retry).Ensures (contract name allowed may)
      (fun outcome after => after = seen ∧ ∀ lb, outcome = some (.ok (some lb)) →
        last = .ok (some lb) ∨ lb = balancer.describe) seen := by
  induction retry generalizing last with
  | zero =>
      refine ⟨rfl, fun lb found => Or.inl ?_⟩
      exact Option.some.inj found
  | succ retry ih =>
      refine Prog.Ensures.bind (getLoadBalancer_ensures reads provider seen) ?_ ?_
      · rintro value after ⟨rfl, reply, equal, whole, -⟩
        cases equal
        match value, whole with
        | .ok (some lb), whole =>
            have found := whole (some lb) rfl
            rw [own] at found
            refine ⟨rfl, fun other same => Or.inr ?_⟩
            cases same
            exact Option.some.inj found
        | .ok none, whole =>
            refine (ih (.ok none)).mono ?_
            rintro outcome after ⟨same, result⟩
            exact ⟨same, fun lb found => Or.inr ((result lb found).resolve_left (by simp))⟩
        | .error failure, whole =>
            refine (ih (.error failure)).mono ?_
            rintro outcome after ⟨same, result⟩
            exact ⟨same, fun lb found => Or.inr ((result lb found).resolve_left (by simp))⟩
      · rintro after ⟨-, reply, impossible, -⟩
        cases impossible

/-- What looking up the instances of the nodes gives. -/
theorem getInstancesByNodes_ensures (reads : ∀ request, Reads request → may request)
    (provider : AliyunProvider) (nodes : List String) (seen : View) :
    (getInstancesByNodes provider nodes).Ensures (contract name allowed may)
      (fun outcome after => after = seen ∧ ∃ reply, outcome = some reply ∧
        (∀ instances, reply = .ok instances →
          instancesByNodeNames provider.nodeNameType seen.inventory nodes =
            .ok instances) ∧
        (Prompt allowed →
          reply = instancesByNodeNames provider.nodeNameType seen.inventory nodes))
      seen := by
  unfold getInstancesByNodes getInstancesByNodeNames getInstances
  rw [Prog.bind_assoc]
  refine invoke_bind_ensures rfl (reads _ trivial) ?_
  rintro choice reply after permitted ⟨rfl, page, read⟩
  obtain ⟨whole, prompt⟩ := read_cases reply read permitted
  cases reply with
  | error failure =>
      refine ⟨rfl, .error (.api failure), rfl, by simp, fun served => ?_⟩
      cases prompt served _ rfl
  | ok listed =>
      have same : (after.inventory, page) = listed := Option.some.inj (whole listed rfl)
      subst same
      exact ⟨rfl, _, rfl, fun instances equal => equal, fun _ => rfl⟩

end Reading

end KubeAliyun.Balancer
