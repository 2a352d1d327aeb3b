import KubeAliyun.Remote.Program

/-!
# A program logic for remote calls

A contract says what the service may answer, which calls a program may make
and what must hold of every answered call.  `Prog.Ensures` is the weakest
precondition of a program under a contract; it speaks about a view of the
service state, and `Ensures.run` transports it to every run of the real service
whose steps the contract covers.
-/

namespace KubeAliyun.Remote

variable {Call : Type} {Reply : Call → Type} {ω σ τ α β : Type}

/-- What a program may rely on and what it must respect. -/
structure Contract (σ Call : Type) (Reply : Call → Type) where
  step : σ → (request : Call) → Reply request → σ → Prop
  permit : σ → Call → Prop
  event : σ → (request : Call) → Reply request → σ → Prop

namespace Prog

/-- Weakest precondition: every call is permitted, every answer the contract
allows satisfies `event`, and the outcome satisfies `post`. -/
def Ensures (contract : Contract σ Call Reply) (post : Option α → σ → Prop) :
    Prog Call Reply α → σ → Prop
  | .done value, state => post (some value) state
  | .crash, state => post none state
  | .ask request next, state =>
      contract.permit state request ∧
        ∀ reply after, contract.step state request reply after →
          contract.event state request reply after ∧
            (next reply).Ensures contract post after

variable {contract : Contract σ Call Reply} {post : Option α → σ → Prop}

@[simp] theorem ensures_done (value : α) (state : σ) :
    (Prog.done value : Prog Call Reply α).Ensures contract post state ↔
      post (some value) state := Iff.rfl

@[simp] theorem ensures_crash (state : σ) :
    (Prog.crash : Prog Call Reply α).Ensures contract post state ↔
      post none state := Iff.rfl

/-- Postconditions may be weakened. -/
theorem Ensures.mono {weaker : Option α → σ → Prop}
    {program : Prog Call Reply α} {state : σ}
    (ensured : program.Ensures contract post state)
    (implies : ∀ outcome after, post outcome after → weaker outcome after) :
    program.Ensures contract weaker state := by
  induction program generalizing state with
  | done value => exact implies _ _ ensured
  | crash => exact implies _ _ ensured
  | ask request next ih =>
      refine ⟨ensured.1, fun reply after stepped => ?_⟩
      obtain ⟨event, rest⟩ := ensured.2 reply after stepped
      exact ⟨event, ih reply rest⟩

/-- The rule of sequencing. -/
theorem Ensures.bind {middle : Option α → σ → Prop} {final : Option β → σ → Prop}
    {program : Prog Call Reply α} {next : α → Prog Call Reply β} {state : σ}
    (first : program.Ensures contract middle state)
    (second : ∀ value after, middle (some value) after →
      (next value).Ensures contract final after)
    (panicked : ∀ after, middle none after → final none after) :
    (program >>= next).Ensures contract final state := by
  induction program generalizing state with
  | done value => exact second value state first
  | crash => exact panicked state first
  | ask request rest ih =>
      refine ⟨first.1, fun reply after stepped => ?_⟩
      obtain ⟨event, tail⟩ := first.2 reply after stepped
      exact ⟨event, ih reply tail⟩

/-- A program that does not panic and whose value is good. -/
def Yields (contract : Contract σ Call Reply) (good : α → σ → Prop)
    (program : Prog Call Reply α) (state : σ) : Prop :=
  program.Ensures contract
    (fun outcome after => ∃ value, outcome = some value ∧ good value after) state

theorem Yields.done {good : α → σ → Prop} {value : α} {state : σ}
    (holds : good value state) :
    (Prog.done value : Prog Call Reply α).Yields contract good state :=
  ⟨value, rfl, holds⟩

/-- One call, whatever the answer. -/
theorem Yields.ask {good : α → σ → Prop} {request : Call}
    {next : Reply request → Prog Call Reply α} {state : σ}
    (permitted : contract.permit state request)
    (answered : ∀ reply after, contract.step state request reply after →
      contract.event state request reply after ∧
        (next reply).Yields contract good after) :
    (Prog.ask request next).Yields contract good state :=
  ⟨permitted, answered⟩

/-- The rule of sequencing, without a case for panics. -/
theorem Yields.bind {good : α → σ → Prop} {final : β → σ → Prop}
    {program : Prog Call Reply α} {next : α → Prog Call Reply β} {state : σ}
    (first : program.Yields contract good state)
    (second : ∀ value after, good value after →
      (next value).Yields contract final after) :
    (program >>= next).Yields contract final state := by
  refine Ensures.bind first ?_ ?_
  · intro value after holds
    obtain ⟨other, same, holds⟩ := holds
    cases same
    exact second value after holds
  · intro after holds
    obtain ⟨other, same, -⟩ := holds
    cases same

/-- A program whose value is renamed. -/
theorem Ensures.map {rename : α → β} {program : Prog Call Reply α} {state : σ}
    (ensured : program.Ensures contract post state) :
    (rename <$> program).Ensures contract
      (fun outcome after => ∃ original, outcome = original.map rename ∧
        post original after) state := by
  rw [map_eq]
  refine Ensures.bind ensured ?_ ?_
  · intro value after holds
    exact ⟨some value, rfl, holds⟩
  · intro after holds
    exact ⟨none, rfl, holds⟩

/-- The loop rule: an invariant over the elements still to come. -/
theorem Ensures.forEach {ε : Type} {post : Option (Option ε) → σ → Prop}
    {body : α → Prog Call Reply (Option ε)} (inv : List α → σ → Prop)
    (finish : ∀ state, inv [] state → post (some none) state)
    (step : ∀ item rest state, inv (item :: rest) state →
      (body item).Ensures contract
        (fun outcome after => (outcome = some none → inv rest after) ∧
          (outcome ≠ some none → post outcome after)) state)
    (items : List α) {state : σ} (start : inv items state) :
    (Prog.forEach body items).Ensures contract post state := by
  induction items generalizing state with
  | nil => exact finish state start
  | cons item rest ih =>
      refine Ensures.bind (step item rest state start) ?_ ?_
      · intro result after holds
        cases result with
        | none => exact ih (holds.1 rfl)
        | some error => exact holds.2 (by simp)
      · intro after holds
        exact holds.2 (by simp)

end Prog

/-! ## From a contract to the runs of a service -/

/-- A service refines a contract through a view when, on the choices and states
considered, every permitted call steps the view as the contract says. -/
structure Refines (service : Service ω σ Call Reply) (view : σ → τ)
    (allowed : ω → Prop) (good : σ → Prop) (contract : Contract τ Call Reply) :
    Prop where
  step : ∀ {choice state request}, allowed choice → good state →
    contract.permit (view state) request →
    contract.step (view state) request (service choice state request).1
      (view (service choice state request).2)
  keeps : ∀ {choice state request}, allowed choice → good state →
    contract.permit (view state) request → good (service choice state request).2

/-- What a contract guarantees about one logged call. -/
def Contract.Covers (contract : Contract τ Call Reply) (view : σ → τ)
    (good : σ → Prop) (event : Event σ Call Reply) : Prop :=
  contract.permit (view event.before) event.request ∧
    contract.event (view event.before) event.request event.reply
      (view event.after) ∧
    good event.before ∧ good event.after

/-- Every run of a refining service meets the contract and the postcondition. -/
theorem Prog.Ensures.run {service : Service ω σ Call Reply} {view : σ → τ}
    {allowed : ω → Prop} {good : σ → Prop} {contract : Contract τ Call Reply}
    (refines : Refines service view allowed good contract)
    {post : Option α → τ → Prop} {program : Prog Call Reply α}
    {choices : Nat → ω} {state : σ}
    (ensured : program.Ensures contract post (view state))
    (admissible : ∀ index, allowed (choices index)) (start : good state) :
    (∀ event ∈ (program.run service choices state).log,
        contract.Covers view good event) ∧
      post (program.run service choices state).outcome
        (view (program.run service choices state).state) ∧
      good (program.run service choices state).state := by
  induction program generalizing choices state with
  | done value => exact ⟨by simp, ensured, start⟩
  | crash => exact ⟨by simp, ensured, start⟩
  | ask request next ih =>
      obtain ⟨permitted, answers⟩ := ensured
      have stepped := refines.step (admissible 0) start permitted
      have kept := refines.keeps (admissible 0) start permitted
      obtain ⟨event, tail⟩ := answers _ _ stepped
      obtain ⟨covered, final, last⟩ :=
        ih _ tail (fun index => admissible (index + 1)) kept
      refine ⟨?_, final, last⟩
      intro logged member
      rw [Prog.run_ask] at member
      rcases List.mem_cons.mp member with rfl | later
      · exact ⟨permitted, event, start, kept⟩
      · exact covered logged later

end KubeAliyun.Remote
