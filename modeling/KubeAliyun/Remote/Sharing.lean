import KubeAliyun.Remote.Pool

/-!
# Programs that share what they see

The programs of a pool may look at the same part of the service state.  Each one
says along which moves of the others it still meets its contract; a pool whose
calls only make moves that every other program tolerates meets all contracts
under every schedule.
-/

namespace KubeAliyun.Remote

variable {Call : Type} {Reply : Call → Type} {ι ω σ τ α β : Type}

namespace Prog

/-- The program meets its contract even if others move the view along `rely` before
each of its calls and after its end. -/
def Withstands (contract : Contract τ Call Reply) (rely : τ → τ → Prop)
    (post : Option α → τ → Prop) : Prog Call Reply α → τ → Prop
  | .done value, view => ∀ moved, rely view moved → post (some value) moved
  | .crash, view => ∀ moved, rely view moved → post none moved
  | .ask request next, view => ∀ moved, rely view moved →
      contract.permit moved request ∧
        ∀ reply after, contract.step moved request reply after →
          (next reply).Withstands contract rely post after

variable {contract : Contract τ Call Reply} {rely : τ → τ → Prop}
  {post : Option α → τ → Prop}

/-- Moves of the others that are tolerated do no harm. -/
theorem Withstands.moved {program : Prog Call Reply α} {view after : τ}
    (chains : ∀ first second third, rely first second → rely second third →
      rely first third)
    (held : program.Withstands contract rely post view) (move : rely view after) :
    program.Withstands contract rely post after := by
  cases program with
  | done value => exact fun last step => held last (chains _ _ _ move step)
  | crash => exact fun last step => held last (chains _ _ _ move step)
  | ask request next => exact fun last step => held last (chains _ _ _ move step)

theorem Withstands.mono {weaker : Option α → τ → Prop} {program : Prog Call Reply α}
    {view : τ} (held : program.Withstands contract rely post view)
    (implies : ∀ outcome after, post outcome after → weaker outcome after) :
    program.Withstands contract rely weaker view := by
  induction program generalizing view with
  | done value => exact fun last step => implies _ _ (held last step)
  | crash => exact fun last step => implies _ _ (held last step)
  | ask request next ih =>
      intro last step
      obtain ⟨permitted, answers⟩ := held last step
      exact ⟨permitted, fun reply after answered => ih reply (answers reply after answered)⟩

/-- The rule of sequencing. -/
theorem Withstands.bind {middle : Option α → τ → Prop} {final : Option β → τ → Prop}
    {program : Prog Call Reply α} {next : α → Prog Call Reply β} {view : τ}
    (still : ∀ current, rely current current)
    (first : program.Withstands contract rely middle view)
    (second : ∀ value after, middle (some value) after →
      (next value).Withstands contract rely final after)
    (panicked : ∀ after, middle none after → final none after) :
    (program >>= next).Withstands contract rely final view := by
  induction program generalizing view with
  | done value => exact second value view (first view (still view))
  | crash => exact fun last step => panicked last (first last step)
  | ask request rest ih =>
      intro last step
      obtain ⟨permitted, answers⟩ := first last step
      exact ⟨permitted, fun reply after answered => ih reply (answers reply after answered)⟩

/-- A program whose value is renamed. -/
theorem Withstands.map {rename : α → β} {program : Prog Call Reply α} {view : τ}
    (held : program.Withstands contract rely post view) :
    (rename <$> program).Withstands contract rely
      (fun outcome after => ∃ original, outcome = original.map rename ∧ post original after)
      view := by
  rw [map_eq]
  induction program generalizing view with
  | done value => exact fun moved move => ⟨some value, rfl, held moved move⟩
  | crash => exact fun moved move => ⟨none, rfl, held moved move⟩
  | ask request next ih =>
      intro moved move
      obtain ⟨permitted, answers⟩ := held moved move
      exact ⟨permitted, fun reply after answered => ih reply (answers reply after answered)⟩

/-! ## Calls of a kind -/

/-- The program makes calls of one kind only, whatever is answered. -/
def Within (may : Call → Prop) : Prog Call Reply α → Prop
  | .done _ => True
  | .crash => True
  | .ask request next => may request ∧ ∀ reply, (next reply).Within may

theorem Within.mono {may more : Call → Prop} {program : Prog Call Reply α}
    (implies : ∀ request, may request → more request) (within : program.Within may) :
    program.Within more := by
  induction program with
  | done value => trivial
  | crash => trivial
  | ask request next ih => exact ⟨implies request within.1, fun reply => ih reply (within.2 reply)⟩

theorem Within.call {may : Call → Prop} {request : Call} (allowed : may request) :
    (Prog.call request : Prog Call Reply (Reply request)).Within may :=
  ⟨allowed, fun _ => trivial⟩

theorem Within.bind {may : Call → Prop} {program : Prog Call Reply α}
    {next : α → Prog Call Reply β} (first : program.Within may)
    (second : ∀ value, (next value).Within may) : (program >>= next).Within may := by
  induction program with
  | done value => exact second value
  | crash => trivial
  | ask request rest ih => exact ⟨first.1, fun reply => ih reply (first.2 reply)⟩

theorem Within.map {may : Call → Prop} {program : Prog Call Reply α} (rename : α → β)
    (within : program.Within may) : (rename <$> program).Within may := by
  rw [map_eq]
  exact within.bind fun _ => trivial

theorem Within.forEach {ε : Type} {may : Call → Prop} {body : α → Prog Call Reply (Option ε)}
    (each : ∀ item, (body item).Within may) (items : List α) :
    (Prog.forEach body items).Within may := by
  induction items with
  | nil => trivial
  | cons item rest ih =>
      refine (each item).bind fun failure => ?_
      cases failure with
      | none => exact ih
      | some failure => trivial

/-- Calls that keep an invariant. -/
theorem Within.ensures {may : Call → Prop} {keeps : τ → Prop} {program : Prog Call Reply α}
    (permitted : ∀ view request, keeps view → may request → contract.permit view request)
    (stepped : ∀ view request reply after, keeps view → may request →
      contract.step view request reply after →
        contract.event view request reply after ∧ keeps after)
    (within : program.Within may) {view : τ} (kept : keeps view) :
    program.Ensures contract (fun _ after => keeps after) view := by
  induction program generalizing view with
  | done value => exact kept
  | crash => exact kept
  | ask request next ih =>
      refine ⟨permitted view request kept within.1, fun reply after step => ?_⟩
      obtain ⟨event, still⟩ := stepped view request reply after kept within.1 step
      exact ⟨event, ih reply (within.2 reply) still⟩

/-- Calls that keep an invariant, which the others keep as well. -/
theorem Within.withstands {may : Call → Prop} {keeps : τ → Prop} {program : Prog Call Reply α}
    (tolerated : ∀ view moved, keeps view → rely view moved → keeps moved)
    (permitted : ∀ view request, keeps view → may request → contract.permit view request)
    (stepped : ∀ view request reply after, keeps view → may request →
      contract.step view request reply after → keeps after)
    (within : program.Within may) {view : τ} (kept : keeps view) :
    program.Withstands contract rely (fun _ after => keeps after) view := by
  induction program generalizing view with
  | done value => exact fun moved move => tolerated view moved kept move
  | crash => exact fun moved move => tolerated view moved kept move
  | ask request next ih =>
      intro moved move
      have still := tolerated view moved kept move
      refine ⟨permitted moved request still within.1, fun reply after step => ?_⟩
      exact ih reply (within.2 reply) (stepped moved request reply after still within.1 step)

end Prog

/-! ## Contracts of a service -/

/-- The contract that a service itself keeps, seen through a view. -/
def Service.seen (service : Service ω σ Call Reply) (view : σ → τ) (allowed : ω → Prop)
    (good : σ → Prop) (permit : τ → Call → Prop) : Contract τ Call Reply where
  step before request reply after := ∃ choice state, allowed choice ∧ good state ∧
    view state = before ∧ (service choice state request).1 = reply ∧
    view (service choice state request).2 = after
  permit := permit
  event _ _ _ _ := True

/-- The answers to one permitted call, in a state that the others have moved to. -/
theorem Prog.Withstands.ask {service : Service ω σ Call Reply} {view : σ → τ}
    {allowed : ω → Prop} {good : σ → Prop} {permit : τ → Call → Prop}
    {rely : τ → τ → Prop} {post : Option α → τ → Prop} {request : Call}
    {next : Reply request → Prog Call Reply α} {seen : τ}
    (permitted : ∀ moved, rely seen moved → permit moved request)
    (answers : ∀ choice state, allowed choice → good state → rely seen (view state) →
      (next (service choice state request).1).Withstands
        (service.seen view allowed good permit) rely post
        (view (service choice state request).2)) :
    (Prog.ask request next).Withstands (service.seen view allowed good permit) rely post
      seen := by
  intro moved move
  refine ⟨permitted moved move, ?_⟩
  rintro reply after ⟨choice, state, fair, goodState, rfl, rfl, rfl⟩
  exact answers choice state fair goodState move

/-! ## Pools -/

/-- A service whose calls step the shared view as the contract of the caller says and
as everybody else tolerates. -/
structure Shared (service : Service ω σ Call Reply) (view : σ → τ) (allowed : ω → Prop)
    (good : σ → Prop) (contract : ι → Contract τ Call Reply) (rely : ι → τ → τ → Prop) :
    Prop where
  refines : ∀ index, Refines service view allowed good (contract index)
  still : ∀ index current, rely index current current
  chains : ∀ index first second third, rely index first second →
    rely index second third → rely index first third
  frame : ∀ {index other choice state request}, other ≠ index → allowed choice →
    good state → (contract index).permit (view state) request →
    rely other (view state) (view (service choice state request).2)

/-- Every program of a pool still meets its contract. -/
structure Pool.Holds (view : σ → τ) (allowed : ω → Prop) (good : σ → Prop)
    (contract : ι → Contract τ Call Reply) (rely : ι → τ → τ → Prop)
    (post : ι → Option α → τ → Prop) (pool : Pool ι ω σ Call Reply α) : Prop where
  good : good pool.state
  allowed : ∀ index position, allowed ((pool.process index).choices position)
  holds : ∀ index, (pool.process index).program.Withstands (contract index) (rely index)
    (post index) (view pool.state)

section Holds

variable {service : Service ω σ Call Reply} {view : σ → τ} {allowed : ω → Prop}
  {good : σ → Prop} {contract : ι → Contract τ Call Reply} {rely : ι → τ → τ → Prop}
  {post : ι → Option α → τ → Prop} {pool : Pool ι ω σ Call Reply α}

/-- A step of such a pool makes a permitted call, or none at all. -/
theorem Pool.Holds.moves [DecidableEq ι] (shared : Shared service view allowed good contract rely)
    (held : pool.Holds view allowed good contract rely post) (index : ι) :
    pool.step service index = pool ∨
      ∃ choice request, allowed choice ∧
        (contract index).permit (view pool.state) request ∧
        (pool.step service index).state = (service choice pool.state request).2 := by
  have own := held.holds index
  have choosing := held.allowed index
  generalize current : pool.process index = process at own choosing
  obtain ⟨program, choices⟩ := process
  cases program with
  | done value =>
      left
      apply Pool.step_finished
      rw [current]
      rfl
  | crash =>
      left
      apply Pool.step_finished
      rw [current]
      rfl
  | ask request next =>
      right
      refine ⟨choices 0, request, choosing 0, (own _ (shared.still index _)).1, ?_⟩
      rw [Pool.step_state, current]
      rfl

theorem Pool.Holds.step [DecidableEq ι] (shared : Shared service view allowed good contract rely)
    (held : pool.Holds view allowed good contract rely post) (index : ι) :
    (pool.step service index).Holds view allowed good contract rely post := by
  have own := held.holds index
  have choosing := held.allowed index
  generalize current : pool.process index = process at own choosing
  obtain ⟨program, choices⟩ := process
  cases program with
  | done value =>
      rw [Pool.step_finished (by rw [current]; rfl)]
      exact held
  | crash =>
      rw [Pool.step_finished (by rw [current]; rfl)]
      exact held
  | ask request next =>
      obtain ⟨permitted, answers⟩ := own _ (shared.still index _)
      have moved : (pool.step service index).state =
          (service (choices 0) pool.state request).2 := by
        rw [Pool.step_state, current]
        rfl
      refine ⟨?_, fun other => ?_, fun other => ?_⟩
      · rw [moved]
        exact (shared.refines index).keeps (choosing 0) held.good permitted
      · by_cases same : other = index
        · subst same
          rw [Pool.step_process_self, current]
          exact fun position => choosing (position + 1)
        · rw [Pool.step_process_other service pool same]
          exact held.allowed other
      · rw [moved]
        by_cases same : other = index
        · subst same
          rw [Pool.step_process_self, current]
          exact answers _ _ ((shared.refines other).step (choosing 0) held.good permitted)
        · rw [Pool.step_process_other service pool same]
          exact (held.holds other).moved (shared.chains other)
            (shared.frame same (choosing 0) held.good permitted)

theorem Pool.Holds.runs [DecidableEq ι] (shared : Shared service view allowed good contract rely)
    (held : pool.Holds view allowed good contract rely post) (schedule : List ι) :
    (pool.runs service schedule).Holds view allowed good contract rely post :=
  Pool.runs_induction (fun _ index before => before.step shared index) held schedule

/-- A property of the state that no permitted call breaks holds after every schedule. -/
theorem Pool.Holds.invariant [DecidableEq ι]
    (shared : Shared service view allowed good contract rely) (property : σ → Prop)
    (keeps : ∀ index choice state request, allowed choice → good state → property state →
      (contract index).permit (view state) request →
      property (service choice state request).2)
    (held : pool.Holds view allowed good contract rely post) (start : property pool.state)
    (schedule : List ι) : property (pool.runs service schedule).state := by
  induction schedule generalizing pool with
  | nil => exact start
  | cons index rest ih =>
      rw [Pool.runs_cons]
      refine ih (held.step shared index) ?_
      rcases held.moves shared index with
        same | ⟨choice, request, fair, permitted, moved⟩
      · rw [same]
        exact start
      · rw [moved]
        exact keeps index choice pool.state request fair held.good start permitted

/-- A program that has ended has its postcondition, whatever the others do. -/
theorem Pool.Holds.ended (shared : Shared service view allowed good contract rely)
    (held : pool.Holds view allowed good contract rely post) {index : ι} {value : α}
    (ended : (pool.process index).program = .done value) :
    post index (some value) (view pool.state) := by
  have own := held.holds index
  rw [ended] at own
  exact own _ (shared.still index _)

end Holds

end KubeAliyun.Remote
