import KubeAliyun.Remote.Logic
import Mathlib.Logic.Function.Basic

/-!
# Interleaved programs

A pool holds one program per index over a shared service state; a schedule
names, call by call, the program that moves next.  Two rules lift facts about
single programs to every schedule: programs that meet contracts over views
nobody else disturbs keep meeting them, and a program of the pool ends as it
would have ended alone whenever it is paired with its solo copy.
-/

namespace KubeAliyun.Remote

variable {Call : Type} {Reply : Call → Type} {ι ω σ τ α β : Type}

/-- A program together with the service's choices for its own calls. -/
structure Process (ω Call : Type) (Reply : Call → Type) (α : Type) where
  program : Prog Call Reply α
  choices : Nat → ω

namespace Process

/-- Make the next call of a process; a finished process does not move. -/
def advance (service : Service ω σ Call Reply) :
    Process ω Call Reply α → σ → Process ω Call Reply α × σ
  | ⟨.ask request next, choices⟩, state =>
      let answer := service (choices 0) state request
      (⟨next answer.1, later choices⟩, answer.2)
  | finished, state => (finished, state)

def run (service : Service ω σ Call Reply) (process : Process ω Call Reply α)
    (state : σ) : Run ω σ Call Reply α :=
  process.program.run service process.choices state

/-- Advancing a process does not change how it ends. -/
theorem run_advance (service : Service ω σ Call Reply)
    (process : Process ω Call Reply α) (state : σ) :
    ((process.advance service state).1.run service
        (process.advance service state).2).outcome =
      (process.run service state).outcome ∧
    ((process.advance service state).1.run service
        (process.advance service state).2).state =
      (process.run service state).state := by
  obtain ⟨program, choices⟩ := process
  cases program <;> exact ⟨rfl, rfl⟩

end Process

/-- Programs over one shared service state. -/
structure Pool (ι ω σ Call : Type) (Reply : Call → Type) (α : Type) where
  process : ι → Process ω Call Reply α
  state : σ

namespace Pool

variable [DecidableEq ι]

def step (service : Service ω σ Call Reply) (pool : Pool ι ω σ Call Reply α)
    (index : ι) : Pool ι ω σ Call Reply α :=
  let moved := (pool.process index).advance service pool.state
  ⟨Function.update pool.process index moved.1, moved.2⟩

/-- The programs move in the order of the schedule. -/
def runs (service : Service ω σ Call Reply) (pool : Pool ι ω σ Call Reply α)
    (schedule : List ι) : Pool ι ω σ Call Reply α :=
  schedule.foldl (fun current index => current.step service index) pool

@[simp] theorem runs_nil (service : Service ω σ Call Reply)
    (pool : Pool ι ω σ Call Reply α) : pool.runs service [] = pool := rfl

@[simp] theorem runs_cons (service : Service ω σ Call Reply)
    (pool : Pool ι ω σ Call Reply α) (index : ι) (schedule : List ι) :
    pool.runs service (index :: schedule) =
      (pool.step service index).runs service schedule := rfl

theorem runs_append (service : Service ω σ Call Reply)
    (pool : Pool ι ω σ Call Reply α) (first second : List ι) :
    pool.runs service (first ++ second) = (pool.runs service first).runs service second :=
  List.foldl_append

theorem step_process_self (service : Service ω σ Call Reply)
    (pool : Pool ι ω σ Call Reply α) (index : ι) :
    (pool.step service index).process index =
      ((pool.process index).advance service pool.state).1 := by
  simp [step]

theorem step_process_other (service : Service ω σ Call Reply)
    (pool : Pool ι ω σ Call Reply α) {index other : ι} (different : other ≠ index) :
    (pool.step service index).process other = pool.process other := by
  simp [step, different]

theorem step_state (service : Service ω σ Call Reply)
    (pool : Pool ι ω σ Call Reply α) (index : ι) :
    (pool.step service index).state =
      ((pool.process index).advance service pool.state).2 := rfl

/-- A finished program leaves the pool as it is. -/
theorem step_finished {service : Service ω σ Call Reply}
    {pool : Pool ι ω σ Call Reply α} {index : ι}
    (finished : (pool.process index).advance service pool.state =
      (pool.process index, pool.state)) :
    pool.step service index = pool := by
  simp only [step, finished, Function.update_eq_self]

/-- A property kept by every step holds after every schedule. -/
theorem runs_induction {service : Service ω σ Call Reply}
    {property : Pool ι ω σ Call Reply α → Prop}
    (keeps : ∀ pool index, property pool → property (pool.step service index))
    {pool : Pool ι ω σ Call Reply α} (start : property pool)
    (schedule : List ι) : property (pool.runs service schedule) := by
  induction schedule generalizing pool with
  | nil => exact start
  | cons index rest ih => exact ih (keeps pool index start)

end Pool

/-! ## Contracts in a pool -/

/-- Each program sees the shared state through a view of its own, and a
permitted call of one program leaves the views of the others alone. -/
structure Isolated (service : Service ω σ Call Reply) (view : ι → σ → τ)
    (good : σ → Prop) (contract : ι → Contract τ Call Reply) : Prop where
  refines : ∀ index,
    Refines service (view index) (fun _ => True) good (contract index)
  frame : ∀ {index other choice state request}, other ≠ index → good state →
    (contract index).permit (view index state) request →
    view other (service choice state request).2 = view other state

/-- Every program of a pool still meets its contract. -/
def Pool.Meets (view : ι → σ → τ) (good : σ → Prop)
    (contract : ι → Contract τ Call Reply) (post : ι → Option α → τ → Prop)
    (pool : Pool ι ω σ Call Reply α) : Prop :=
  good pool.state ∧ ∀ index, (pool.process index).program.Ensures
    (contract index) (post index) (view index pool.state)

theorem Pool.Meets.step [DecidableEq ι] {service : Service ω σ Call Reply}
    {view : ι → σ → τ} {good : σ → Prop} {contract : ι → Contract τ Call Reply}
    (isolated : Isolated service view good contract)
    {post : ι → Option α → τ → Prop} {pool : Pool ι ω σ Call Reply α}
    (meets : pool.Meets view good contract post) (index : ι) :
    (pool.step service index).Meets view good contract post := by
  obtain ⟨goodState, ensured⟩ := meets
  have own := ensured index
  generalize current : pool.process index = process at own
  obtain ⟨program, choices⟩ := process
  cases program with
  | done value =>
      have still : pool.step service index = pool := by
        apply Pool.step_finished
        rw [current]
        rfl
      rw [still]
      exact ⟨goodState, ensured⟩
  | crash =>
      have still : pool.step service index = pool := by
        apply Pool.step_finished
        rw [current]
        rfl
      rw [still]
      exact ⟨goodState, ensured⟩
  | ask request next =>
      obtain ⟨permitted, answers⟩ := own
      have moved : (pool.step service index).state =
          (service (choices 0) pool.state request).2 := by
        rw [Pool.step_state, current]
        rfl
      refine ⟨?_, fun other => ?_⟩
      · rw [moved]
        exact (isolated.refines index).keeps trivial goodState permitted
      · rw [moved]
        by_cases same : other = index
        · subst same
          rw [Pool.step_process_self, current]
          exact (answers _ _
            ((isolated.refines other).step trivial goodState permitted)).2
        · rw [Pool.step_process_other service pool same,
            isolated.frame same goodState permitted]
          exact ensured other

/-- A step of such a pool makes a permitted call, or none at all. -/
theorem Pool.Meets.moves [DecidableEq ι] {service : Service ω σ Call Reply}
    {view : ι → σ → τ} {good : σ → Prop} {contract : ι → Contract τ Call Reply}
    {post : ι → Option α → τ → Prop} {pool : Pool ι ω σ Call Reply α}
    (meets : pool.Meets view good contract post) (index : ι) :
    (pool.step service index).state = pool.state ∨
      ∃ choice request, (contract index).permit (view index pool.state) request ∧
        (pool.step service index).state = (service choice pool.state request).2 := by
  have own := meets.2 index
  rw [Pool.step_state]
  generalize pool.process index = process at own
  obtain ⟨program, choices⟩ := process
  cases program with
  | done value => exact Or.inl rfl
  | crash => exact Or.inl rfl
  | ask request next => exact Or.inr ⟨choices 0, request, own.1, rfl⟩

/-- Contracts survive every schedule. -/
theorem Pool.Meets.runs [DecidableEq ι] {service : Service ω σ Call Reply}
    {view : ι → σ → τ} {good : σ → Prop} {contract : ι → Contract τ Call Reply}
    (isolated : Isolated service view good contract)
    {post : ι → Option α → τ → Prop} {pool : Pool ι ω σ Call Reply α}
    (meets : pool.Meets view good contract post) (schedule : List ι) :
    (pool.runs service schedule).Meets view good contract post :=
  Pool.runs_induction (fun _ index held => held.step isolated index) meets schedule

/-! ## Programs paired with a solo copy -/

/-- Two runs step together when their choices are alike. -/
structure Coupling (ω τ Call : Type) (Reply : Call → Type) where
  step : ω → τ → (request : Call) → Reply request → τ → Prop
  permit : τ → Call → Prop
  alike : ω → ω → Prop

namespace Prog

/-- Two programs make permitted calls in lockstep and end together. -/
def Paired (coupling : Coupling ω τ Call Reply)
    (post : Option α → Option β → τ → τ → Prop) :
    Prog Call Reply α → Prog Call Reply β → τ → τ → Prop
  | .done left, .done right, first, second =>
      post (some left) (some right) first second
  | .crash, .crash, first, second => post none none first second
  | .ask left next, .ask right follow, first, second =>
      coupling.permit first left ∧ coupling.permit second right ∧
        ∀ choice twin reply echo first' second', coupling.alike choice twin →
          coupling.step choice first left reply first' →
          coupling.step twin second right echo second' →
          (next reply).Paired coupling post (follow echo) first' second'
  | _, _, _, _ => False

variable {coupling : Coupling ω τ Call Reply}

theorem Paired.mono {post weaker : Option α → Option β → τ → τ → Prop}
    {left : Prog Call Reply α} {right : Prog Call Reply β} {first second : τ}
    (paired : left.Paired coupling post right first second)
    (implies : ∀ a b s t, post a b s t → weaker a b s t) :
    left.Paired coupling weaker right first second := by
  induction left generalizing right first second with
  | done value =>
      cases right with
      | done other => exact implies _ _ _ _ paired
      | crash => exact paired
      | ask request next => exact paired
  | crash =>
      cases right with
      | done other => exact paired
      | crash => exact implies _ _ _ _ paired
      | ask request next => exact paired
  | ask request next ih =>
      cases right with
      | done other => exact paired
      | crash => exact paired
      | ask other follow =>
          refine ⟨paired.1, paired.2.1, ?_⟩
          intro choice twin reply echo first' second' alike own others
          exact ih reply (paired.2.2 _ _ _ _ _ _ alike own others)

/-- The rule of sequencing for two programs at once. -/
theorem Paired.bind {γ δ : Type}
    {middle : Option α → Option β → τ → τ → Prop}
    {final : Option γ → Option δ → τ → τ → Prop}
    {left : Prog Call Reply α} {right : Prog Call Reply β}
    {next : α → Prog Call Reply γ} {follow : β → Prog Call Reply δ}
    {first second : τ}
    (paired : left.Paired coupling middle right first second)
    (values : ∀ a b s t, middle (some a) (some b) s t →
      (next a).Paired coupling final (follow b) s t)
    (panics : ∀ s t, middle none none s t → final none none s t) :
    (left >>= next).Paired coupling final (right >>= follow) first second := by
  induction left generalizing right first second with
  | done value =>
      cases right with
      | done other => exact values _ _ _ _ paired
      | crash => exact paired.elim
      | ask request rest => exact paired.elim
  | crash =>
      cases right with
      | done other => exact paired.elim
      | crash => exact panics _ _ paired
      | ask request rest => exact paired.elim
  | ask request rest ih =>
      cases right with
      | done other => exact paired.elim
      | crash => exact paired.elim
      | ask other tail =>
          refine ⟨paired.1, paired.2.1, ?_⟩
          intro choice twin reply echo first' second' alike own others
          exact ih reply (paired.2.2 _ _ _ _ _ _ alike own others)

/-- Two programs whose values are renamed. -/
theorem Paired.map {γ δ : Type} {rename : α → γ} {twinRename : β → δ}
    {post : Option α → Option β → τ → τ → Prop}
    {final : Option γ → Option δ → τ → τ → Prop}
    {left : Prog Call Reply α} {right : Prog Call Reply β} {first second : τ}
    (paired : left.Paired coupling post right first second)
    (renamed : ∀ a b s t, post a b s t → final (a.map rename) (b.map twinRename) s t) :
    (rename <$> left).Paired coupling final (twinRename <$> right) first second := by
  rw [map_eq, map_eq]
  refine Paired.bind paired ?_ ?_
  · intro a b s t holds
    exact renamed _ _ s t holds
  · intro s t holds
    exact renamed _ _ s t holds

/-- The loop rule for two loops over the same elements. -/
theorem Paired.forEach {ε : Type}
    {post : Option (Option ε) → Option (Option ε) → τ → τ → Prop}
    {body twinBody : α → Prog Call Reply (Option ε)} (inv : τ → τ → Prop)
    (finish : ∀ s t, inv s t → post (some none) (some none) s t)
    (step : ∀ item s t, inv s t →
      (body item).Paired coupling
        (fun a b s' t' => (a = some none → b = some none ∧ inv s' t') ∧
          (b = some none → a = some none) ∧
          (a ≠ some none → post a b s' t'))
        (twinBody item) s t)
    (items : List α) {first second : τ} (start : inv first second) :
    (Prog.forEach body items).Paired coupling post
      (Prog.forEach twinBody items) first second := by
  induction items generalizing first second with
  | nil => exact finish _ _ start
  | cons item rest ih =>
      refine Paired.bind (step item _ _ start) ?_ ?_
      · intro a b s t holds
        cases a with
        | none =>
            obtain ⟨same, kept⟩ := holds.1 rfl
            cases same
            exact ih kept
        | some error =>
            cases b with
            | none => exact absurd (holds.2.1 rfl) (by simp)
            | some other => exact holds.2.2 (by simp)
      · intro s t holds
        exact holds.2.2 (by simp)

end Prog

/-- The shared state seen through views, with calls that step one view as its
coupling says and leave the other views alone. -/
structure Separated (service : Service ω σ Call Reply) (view : ι → σ → τ)
    (good : σ → Prop) (coupling : ι → Coupling ω τ Call Reply) : Prop where
  step : ∀ {index choice state request}, good state →
    (coupling index).permit (view index state) request →
    (coupling index).step choice (view index state) request
      (service choice state request).1 (view index (service choice state request).2)
  keeps : ∀ {index choice state request}, good state →
    (coupling index).permit (view index state) request →
    good (service choice state request).2
  frame : ∀ {index other choice state request}, other ≠ index → good state →
    (coupling index).permit (view index state) request →
    view other (service choice state request).2 = view other state

/-- A program of the pool and a solo process that is equally far along. -/
structure Companion (service : Service ω σ Call Reply) (view : σ → τ)
    (good : σ → Prop) (coupling : Coupling ω τ Call Reply)
    (post : Option α → Option α → τ → τ → Prop)
    (process : Process ω Call Reply α) (state : σ)
    (solo : Process ω Call Reply α) (soloState : σ) : Prop where
  good : good soloState
  alike : ∀ index, coupling.alike (process.choices index) (solo.choices index)
  paired : process.program.Paired coupling post solo.program
    (view state) (view soloState)

/-- A companion advances with the program it accompanies. -/
theorem Companion.advance {service : Service ω σ Call Reply} {view : ι → σ → τ}
    {good : σ → Prop} {coupling : ι → Coupling ω τ Call Reply}
    (separated : Separated service view good coupling) {index : ι}
    {post : Option α → Option α → τ → τ → Prop}
    {process solo : Process ω Call Reply α} {state soloState : σ}
    (goodState : good state)
    (companion : Companion service (view index) good (coupling index) post
      process state solo soloState) :
    Companion service (view index) good (coupling index) post
      (process.advance service state).1 (process.advance service state).2
      (solo.advance service soloState).1 (solo.advance service soloState).2 := by
  obtain ⟨soloGood, alike, paired⟩ := companion
  obtain ⟨program, choices⟩ := process
  obtain ⟨copy, soloChoices⟩ := solo
  cases program with
  | done value =>
      cases copy with
      | done other => exact ⟨soloGood, alike, paired⟩
      | crash => exact paired.elim
      | ask request next => exact paired.elim
  | crash =>
      cases copy with
      | done other => exact paired.elim
      | crash => exact ⟨soloGood, alike, paired⟩
      | ask request next => exact paired.elim
  | ask request next =>
      cases copy with
      | done other => exact paired.elim
      | crash => exact paired.elim
      | ask other follow =>
          obtain ⟨permitted, soloPermitted, together⟩ := paired
          refine ⟨separated.keeps soloGood soloPermitted,
            fun position => alike (position + 1), ?_⟩
          exact together _ _ _ _ _ _ (alike 0)
            (separated.step goodState permitted)
            (separated.step soloGood soloPermitted)

namespace Pool

variable [DecidableEq ι]

/-- Every program of the pool has a companion that ends as `solo` does. -/
def Accompanied (service : Service ω σ Call Reply) (view : ι → σ → τ)
    (good : σ → Prop) (coupling : ι → Coupling ω τ Call Reply)
    (post : ι → Option α → Option α → τ → τ → Prop)
    (outcome : ι → Option α) (final : ι → σ)
    (pool : Pool ι ω σ Call Reply α) : Prop :=
  good pool.state ∧ ∀ index, ∃ solo soloState,
    Companion service (view index) good (coupling index) (post index)
      (pool.process index) pool.state solo soloState ∧
    (solo.run service soloState).outcome = outcome index ∧
    (solo.run service soloState).state = final index

/-- A step of an accompanied program makes a permitted call, or none at all. -/
theorem Accompanied.moves {service : Service ω σ Call Reply} {view : ι → σ → τ}
    {good : σ → Prop} {coupling : ι → Coupling ω τ Call Reply}
    {post : ι → Option α → Option α → τ → τ → Prop}
    {outcome : ι → Option α} {final : ι → σ} {pool : Pool ι ω σ Call Reply α}
    (held : pool.Accompanied service view good coupling post outcome final)
    (index : ι) :
    (pool.step service index).state = pool.state ∨
      ∃ choice request, (coupling index).permit (view index pool.state) request ∧
        (pool.step service index).state = (service choice pool.state request).2 := by
  obtain ⟨solo, soloState, companion, -⟩ := held.2 index
  rw [Pool.step_state]
  have paired := companion.paired
  generalize pool.process index = process at paired
  obtain ⟨program, choices⟩ := process
  obtain ⟨copy, soloChoices⟩ := solo
  cases program with
  | done value => exact Or.inl rfl
  | crash => exact Or.inl rfl
  | ask request next =>
      cases copy with
      | done other => exact paired.elim
      | crash => exact paired.elim
      | ask other follow => exact Or.inr ⟨choices 0, request, paired.1, rfl⟩

theorem Accompanied.step {service : Service ω σ Call Reply} {view : ι → σ → τ}
    {good : σ → Prop} {coupling : ι → Coupling ω τ Call Reply}
    (separated : Separated service view good coupling)
    {post : ι → Option α → Option α → τ → τ → Prop}
    {outcome : ι → Option α} {final : ι → σ} {pool : Pool ι ω σ Call Reply α}
    (held : pool.Accompanied service view good coupling post outcome final)
    (index : ι) :
    (pool.step service index).Accompanied service view good coupling post
      outcome final := by
  have permittedOrStill := held.moves index
  obtain ⟨goodState, companions⟩ := held
  obtain ⟨solo, soloState, companion, sameOutcome, sameFinal⟩ := companions index
  refine ⟨?_, fun other => ?_⟩
  · rcases permittedOrStill with still | ⟨choice, request, permitted, moved⟩
    · rw [still]
      exact goodState
    · rw [moved]
      exact separated.keeps goodState permitted
  · by_cases same : other = index
    · subst same
      refine ⟨_, _, ?_, ((solo.run_advance service soloState).1.trans sameOutcome),
        ((solo.run_advance service soloState).2.trans sameFinal)⟩
      rw [Pool.step_process_self, Pool.step_state]
      exact companion.advance separated goodState
    · obtain ⟨friend, friendState, ⟨friendGood, alike, paired⟩, rest⟩ :=
        companions other
      refine ⟨friend, friendState, ⟨friendGood, ?_, ?_⟩, rest⟩
      · rw [Pool.step_process_other service pool same]
        exact alike
      · rw [Pool.step_process_other service pool same]
        rcases permittedOrStill with still | ⟨choice, request, permitted, moved⟩
        · rw [still]
          exact paired
        · rw [moved, separated.frame same goodState permitted]
          exact paired

theorem Accompanied.runs {service : Service ω σ Call Reply} {view : ι → σ → τ}
    {good : σ → Prop} {coupling : ι → Coupling ω τ Call Reply}
    (separated : Separated service view good coupling)
    {post : ι → Option α → Option α → τ → τ → Prop}
    {outcome : ι → Option α} {final : ι → σ} {pool : Pool ι ω σ Call Reply α}
    (held : pool.Accompanied service view good coupling post outcome final)
    (schedule : List ι) :
    (pool.runs service schedule).Accompanied service view good coupling post outcome
      final :=
  Pool.runs_induction (fun _ moving before => before.step separated moving) held schedule

/-- In every schedule, a program that has ended did so as its solo run does. -/
theorem ends_as_alone {service : Service ω σ Call Reply} {view : ι → σ → τ}
    {good : σ → Prop} {coupling : ι → Coupling ω τ Call Reply}
    (separated : Separated service view good coupling)
    {post : ι → Option α → Option α → τ → τ → Prop}
    {outcome : ι → Option α} {final : ι → σ} {pool : Pool ι ω σ Call Reply α}
    (held : pool.Accompanied service view good coupling post outcome final)
    (schedule : List ι) (index : ι) (result : Option α)
    (ended : ((pool.runs service schedule).process index).program =
      result.elim .crash .done) :
    post index result (outcome index)
      (view index (pool.runs service schedule).state)
      (view index (final index)) := by
  obtain ⟨solo, soloState, companion, sameOutcome, sameFinal⟩ :=
    (held.runs separated schedule).2 index
  have paired := companion.paired
  rw [ended] at paired
  obtain ⟨copy, soloChoices⟩ := solo
  rw [← sameOutcome, ← sameFinal]
  cases result with
  | none =>
      cases copy with
      | done other => exact paired.elim
      | crash => exact paired
      | ask request next => exact paired.elim
  | some value =>
      cases copy with
      | done other => exact paired
      | crash => exact paired.elim
      | ask request next => exact paired.elim

end Pool

end KubeAliyun.Remote
