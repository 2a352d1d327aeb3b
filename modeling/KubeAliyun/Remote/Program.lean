import Mathlib.Data.List.Basic

/-!
# Programs that talk to a remote service

A program is a tree of remote calls: it finishes, panics, or makes one call and
continues with the reply.  The service is a function of its own state and of
one choice per call, so a stream of choices fixes a run completely and a
statement about every stream is a statement about every behaviour of the
service, faults included.
-/

namespace KubeAliyun.Remote

variable {Call : Type} {Reply : Call → Type} {ω σ α β γ : Type}

/-- A program over the calls of one remote interface. -/
inductive Prog (Call : Type) (Reply : Call → Type) (α : Type) : Type where
  | done (value : α)
  | crash
  | ask (call : Call) (next : Reply call → Prog Call Reply α)

namespace Prog

/-- Continue a program with its value; a panic skips the continuation. -/
def bind : Prog Call Reply α → (α → Prog Call Reply β) → Prog Call Reply β
  | .done value, next => next value
  | .crash, _ => .crash
  | .ask call rest, next => .ask call fun reply => (rest reply).bind next

instance : Monad (Prog Call Reply) where
  pure := .done
  bind := bind

def call (request : Call) : Prog Call Reply (Reply request) :=
  .ask request .done

@[simp] theorem pure_eq (value : α) :
    (pure value : Prog Call Reply α) = .done value := rfl

@[simp] theorem done_bind (value : α) (next : α → Prog Call Reply β) :
    (Prog.done value >>= next) = next value := rfl

@[simp] theorem crash_bind (next : α → Prog Call Reply β) :
    ((Prog.crash : Prog Call Reply α) >>= next) = .crash := rfl

@[simp] theorem ask_bind (request : Call)
    (rest : Reply request → Prog Call Reply α) (next : α → Prog Call Reply β) :
    (Prog.ask request rest >>= next) =
      .ask request fun reply => rest reply >>= next := rfl

@[simp] theorem call_bind (request : Call)
    (next : Reply request → Prog Call Reply β) :
    (Prog.call request >>= next) = .ask request next := rfl

theorem map_eq (change : α → β) (program : Prog Call Reply α) :
    change <$> program = program >>= fun value => .done (change value) := rfl

theorem bind_assoc (program : Prog Call Reply α)
    (first : α → Prog Call Reply β) (second : β → Prog Call Reply γ) :
    ((program >>= first) >>= second) =
      (program >>= fun value => first value >>= second) := by
  induction program with
  | done value => rfl
  | crash => rfl
  | ask request rest ih =>
      simp only [ask_bind]
      congr 1
      funext reply
      exact ih reply

/-- Run the body on each element until one reports an error, as a Go loop
whose body returns on the first error. -/
def forEach {ε : Type} (body : α → Prog Call Reply (Option ε)) :
    List α → Prog Call Reply (Option ε)
  | [] => .done none
  | item :: rest =>
      body item >>= fun
        | some error => .done (some error)
        | none => forEach body rest

end Prog

/-! ## Services and runs -/

/-- A service answers a call from its state and one choice of its own. -/
abbrev Service (ω σ Call : Type) (Reply : Call → Type) : Type :=
  ω → σ → (request : Call) → Reply request × σ

/-- One answered call with the states around it. -/
structure Event (σ Call : Type) (Reply : Call → Type) where
  before : σ
  request : Call
  reply : Reply request
  after : σ

/-- What a run leaves behind: `none` is the outcome of a panic, and `rest`
holds the choices the run did not use. -/
structure Run (ω σ Call : Type) (Reply : Call → Type) (α : Type) where
  outcome : Option α
  log : List (Event σ Call Reply)
  state : σ
  rest : Nat → ω

def later (choices : Nat → ω) : Nat → ω := fun index => choices (index + 1)

namespace Prog

def run (service : Service ω σ Call Reply) :
    Prog Call Reply α → (Nat → ω) → σ → Run ω σ Call Reply α
  | .done value, choices, state => ⟨some value, [], state, choices⟩
  | .crash, choices, state => ⟨none, [], state, choices⟩
  | .ask request next, choices, state =>
      let answer := service (choices 0) state request
      let tail := (next answer.1).run service (later choices) answer.2
      { tail with log := ⟨state, request, answer.1, answer.2⟩ :: tail.log }

variable {service : Service ω σ Call Reply}

@[simp] theorem run_done (value : α) (choices : Nat → ω) (state : σ) :
    (Prog.done value : Prog Call Reply α).run service choices state =
      ⟨some value, [], state, choices⟩ := rfl

@[simp] theorem run_crash (choices : Nat → ω) (state : σ) :
    (Prog.crash : Prog Call Reply α).run service choices state =
      ⟨none, [], state, choices⟩ := rfl

theorem run_ask (request : Call) (next : Reply request → Prog Call Reply α)
    (choices : Nat → ω) (state : σ) :
    (Prog.ask request next).run service choices state =
      let answer := service (choices 0) state request
      let tail := (next answer.1).run service (later choices) answer.2
      { tail with log := ⟨state, request, answer.1, answer.2⟩ :: tail.log } :=
  rfl

/-- A call whose answer is known. -/
theorem run_ask_of_answer {request : Call} {next : Reply request → Prog Call Reply α}
    {choices : Nat → ω} {state after : σ} {reply : Reply request}
    (answered : service (choices 0) state request = (reply, after)) :
    (Prog.ask request next).run service choices state =
      { (next reply).run service (later choices) after with
        log := ⟨state, request, reply, after⟩ ::
          ((next reply).run service (later choices) after).log } := by
  simp only [run_ask, answered]

/-- What holds at the end of the run from the answer on. -/
theorem run_ask_post {post : Option α → σ → Prop} {request : Call}
    {next : Reply request → Prog Call Reply α} {choices : Nat → ω} {state after : σ}
    {reply : Reply request} (answered : service (choices 0) state request = (reply, after))
    (rest : post ((next reply).run service (later choices) after).outcome
      ((next reply).run service (later choices) after).state) :
    post ((Prog.ask request next).run service choices state).outcome
      ((Prog.ask request next).run service choices state).state := by
  rw [run_ask_of_answer answered]
  exact rest

/-- A run of a sequence is a run of its first part, then of its second part
from where the first one stopped. -/
theorem run_bind_some {program : Prog Call Reply α}
    {next : α → Prog Call Reply β} {choices : Nat → ω} {state : σ} {value : α}
    (first : (program.run service choices state).outcome = some value) :
    (program >>= next).run service choices state =
      let head := program.run service choices state
      let tail := (next value).run service head.rest head.state
      { tail with log := head.log ++ tail.log } := by
  induction program generalizing choices state with
  | done found =>
      have same : found = value := by simpa using first
      subst same
      rfl
  | crash => simp at first
  | ask request rest ih =>
      rw [ask_bind, run_ask]
      simp only
      rw [ih _ (by simpa only [run_ask] using first)]
      simp only [run_ask, List.cons_append]

/-- A sequence whose first part panics has panicked. -/
theorem run_bind_none {program : Prog Call Reply α} {next : α → Prog Call Reply β}
    {choices : Nat → ω} {state : σ}
    (first : (program.run service choices state).outcome = none) :
    ((program >>= next).run service choices state).outcome = none ∧
      ((program >>= next).run service choices state).state =
        (program.run service choices state).state := by
  induction program generalizing choices state with
  | done found => simp at first
  | crash => exact ⟨rfl, rfl⟩
  | ask request rest ih =>
      rw [ask_bind, run_ask]
      exact ih _ (by simpa only [run_ask] using first)

/-- The same for a first part whose run is known as a whole. -/
theorem run_bind_of_run {program : Prog Call Reply α}
    {next : α → Prog Call Reply β} {choices rest : Nat → ω} {state after : σ}
    {value : α} {log : List (Event σ Call Reply)}
    (first : program.run service choices state = ⟨some value, log, after, rest⟩) :
    (program >>= next).run service choices state =
      { (next value).run service rest after with
        log := log ++ ((next value).run service rest after).log } := by
  rw [run_bind_some (show (program.run service choices state).outcome = some value by
    rw [first])]
  simp only [first]

/-- A run of a program whose value is renamed. -/
theorem run_map (rename : α → β) (program : Prog Call Reply α)
    (choices : Nat → ω) (state : σ) :
    (program >>= fun value => .done (rename value)).run service choices state =
      let whole := program.run service choices state
      ⟨whole.outcome.map rename, whole.log, whole.state, whole.rest⟩ := by
  induction program generalizing choices state with
  | done value => rfl
  | crash => rfl
  | ask request next ih =>
      rw [ask_bind, run_ask, run_ask]
      simp only [ih]

end Prog

end KubeAliyun.Remote
