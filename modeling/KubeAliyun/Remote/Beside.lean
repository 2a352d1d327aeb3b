import KubeAliyun.Remote.Sharing

/-!
# Two services side by side

A program that was written for one interface also runs where a second interface
stands beside it: it behaves as before and leaves the state of the second service
alone.
-/

namespace KubeAliyun.Remote

variable {Call Extra : Type} {Reply : Call → Type} {Answer : Extra → Type}
  {ω χ σ τ α : Type}

/-- The replies of two interfaces. -/
def ReplyOf (Reply : Call → Type) (Answer : Extra → Type) : Call ⊕ Extra → Type
  | .inl request => Reply request
  | .inr request => Answer request

/-- Each service answers its own calls, from its own half of the state. -/
def Service.beside (first : Service ω σ Call Reply) (second : Service ω τ Extra Answer) :
    Service ω (σ × τ) (Call ⊕ Extra) (ReplyOf Reply Answer) :=
  fun choice state request =>
    match request with
    | .inl inner =>
        let result := first choice state.1 inner
        (result.1, (result.2, state.2))
    | .inr inner =>
        let result := second choice state.2 inner
        (result.1, (state.1, result.2))

namespace Prog

def lift : Prog Call Reply α → Prog (Call ⊕ Extra) (ReplyOf Reply Answer) α
  | .done value => .done value
  | .crash => .crash
  | .ask request next => .ask (.inl request) fun reply => (next reply).lift

/-- A lifted program runs as it does alone, on the part of the choices that its own
service reads; the second state is not touched. -/
theorem run_lift {first : Service ω σ Call Reply} {second : Service χ τ Extra Answer}
    (read : χ → ω) (program : Prog Call Reply α) (choices : Nat → χ) (state : σ) (other : τ) :
    let alone := program.run first (fun index => read (choices index)) state
    ∃ log, program.lift.run (Service.beside (fun choice => first (read choice)) second) choices
        (state, other) =
      ⟨alone.outcome, log, (alone.state, other),
        fun index => choices (index + alone.log.length)⟩ := by
  induction program generalizing choices state with
  | done value => exact ⟨[], rfl⟩
  | crash => exact ⟨[], rfl⟩
  | ask request next ih =>
      let answer := first (read (choices 0)) state request
      obtain ⟨log, rest⟩ := ih answer.1 (later choices) answer.2
      refine ⟨⟨(state, other), .inl request, answer.1, (answer.2, other)⟩ :: log, ?_⟩
      have answered : Service.beside (fun choice => first (read choice)) second (choices 0)
          (state, other) (.inl request) = (answer.1, (answer.2, other)) := rfl
      rw [lift, run_ask_of_answer answered, rest]
      rfl

/-- A lifted program ensures what it ensures alone under every contract of both
interfaces that is as generous with its calls and no freer with its answers. -/
theorem Ensures.lift {contract : Contract σ Call Reply}
    {both : Contract σ (Call ⊕ Extra) (ReplyOf Reply Answer)}
    (permits : ∀ {state request}, contract.permit state request →
      both.permit state (.inl request))
    (steps : ∀ {state request} {reply : Reply request} {after}, contract.permit state request →
      both.step state (.inl request) reply after → contract.step state request reply after)
    (events : ∀ {state request} {reply : Reply request} {after},
      contract.permit state request → contract.event state request reply after →
      both.event state (.inl request) reply after)
    {post : Option α → σ → Prop} {program : Prog Call Reply α} {state : σ}
    (ensured : program.Ensures contract post state) :
    (program.lift : Prog (Call ⊕ Extra) (ReplyOf Reply Answer) α).Ensures both post state := by
  induction program generalizing state with
  | done value => exact ensured
  | crash => exact ensured
  | ask request next ih =>
      obtain ⟨permitted, answers⟩ := ensured
      refine ⟨permits permitted, fun reply after stepped => ?_⟩
      obtain ⟨event, rest⟩ := answers reply after (steps permitted stepped)
      exact ⟨events permitted event, ih reply rest⟩

/-- A lifted program withstands what it withstands alone. -/
theorem Withstands.lift {contract : Contract σ Call Reply}
    {both : Contract σ (Call ⊕ Extra) (ReplyOf Reply Answer)} {rely : σ → σ → Prop}
    (permits : ∀ {state request}, contract.permit state request →
      both.permit state (.inl request))
    (steps : ∀ {state request} {reply : Reply request} {after}, contract.permit state request →
      both.step state (.inl request) reply after → contract.step state request reply after)
    {post : Option α → σ → Prop} {program : Prog Call Reply α} {state : σ}
    (held : program.Withstands contract rely post state) :
    (program.lift : Prog (Call ⊕ Extra) (ReplyOf Reply Answer) α).Withstands both rely post
      state := by
  induction program generalizing state with
  | done value => exact held
  | crash => exact held
  | ask request next ih =>
      intro moved move
      obtain ⟨permitted, answers⟩ := held moved move
      exact ⟨permits permitted, fun reply after stepped =>
        ih reply (answers reply after (steps permitted stepped))⟩

theorem Within.lift {may : Call → Prop} {both : Call ⊕ Extra → Prop} {program : Prog Call Reply α}
    (implies : ∀ request, may request → both (.inl request)) (within : program.Within may) :
    (program.lift : Prog (Call ⊕ Extra) (ReplyOf Reply Answer) α).Within both := by
  induction program with
  | done value => trivial
  | crash => trivial
  | ask request next ih =>
      exact ⟨implies request within.1, fun reply => ih reply (within.2 reply)⟩

end Prog

end KubeAliyun.Remote
