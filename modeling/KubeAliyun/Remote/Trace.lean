import KubeAliyun.Remote.Program

/-!
# Traces of a program

What a program does against every service at once: its outcome and the calls it
made with their replies, for all replies that a service could give.
-/

namespace KubeAliyun.Remote

variable {Call : Type} {Reply : Call → Type} {ω σ α β : Type}

/-- One call with its reply. -/
structure Exchange (Call : Type) (Reply : Call → Type) where
  request : Call
  reply : Reply request

def Event.exchange (event : Event σ Call Reply) : Exchange Call Reply :=
  ⟨event.request, event.reply⟩

def Run.trace (run : Run ω σ Call Reply α) : List (Exchange Call Reply) :=
  run.log.map Event.exchange

namespace Prog

/-- Every way to answer the calls of the program ends in an outcome and a trace that
satisfy `post`. -/
def Traces : Prog Call Reply α → (Option α → List (Exchange Call Reply) → Prop) → Prop
  | .done value, post => post (some value) []
  | .crash, post => post none []
  | .ask request next, post =>
      ∀ reply, (next reply).Traces fun outcome rest => post outcome (⟨request, reply⟩ :: rest)

theorem Traces.mono {program : Prog Call Reply α}
    {post weaker : Option α → List (Exchange Call Reply) → Prop}
    (traced : program.Traces post)
    (implies : ∀ outcome trace, post outcome trace → weaker outcome trace) :
    program.Traces weaker := by
  induction program generalizing post weaker with
  | done value => exact implies _ _ traced
  | crash => exact implies _ _ traced
  | ask request next ih =>
      intro reply
      apply ih reply (traced reply)
      intro outcome rest holds
      exact implies _ _ holds

/-- The rule of sequencing: the trace of the first part comes first. -/
theorem Traces.bind {program : Prog Call Reply α} {next : α → Prog Call Reply β}
    {middle : Option α → List (Exchange Call Reply) → Prop}
    {final : Option β → List (Exchange Call Reply) → Prop}
    (first : program.Traces middle)
    (second : ∀ value trace, middle (some value) trace →
      (next value).Traces fun outcome rest => final outcome (trace ++ rest))
    (panicked : ∀ trace, middle none trace → final none trace) :
    (program >>= next).Traces final := by
  induction program generalizing middle final with
  | done value => exact second value [] first
  | crash => exact panicked [] first
  | ask request rest ih =>
      intro reply
      apply ih reply (first reply)
      · intro value trace holds
        exact second value _ holds
      · intro trace holds
        exact panicked _ holds

/-- The same after calls that were made before. -/
theorem Traces.bind_after {program : Prog Call Reply α} {next : α → Prog Call Reply β}
    {middle : Option α → List (Exchange Call Reply) → Prop}
    {final : Option β → List (Exchange Call Reply) → Prop}
    {earlier : List (Exchange Call Reply)} (first : program.Traces middle)
    (second : ∀ value trace, middle (some value) trace →
      (next value).Traces fun outcome rest => final outcome (earlier ++ trace ++ rest))
    (panicked : ∀ trace, middle none trace → final none (earlier ++ trace)) :
    (program >>= next).Traces fun outcome trace => final outcome (earlier ++ trace) := by
  apply Traces.bind first
  · intro value trace holds
    simpa only [List.append_assoc] using second value trace holds
  · exact panicked

/-- A run against any service is one of the traces. -/
theorem Traces.run {program : Prog Call Reply α}
    {post : Option α → List (Exchange Call Reply) → Prop} (traced : program.Traces post)
    (service : Service ω σ Call Reply) (choices : Nat → ω) (state : σ) :
    post (program.run service choices state).outcome
      (program.run service choices state).trace := by
  induction program generalizing post choices state with
  | done value => exact traced
  | crash => exact traced
  | ask request next ih => exact ih _ (traced _) (later choices) _

/-- Every value that the program returns is good, whatever it is answered. -/
def Gives (good : α → Prop) (program : Prog Call Reply α) : Prop :=
  program.Traces fun outcome _ => ∀ value, outcome = some value → good value

theorem Gives.done {good : α → Prop} {value : α} (holds : good value) :
    (Prog.done value : Prog Call Reply α).Gives good := by
  rintro _ ⟨⟩
  exact holds

theorem Gives.any (program : Prog Call Reply α) : program.Gives fun _ => True := by
  induction program with
  | done value => exact fun _ _ => trivial
  | crash => exact fun _ _ => trivial
  | ask request next ih => exact ih

theorem Gives.bind {good : α → Prop} {final : β → Prop} {program : Prog Call Reply α}
    {next : α → Prog Call Reply β} (first : program.Gives good)
    (second : ∀ value, good value → (next value).Gives final) :
    (program >>= next).Gives final := by
  refine Traces.bind first (fun value _ holds => second value (holds value rfl)) ?_
  rintro _ - value ⟨⟩

/-- The program panics in no run, whatever it is answered. -/
def Returns (program : Prog Call Reply α) : Prop :=
  program.Traces fun outcome _ => outcome ≠ none

theorem Returns.done (value : α) : (Prog.done value : Prog Call Reply α).Returns :=
  Option.some_ne_none value

theorem Returns.call (request : Call) :
    (Prog.ask request .done : Prog Call Reply (Reply request)).Returns :=
  fun reply => Returns.done reply

theorem Returns.bind {program : Prog Call Reply α} {next : α → Prog Call Reply β}
    (first : program.Returns) (second : ∀ value, (next value).Returns) :
    (program >>= next).Returns :=
  Traces.bind first (fun value _ _ => second value) fun _ panicked => absurd rfl panicked

theorem Returns.forEach {ε : Type} {body : α → Prog Call Reply (Option ε)}
    (returns : ∀ item, (body item).Returns) (items : List α) :
    (Prog.forEach body items).Returns := by
  induction items with
  | nil => exact Returns.done _
  | cons item rest ih =>
      apply Returns.bind (returns item)
      intro result
      cases result with
      | none => exact ih
      | some failure => exact Returns.done _

end Prog

/-! ## Programs that report failures -/

/-- What a trace says about the outcome: a panic comes from a fatal exchange, and a
good value means that no exchange failed. -/
structure Reported (scope : Call → Prop) (fails fatal : Exchange Call Reply → Prop)
    (good : α → Prop) (outcome : Option α) (trace : List (Exchange Call Reply)) : Prop where
  inScope : ∀ exchange ∈ trace, scope exchange.request
  panicked : outcome = none → ∃ exchange ∈ trace, fatal exchange
  returned : outcome ≠ none → ∀ exchange ∈ trace, ¬fatal exchange
  succeeded : ∀ value, outcome = some value → good value →
    ∀ exchange ∈ trace, ¬fails exchange

section Reports

variable {scope : Call → Prop} {fails fatal : Exchange Call Reply → Prop} {good : α → Prop}
  {final : β → Prop}

/-- A trace that goes on after a part without failures. -/
theorem Reported.append {trace rest : List (Exchange Call Reply)} {outcome : Option α}
    (inScope : ∀ exchange ∈ trace, scope exchange.request)
    (harmless : ∀ exchange ∈ trace, ¬fatal exchange)
    (clean : ∀ value, outcome = some value → good value → ∀ exchange ∈ trace, ¬fails exchange)
    (tail : Reported scope fails fatal good outcome rest) :
    Reported scope fails fatal good outcome (trace ++ rest) where
  inScope := List.forall_mem_append.mpr ⟨inScope, tail.inScope⟩
  panicked := by
    intro panicked
    obtain ⟨exchange, member, cause⟩ := tail.panicked panicked
    exact ⟨exchange, List.mem_append_right _ member, cause⟩
  returned := by
    intro returned
    exact List.forall_mem_append.mpr ⟨harmless, tail.returned returned⟩
  succeeded := by
    intro value same holds
    exact List.forall_mem_append.mpr
      ⟨clean value same holds, tail.succeeded value same holds⟩

namespace Prog

/-- A program that panics only on fatal exchanges and reports every failure. -/
def Reports (scope : Call → Prop) (fails fatal : Exchange Call Reply → Prop)
    (good : α → Prop) (program : Prog Call Reply α) : Prop :=
  program.Traces (Reported scope fails fatal good)

theorem Reports.done (value : α) :
    (Prog.done value : Prog Call Reply α).Reports scope fails fatal good :=
  ⟨by simp, by simp, by simp, by simp⟩

/-- One call whose reply is not fatal; a failing reply ends without a good value. -/
theorem Reports.ask {request : Call} {next : Reply request → Prog Call Reply α}
    (inScope : scope request) (harmless : ∀ reply, ¬fatal ⟨request, reply⟩)
    (failed : ∀ reply, fails ⟨request, reply⟩ →
      ∃ value, next reply = .done value ∧ ¬good value)
    (rest : ∀ reply, ¬fails ⟨request, reply⟩ →
      (next reply).Reports scope fails fatal good) :
    (Prog.ask request next).Reports scope fails fatal good := by
  intro reply
  have one : ∀ exchange ∈ [(⟨request, reply⟩ : Exchange Call Reply)], scope exchange.request :=
    List.forall_mem_singleton.mpr inScope
  have alone : ∀ exchange ∈ [(⟨request, reply⟩ : Exchange Call Reply)], ¬fatal exchange :=
    List.forall_mem_singleton.mpr (harmless reply)
  by_cases failing : fails ⟨request, reply⟩
  · obtain ⟨value, ended, bad⟩ := failed reply failing
    rw [ended]
    apply Reported.append one alone _ (Reports.done value)
    intro other same holds
    cases same
    exact absurd holds bad
  · apply (rest reply failing).mono
    intro outcome trace tail
    apply Reported.append one alone _ tail
    intro value same holds
    exact List.forall_mem_singleton.mpr failing

/-- A part that fails ends the program without a good value. -/
theorem Reports.bind {program : Prog Call Reply α} {next : α → Prog Call Reply β}
    (first : program.Reports scope fails fatal good)
    (second : ∀ value, good value → (next value).Reports scope fails fatal final)
    (stops : ∀ value, ¬good value → ∃ result, next value = .done result ∧ ¬final result) :
    (program >>= next).Reports scope fails fatal final := by
  apply Traces.bind first
  · intro value trace holds
    have harmless := holds.returned (by simp)
    by_cases fine : good value
    · apply (second value fine).mono
      intro outcome rest tail
      apply Reported.append holds.inScope harmless _ tail
      intro result same ended
      exact holds.succeeded value rfl fine
    · obtain ⟨result, ended, bad⟩ := stops value fine
      rw [ended]
      apply Reported.append holds.inScope harmless _ (Reports.done result)
      intro other same holds
      cases same
      exact absurd holds bad
  · intro trace holds
    exact ⟨holds.inScope, fun _ => holds.panicked rfl, by simp, by simp⟩

theorem Reports.forEach {ε : Type} {body : α → Prog Call Reply (Option ε)} {items : List α}
    (step : ∀ item ∈ items, (body item).Reports scope fails fatal (· = none)) :
    (Prog.forEach body items).Reports scope fails fatal (· = none) := by
  induction items with
  | nil => exact Reports.done none
  | cons item rest ih =>
      apply Reports.bind (step item List.mem_cons_self)
      · intro result succeeded
        rw [succeeded]
        exact ih fun other member => step other (List.mem_cons_of_mem _ member)
      · intro result failed
        cases result with
        | none => exact absurd rfl failed
        | some error => exact ⟨some error, rfl, by simp⟩

end Prog

end Reports

end KubeAliyun.Remote
