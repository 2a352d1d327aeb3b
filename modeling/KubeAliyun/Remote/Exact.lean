import KubeAliyun.Remote.Logic

/-!
# A service as its own contract

Programs are reasoned about with the exact steps of one service.  When the state of
the service is a family of cells, a loop each of whose bodies changes one cell of its
own does to each cell what the body for that cell does, in whatever order the bodies
run.
-/

namespace KubeAliyun.Remote

variable {Call : Type} {Reply : Call → Type} {ω σ κ α β : Type}

/-! ## A service as a contract -/

/-- The contract that a service keeps by what it does on the allowed choices. -/
def Contract.ofService (service : Service ω σ Call Reply) (allowed : ω → Prop) :
    Contract σ Call Reply where
  step state request reply after :=
    ∃ choice, allowed choice ∧ service choice state request = (reply, after)
  permit _ _ := True
  event _ _ _ _ := True

theorem refines_ofService (service : Service ω σ Call Reply) (allowed : ω → Prop) :
    Refines service id allowed (fun _ => True) (Contract.ofService service allowed) where
  step permitted _ _ := ⟨_, permitted, rfl⟩
  keeps _ _ _ := trivial

namespace Prog

/-- One call under the contract of a service. -/
theorem Ensures.call_ofService {service : Service ω σ Call Reply} {allowed : ω → Prop}
    {post : Option α → σ → Prop} {request : Call} {next : Reply request → Prog Call Reply α}
    {state : σ}
    (answers : ∀ choice, allowed choice → ∃ reply after,
      service choice state request = (reply, after) ∧
        (next reply).Ensures (Contract.ofService service allowed) post after) :
    (Prog.ask request next).Ensures (Contract.ofService service allowed) post state := by
  refine ⟨trivial, ?_⟩
  rintro reply after ⟨choice, permitted, answered⟩
  obtain ⟨known, reached, same, continued⟩ := answers choice permitted
  rw [answered] at same
  cases same
  exact ⟨trivial, continued⟩

/-- What a program ensures under the contract of a service holds of its runs. -/
theorem Ensures.run_ofService {service : Service ω σ Call Reply} {allowed : ω → Prop}
    {post : Option α → σ → Prop} {program : Prog Call Reply α} {state : σ}
    (ensured : program.Ensures (Contract.ofService service allowed) post state)
    (choices : Nat → ω) (admissible : ∀ index, allowed (choices index)) :
    post (program.run service choices state).outcome
      (program.run service choices state).state :=
  (Prog.Ensures.run (refines_ofService service allowed) ensured admissible trivial).2.1

def prepend (choice : ω) (rest : Nat → ω) : Nat → ω
  | 0 => choice
  | index + 1 => rest index

theorem later_prepend (choice : ω) (rest : Nat → ω) : later (prepend choice rest) = rest := rfl

/-- The choices that a run leaves can be any others. -/
theorem run_graft (program : Prog Call Reply α) (service : Service ω σ Call Reply)
    (choices rest : Nat → ω) (state : σ) :
    ∃ grafted, program.run service grafted state =
      { program.run service choices state with rest := rest } := by
  induction program generalizing choices state with
  | done value => exact ⟨rest, rfl⟩
  | crash => exact ⟨rest, rfl⟩
  | ask request next ih =>
      obtain ⟨tail, run⟩ := ih (service (choices 0) state request).1 (later choices)
        (service (choices 0) state request).2
      refine ⟨prepend (choices 0) tail, ?_⟩
      rw [run_ask, run_ask]
      simp only [later_prepend, prepend, run]

/-- Some run of the program ends with an outcome and a state that satisfy `goal`. -/
def Reaches (service : Service ω σ Call Reply) (goal : Option α → σ → Prop)
    (program : Prog Call Reply α) (state : σ) : Prop :=
  ∃ choices, goal (program.run service choices state).outcome
    (program.run service choices state).state

/-- After a first part that can return a value, every run of the second part can follow. -/
theorem Reaches.bind {service : Service ω σ Call Reply} {goal : Option β → σ → Prop}
    {program : Prog Call Reply α} {next : α → Prog Call Reply β} {choices : Nat → ω}
    {state : σ} {value : α} (first : (program.run service choices state).outcome = some value)
    (second : (next value).Reaches service goal (program.run service choices state).state) :
    (program >>= next).Reaches service goal state := by
  obtain ⟨rest, reached⟩ := second
  obtain ⟨grafted, run⟩ := run_graft program service choices rest state
  refine ⟨grafted, ?_⟩
  have returned : (program.run service grafted state).outcome = some value := by
    rw [run]
    exact first
  rw [run_bind_some returned]
  simpa only [run] using reached

def Asks (request : Call) (program : Prog Call Reply α) : Prop :=
  ∃ next, program = .ask request next

theorem Asks.bind {request : Call} {program : Prog Call Reply α} (asks : program.Asks request)
    (next : α → Prog Call Reply β) : (program >>= next).Asks request := by
  obtain ⟨first, rfl⟩ := asks
  exact ⟨_, rfl⟩

/-! ## Cells -/

/-- A body that succeeds and changes at most one cell. -/
def OwnsCell {ε : Type} (contract : Contract (κ → β) Call Reply) (cell : κ)
    (before : β → Prop) (effect : β → β → Prop) (body : Prog Call Reply (Option ε)) : Prop :=
  ∀ state, before (state cell) → body.Yields contract
    (fun result after => result = none ∧ effect (state cell) (after cell) ∧
      ∀ other, other ≠ cell → after other = state other) state

/-- Bodies with cells of their own do not disturb each other. -/
theorem forEach_cells {ε : Type} {contract : Contract (κ → β) Call Reply}
    {cell : α → κ} {before : β → Prop} {effect : α → β → β → Prop}
    {body : α → Prog Call Reply (Option ε)} {items : List α}
    (distinct : (items.map cell).Nodup)
    (owns : ∀ item ∈ items, OwnsCell contract (cell item) before (effect item) (body item))
    {state : κ → β} (start : ∀ item ∈ items, before (state (cell item))) :
    (Prog.forEach body items).Yields contract
      (fun result after => result = none ∧
        (∀ item ∈ items, effect item (state (cell item)) (after (cell item))) ∧
        ∀ other, other ∉ items.map cell → after other = state other) state := by
  induction items generalizing state with
  | nil => exact Yields.done ⟨rfl, by simp, fun _ _ => rfl⟩
  | cons item rest ih =>
      obtain ⟨fresh, tail⟩ := List.nodup_cons.mp distinct
      have apart : ∀ other ∈ rest, cell other ≠ cell item := by
        intro other member same
        exact fresh (same ▸ List.mem_map_of_mem member)
      apply Yields.bind (owns item List.mem_cons_self state (start item List.mem_cons_self))
      rintro result middle ⟨rfl, changed, kept⟩
      have ready : ∀ other ∈ rest, before (middle (cell other)) := by
        intro other member
        rw [kept _ (apart other member)]
        exact start other (List.mem_cons_of_mem _ member)
      have later :=
        ih tail (fun other member => owns other (List.mem_cons_of_mem _ member)) ready
      refine Ensures.mono later ?_
      rintro outcome after ⟨value, rfl, rfl, others, untouched⟩
      refine ⟨none, rfl, rfl, ?_, ?_⟩
      · intro other member
        rcases List.mem_cons.mp member with rfl | behind
        · rw [untouched _ fresh]
          exact changed
        · rw [← kept _ (apart other behind)]
          exact others other behind
      · intro other elsewhere
        rw [List.map_cons, List.mem_cons, not_or] at elsewhere
        rw [untouched _ elsewhere.2, kept _ elsewhere.1]

end Prog

end KubeAliyun.Remote
