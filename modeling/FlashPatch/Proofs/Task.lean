/-!
# Running tasks

A task changes a state and gives a result or an error; the state is there also after an error. These
laws say what running gives for each way to build a task.
-/

namespace FlashPatch.Task

variable {ε σ α β : Type}

/-- A sequence goes on with the second task if the first one has a result. -/
theorem run_bind (first : ExceptT ε (StateM σ) α) (next : α → ExceptT ε (StateM σ) β) (state : σ) :
    (first >>= next).run.run state =
      match first.run.run state with
      | (.ok a, after) => (next a).run.run after
      | (.error cause, after) => (.error cause, after) := by
  rw [ExceptT.run_bind, StateT.run_bind]
  change (match first.run.run state with | (result, after) => _) = _
  rcases first.run.run state with ⟨cause | a, after⟩
  · rfl
  · rfl

/-- A sequence whose first task has a result. -/
theorem run_bind_ok {first : ExceptT ε (StateM σ) α} (next : α → ExceptT ε (StateM σ) β)
    {state after : σ} {a : α} (h : first.run.run state = (.ok a, after)) :
    (first >>= next).run.run state = (next a).run.run after := by
  rw [run_bind, h]

/-- A sequence whose first task fails. -/
theorem run_bind_error {first : ExceptT ε (StateM σ) α} (next : α → ExceptT ε (StateM σ) β)
    {state after : σ} {cause : ε} (h : first.run.run state = (.error cause, after)) :
    (first >>= next).run.run state = (.error cause, after) := by
  rw [run_bind, h]

/-- A sequence that ends by turning the result into another one. -/
theorem run_bind_pure (task : ExceptT ε (StateM σ) α) (f : α → β) (state : σ) :
    (task >>= fun a ↦ pure (f a)).run.run state =
      ((task.run.run state).1.map f, (task.run.run state).2) := by
  rw [run_bind]
  rcases task.run.run state with ⟨cause | a, after⟩
  · rfl
  · rfl

/-- A sequence that begins by reading the state. -/
theorem run_get_bind (next : σ → ExceptT ε (StateM σ) β) (state : σ) :
    (get >>= next).run.run state = (next state).run.run state := rfl

/-- A sequence that begins by setting the state. -/
theorem run_set_bind (next : PUnit → ExceptT ε (StateM σ) β) (state after : σ) :
    (set after >>= next).run.run state = (next ⟨⟩).run.run after := rfl

end FlashPatch.Task
