import RecordGate.Program

/-!
# Running programs

How a program runs, from how its parts run: a crash ends it, and what was done before stays done. A program
respects a relation of states if it cannot tell related states apart (`Program.Respects`).
-/

namespace RecordGate
set_option autoImplicit false

variable {σ α β : Type}

/-- Runs that answer the same and leave related states. -/
structure Tied (R : σ → σ → Prop) (x y : α × σ) : Prop where
  answer : y.1 = x.1
  states : R x.2 y.2

theorem Tied.map {R : σ → σ → Prop} {x y : α × σ} (tied : Tied R x y) (f : α → β) :
    Tied R (x.map f id) (y.map f id) :=
  ⟨congrArg f tied.answer, tied.states⟩

/-- The answer of both runs, and the states that they leave. -/
theorem Tied.split {R : σ → σ → Prop} {x y : α × σ} (tied : Tied R x y) :
    ∃ a s t, x = (a, s) ∧ y = (a, t) ∧ R s t :=
  ⟨x.1, x.2, y.2, rfl, Prod.ext tied.answer rfl, tied.states⟩

namespace Program

/-- A step after a step. -/
theorem step_bind (x : StateM σ α) (f : α → StateM σ β) (s : σ) :
    (x >>= f) s = f (x s).1 (x s).2 := rfl

theorem step_get (f : σ → StateM σ β) (s : σ) : ((get : StateM σ σ) >>= f) s = f s s := rfl

/-- A step that cannot crash. -/
@[simp] theorem run_lift (x : StateM σ α) (s : σ) :
    (liftM x : Program σ α).run s = (some (x s).1, (x s).2) := rfl

theorem run_bind (x : Program σ α) (f : α → Program σ β) (s : σ) :
    (x >>= f).run s =
      match x.run s with
      | (some a, t) => (f a).run t
      | (none, t) => (none, t) := by
  have opened : (x >>= f).run s =
      (match x.run s with
      | (found, t) => (match found with
        | some a => (f a).run
        | none => (pure none : StateM σ (Option β))) t) := rfl
  rw [opened]
  rcases x.run s with ⟨_ | a, t⟩ <;> rfl

@[simp] theorem run_map (f : α → β) (x : Program σ α) (s : σ) :
    (f <$> x).run s = ((x.run s).1.map f, (x.run s).2) := by
  have opened : (f <$> x).run s = (x >>= fun a => pure (f a)).run s := rfl
  rw [opened, run_bind]
  rcases x.run s with ⟨_ | a, t⟩ <;> rfl

theorem run_map_bind {γ : Type} (f : β → γ) (g : α → β) (x : Program σ α) (s : σ) :
    (f <$> (do return g (← x))).run s = ((fun a => f (g a)) <$> x).run s := by
  rw [run_map, run_bind, run_map]
  rcases x.run s with ⟨_ | a, t⟩ <;> rfl

/-- After a crash of the first program the second is run. -/
theorem run_orElse (x y : Program σ α) (s : σ) :
    (x <|> y).run s =
      match x.run s with
      | (some a, t) => (some a, t)
      | (none, t) => y.run t := by
  have opened : (Option.elimM x.run y.run fun a => pure (some a)) s =
      (x.run s).1.elim y.run (fun a => pure (some a)) (x.run s).2 := rfl
  rw [OptionT.run_orElse, opened]
  rcases x.run s with ⟨_ | a, t⟩ <;> rfl

/-! ## Related states -/

/-- In related states the program answers the same, and it leaves related states. -/
def Respects (R : σ → σ → Prop) (x : Program σ α) : Prop :=
  ∀ ⦃s t : σ⦄, R s t → Tied R (x.run s) (x.run t)

namespace Respects

variable {R : σ → σ → Prop} {x y : Program σ α} {f : α → Program σ β}

theorem pure (a : α) : Respects R (Pure.pure a : Program σ α) := fun _ _ related => ⟨rfl, related⟩

theorem failure : Respects R (Alternative.failure : Program σ α) := fun _ _ related => ⟨rfl, related⟩

theorem bind (first : Respects R x) (rest : ∀ a, Respects R (f a)) : Respects R (x >>= f) := by
  intro s t related
  obtain ⟨found, s', t', here, there, states⟩ := (first related).split
  rw [run_bind, run_bind, here, there]
  cases found with
  | none => exact ⟨rfl, states⟩
  | some a => exact rest a states

theorem map (g : α → β) (first : Respects R x) : Respects R (g <$> x) := by
  intro s t related
  rw [run_map, run_map]
  exact (first related).map (Option.map g)

theorem orElse (first : Respects R x) (second : Respects R y) : Respects R (x <|> y) := by
  intro s t related
  obtain ⟨found, s', t', here, there, states⟩ := (first related).split
  rw [run_orElse, run_orElse, here, there]
  cases found with
  | none => exact second states
  | some a => exact ⟨rfl, states⟩

end Respects

end Program

end RecordGate
