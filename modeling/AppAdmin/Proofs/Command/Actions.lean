import AppAdmin.Command.Run
import AppAdmin.Proofs.Client.Call

/-!
What the parts of a run come to. A part that operates the API leaves behind the exchange of that
operation; all other parts are silent: they send nothing, whatever they print, read or write.
-/

namespace AppAdmin

namespace Connection

variable {ν : Type}

end Connection

namespace Command.Action

variable {ν α β : Type}

/-- What a part of a run comes to, and how far the run is then. -/
def outcome (action : Action ν α) (p : Progress ν) : Except Failure α × Progress ν :=
  (action.run.run p).run

@[simp]
theorem outcome_pure (value : α) (p : Progress ν) :
    outcome (pure value) p = (.ok value, p) :=
  rfl

@[simp]
theorem outcome_throw (failure : Failure) (p : Progress ν) :
    outcome (throw failure : Action ν α) p = (.error failure, p) :=
  rfl

theorem outcome_bind (action : Action ν α) (next : α → Action ν β) (p : Progress ν) :
    outcome (action >>= next) p =
      match outcome action p with
      | (.ok value, q) => outcome (next value) q
      | (.error failure, q) => (.error failure, q) := by
  simp only [outcome, ExceptT.run_bind, StateT.run_bind, Id.run_bind]
  obtain ⟨result, q⟩ := (action.run.run p).run
  cases result with
  | ok value => rfl
  | error failure => rfl

theorem outcome_get_bind (next : Progress ν → Action ν β) (p : Progress ν) :
    outcome (get >>= next) p = outcome (next p) p :=
  rfl

theorem outcome_ofExcept {ε : Type} (failure : ε → Failure) (result : Except ε α)
    (p : Progress ν) : outcome (ofExcept failure result) p = (result.mapError failure, p) := by
  cases result <;> rfl

theorem outcome_ofExcept_bind {ε : Type} (failure : ε → Failure) (result : Except ε α)
    (next : α → Action ν β) (p : Progress ν) :
    outcome (ofExcept failure result >>= next) p =
      match result with
      | .ok value => outcome (next value) p
      | .error e => (.error (failure e), p) := by
  cases result <;> rfl

theorem outcome_operate (operation : Operation (Line ν) α) (p : Progress ν) :
    outcome (operate operation) p
      = ((operation.outcome p.exchange).1.mapError .client,
        { p with exchange := (operation.outcome p.exchange).2 }) := by
  have hconverse : outcome (converse operation.run) p
      = (.ok (operation.outcome p.exchange).1,
        { p with exchange := (operation.outcome p.exchange).2 }) := rfl
  rw [operate, outcome_bind, hconverse]
  exact outcome_ofExcept ..

theorem outcome_operate_bind (operation : Operation (Line ν) α) (next : α → Action ν β)
    (p : Progress ν) :
    outcome (operate operation >>= next) p =
      match operation.outcome p.exchange with
      | (.ok value, x) => outcome (next value) { p with exchange := x }
      | (.error e, x) => (.error (.client e), { p with exchange := x }) := by
  rw [outcome_bind, outcome_operate]
  cases operation.outcome p.exchange with
  | mk result x => cases result <;> rfl

/-- The part sends nothing. -/
def Silent (action : Action ν α) : Prop :=
  ∀ p, (outcome action p).2.exchange.service = p.exchange.service

theorem Silent.bind {action : Action ν α} {next : α → Action ν β} (h : Silent action)
    (hnext : ∀ value, Silent (next value)) : Silent (action >>= next) := by
  intro p
  rw [outcome_bind, ← h p]
  cases outcome action p with
  | mk result q =>
      cases result with
      | ok value => exact hnext value q
      | error failure => rfl

end Command.Action

end AppAdmin
