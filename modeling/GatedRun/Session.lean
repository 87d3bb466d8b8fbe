import GatedRun.Execution.Step
import GatedRun.Runner

/-!
# Sessions

A session is the life of one runner: the runner itself, its interrupt and the flag of that, and
every execution that was ever begun with it. Executions may overlap, since the workers of an
interrupted one go on by themselves. The flag belongs to the runner, so all its executions look at
the same one; all else belongs to one execution alone.
-/

namespace GatedRun

/-- A runner, its interrupt with the flag, and its executions in the order in which they were
begun. -/
structure Session (τ α : Type) where
  /-- Absent once the runner was lost or let go. -/
  runner : Option (Runner τ)
  /-- The interrupt that the runner was made with; it is there as long as anybody has a handle. -/
  interrupt : Interrupt
  raised : Bool := false
  calls : List (Execution τ α) := []

/-- One step in a session. -/
inductive SessionMove (τ α : Type) where
  | extend (extension : Extension τ)
  | drop
  | begin (now : Instant)
  | run (call : Nat) (now : Instant) (move : RunMove α)
  | raise
  /-- Somebody takes the flag down. -/
  | take

/-- What a step in a session lets others know. -/
inductive SessionNote (τ α : Type) where
  /-- The runner was refused an extension, and is lost. -/
  | refused (error : RunError)
  | ofCall (call : Nat) (note : RunNote τ α)

namespace Session

variable {τ α : Type}

def ofRunner (runner : Runner τ) : Session τ α :=
  { runner := some runner, interrupt := runner.interrupt }

/-- A step of one execution. -/
def run (session : Session τ α) (call : Nat) (now : Instant) (move : RunMove α) :
    Option (Session τ α × List (SessionNote τ α)) :=
  match session.calls[call]? with
  | none => none
  | some execution =>
    match execution.step session.raised now move with
    | none => none
    | some stepped => some ({ session with
        raised := stepped.raised
        calls := session.calls.set call stepped.execution },
        stepped.notes.map (.ofCall call))

/-- The session after a step, and what the step lets others know, if the step is possible. -/
def step (session : Session τ α) : SessionMove τ α →
    Option (Session τ α × List (SessionNote τ α))
  | .extend extension =>
    match session.runner with
    | none => none
    | some runner =>
      match runner.extend extension with
      | .ok extended => some ({ session with runner := some extended }, [])
      -- An extension consumes the runner, so a refused one leaves none behind.
      | .error error => some ({ session with runner := none }, [.refused error])
  | .drop => some ({ session with runner := none }, [])
  | .begin now =>
    match session.runner with
    | none => none
    | some runner =>
      let (execution, notes) := Execution.start runner.tasks runner.config now
      some ({ session with calls := session.calls ++ [execution] },
        notes.map (.ofCall session.calls.length))
  | .run call now move => session.run call now move
  | .raise => some ({ session with raised := true }, [])
  | .take => some ({ session with raised := false }, [])

def isQuiet (session : Session τ α) : Bool := session.calls.all (·.isQuiet)

end Session

end GatedRun
