import GatedRun.Config
import GatedRun.Outcome
import GatedRun.ResultSet.Lazy
import GatedRun.Value

/-!
# Scripts

The body of a task or job in a scenario is a script: a list of actions, done one after the other.
The value of a script is the last value that one of its actions gave. An action can end the script
with an error or by unwinding, it can wait, and it can run further scripts as the tasks of a run of
its own (`Action.nested`), whose results it takes out in one of three ways (`Consumption`).
-/

namespace GatedRun.Scenario

/-- How a script takes out the results of a run that it did. -/
inductive Consumption where
  | collect
  /-- One value at a time; the first failure is raised. -/
  | lazy
  /-- All values; the first failure is returned, as its text. -/
  | tryCollect
  deriving DecidableEq, Repr

def ofValues : Except Payload (List Value) → BodyResult Value :=
  .ofTaken fun values => .returned (.list values)

/-- What a run inside a body means for the body: an error of the run is returned, and the results
are taken out. -/
def Consumption.conclude (consumption : Consumption) :
    Except RunError (ResultSet Value) → BodyResult Value
  | .error error => .failed (.run error)
  | .ok results =>
    match consumption with
    | .collect => ofValues results.collect
    | .lazy => ofValues results.lazyValues.collect
    | .tryCollect =>
      match results.tryCollect with
      | .ok values => .returned (.list values)
      | .error failure => .failed (.text failure.describe)

/-- An action on what all scripts share. -/
inductive SharedAction where
  | add (counter : String) (amount : Int64)
  | fetchAdd (counter : String) (amount : Int64)
  | max (counter : String) (bound : Int64)
  | min (counter : String) (bound : Int64)
  | get (counter : String)
  | log (entry : String)
  | countDown (latch : String)
  | enter (gauge : String)
  | leave (gauge : String)
  deriving Repr

/-- One action of a script. -/
inductive Action where
  | yield (value : Value)
  | fail (error : TaskError)
  | unwind (payload : Payload)
  /-- Unwinds with a payload whose disposal unwinds once more. This is for the jobs of pools only;
  no task of a run gets past it. -/
  | kill
  | raiseFailure (failure : TaskFailure)
  | shared (action : SharedAction)
  | waitFor (latch : String)
  /-- Raises the interrupt of the runner that the body is run by, if the body has its handle. -/
  | interrupt
  | threadName
  /-- The calls with one key do one script after another, and then the last one over and over. -/
  | nth (key : String) (scripts : List (List Action))
  | nested (tasks : List (List Action)) (threadCount : Option Nat) (config : Option Config)
      (consumption : Consumption)

abbrev Script := List Action

/-- A script as the body of a task. -/
structure Body where
  script : Script
  /-- Whether the body may return an error. Another one unwinds with the error's text. -/
  fallible : Bool := false
  /-- Whether the body is there for its effect alone, and its value does not matter. -/
  discards : Bool := false
  /-- Whether the body has the handle of the interrupt of the runner that it is run by. -/
  hasInterrupt : Bool := true

/-- How a body under way ended: with a result, or with a payload that takes its worker down. -/
inductive BodyEnding where
  | result (result : BodyResult Value)
  | killed

def Body.conclude (body : Body) : BodyResult Value → BodyResult Value
  | .returned value => .returned (if body.discards then .unit else value)
  | .failed error => if body.fallible then .failed error else .panicked (.string error.message)
  | .panicked payload => .panicked payload

end GatedRun.Scenario
