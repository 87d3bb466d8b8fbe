import GatedRun.Session

/-!
# Workshops

A workshop holds tasks, the runners that are made of them, and the runs of these runners. A task is
a handle on a body, and a body is shared by all its handles: the tasks that have a name, the entries
in the runners' lists, and the jobs that are not over. Each of these is one handle, made and let go
by the steps below, and `Workshop.handles` counts them for each body. A new body gets into a
workshop with its first task. One that somebody holds on to outside of any task, to make further
tasks of it, would have a handle more than is counted here, and there are none such.

A runner is made with an interrupt of its own, and whoever has a handle on an interrupt, of
whichever runner, can put its flag up or down.
-/

namespace GatedRun

open Text (Inspection)

/-- Where the task comes from that goes into a runner. -/
inductive TaskSource where
  | fresh
  | copy (name : String)
  deriving DecidableEq, Repr

/-- Named tasks, runners with their runs, and a count of the handles on each body. -/
structure Workshop (α : Type) where
  /-- How many handles there are on each body; bodies are known by their positions. -/
  handles : List Nat := []
  tasks : List (String × Nat) := []
  sessions : List (Session Nat α) := []
  /-- How many interrupts were made; the next one is known by this number. -/
  interrupts : Nat := 0

/-- One step in a workshop. -/
inductive WorkshopMove (α : Type) where
  | define (name : String)
  | copyTask (name copy : String)
  | dropTask (name : String)
  | openRunner (opening : Opening TaskSource)
  | extend (session : Nat) (extension : Extension TaskSource)
  | dropRunner (session : Nat)
  | begin (session : Nat) (now : Instant)
  | run (session call : Nat) (now : Instant) (move : RunMove α)
  | raise (handle : Interrupt)
  | take (handle : Interrupt)

/-- What a step in a workshop lets others know. -/
inductive WorkshopNote (α : Type) where
  /-- A runner was refused its opening or an extension. -/
  | refused (error : RunError)
  | ofCall (session call : Nat) (note : RunNote Nat α)

namespace Workshop

variable {α : Type}

/-! ### Handles -/

def handlesOn (workshop : Workshop α) (body : Nat) : Nat := workshop.handles.getD body 0

def retain (workshop : Workshop α) (body count : Nat) : Workshop α :=
  { workshop with handles := workshop.handles.modify body (· + count) }

def release (workshop : Workshop α) (bodies : List Nat) : Workshop α :=
  { workshop with
    handles := bodies.foldl (fun handles body => handles.modify body (· - 1)) workshop.handles }

def newBody (workshop : Workshop α) : Nat × Workshop α :=
  (workshop.handles.length, { workshop with handles := workshop.handles ++ [1] })

def task? (workshop : Workshop α) (name : String) : Option Nat := workshop.tasks.lookup name

def inspectTask? (workshop : Workshop α) (name : String) : Option Inspection :=
  (workshop.task? name).map fun body =>
    .record "Task" [.labelled "shared" (.number (workshop.handlesOn body))] false

/-- A handle that is held for the time being. A name that is not known gives none. -/
def obtain? (workshop : Workshop α) : TaskSource → Option (Nat × Workshop α)
  | .fresh => some workshop.newBody
  | .copy name => (workshop.task? name).map fun body => (body, workshop.retain body 1)

def obtainAll? (workshop : Workshop α) : List TaskSource → Option (List Nat × Workshop α)
  | [] => some ([], workshop)
  | source :: rest =>
    match workshop.obtain? source with
    | none => none
    | some (body, held) => (held.obtainAll? rest).map fun (bodies, after) => (body :: bodies, after)

/-! ### Named tasks -/

def withoutTask (workshop : Workshop α) (name : String) : Workshop α :=
  match workshop.task? name with
  | none => workshop
  | some body => { workshop.release [body] with
      tasks := workshop.tasks.filter (·.1 != name) }

def bind (workshop : Workshop α) (name : String) (body : Nat) : Workshop α :=
  -- The task that had the name before lets its handle go.
  let freed := workshop.withoutTask name
  { freed with tasks := (name, body) :: freed.tasks }

/-! ### Runners -/

/-- The opening with a held handle for each source. -/
def obtainOpening? (workshop : Workshop α) :
    Opening TaskSource → Option (Opening Nat × Workshop α)
  | .task source => (workshop.obtain? source).map fun (body, after) => (.task body, after)
  | .repeated source count =>
    (workshop.obtain? source).map fun (body, after) => (.repeated body count, after)
  | .tasks sources =>
    (workshop.obtainAll? sources).map fun (bodies, after) => (.tasks bodies, after)

/-- The extension with a held handle for its source. -/
def obtainExtension? (workshop : Workshop α) :
    Extension TaskSource → Option (Extension Nat × Workshop α)
  | .task source => (workshop.obtain? source).map fun (body, after) => (.task body, after)
  | .repeated source count =>
    (workshop.obtain? source).map fun (body, after) => (.repeated body count, after)
  | .threadCount count => some (.threadCount count, workshop)
  | .config config => some (.config config, workshop)

/-- A held handle becomes several entries of a list: all but one need a new handle. -/
def retainRepeats (workshop : Workshop α) : List Nat → Workshop α
  | [] => workshop
  | body :: rest => workshop.retain body rest.length

/-- A runner is made, and an interrupt for it. When it is refused, the handles held for it are let
go. -/
def openRunner (workshop : Workshop α) (opening : Opening TaskSource) :
    Option (Workshop α × List (WorkshopNote α)) :=
  match workshop.obtainOpening? opening with
  | none => none
  | some (obtained, held) =>
    match Runner.ofOpening obtained ⟨workshop.interrupts⟩ with
    | .error error => some (held.release obtained.handles, [.refused error])
    | .ok runner =>
      let kept := match obtained with
        | .repeated _ _ => held.retainRepeats obtained.added
        | _ => held
      some ({ kept with
        sessions := kept.sessions ++ [.ofRunner runner]
        interrupts := workshop.interrupts + 1 }, [])

def runner? (workshop : Workshop α) (session : Nat) : Option (Runner Nat) :=
  workshop.sessions[session]?.bind (·.runner)

def account (workshop : Workshop α) : SessionNote Nat α → Workshop α
  | .ofCall _ (.handleTaken body) => workshop.retain body 1
  | .ofCall _ (.handleReleased body) => workshop.release [body]
  | _ => workshop

def noteOf (session : Nat) : SessionNote Nat α → WorkshopNote α
  | .refused error => .refused error
  | .ofCall call note => .ofCall session call note

/-- A step in one session. -/
def inSession (workshop : Workshop α) (session : Nat) (move : SessionMove Nat α) :
    Option (Workshop α × List (WorkshopNote α)) :=
  match workshop.sessions[session]? with
  | none => none
  | some current =>
    match current.step move with
    | none => none
    | some (after, notes) =>
      -- The jobs of a run take and let go of handles as its notes tell.
      some (notes.foldl account { workshop with sessions := workshop.sessions.set session after },
        notes.map (noteOf session))

/-- The session whose interrupt the handle is on. -/
def sessionOf? (workshop : Workshop α) (handle : Interrupt) : Option Nat :=
  workshop.sessions.findIdx? (·.interrupt == handle)

/-- A step in the session whose interrupt the handle is on. -/
def onInterrupt (workshop : Workshop α) (handle : Interrupt) (move : SessionMove Nat α) :
    Option (Workshop α × List (WorkshopNote α)) :=
  match workshop.sessionOf? handle with
  | none => none
  | some session => workshop.inSession session move

/-- A runner gets an extension. When it is refused, the runner is lost with all its handles, and the
handle held for the extension is let go. -/
def extend (workshop : Workshop α) (session : Nat) (extension : Extension TaskSource) :
    Option (Workshop α × List (WorkshopNote α)) :=
  match workshop.runner? session, workshop.obtainExtension? extension with
  | some runner, some (obtained, held) =>
    match runner.extend obtained with
    | .error _ =>
      -- The session drops the runner, so its entries are let go here.
      (held.release (obtained.handles ++ runner.tasks)).inSession session (.extend obtained)
    | .ok _ =>
      let kept := match obtained with
        | .repeated _ _ => held.retainRepeats obtained.added
        | _ => held
      kept.inSession session (.extend obtained)
  | _, _ => none

def dropRunner (workshop : Workshop α) (session : Nat) :
    Option (Workshop α × List (WorkshopNote α)) :=
  match workshop.runner? session with
  | none => none
  | some runner => (workshop.release runner.tasks).inSession session .drop

/-- The workshop after a step, and what the step lets others know, if the step is possible. -/
def step (workshop : Workshop α) : WorkshopMove α → Option (Workshop α × List (WorkshopNote α))
  | .define name =>
    let (body, held) := workshop.newBody
    some (held.bind name body, [])
  | .copyTask name copy =>
    (workshop.obtain? (.copy name)).map fun (body, held) => (held.bind copy body, [])
  | .dropTask name =>
    (workshop.task? name).map fun _ => (workshop.withoutTask name, [])
  | .openRunner opening => workshop.openRunner opening
  | .extend session extension => workshop.extend session extension
  | .dropRunner session => workshop.dropRunner session
  | .begin session now => workshop.inSession session (.begin now)
  | .run session call now move => workshop.inSession session (.run call now move)
  | .raise handle => workshop.onInterrupt handle .raise
  | .take handle => workshop.onInterrupt handle .take

end Workshop

end GatedRun
