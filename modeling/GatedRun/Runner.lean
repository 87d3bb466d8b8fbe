import GatedRun.Config

/-!
# Runners

A runner is a list of tasks with a configuration, and an interrupt by which its runs can be cut
short. It begins with an `Opening` and grows by `Extension`s; each may be refused, and a runner that
was refused an extension is lost. So a runner always has a task, and its configuration is sound. The
interrupt is made with the runner, and stays with it: a handle that was taken before an extension is
a handle on the runner's interrupt after it.
-/

namespace GatedRun

open Text (Inspection)

/-- The way a runner begins. -/
inductive Opening (τ : Type) where
  | task (task : τ)
  | repeated (task : τ) (count : Nat)
  | tasks (tasks : List τ)
  deriving Repr

/-- What can be added to a runner or changed in it. -/
inductive Extension (τ : Type) where
  | task (task : τ)
  | repeated (task : τ) (count : Nat)
  | threadCount (count : Nat)
  | config (config : Config)
  deriving Repr

/-- The opening with each task replaced. -/
def Opening.map {τ σ : Type} (f : τ → σ) : Opening τ → Opening σ
  | .task single => .task (f single)
  | .repeated single count => .repeated (f single) count
  | .tasks several => .tasks (several.map f)

/-- The extension with its task replaced. -/
def Extension.map {τ σ : Type} (f : τ → σ) : Extension τ → Extension σ
  | .task single => .task (f single)
  | .repeated single count => .repeated (f single) count
  | .threadCount count => .threadCount count
  | .config replacement => .config replacement

/-- An interrupt, known by its number. Whoever has a handle on it can put its flag up. -/
structure Interrupt where
  number : Nat
  deriving DecidableEq, Repr

/-- A list of tasks, how they are to be run, and the interrupt of the runs. -/
structure Runner (τ : Type) where
  tasks : List τ
  config : Config := {}
  interrupt : Interrupt
  deriving Repr

namespace Opening

variable {τ : Type}

/-- The tasks that an opening names, each once. -/
def handles : Opening τ → List τ
  | .task single => [single]
  | .repeated single _ => [single]
  | .tasks several => several

/-- The opening's tasks, each as often as it asks for. -/
def added : Opening τ → List τ
  | .task single => [single]
  | .repeated single count => List.replicate count single
  | .tasks several => several

/-- Refuses an opening that repeats a task no times, or that has no task. -/
def check : Opening τ → Except RunError Unit
  | .task _ => .ok ()
  | .repeated _ count => (checkRepeatCount count).mapError .invalidArgument
  | .tasks several => if several.isEmpty then .error .noTasks else .ok ()

end Opening

namespace Extension

variable {τ : Type}

/-- The tasks that an extension names, each once. -/
def handles : Extension τ → List τ
  | .task single => [single]
  | .repeated single _ => [single]
  | _ => []

/-- The extension's tasks, each as often as it asks for. -/
def added : Extension τ → List τ
  | .task single => [single]
  | .repeated single count => List.replicate count single
  | _ => []

/-- The configuration after the extension. Refuses to repeat a task no times, and any configuration
that is not sound. -/
def configure (config : Config) : Extension τ → Except ArgumentFault Config
  | .task _ => .ok config
  | .repeated _ count => (checkRepeatCount count).map fun _ => config
  | .threadCount count => config.withThreadCount count
  | .config replacement => replacement.check.map fun _ => replacement

end Extension

namespace Runner

variable {τ : Type}

/-- A runner is opened with an interrupt that was made for it. -/
def ofOpening (opening : Opening τ) (interrupt : Interrupt) : Except RunError (Runner τ) :=
  opening.check.map fun _ => { tasks := opening.added, interrupt }

/-- The runner with something added or changed. -/
def extend (runner : Runner τ) (extension : Extension τ) : Except RunError (Runner τ) :=
  match extension.configure runner.config with
  | .error fault => .error (.invalidArgument fault)
  | .ok config => .ok { runner with tasks := runner.tasks ++ extension.added, config }

/-- A runner with a list of extensions, the first refusal ending it. -/
def extendAll (runner : Runner τ) : List (Extension τ) → Except RunError (Runner τ)
  | [] => .ok runner
  | extension :: rest =>
    match runner.extend extension with
    | .error error => .error error
    | .ok extended => extended.extendAll rest

/-- A runner from its opening and its extensions. -/
def build (opening : Opening τ) (extensions : List (Extension τ)) (interrupt : Interrupt) :
    Except RunError (Runner τ) :=
  match ofOpening opening interrupt with
  | .error error => .error error
  | .ok runner => runner.extendAll extensions

def taskCount (runner : Runner τ) : Nat := runner.tasks.length

def poolSize (runner : Runner τ) : Nat := runner.config.poolSize runner.taskCount

def inspect (runner : Runner τ) : Inspection :=
  .record "ConcurrentRunner" [.labelled "tasks" (.number runner.taskCount),
    .labelled "config" runner.config.inspect] true

end Runner

end GatedRun
