import GatedRun.Proofs.Execution.Completion
import GatedRun.Session
import Mathlib.Data.List.Basic

/-!
# Building a runner call by call

A call that opens or extends a runner is refused for its own arguments alone, whatever runner it is
made on. What it is refused for is said here once more without the checks (`Opening.refusal?`,
`Extension.refusal?`), and so are the tasks that it registers, each with how many times
(`Opening.registrations`, `Extension.registrations`), and what it does to the configuration
(`Extension.configured`). A chain of calls then ends at the first that is refused, or it comes to a
runner whose every field can be told from the calls, and which is fit to be run (`build_chain`).
-/

namespace GatedRun

variable {τ β : Type} {interrupt : Interrupt}

/-! ### What is wrong with a call -/

/-- Why a call is refused: for an argument, by its name, or because it brings no tasks. -/
inductive Refusal where
  | argument (name : String)
  | noTasks
  deriving DecidableEq, Repr

def RunError.refusal? : RunError → Option Refusal
  | .invalidArgument fault => some (.argument fault.name)
  | .noTasks => some .noTasks
  | _ => none

def repeatFault? (count : Nat) : Option String :=
  if count = 0 then some "repeat_count" else none

def threadCountFault? (count : Nat) : Option String :=
  if count < 2 then some "thread_count" else none

def threadNameFault? (label : String) : Option String :=
  if '\x00' ∈ label.toList then some "thread_name_prefix" else none

/-- The name of the first field that no run could use. -/
def Config.fault? (config : Config) : Option String :=
  (config.threadCount.bind threadCountFault?).or (threadNameFault? config.threadNamePrefix)

namespace Opening

def refusal? : Opening τ → Option Refusal
  | .task _ => none
  | .repeated _ count => (repeatFault? count).map .argument
  | .tasks several => if several.isEmpty then some .noTasks else none

end Opening

namespace Extension

def fault? : Extension τ → Option String
  | .task _ => none
  | .repeated _ count => repeatFault? count
  | .threadCount count => threadCountFault? count
  | .config replacement => replacement.fault?

def refusal? (extension : Extension τ) : Option Refusal := extension.fault?.map .argument

/-- The configuration after an extension that is not refused. -/
def configured (config : Config) : Extension τ → Config
  | .threadCount count => { config with threadCount := some count }
  | .config replacement => replacement
  | _ => config

def config? : Extension τ → Option Config
  | .config replacement => some replacement
  | _ => none

def threadCount? : Extension τ → Option Nat
  | .threadCount count => some count
  | _ => none

end Extension

/-! ### What a call registers -/

/-- The tasks that the call registers, each with how many times. -/
def Opening.registrations : Opening τ → List (τ × Nat)
  | .task single => [(single, 1)]
  | .repeated single count => [(single, count)]
  | .tasks several => several.map fun single => (single, 1)

/-- The tasks that the call registers, each with how many times. -/
def Extension.registrations : Extension τ → List (τ × Nat)
  | .task single => [(single, 1)]
  | .repeated single count => [(single, count)]
  | .threadCount _ | .config _ => []

theorem Opening.added_eq (opening : Opening τ) :
    opening.added = opening.registrations.flatMap fun entry => List.replicate entry.2 entry.1 := by
  cases opening with
  | task single => rfl
  | repeated single count => simp [added, registrations]
  | tasks several => simp [added, registrations, List.flatMap_map]

theorem Extension.added_eq (extension : Extension τ) : extension.added =
    extension.registrations.flatMap fun entry => List.replicate entry.2 entry.1 := by
  cases extension with
  | task single => rfl
  | repeated single count => simp [added, registrations]
  | threadCount count | config replacement => rfl

/-- What a chain of calls adds are the registrations of its calls, in their order. -/
theorem added_chain (opening : Opening τ) (extensions : List (Extension τ)) :
    opening.added ++ extensions.flatMap Extension.added =
      (opening.registrations ++ extensions.flatMap Extension.registrations).flatMap
        fun entry => List.replicate entry.2 entry.1 := by
  rw [List.flatMap_append, List.flatMap_assoc, ← opening.added_eq, funext Extension.added_eq]

/-! ### The checks find it -/

/-- The name that a check refuses its argument by. -/
def faultName? : Except ArgumentFault β → Option String
  | .ok _ => none
  | .error fault => some fault.name

@[simp] theorem faultName?_ok (value : β) : faultName? (.ok value) = none := rfl

@[simp] theorem faultName?_error (fault : ArgumentFault) :
    faultName? (.error fault : Except ArgumentFault β) = some fault.name := rfl

theorem ok_of_faultName? (answer : Except ArgumentFault β) (accepted : faultName? answer = none) :
    ∃ value, answer = .ok value := by
  cases answer with
  | ok value => exact ⟨value, rfl⟩
  | error fault => cases accepted

theorem error_of_faultName? (answer : Except ArgumentFault β) (name : String)
    (refused : faultName? answer = some name) :
    ∃ fault, answer = .error fault ∧ fault.name = name := by
  cases answer with
  | ok value => cases refused
  | error fault => exact ⟨fault, rfl, Option.some.inj refused⟩

@[simp] theorem faultName?_map {γ : Type} (f : β → γ) (answer : Except ArgumentFault β) :
    faultName? (answer.map f) = faultName? answer := by
  cases answer <;> rfl

@[simp] theorem faultName?_checkRepeatCount (count : Nat) :
    faultName? (checkRepeatCount count) = repeatFault? count := by
  unfold checkRepeatCount repeatFault?
  split <;> rfl

@[simp] theorem faultName?_checkThreadCount (count : Nat) :
    faultName? (checkThreadCount count) = threadCountFault? count := by
  unfold checkThreadCount minThreadCount threadCountFault?
  split <;> rfl

@[simp] theorem faultName?_checkThreadNamePrefix (label : String) :
    faultName? (checkThreadNamePrefix label) = threadNameFault? label := by
  have missed := nulOffset?_eq_none_iff label.toList
  unfold checkThreadNamePrefix threadNameFault?
  cases found : nulOffset? label.toList with
  | none => rw [if_neg (missed.mp found)]; rfl
  | some offset =>
    have has : '\x00' ∈ label.toList := by
      by_contra lacks
      rw [missed.mpr lacks] at found
      cases found
    rw [if_pos has]
    rfl

/-- The check of a configuration finds the first field that no run could use. -/
@[simp] theorem faultName?_check (config : Config) : faultName? config.check = config.fault? := by
  unfold Config.check Config.fault?
  cases config.threadCount with
  | none => simp
  | some count =>
    rw [Option.bind_some, ← faultName?_checkThreadCount]
    cases checked : checkThreadCount count <;> simp [checked]

@[simp] theorem faultName?_configure (config : Config) (extension : Extension τ) :
    faultName? (extension.configure config) = extension.fault? := by
  cases extension with
  | task single => rfl
  | repeated single count => simp [Extension.configure, Extension.fault?]
  | threadCount count =>
    rw [Extension.configure, Config.withThreadCount, Extension.fault?,
      ← faultName?_checkThreadCount]
    cases checkThreadCount count <;> rfl
  | config replacement => simp [Extension.configure, Extension.fault?]

theorem Extension.configure_eq (config next : Config) (extension : Extension τ)
    (done : extension.configure config = .ok next) : next = extension.configured config := by
  cases extension with
  | task single =>
    cases done
    rfl
  | repeated single count =>
    rw [configure] at done
    cases checked : checkRepeatCount count <;> simp_all [Except.map, configured]
  | threadCount count =>
    rw [configure, Config.withThreadCount] at done
    cases checked : checkThreadCount count <;> simp_all [configured]
  | config replacement =>
    rw [configure] at done
    cases checked : replacement.check <;> simp_all [Except.map, configured]

namespace Runner

theorem ofOpening_of_refused (opening : Opening τ) (refusal : Refusal)
    (refused : opening.refusal? = some refusal) :
    ∃ error, ofOpening opening interrupt = .error error ∧ error.refusal? = some refusal := by
  cases opening with
  | task single => cases refused
  | repeated single count =>
    obtain ⟨name, named, rfl⟩ := Option.map_eq_some_iff.mp refused
    obtain ⟨fault, checked, rfl⟩ := error_of_faultName? (checkRepeatCount count) name
      ((faultName?_checkRepeatCount count).trans named)
    exact ⟨.invalidArgument fault, by rw [ofOpening, Opening.check, checked]; rfl, rfl⟩
  | tasks several =>
    rw [Opening.refusal?] at refused
    split at refused
    next empty =>
      cases refused
      exact ⟨.noTasks, by rw [ofOpening, Opening.check, if_pos empty]; rfl, rfl⟩
    · cases refused

theorem ofOpening_of_accepted (opening : Opening τ) (accepted : opening.refusal? = none)
    (interrupt : Interrupt) :
    ofOpening opening interrupt = .ok { tasks := opening.added, interrupt } := by
  cases opening with
  | task single => rfl
  | repeated single count =>
    have faultless := Option.map_eq_none_iff.mp accepted
    obtain ⟨_, checked⟩ := ok_of_faultName? (checkRepeatCount count)
      ((faultName?_checkRepeatCount count).trans faultless)
    rw [ofOpening, Opening.check, checked]
    rfl
  | tasks several =>
    rw [Opening.refusal?] at accepted
    split at accepted
    · cases accepted
    next some =>
      rw [ofOpening, Opening.check, if_neg some]
      rfl

theorem extend_of_refused (runner : Runner τ) (extension : Extension τ) (refusal : Refusal)
    (refused : extension.refusal? = some refusal) :
    ∃ error, runner.extend extension = .error error ∧ error.refusal? = some refusal := by
  obtain ⟨name, named, rfl⟩ := Option.map_eq_some_iff.mp refused
  obtain ⟨fault, configured, rfl⟩ := error_of_faultName? (extension.configure runner.config) name
    ((faultName?_configure _ extension).trans named)
  exact ⟨.invalidArgument fault, by rw [extend, configured], rfl⟩

theorem extend_of_accepted (runner : Runner τ) (extension : Extension τ)
    (accepted : extension.refusal? = none) :
    runner.extend extension = .ok { runner with
      tasks := runner.tasks ++ extension.added
      config := extension.configured runner.config } := by
  have faultless := Option.map_eq_none_iff.mp accepted
  obtain ⟨config, configured⟩ := ok_of_faultName? (extension.configure runner.config)
    ((faultName?_configure _ extension).trans faultless)
  rw [extend, configured, ← extension.configure_eq runner.config config configured]

/-! ### A chain of calls -/

theorem build_of_opened (opening : Opening τ) (first : Runner τ) (extensions : List (Extension τ))
    (opened : ofOpening opening interrupt = .ok first) :
    build opening extensions interrupt = first.extendAll extensions := by
  rw [build, opened]

/-- A chain that is not refused adds all tasks, and each call changes the configuration in turn. -/
theorem extendAll_of_accepted (runner : Runner τ) (extensions : List (Extension τ))
    (accepted : ∀ extension ∈ extensions, extension.refusal? = none) :
    runner.extendAll extensions = .ok { runner with
      tasks := runner.tasks ++ extensions.flatMap Extension.added
      config := extensions.foldl Extension.configured runner.config } := by
  induction extensions generalizing runner with
  | nil => simp [extendAll]
  | cons extension rest ih =>
    obtain ⟨first, others⟩ := List.forall_mem_cons.mp accepted
    rw [extendAll, runner.extend_of_accepted extension first]
    simp [ih _ others]

/-- A chain ends at its first call that is refused. -/
theorem extendAll_of_refused (runner : Runner τ) (before after : List (Extension τ))
    (step : Extension τ) (accepted : ∀ extension ∈ before, extension.refusal? = none)
    (refusal : Refusal) (refused : step.refusal? = some refusal) :
    ∃ extended error, runner.extendAll before = .ok extended ∧ extended.extend step = .error error ∧
      runner.extendAll (before ++ step :: after) = .error error ∧
      error.refusal? = some refusal := by
  induction before generalizing runner with
  | nil =>
    obtain ⟨error, failed, told⟩ := runner.extend_of_refused step refusal refused
    exact ⟨runner, error, rfl, failed, by rw [List.nil_append, extendAll, failed], told⟩
  | cons extension rest ih =>
    obtain ⟨first, others⟩ := List.forall_mem_cons.mp accepted
    have extended := runner.extend_of_accepted extension first
    simp only [List.cons_append, extendAll, extended]
    exact ih _ others

/-- Without a new configuration, the last bound that was set holds. -/
theorem foldl_configured (config : Config) (extensions : List (Extension τ))
    (kept : ∀ extension ∈ extensions, extension.config? = none) :
    extensions.foldl Extension.configured config = { config with
      threadCount := (extensions.filterMap Extension.threadCount?).getLast?.or
        config.threadCount } := by
  induction extensions generalizing config with
  | nil => rfl
  | cons extension rest ih =>
    obtain ⟨first, others⟩ := List.forall_mem_cons.mp kept
    rw [List.foldl_cons, ih _ others]
    cases extension with
    | task single | repeated single count => rfl
    | threadCount count =>
      simp [Extension.configured, Extension.threadCount?, List.getLast?_cons]
    | config replacement => cases first

theorem foldl_configured_last (config last : Config) (before after : List (Extension τ))
    (kept : ∀ extension ∈ after, extension.config? = none) :
    (before ++ .config last :: after).foldl Extension.configured config = { last with
      threadCount := (after.filterMap Extension.threadCount?).getLast?.or last.threadCount } := by
  rw [List.foldl_append, List.foldl_cons]
  exact foldl_configured last after kept

end Runner

/-! ### With a handle at hand -/

namespace SessionMove

variable {α : Type}

/-- Whether the step extends the runner, or somebody who has a handle raises the flag or takes it
down. -/
def prepares : SessionMove τ α → Bool
  | .extend _ | .raise | .take => true
  | _ => false

def extension? : SessionMove τ α → Option (Extension τ)
  | .extend extension => some extension
  | _ => none

/-- What the step makes of the flag. -/
def flag? : SessionMove τ α → Option Bool
  | .raise => some true
  | .take => some false
  | _ => none

end SessionMove

/-- While a runner is built, its flag is as it was put last, whenever the handle was taken. -/
theorem Session.replay_prepares {α : Type} (session : Session τ α) (runner extended : Runner τ)
    (holds : session.runner = some runner) (moves : List (SessionMove τ α))
    (prepares : ∀ move ∈ moves, move.prepares = true)
    (done : runner.extendAll (moves.filterMap SessionMove.extension?) = .ok extended) :
    replay step session moves = some ({ session with
      runner := some extended
      raised := (moves.filterMap SessionMove.flag?).getLast?.getD session.raised }, []) := by
  induction moves generalizing session runner with
  | nil =>
    cases done
    rw [← holds]
    rfl
  | cons move rest ih =>
    obtain ⟨first, others⟩ := List.forall_mem_cons.mp prepares
    cases move with
    | extend extension =>
      rw [List.filterMap_cons_some (by rfl), Runner.extendAll] at done
      split at done
      · cases done
      next next extended =>
        -- The hypothesis is about the session that has the extended runner.
        rw [replay, Session.step, holds]
        simp only [extended]
        rw [ih _ next rfl others done]
        rfl
    | raise =>
      rw [List.filterMap_cons_none (by rfl)] at done
      rw [replay, Session.step, List.filterMap_cons_some (by rfl), List.getLast?_cons]
      simp only [ih { session with raised := true } runner holds others done]
      rfl
    | take =>
      rw [List.filterMap_cons_none (by rfl)] at done
      rw [replay, Session.step, List.filterMap_cons_some (by rfl), List.getLast?_cons]
      simp only [ih { session with raised := false } runner holds others done]
      rfl
    | begin now | drop | run call now own => cases first

/-! ### What a chain comes to -/

namespace Runner

/-- Whatever a run of a runner that was built returns is of one of three kinds. -/
theorem result_of_build {α : Type} (opening : Opening τ) (extensions : List (Extension τ))
    (runner : Runner τ) (built : build opening extensions interrupt = .ok runner)
    (execution : Execution τ α) (notes : List (RunNote τ α))
    (reached : Execution.Reaches runner.tasks runner.config execution notes)
    (result : Except RunError (ResultSet α)) (returned : execution.result? = some result) :
    (∃ results, result = .ok results) ∨ (∃ phase, result = .error (.interrupted phase)) ∨
      ∃ fault, result = .error (.spawn fault) := by
  have sound := reached.sound (build_sound opening extensions runner built)
  rcases sound.result_cases result returned with ok | completion | readiness | refused
  · exact .inl ok
  · exact .inr (.inl ⟨_, completion⟩)
  · exact .inr (.inl ⟨_, readiness⟩)
  · exact .inr (.inr refused)

/-- A chain of calls is refused at its first call that has something wrong with it, and for just
that. Without such a call it comes to a runner with the tasks that the calls register, each as often
as its call says and in the order of the calls, and with the last configuration, as it was bounded
since. A handle that is taken after any of the calls is one on the interrupt of the last runner,
whose flag is as it was put last, before, between or after the calls. The runs of the runner return
results, or that they were interrupted, or that a thread was refused. -/
theorem build_chain (opening : Opening τ) (extensions : List (Extension τ))
    (interrupt : Interrupt) :
    (∀ refusal, opening.refusal? = some refusal →
      ∃ error, build opening extensions interrupt = .error error ∧
        error.refusal? = some refusal) ∧
    (opening.refusal? = none → ∀ before step after refusal, extensions = before ++ step :: after →
      (∀ earlier ∈ before, earlier.refusal? = none) → step.refusal? = some refusal →
      ∃ runner error, build opening before interrupt = .ok runner ∧
        runner.extend step = .error error ∧
        build opening extensions interrupt = .error error ∧ error.refusal? = some refusal) ∧
    (opening.refusal? = none → (∀ extension ∈ extensions, extension.refusal? = none) →
      ∃ first runner, ofOpening opening interrupt = .ok first ∧
        build opening extensions interrupt = .ok runner ∧
        runner.tasks = (opening.registrations ++ extensions.flatMap Extension.registrations).flatMap
          (fun entry => List.replicate entry.2 entry.1) ∧ runner.tasks ≠ [] ∧
        (∀ before last after, extensions = before ++ .config last :: after →
          (∀ later ∈ after, later.config? = none) → runner.config = { last with
            threadCount := (after.filterMap Extension.threadCount?).getLast?.or
              last.threadCount }) ∧
        ((∀ extension ∈ extensions, extension.config? = none) → runner.config =
          { threadCount := (extensions.filterMap Extension.threadCount?).getLast? }) ∧
        runner.config.check = .ok () ∧ 1 ≤ runner.poolSize ∧ runner.poolSize ≤ runner.taskCount ∧
        (2 ≤ runner.taskCount → 2 ≤ runner.poolSize) ∧
        (∀ before after, extensions = before ++ after → ∃ early,
          build opening before interrupt = .ok early ∧ early.interrupt = runner.interrupt) ∧
        (∀ (α : Type) (moves : List (SessionMove τ α)), (∀ move ∈ moves, move.prepares = true) →
          moves.filterMap SessionMove.extension? = extensions →
          replay Session.step (Session.ofRunner first) moves = some ({
            runner := some runner
            interrupt := runner.interrupt
            raised := (moves.filterMap SessionMove.flag?).getLast?.getD false }, [])) ∧
        ∀ (α : Type) (execution : Execution τ α) (notes : List (RunNote τ α))
          (result : Except RunError (ResultSet α)),
          Execution.Reaches runner.tasks runner.config execution notes →
          execution.result? = some result →
          (∃ results, result = .ok results) ∨ (∃ phase, result = .error (.interrupted phase)) ∨
            ∃ fault, result = .error (.spawn fault)) := by
  refine ⟨?_, ?_, ?_⟩
  · intro refusal refused
    obtain ⟨error, opened, told⟩ := ofOpening_of_refused opening refusal refused
    exact ⟨error, by rw [build, opened], told⟩
  -- The calls before the faulty one come to a runner, and it is this runner that refuses it.
  · rintro accepted before step after refusal rfl earlier refused
    have opened := ofOpening_of_accepted opening accepted interrupt
    obtain ⟨runner, error, extended, failed, whole, told⟩ :=
      extendAll_of_refused { tasks := opening.added, interrupt } before after step earlier refusal
        refused
    exact ⟨runner, error, (build_of_opened opening _ before opened).trans extended, failed,
      (build_of_opened opening _ _ opened).trans whole, told⟩
  · intro accepted others
    have opened := ofOpening_of_accepted opening accepted interrupt
    have extended := extendAll_of_accepted { tasks := opening.added, interrupt } extensions others
    have built := (build_of_opened opening _ extensions opened).trans extended
    have sound := build_sound opening extensions _ built
    refine ⟨_, _, opened, built, added_chain opening extensions, sound.tasks, ?_, ?_, sound.config,
      ?_, ?_, ?_, ?_, ?_, ?_⟩
    · rintro before last after rfl kept
      exact foldl_configured_last {} last before after kept
    · intro kept
      rw [foldl_configured {} extensions kept, Option.or_none]
    · exact Config.poolSize_pos _ _ sound.config sound.taskCount_pos
    · exact Config.poolSize_le _ _
    · exact Config.two_le_poolSize _ _ sound.config
    · rintro before after rfl
      have some := extendAll_of_accepted { tasks := opening.added, interrupt } before
        fun extension member => others extension (List.mem_append_left after member)
      exact ⟨_, (build_of_opened opening _ before opened).trans some, rfl⟩
    · rintro α moves prepares rfl
      -- The extensions of a session are the chain, and its raises and takes leave the runner alone.
      exact (Session.ofRunner _).replay_prepares _ _ rfl moves prepares extended
    · intro α execution notes result reached returned
      exact result_of_build opening extensions _ built execution notes reached result returned

/-- One chain is refused in its third call; the other one is given a new configuration on the way,
and its flag is raised after the first call. -/
theorem build_chain_both :
    (∃ error, build (.task 1) [.task 2, .repeated 3 0, .threadCount 1] ⟨0⟩ = .error error ∧
      error.refusal? = some (.argument "repeat_count")) ∧
    (∃ runner : Runner Nat, build (.repeated 3 2) [.threadCount 4, .config {}, .task 5,
        .threadCount 2] ⟨7⟩ = .ok runner ∧
      runner.tasks = [3, 3, 5] ∧ runner.config = { threadCount := some 2 } ∧
      2 ≤ runner.poolSize ∧
      (∃ early, build (.repeated 3 2) [.threadCount 4] ⟨7⟩ = .ok early ∧
        early.interrupt = runner.interrupt) ∧
      replay Session.step (Session.ofRunner { tasks := [3, 3], interrupt := ⟨7⟩ })
          [.raise (α := Nat), .extend (.threadCount 4), .extend (.config {}), .extend (.task 5),
            .extend (.threadCount 2)] =
        some ({ runner := some runner, interrupt := runner.interrupt, raised := true }, [])) := by
  constructor
  · obtain ⟨-, refused, -⟩ := build_chain (.task 1) [.task 2, .repeated 3 0, .threadCount 1] ⟨0⟩
    obtain ⟨-, error, -, -, failed, told⟩ := refused rfl [.task 2] (.repeated 3 0) [.threadCount 1]
      (.argument "repeat_count") rfl (by decide) rfl
    exact ⟨error, failed, told⟩
  · obtain ⟨-, -, done⟩ := build_chain (.repeated 3 2) [.threadCount 4, .config {}, .task 5,
      .threadCount 2] ⟨7⟩
    obtain ⟨first, runner, opened, built, tasks, -, configured, -, -, -, -, wide, handle, flag,
      -⟩ := done rfl (by decide)
    cases opened
    have count : runner.taskCount = 3 := by
      rw [Runner.taskCount, tasks]
      rfl
    refine ⟨runner, built, tasks, ?_, ?_, handle [.threadCount 4] _ rfl, ?_⟩
    · exact configured [.threadCount 4] {} [.task 5, .threadCount 2] rfl (by decide)
    · exact wide (by rw [count]; decide)
    · exact flag Nat _ (by decide) rfl

end Runner

end GatedRun
