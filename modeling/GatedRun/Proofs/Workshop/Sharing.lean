import GatedRun.Proofs.Session.Isolation
import GatedRun.Proofs.Workshop.Handles

/-!
# Shared bodies

What a task shows of its body: how many handles there are on it. A call changes this number by the
jobs that it has under way, and by nothing else (`DiffersBy`); so when the last of them is over, a
task shows what it showed before the call.
-/

namespace GatedRun

variable {α : Type}

namespace Workshop

variable {workshop after : Workshop α}

/-- A step in a session that keeps its runner changes the count by the jobs of its calls. -/
theorem Balanced.handlesOn_inSession (balanced : workshop.Balanced) (still : after.Balanced)
    (tasks : after.tasks = workshop.tasks) (session : Nat) (current next : Session Nat α)
    (there : workshop.sessions[session]? = some current)
    (sessions : after.sessions = workshop.sessions.set session next)
    (runner : next.runner = current.runner) (body : Nat) :
    after.handlesOn body + current.jobsOf body = workshop.handlesOn body + next.jobsOf body := by
  have entries := sumOver_set_add (fun session => session.listed body) _ _ current next there
  have runs := sumOver_set_add (fun session => session.jobsOf body) _ _ current next there
  have same : next.listed body = current.listed body := by
    rw [Session.listed, Session.listed, runner]
  rw [still.handles, balanced.handles, named, named, tasks, listed, listed, jobsOf, jobsOf,
    sessions]
  omega

end Workshop

/-- A step of the call, or one of somebody who raises an interrupt or takes one down. -/
def WorkshopMove.isOf (session call : Nat) : WorkshopMove α → Bool
  | .run own other _ _ => own == session && other == call
  | .raise _ | .take _ => true
  | _ => false

namespace Workshop

variable {workshop after : Workshop α}

/-- The call of a session. -/
def call? (workshop : Workshop α) (session call : Nat) : Option (Execution Nat α) :=
  workshop.sessions[session]?.bind (·.calls[call]?)

/-- The count differs by the jobs of the call, and no name has another task. -/
structure DiffersBy (before workshop : Workshop α) (execution : Execution Nat α) : Prop where
  tasks : workshop.tasks = before.tasks
  handles : ∀ body, workshop.handlesOn body = before.handlesOn body + execution.jobsOf body

theorem call?_eq_some_iff (session call : Nat) (execution : Execution Nat α) :
    workshop.call? session call = some execution ↔ ∃ current,
      workshop.sessions[session]? = some current ∧ current.calls[call]? = some execution :=
  Option.bind_eq_some_iff

/-- A step of the call changes the count by what it changes of its own jobs. -/
private theorem DiffersBy.run {before : Workshop α} {execution : Execution Nat α}
    (differs : before.DiffersBy workshop execution) (balanced : workshop.Balanced)
    (still : after.Balanced) (session call : Nat) (now : Instant) (own : RunMove α)
    (there : workshop.call? session call = some execution) (notes : List (WorkshopNote α))
    (stepped : workshop.inSession session (.run call now own) = some (after, notes)) :
    ∃ later, after.call? session call = some later ∧ before.DiffersBy after later := by
  obtain ⟨current, held, begun⟩ := (call?_eq_some_iff session call execution).mp there
  obtain ⟨current', next, told, held', moved, settled, -⟩ :=
    (inSession_eq_some_iff workshop session _).mp stepped
  obtain rfl : current = current' := Option.some.inj (held.symm.trans held')
  obtain ⟨execution', further, begun', -, rfl, -⟩ :=
    (Session.run_eq_some_iff call now own).mp moved
  obtain rfl : execution = execution' := Option.some.inj (begun.symm.trans begun')
  have sessions : after.sessions = _ := settled ▸ (foldl_account_spares _ told).sessions
  have tasks : after.tasks = workshop.tasks := settled ▸ tasks_foldl_account told
  refine ⟨further.execution, ?_, tasks.trans differs.tasks, fun body => ?_⟩
  · rw [call?, sessions, List.getElem?_set_self (List.getElem?_eq_some_iff.mp held).1]
    exact List.getElem?_set_self (List.getElem?_eq_some_iff.mp begun).1
  · have change := balanced.handlesOn_inSession still tasks session current _ held sessions rfl body
    have jobs := sumOver_set_add (fun execution => execution.jobsOf body) _ _ execution
      further.execution begun
    have handles := differs.handles body
    simp only [Session.jobsOf] at change
    omega

/-- The flag of a session has nothing to do with handles. -/
private theorem DiffersBy.flag {before : Workshop α} {execution : Execution Nat α}
    (differs : before.DiffersBy workshop execution) (balanced : workshop.Balanced)
    (still : after.Balanced) (session call other : Nat) (own : SessionMove Nat α)
    (there : workshop.call? session call = some execution) (notes : List (WorkshopNote α))
    (stepped : workshop.inSession other own = some (after, notes))
    (flag : ∀ (current next : Session Nat α) told, current.step own = some (next, told) →
      next.runner = current.runner ∧ next.calls = current.calls) :
    after.call? session call = some execution ∧ before.DiffersBy after execution := by
  obtain ⟨current, next, told, held, moved, settled, -⟩ :=
    (inSession_eq_some_iff workshop other own).mp stepped
  obtain ⟨runner, calls⟩ := flag current next told moved
  have sessions : after.sessions = _ := settled ▸ (foldl_account_spares _ told).sessions
  have tasks : after.tasks = workshop.tasks := settled ▸ tasks_foldl_account told
  refine ⟨?_, tasks.trans differs.tasks, fun body => ?_⟩
  · rw [call?, sessions]
    by_cases same : other = session
    · subst same
      rw [List.getElem?_set_self (List.getElem?_eq_some_iff.mp held).1]
      rw [call?, held] at there
      change next.calls[call]? = _
      rw [calls]
      exact there
    · rw [List.getElem?_set_ne same]
      exact there
  · have change := balanced.handlesOn_inSession still tasks other current next held sessions runner
      body
    have handles := differs.handles body
    have jobs : next.jobsOf body = current.jobsOf body := by
      rw [Session.jobsOf, Session.jobsOf, calls]
    omega

theorem DiffersBy.step {before : Workshop α} {execution : Execution Nat α}
    (differs : before.DiffersBy workshop execution) (balanced : workshop.Balanced)
    (still : after.Balanced) (session call : Nat)
    (there : workshop.call? session call = some execution) (move : WorkshopMove α)
    (own : move.isOf session call = true) (notes : List (WorkshopNote α))
    (stepped : workshop.step move = some (after, notes)) :
    ∃ later, after.call? session call = some later ∧ before.DiffersBy after later := by
  cases move with
  | run other index now turn =>
    obtain ⟨rfl, rfl⟩ : other = session ∧ index = call := by
      simpa [WorkshopMove.isOf] using own
    exact differs.run balanced still other index now turn there notes stepped
  | raise handle | take handle =>
    obtain ⟨other, -, moved⟩ := (onInterrupt_eq_some_iff handle _).mp stepped
    refine ⟨execution, differs.flag balanced still session call other _ there notes moved ?_⟩
    rintro current next told ⟨⟩
    exact ⟨rfl, rfl⟩
  | _ => cases own

/-- As long as only one call goes on, the count differs by its jobs from what it was before. -/
theorem Tracked.differsBy (tracked : workshop.Tracked) (session : Nat) (current : Session Nat α)
    (there : workshop.sessions[session]? = some current) (now : Instant)
    (moves : List (WorkshopMove α))
    (own : ∀ move ∈ moves, move.isOf session current.calls.length = true)
    (notes : List (WorkshopNote α))
    (ran : GatedRun.replay Workshop.step workshop (.begin session now :: moves) =
      some (after, notes)) :
    ∃ execution, after.call? session current.calls.length = some execution ∧
      workshop.DiffersBy after execution := by
  obtain ⟨begun, first, more, stepped, rest, rfl⟩ := (replay_cons_iff _ _ _ _ _).mp ran
  have still := tracked.step _ first stepped
  have kept := replay_preserves (fun (state : Workshop α) _ => state.Tracked ∧
    ∃ execution, state.call? session current.calls.length = some execution ∧
      workshop.DiffersBy state execution) begun after moves [] more ?_ ⟨still, ?_⟩ rest
  · exact kept.2
  · rintro state move next known told member ⟨tracked, execution, there, differs⟩ stepped
    have still := tracked.step move told stepped
    exact ⟨still, differs.step tracked.toBalanced still.toBalanced session _ there move
      (own move member) told stepped⟩
  · obtain ⟨current', next, told, there', moved, settled, -⟩ :=
      (inSession_eq_some_iff workshop session _).mp stepped
    obtain rfl : current = current' := Option.some.inj (there.symm.trans there')
    obtain ⟨runner, -, rfl, -⟩ := (Session.begin_eq_some_iff now).mp moved
    have sessions : begun.sessions = _ := settled ▸ (foldl_account_spares _ told).sessions
    have tasks : begun.tasks = workshop.tasks := settled ▸ tasks_foldl_account told
    refine ⟨(Execution.start runner.tasks runner.config now).1, ?_, tasks, fun body => ?_⟩
    · rw [call?, sessions, List.getElem?_set_self (List.getElem?_eq_some_iff.mp there).1]
      exact List.getElem?_concat_length
    · have change := tracked.toBalanced.handlesOn_inSession still.toBalanced tasks session current _
        there sessions rfl body
      simp only [Session.jobsOf, sumOver_append, sumOver_cons, sumOver_nil] at change
      omega

/-- In every state of a workshop, the count that a task shows is that of the named tasks on its
body, of the entries in the lists of the runners, and of the jobs that are not over. A call that has
returned has no jobs left, except that those of an interrupted one may still go on; and once they
are over, all tasks show what they showed before the call, if nothing else was done. -/
theorem handles_are_shared (moves : List (WorkshopMove α)) (workshop : Workshop α)
    (notes : List (WorkshopNote α)) (ran : replay step {} moves = some (workshop, notes)) :
    (∀ name body, workshop.task? name = some body → workshop.inspectTask? name =
      some (.record "Task" [.labelled "shared" (.number
        (workshop.named body + workshop.listed body + workshop.jobsOf body))] false)) ∧
    (∀ session ∈ workshop.sessions, ∀ execution ∈ session.calls, ∀ result,
      execution.result? = some result →
      result ≠ .error (.interrupted .completion) ∨ execution.pool.isQuiet = true →
      ∀ body, execution.jobsOf body = 0) ∧
    ∀ (session : Nat) (current : Session Nat α) (now : Instant) (later : List (WorkshopMove α))
      (last : Workshop α) (more : List (WorkshopNote α)),
      workshop.sessions[session]? = some current →
      (∀ move ∈ later, move.isOf session current.calls.length = true) →
      replay step workshop (.begin session now :: later) = some (last, more) →
      ∃ execution, last.call? session current.calls.length = some execution ∧
        ∀ result, execution.result? = some result →
          result ≠ .error (.interrupted .completion) ∨ execution.pool.isQuiet = true →
          ∀ name, last.inspectTask? name = workshop.inspectTask? name := by
  have tracked : workshop.Tracked := empty_tracked.replay moves notes ran
  refine ⟨?_, ?_, ?_⟩
  · intro name body found
    rw [inspectTask?, found, ← tracked.handles]
    rfl
  · intro session member execution call
    obtain ⟨known, sound⟩ := tracked.sound session member
    exact sound.jobsOf_of_returned execution call
  · intro session current now later last more there own went
    obtain ⟨execution, held, differs⟩ :=
      tracked.differsBy session current there now later own more went
    refine ⟨execution, held, fun result returned ended name => ?_⟩
    obtain ⟨final, owner, call⟩ := (call?_eq_some_iff _ _ _).mp held
    obtain ⟨known, sound⟩ :=
      (tracked.replay _ more went).sound final (List.mem_of_getElem? owner)
    -- Without jobs the call makes no difference to the count.
    have none := sound.jobsOf_of_returned execution (List.mem_of_getElem? call) result returned
      ended
    have same : last.handlesOn = workshop.handlesOn := by
      funext body
      rw [differs.handles, none, Nat.add_zero]
    rw [inspectTask?, inspectTask?, task?, task?, differs.tasks, same]

/-- A task gets a name, a runner that would repeat it no times is refused, and one is made. -/
def sharedOpening : List (WorkshopMove Nat) :=
  [.define "a", .openRunner (.repeated (.copy "a") 0), .openRunner (.task (.copy "a"))]

/-- What these moves lead to. -/
def sharedWorkshop : Workshop Nat :=
  { handles := [2]
    tasks := [("a", 0)]
    sessions := [.ofRunner { tasks := [0], interrupt := ⟨0⟩ }]
    interrupts := 1 }

/-- The run of the runner is interrupted while its only job is in the body. -/
def sharedInterrupt : List (WorkshopMove Nat) :=
  List.flatten [Session.soloOpening.map (.run 0 0 2), [.raise ⟨0⟩],
    List.replicate 2 (.run 0 0 3 (.call .given))]

/-- The job ends afterwards, and its worker exits. -/
def sharedEnding : List (WorkshopMove Nat) :=
  .run 0 0 8 (.bodyEnds 0 (.returned 4)) :: List.replicate 7 (.run 0 0 8 (.work 0))

theorem handles_are_shared_interrupted : ∃ (middle last : Workshop Nat)
    (opened going more : List (WorkshopNote Nat)),
    replay step {} sharedOpening = some (sharedWorkshop, opened) ∧
    replay step {} (sharedOpening ++ .begin 0 1 :: sharedInterrupt) = some (middle, going) ∧
    middle.inspectTask? "a" =
      some (.record "Task" [.labelled "shared" (.number (1 + 1 + 1))] false) ∧
    replay step sharedWorkshop (.begin 0 1 :: (sharedInterrupt ++ sharedEnding)) =
      some (last, more) ∧
    last.inspectTask? "a" = sharedWorkshop.inspectTask? "a" := by
  have ranOpening : replay step {} sharedOpening = some (sharedWorkshop, _) := rfl
  have ranMiddle : replay step {} (sharedOpening ++ .begin 0 1 :: sharedInterrupt) =
    some (_, _) := rfl
  have interrupted :
      (replay step sharedWorkshop (.begin 0 1 :: (sharedInterrupt ++ sharedEnding))).bind
        (fun last => (last.1.call? 0 0).map fun execution =>
          (execution.result?, execution.pool.isQuiet)) =
      some (some (.error (.interrupted .completion)), true) := rfl
  obtain ⟨⟨last, more⟩, ran, call⟩ := Option.bind_eq_some_iff.mp interrupted
  obtain ⟨execution, held, figures⟩ := Option.map_eq_some_iff.mp call
  obtain ⟨returned, quiet⟩ := Prod.mk.inj figures
  obtain ⟨shown, -, -⟩ := handles_are_shared _ _ _ ranMiddle
  obtain ⟨-, -, restored⟩ := handles_are_shared _ _ _ ranOpening
  obtain ⟨execution', held', even⟩ := restored 0 _ 1 _ last more rfl (by decide) ran
  obtain rfl : execution = execution' := Option.some.inj (held.symm.trans held')
  exact ⟨_, last, _, _, more, ranOpening, ranMiddle, shown "a" 0 rfl, ran,
    even _ returned (.inr quiet) "a"⟩

end Workshop

end GatedRun
