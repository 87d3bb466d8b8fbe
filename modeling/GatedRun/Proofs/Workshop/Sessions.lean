import GatedRun.Proofs.Replay
import GatedRun.Proofs.Runner
import GatedRun.Workshop

/-!
# The sessions of a workshop

All that a workshop does for its runners, apart from their sessions, is to keep count of handles. So
a step of a workshop is a step of one session, or it opens a new session, or it has nothing to do
with any (`step_within`, `step_elsewhere`), however many runners there are, and whoever made them.
-/

namespace GatedRun

variable {α : Type}

/-- The move of a session that a move of a workshop comes to. An extension has the handle on a body
in the place of where it came from. -/
inductive WorkshopMove.ComesTo : WorkshopMove α → SessionMove Nat α → Prop where
  | extend (session : Nat) (extension : Extension TaskSource) (obtained : Extension Nat)
      (same : obtained.map (fun _ => ()) = extension.map fun _ => ()) :
      ComesTo (.extend session extension) (.extend obtained)
  | drop (session : Nat) : ComesTo (.dropRunner session) .drop
  | begin (session : Nat) (now : Instant) : ComesTo (.begin session now) (.begin now)
  | run (session call : Nat) (now : Instant) (own : RunMove α) :
      ComesTo (.run session call now own) (.run call now own)
  | raise (handle : Interrupt) : ComesTo (.raise handle) .raise
  | take (handle : Interrupt) : ComesTo (.take handle) .take

namespace Workshop

variable {workshop after held : Workshop α} {notes : List (WorkshopNote α)}
  {move : WorkshopMove α}

/-- The session that a move is about. A move that opens a runner is about none that is there. -/
def about? (workshop : Workshop α) : WorkshopMove α → Option Nat
  | .extend session _ | .dropRunner session | .begin session _ | .run session _ _ _ => some session
  | .raise handle | .take handle => workshop.sessionOf? handle
  | .define _ | .copyTask _ _ | .dropTask _ | .openRunner _ => none

/-! ### Handles leave the sessions alone -/

/-- The sessions are the same, and no interrupt was made. -/
structure Spares (before after : Workshop α) : Prop where
  sessions : after.sessions = before.sessions
  interrupts : after.interrupts = before.interrupts

theorem Spares.refl (workshop : Workshop α) : Spares workshop workshop := ⟨rfl, rfl⟩

theorem Spares.trans {first second third : Workshop α} (one : Spares first second)
    (other : Spares second third) : Spares first third :=
  ⟨other.sessions.trans one.sessions, other.interrupts.trans one.interrupts⟩

theorem obtain_spares (source : TaskSource) (body : Nat)
    (obtained : workshop.obtain? source = some (body, held)) : Spares workshop held := by
  cases source with
  | fresh =>
    cases obtained
    exact ⟨rfl, rfl⟩
  | copy name =>
    obtain ⟨_, -, same⟩ := Option.map_eq_some_iff.mp obtained
    cases same
    exact ⟨rfl, rfl⟩

theorem obtainAll_spares (sources : List TaskSource) (bodies : List Nat)
    (obtained : workshop.obtainAll? sources = some (bodies, held)) : Spares workshop held := by
  induction sources generalizing workshop bodies with
  | nil =>
    cases obtained
    exact .refl _
  | cons source rest ih =>
    rw [obtainAll?] at obtained
    split at obtained
    · cases obtained
    next body first one =>
      obtain ⟨⟨others, _⟩, more, same⟩ := Option.map_eq_some_iff.mp obtained
      cases same
      exact (obtain_spares source body one).trans (ih others more)

theorem obtainOpening_spares (opening : Opening TaskSource) (opened : Opening Nat)
    (obtained : workshop.obtainOpening? opening = some (opened, held)) : Spares workshop held := by
  cases opening with
  | task source | repeated source count =>
    obtain ⟨⟨body, _⟩, one, same⟩ := Option.map_eq_some_iff.mp obtained
    cases same
    exact obtain_spares source body one
  | tasks sources =>
    obtain ⟨⟨bodies, _⟩, all, same⟩ := Option.map_eq_some_iff.mp obtained
    cases same
    exact obtainAll_spares sources bodies all

theorem obtainExtension_spares (extension : Extension TaskSource) (extended : Extension Nat)
    (obtained : workshop.obtainExtension? extension = some (extended, held)) :
    Spares workshop held ∧ extended.map (fun _ => ()) = extension.map fun _ => () := by
  cases extension with
  | task source | repeated source count =>
    obtain ⟨⟨body, _⟩, one, same⟩ := Option.map_eq_some_iff.mp obtained
    cases same
    exact ⟨obtain_spares source body one, rfl⟩
  | threadCount count | config config =>
    cases obtained
    exact ⟨.refl _, rfl⟩

theorem release_spares (workshop : Workshop α) (bodies : List Nat) :
    Spares workshop (workshop.release bodies) := ⟨rfl, rfl⟩

theorem retainRepeats_spares (workshop : Workshop α) (bodies : List Nat) :
    Spares workshop (workshop.retainRepeats bodies) := by
  cases bodies <;> exact ⟨rfl, rfl⟩

theorem withoutTask_spares (workshop : Workshop α) (name : String) :
    Spares workshop (workshop.withoutTask name) := by
  unfold withoutTask
  split <;> exact ⟨rfl, rfl⟩

theorem bind_spares (workshop : Workshop α) (name : String) (body : Nat) :
    Spares workshop (workshop.bind name body) :=
  ⟨(withoutTask_spares workshop name).sessions, (withoutTask_spares workshop name).interrupts⟩

theorem account_spares (workshop : Workshop α) (note : SessionNote Nat α) :
    Spares workshop (workshop.account note) := by
  unfold account
  split <;> exact ⟨rfl, rfl⟩

theorem foldl_account_spares (workshop : Workshop α) (notes : List (SessionNote Nat α)) :
    Spares workshop (notes.foldl account workshop) := by
  induction notes generalizing workshop with
  | nil => exact .refl _
  | cons note notes ih =>
    rw [List.foldl_cons]
    exact (account_spares workshop note).trans (ih _)

/-! ### Steps -/

/-- One session of the workshop does a step that the move comes to. -/
def Within (before after : Workshop α) (session : Nat) (move : WorkshopMove α) : Prop :=
  ∃ own current next told, move.ComesTo own ∧ before.sessions[session]? = some current ∧
    current.step own = some (next, told) ∧ after.sessions = before.sessions.set session next ∧
    after.interrupts = before.interrupts

/-- No session does a step. A new one may be opened, with an interrupt that is made for it. -/
inductive Elsewhere (before after : Workshop α) : Prop where
  | nothing (same : Spares before after)
  | opened (runner : Runner Nat) (sound : runner.IsSound)
      (own : runner.interrupt = ⟨before.interrupts⟩)
      (sessions : after.sessions = before.sessions ++ [.ofRunner runner])
      (interrupts : after.interrupts = before.interrupts + 1)

theorem inSession_eq_some_iff (workshop : Workshop α) (session : Nat) (own : SessionMove Nat α) :
    workshop.inSession session own = some (after, notes) ↔ ∃ current next told,
      workshop.sessions[session]? = some current ∧ current.step own = some (next, told) ∧
      after = told.foldl account { workshop with sessions := workshop.sessions.set session next } ∧
      notes = told.map (noteOf session) := by
  unfold inSession
  constructor
  · intro stepped
    split at stepped
    · cases stepped
    next current present =>
      split at stepped
      · cases stepped
      next next told moved =>
        cases stepped
        exact ⟨current, next, told, present, moved, rfl, rfl⟩
  · rintro ⟨current, next, told, present, moved, rfl, rfl⟩
    simp only [present, moved]

theorem inSession_within (workshop : Workshop α) (session : Nat) (own : SessionMove Nat α)
    (comes : move.ComesTo own) (stepped : workshop.inSession session own = some (after, notes)) :
    Within workshop after session move := by
  obtain ⟨current, next, told, there, moved, rfl, -⟩ :=
    (inSession_eq_some_iff workshop session own).mp stepped
  have same := foldl_account_spares
    { workshop with sessions := workshop.sessions.set session next } told
  exact ⟨own, current, next, told, comes, there, moved, same.sessions, same.interrupts⟩

theorem Within.of_spares (spares : Spares workshop held) {session : Nat}
    (within : Within held after session move) : Within workshop after session move := by
  obtain ⟨own, current, next, told, comes, there, moved, sessions, interrupts⟩ := within
  rw [spares.sessions] at there sessions
  exact ⟨own, current, next, told, comes, there, moved, sessions,
    interrupts.trans spares.interrupts⟩

theorem extend_within (session : Nat) (extension : Extension TaskSource)
    (stepped : workshop.extend session extension = some (after, notes)) :
    Within workshop after session (.extend session extension) := by
  unfold extend at stepped
  split at stepped
  next runner obtained held present extended =>
    obtain ⟨taken, shape⟩ := obtainExtension_spares extension obtained extended
    have comes := WorkshopMove.ComesTo.extend (α := α) session extension obtained shape
    -- Whatever becomes of the handles before it, the step is one of the session.
    split at stepped
    · exact (inSession_within _ session _ comes stepped).of_spares
        (taken.trans (release_spares _ _))
    · refine (inSession_within _ session _ comes stepped).of_spares (taken.trans ?_)
      split
      · exact retainRepeats_spares _ _
      · exact .refl _
  · cases stepped

theorem openRunner_elsewhere (opening : Opening TaskSource)
    (stepped : workshop.openRunner opening = some (after, notes)) : Elsewhere workshop after := by
  unfold openRunner at stepped
  split at stepped
  · cases stepped
  next obtained held opened =>
    have taken := obtainOpening_spares opening obtained opened
    split at stepped
    · cases stepped
      exact .nothing (taken.trans (release_spares _ _))
    next runner made =>
      cases stepped
      have own : runner.interrupt = ⟨workshop.interrupts⟩ := by
        rw [Runner.eq_of_opened obtained runner made]
      refine .opened runner (Runner.ofOpening_sound obtained runner made) own
        (congrArg (fun before => before ++ [Session.ofRunner runner]) ?_) rfl
      split
      · exact (taken.trans (retainRepeats_spares _ _)).sessions
      · exact taken.sessions

theorem onInterrupt_eq_some_iff (handle : Interrupt) (own : SessionMove Nat α) :
    workshop.onInterrupt handle own = some (after, notes) ↔ ∃ session,
      workshop.sessionOf? handle = some session ∧
        workshop.inSession session own = some (after, notes) := by
  unfold onInterrupt
  cases found : workshop.sessionOf? handle <;> simp

theorem onInterrupt_within (handle : Interrupt) (own : SessionMove Nat α) (session : Nat)
    (comes : move.ComesTo own) (found : workshop.sessionOf? handle = some session)
    (stepped : workshop.onInterrupt handle own = some (after, notes)) :
    Within workshop after session move := by
  obtain ⟨other, found', moved⟩ := (onInterrupt_eq_some_iff handle own).mp stepped
  obtain rfl := Option.some.inj (found'.symm.trans found)
  exact inSession_within workshop other own comes moved

/-- A step about no session leaves those that are there as they are. -/
theorem step_elsewhere (elsewhere : workshop.about? move = none)
    (stepped : workshop.step move = some (after, notes)) : Elsewhere workshop after := by
  cases move with
  | define name =>
    cases stepped
    have made : Spares workshop workshop.newBody.2 := ⟨rfl, rfl⟩
    exact .nothing (made.trans (bind_spares _ name _))
  | copyTask name copy =>
    obtain ⟨⟨body, held⟩, obtained, same⟩ := Option.map_eq_some_iff.mp stepped
    cases same
    exact .nothing ((obtain_spares _ body obtained).trans (bind_spares held copy body))
  | dropTask name =>
    obtain ⟨_, -, same⟩ := Option.map_eq_some_iff.mp stepped
    cases same
    exact .nothing (withoutTask_spares workshop name)
  | openRunner opening => exact openRunner_elsewhere opening stepped
  | raise handle | take handle =>
    obtain ⟨session, found, -⟩ := (onInterrupt_eq_some_iff handle _).mp stepped
    cases elsewhere.symm.trans found
  | extend | dropRunner | begin | run => cases elsewhere

/-- A step about a session is a step of that session. -/
theorem step_within (session : Nat) (about : workshop.about? move = some session)
    (stepped : workshop.step move = some (after, notes)) :
    Within workshop after session move := by
  cases move with
  | extend other extension =>
    cases about
    exact extend_within session extension stepped
  | dropRunner other =>
    cases about
    simp only [step, dropRunner] at stepped
    split at stepped
    · cases stepped
    · exact (inSession_within _ session .drop (.drop session) stepped).of_spares
        (release_spares _ _)
  | begin other now =>
    cases about
    exact inSession_within workshop session _ (.begin session now) stepped
  | run other call now own =>
    cases about
    exact inSession_within workshop session _ (.run session call now own) stepped
  | raise handle => exact onInterrupt_within handle .raise session (.raise handle) about stepped
  | take handle => exact onInterrupt_within handle .take session (.take handle) about stepped
  | define | copyTask | dropTask | openRunner => cases about

/-- A step that is not about a session leaves it as it is, with its flag and all its calls. -/
theorem step_other (own : Nat) (other : workshop.about? move ≠ some own) (session : Session Nat α)
    (there : workshop.sessions[own]? = some session)
    (stepped : workshop.step move = some (after, notes)) :
    after.sessions[own]? = some session := by
  cases about : workshop.about? move with
  | none =>
    have below := (List.getElem?_eq_some_iff.mp there).1
    rcases step_elsewhere about stepped with same | ⟨runner, -, -, sessions, -⟩
    · rw [same.sessions, there]
    · rw [sessions, List.getElem?_append_left below, there]
  | some index =>
    obtain ⟨-, -, next, -, -, -, -, sessions, -⟩ := step_within index about stepped
    have apart : index ≠ own := by
      rintro rfl
      exact other about
    rw [sessions, List.getElem?_set_ne apart, there]

end Workshop

end GatedRun
