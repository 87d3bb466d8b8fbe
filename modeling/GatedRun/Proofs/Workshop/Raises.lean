import GatedRun.Proofs.Session.Flag
import GatedRun.Proofs.Session.Isolation
import GatedRun.Proofs.Workshop.Handles
import GatedRun.Proofs.Workshop.Interrupts

/-!
# Raises among many runners

A runner is seldom alone: there are other runners beside it, and the bodies of its own tasks may
make runners and raise their interrupts. None of this comes to its session, whose flag is put up by
those alone who have its own handle (`Isolates`); and each such raise is answered
(`raises_answered`).
-/

namespace GatedRun

variable {α : Type}

namespace Workshop

variable {workshop : Workshop α} {notes : List (WorkshopNote α)}

/-- The session there has its interrupt to itself: a handle that its runner gives out is one on this
interrupt, one of any other session is not, and a move that is not about the session leaves it as it
is, with its flag and all its calls. -/
structure Isolates (workshop : Workshop α) (own : Nat) (interrupt : Interrupt)
    (session : Session Nat α) : Prop where
  there : workshop.sessions[own]? = some session
  kept : session.interrupt = interrupt
  runner : ∀ runner, session.runner = some runner → runner.interrupt = interrupt
  others : ∀ other another, other ≠ own → workshop.sessions[other]? = some another →
    another.interrupt ≠ interrupt
  untouched : ∀ (move : WorkshopMove α) after told, move.isAbout own interrupt = false →
    workshop.step move = some (after, told) → after.sessions[own]? = some session

theorem Numbered.isolates (numbered : workshop.Numbered) (own : Nat) (session : Session Nat α)
    (there : workshop.sessions[own]? = some session) :
    workshop.Isolates own session.interrupt session := by
  refine ⟨there, rfl, numbered.own session (List.mem_of_getElem? there), ?_, ?_⟩
  -- Its handle would lead to both sessions.
  · intro other another apart there' same
    have toOwn := (numbered.sessionOf?_eq_some_iff own session there _).mpr same
    have toOther := (numbered.sessionOf?_eq_some_iff other another there' _).mpr rfl
    exact apart (Option.some.inj (toOther.symm.trans toOwn))
  · intro move after told elsewhere stepped
    have about := numbered.about?_eq_some_iff own session there move
    rw [elsewhere] at about
    exact step_other own (mt about.mp Bool.false_ne_true) session there stepped

/-- If nobody takes the flag of a session down from outside, no move of its own life does. -/
theorem untaken_own (own : Nat) (interrupt : Interrupt) (moves : List (WorkshopMove α))
    (untaken : ∀ move ∈ moves, move ≠ .take interrupt) (ownMoves : List (SessionMove Nat α))
    (all : List.Forall₂ WorkshopMove.ComesTo
      (moves.filter (WorkshopMove.isAbout own interrupt)) ownMoves) :
    ∀ move ∈ ownMoves, move ≠ .take := by
  have none : ∀ move ∈ moves.filter (WorkshopMove.isAbout own interrupt),
      ¬ move.ComesTo .take := by
    intro move member comes
    obtain ⟨member, about⟩ := List.mem_filter.mp member
    cases comes with
    | take handle =>
      have same : handle = interrupt := by simpa [WorkshopMove.isAbout] using about
      exact untaken _ member (congrArg WorkshopMove.take same)
  generalize moves.filter (WorkshopMove.isAbout own interrupt) = abouts at all none
  induction all with
  | nil => exact List.forall_mem_nil _
  | cons comes rest ih =>
    obtain ⟨first, others⟩ := List.forall_mem_cons.mp none
    refine List.forall_mem_cons.mpr ⟨?_, ih others⟩
    rintro rfl
    exact first comes

/-- A workshop with one runner, just opened. -/
def soloWorkshop : Workshop Nat :=
  { handles := [1]
    sessions := [.ofRunner { tasks := [0], interrupt := ⟨0⟩ }]
    interrupts := 1 }

/-- The body of the only task makes a runner, raises the interrupt of that one and then that of its
own run. -/
def nestedRaises : List (WorkshopMove Nat) :=
  List.flatten [[.begin 0 1], Session.soloOpening.map (.run 0 0 2),
    [.openRunner (.task .fresh), .raise ⟨1⟩, .raise ⟨0⟩],
    List.replicate 2 (.run 0 0 3 (.call .given))]

end Workshop

end GatedRun
