import GatedRun.Proofs.Session.Calls
import GatedRun.Proofs.Workshop.Sessions
import Mathlib.Data.List.Forall2
import Mathlib.Data.List.Nodup

/-!
# Interrupts and their handles

Each runner is made with an interrupt that nobody had before, and keeps it however it is extended.
So no two sessions have one interrupt, and a runner has that of its session (`Numbered`). A handle
then leads to one session and always to the same, and the life of a session is told by the moves
that are about it (`session_replay`): those that name it, and those of whoever has its handle.
-/

namespace GatedRun

variable {α : Type}

/-! ### An interrupt for life -/

/-- A session keeps its interrupt, and so does its runner. -/
theorem Session.step_interrupt {τ : Type} {session after : Session τ α} {move : SessionMove τ α}
    {notes : List (SessionNote τ α)} (stepped : session.step move = some (after, notes)) :
    after.interrupt = session.interrupt ∧ ∀ runner, after.runner = some runner →
      ∃ before, session.runner = some before ∧ runner.interrupt = before.interrupt := by
  cases move with
  | extend extension =>
    simp only [step] at stepped
    split at stepped
    · cases stepped
    next before holds =>
      split at stepped
      next extended done =>
        cases stepped
        refine ⟨rfl, ?_⟩
        rintro _ ⟨⟩
        exact ⟨before, holds, Runner.interrupt_of_extended before extended extension done⟩
      · cases stepped
        refine ⟨rfl, ?_⟩
        rintro _ ⟨⟩
  | drop =>
    cases stepped
    refine ⟨rfl, ?_⟩
    rintro _ ⟨⟩
  | begin now =>
    obtain ⟨runner, -, rfl, -⟩ := (begin_eq_some_iff now).mp stepped
    exact ⟨rfl, fun runner holds => ⟨runner, holds, rfl⟩⟩
  | run call now own =>
    obtain ⟨-, -, -, -, rfl, -⟩ := (run_eq_some_iff call now own).mp stepped
    exact ⟨rfl, fun runner holds => ⟨runner, holds, rfl⟩⟩
  | raise | take =>
    cases stepped
    exact ⟨rfl, fun runner holds => ⟨runner, holds, rfl⟩⟩

namespace Workshop

variable {workshop after : Workshop α} {notes : List (WorkshopNote α)} {move : WorkshopMove α}

/-- Interrupts are numbered as they are made, so no two sessions have the same one; and a runner has
that of its session. -/
structure Numbered (workshop : Workshop α) : Prop where
  below : ∀ session ∈ workshop.sessions, session.interrupt.number < workshop.interrupts
  distinct : (workshop.sessions.map Session.interrupt).Nodup
  own : ∀ session ∈ workshop.sessions, ∀ runner, session.runner = some runner →
    runner.interrupt = session.interrupt

theorem empty_numbered : ({} : Workshop α).Numbered :=
  ⟨List.forall_mem_nil _, List.nodup_nil, List.forall_mem_nil _⟩

theorem Numbered.opened (numbered : workshop.Numbered) (runner : Runner Nat)
    (own : runner.interrupt = ⟨workshop.interrupts⟩)
    (sessions : after.sessions = workshop.sessions ++ [.ofRunner runner])
    (interrupts : after.interrupts = workshop.interrupts + 1) : after.Numbered := by
  constructor
  · intro session member
    rw [sessions, List.mem_append, List.mem_singleton] at member
    rw [interrupts]
    rcases member with member | rfl
    · exact Nat.lt_succ_of_lt (numbered.below session member)
    · change runner.interrupt.number < _
      rw [own]
      exact Nat.lt_succ_self _
  · rw [sessions, List.map_append, List.map_singleton, List.nodup_append_comm,
      List.singleton_append, List.nodup_cons]
    -- A session that had this number already would be below it.
    refine ⟨fun member => ?_, numbered.distinct⟩
    obtain ⟨session, held, same⟩ := List.mem_map.mp member
    have below := numbered.below session held
    rw [same] at below
    change runner.interrupt.number < _ at below
    rw [own] at below
    exact Nat.lt_irrefl _ below
  · intro session member
    rw [sessions, List.mem_append, List.mem_singleton] at member
    rcases member with member | rfl
    · exact numbered.own session member
    · rintro _ ⟨⟩
      rfl

theorem Numbered.within (numbered : workshop.Numbered) (index : Nat)
    (within : Within workshop after index move) : after.Numbered := by
  obtain ⟨own, current, next, told, -, there, moved, sessions, interrupts⟩ := within
  obtain ⟨kept, holds⟩ := Session.step_interrupt moved
  have member := List.mem_of_getElem? there
  -- One session is replaced by one with the same interrupt, so the list of them does not change.
  have same : after.sessions.map Session.interrupt = workshop.sessions.map Session.interrupt := by
    rw [sessions, List.map_set, kept]
    apply set_eq_self_of_getElem?
    rw [List.getElem?_map, there, Option.map_some]
  constructor
  · intro session held
    rw [sessions] at held
    rw [interrupts]
    rcases List.mem_or_eq_of_mem_set held with held | rfl
    · exact numbered.below session held
    · exact kept ▸ numbered.below current member
  · rw [same]
    exact numbered.distinct
  · intro session held runner owns
    rw [sessions] at held
    rcases List.mem_or_eq_of_mem_set held with held | rfl
    · exact numbered.own session held runner owns
    · obtain ⟨before, had, alike⟩ := holds runner owns
      rw [alike, kept]
      exact numbered.own current member before had

theorem Numbered.step (numbered : workshop.Numbered)
    (stepped : workshop.step move = some (after, notes)) : after.Numbered := by
  cases about : workshop.about? move with
  | none =>
    rcases step_elsewhere about stepped with same | ⟨runner, -, own, sessions, interrupts⟩
    · obtain ⟨below, distinct, own⟩ := numbered
      rw [← same.sessions] at below distinct own
      exact ⟨same.interrupts ▸ below, distinct, own⟩
    · exact numbered.opened runner own sessions interrupts
  | some index => exact numbered.within index (step_within index about stepped)

theorem Numbered.replay (numbered : workshop.Numbered) (moves : List (WorkshopMove α))
    (ran : GatedRun.replay Workshop.step workshop moves = some (after, notes)) :
    after.Numbered := by
  refine replay_preserves (fun (state : Workshop α) _ => state.Numbered) workshop after moves []
    notes ?_ numbered ran
  intro _ _ _ _ _ _ numbered stepped
  exact numbered.step stepped

/-- A handle leads to the session whose interrupt it is on. -/
theorem Numbered.sessionOf?_eq_some_iff (numbered : workshop.Numbered) (index : Nat)
    (session : Session Nat α) (there : workshop.sessions[index]? = some session)
    (handle : Interrupt) :
    workshop.sessionOf? handle = some index ↔ handle = session.interrupt := by
  obtain ⟨below, rfl⟩ := List.getElem?_eq_some_iff.mp there
  rw [sessionOf?, List.findIdx?_eq_some_iff_getElem]
  constructor
  · rintro ⟨_, found, -⟩
    exact (beq_iff_eq.mp found).symm
  · rintro rfl
    refine ⟨below, beq_self_eq_true _, fun earlier before => ?_⟩
    rw [beq_iff_eq]
    -- There would be two sessions with one interrupt.
    intro same
    have distinct := List.pairwise_iff_getElem.mp numbered.distinct earlier index
      (by simp; omega) (by simpa using below) before
    simp only [List.getElem_map] at distinct
    exact distinct same

end Workshop

/-! ### Lives -/

/-- The move is about the session with that interrupt. -/
def WorkshopMove.isAbout (session : Nat) (interrupt : Interrupt) : WorkshopMove α → Bool
  | .extend other _ | .dropRunner other | .begin other _ | .run other _ _ _ => other == session
  | .raise handle | .take handle => handle == interrupt
  | .define _ | .copyTask _ _ | .dropTask _ | .openRunner _ => false

namespace Workshop

variable {workshop : Workshop α} {notes : List (WorkshopNote α)}

theorem Numbered.about?_eq_some_iff (numbered : workshop.Numbered) (own : Nat)
    (session : Session Nat α) (there : workshop.sessions[own]? = some session)
    (move : WorkshopMove α) :
    workshop.about? move = some own ↔ move.isAbout own session.interrupt = true := by
  cases move with
  | raise handle | take handle =>
    rw [about?, numbered.sessionOf?_eq_some_iff own session there, WorkshopMove.isAbout,
      beq_iff_eq]
  | extend other | dropRunner other | begin other | run other =>
    simp [about?, WorkshopMove.isAbout]
  | define | copyTask | dropTask | openRunner => simp [about?, WorkshopMove.isAbout]

/-- The life of a session is told by the moves that are about it. -/
theorem session_replay (numbered : workshop.Numbered) (own : Nat) (session : Session Nat α)
    (there : workshop.sessions[own]? = some session) (moves : List (WorkshopMove α))
    (last : Workshop α) (ran : replay step workshop moves = some (last, notes)) :
    ∃ ownMoves after told, last.sessions[own]? = some after ∧
      after.interrupt = session.interrupt ∧
      List.Forall₂ WorkshopMove.ComesTo
        (moves.filter (WorkshopMove.isAbout own session.interrupt)) ownMoves ∧
      replay Session.step session ownMoves = some (after, told) := by
  induction moves generalizing workshop session notes with
  | nil =>
    obtain ⟨rfl, -⟩ := (replay_nil_iff workshop last notes).mp ran
    exact ⟨[], session, [], there, rfl, .nil, rfl⟩
  | cons move moves ih =>
    obtain ⟨after, first, more, stepped, rest, rfl⟩ :=
      (replay_cons_iff workshop last move moves notes).mp ran
    have about := numbered.about?_eq_some_iff own session there move
    by_cases within : move.isAbout own session.interrupt = true
    · obtain ⟨ownMove, current, next, told, comes, there', moved, sessions, -⟩ :=
        step_within own (about.mpr within) stepped
      cases there.symm.trans there'
      have below := (List.getElem?_eq_some_iff.mp there).1
      -- The moves about the session stay the same ones, as it keeps its interrupt.
      have kept := (Session.step_interrupt moved).1
      obtain ⟨ownMoves, final, others, found, same, all, replayed⟩ :=
        ih (numbered.step stepped) next (by rw [sessions, List.getElem?_set_self below]) rest
      rw [kept] at same all
      refine ⟨ownMove :: ownMoves, final, told ++ others, found, same, ?_, ?_⟩
      · rw [List.filter_cons_of_pos within]
        exact .cons comes all
      · exact (replay_cons_iff _ _ _ _ _).mpr ⟨next, told, others, moved, replayed, rfl⟩
    · obtain ⟨ownMoves, final, others, found, same, all, replayed⟩ := ih (numbered.step stepped)
        session (step_other own (mt about.mp within) session there stepped) rest
      refine ⟨ownMoves, final, others, found, same, ?_, replayed⟩
      rwa [List.filter_cons_of_neg within]

end Workshop

end GatedRun
