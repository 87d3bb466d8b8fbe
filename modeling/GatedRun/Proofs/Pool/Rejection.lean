import GatedRun.Proofs.Pool.Admission

/-!
# Rejected submissions

A submission that is rejected leaves no trace. It is counted before it is sent, so while it is under
way the pool differs from the pool without it, by the count and by the call (`Pool.without`). But
the steps of all others do not notice: each can be made without it just as well, and lets the same
be known (`Transition.without`). When the count is taken back, what is left is the pool that the
others have made of it (`replay_without`).

A rejection is final. It comes from a pool that was shut down or whose workers are all dead, and
either stays so (`Refusing`). A pool that was shut down and joined does not change at all any more.
-/

namespace GatedRun

variable {J : Type}

/-! ### Steps of workers and callers -/

namespace PoolMove

/-- The caller whose submission goes on with the move. -/
def caller? : PoolMove J → Option Nat
  | .count caller _ | .send caller | .withdraw caller => some caller
  | _ => none

/-- Whether the move is one of a worker. -/
@[simp] def isWork : PoolMove J → Bool
  | .work _ | .progress _ _ | .finish _ _ => true
  | _ => false

end PoolMove

/-- The moves of all others than the caller. -/
def othersThan (caller : Nat) (moves : List (PoolMove J)) : List (PoolMove J) :=
  moves.filter fun move => move.caller? != some caller

namespace Pool

variable {pool next after last : Pool J} {move : PoolMove J} {notes told : List (PoolNote J)}

/-! ### The pool without a submission -/

/-- The same pool with other submissions under way. -/
def withCalls (submitted : Nat) (calls : List (SubmitCall J)) (pool : Pool J) : Pool J :=
  { pool with submitted, calls }

/-- The pool as it would be if the caller had not begun to submit. -/
def without (caller : Nat) (pool : Pool J) : Pool J :=
  pool.withCalls (pool.submitted - 1) (pool.calls.filter (·.caller != caller))

/-! A worker takes no notice of the submissions that are under way. -/

section

variable (submitted : Nat) (calls : List (SubmitCall J))

theorem dropQueue_withCalls (pool : Pool J) (silent : List (PoolNote J)) :
    (pool.withCalls submitted calls).dropQueue silent =
      (pool.dropQueue silent).map (withCalls submitted calls) id := by
  have receiver : (pool.withCalls submitted calls).hasReceiver = pool.hasReceiver := rfl
  unfold dropQueue
  rw [receiver]
  split <;> rfl

theorem receive_withCalls (pool : Pool J) (worker : Nat) :
    (pool.withCalls submitted calls).receive worker =
      (pool.receive worker).map (Prod.map (withCalls submitted calls) id) := by
  have queue : (pool.withCalls submitted calls).queue = pool.queue := rfl
  have stage : (pool.withCalls submitted calls).stage = pool.stage := rfl
  unfold receive
  rw [queue, stage]
  cases pool.queue with
  | cons job rest => rfl
  | nil => cases pool.stage <;> rfl

theorem work_withCalls (pool : Pool J) (worker : Nat) :
    (pool.withCalls submitted calls).work worker =
      (pool.work worker).map (Prod.map (withCalls submitted calls) id) := by
  have workers : (pool.withCalls submitted calls).workers = pool.workers := rfl
  have free : (pool.withCalls submitted calls).lockIsFree = pool.lockIsFree := rfl
  unfold work
  rw [workers, free]
  cases pool.workers[worker]? with
  | none => rfl
  | some phase =>
    cases phase with
    | idle => cases pool.lockIsFree <;> rfl
    | receiving => exact receive_withCalls submitted calls pool worker
    | reporting ending => cases ending <;> rfl
    | dying =>
      exact congrArg some (dropQueue_withCalls submitted calls (pool.setWorker worker .dead) _)
    | leaving =>
      exact congrArg some (dropQueue_withCalls submitted calls (pool.setWorker worker .exited) _)
    | running | exited | dead => rfl

theorem step_withCalls (pool : Pool J) (working : move.isWork = true) :
    (pool.withCalls submitted calls).step move =
      (pool.step move).map (Prod.map (withCalls submitted calls) id) := by
  have workers : (pool.withCalls submitted calls).workers = pool.workers := rfl
  cases move with
  | work worker => exact work_withCalls submitted calls pool worker
  | progress worker job =>
    simp only [step, progress, workers]
    cases pool.workers[worker]? with
    | none => rfl
    | some phase => cases phase <;> rfl
  | finish worker ending =>
    simp only [step, finish, workers]
    cases pool.workers[worker]? with
    | none => rfl
    | some phase => cases phase <;> rfl
  | spawn | close | join | detach | count | send | withdraw => cases working

end

/-- A worker leaves the submissions alone. -/
theorem calls_of_work (working : move.isWork = true)
    (stepped : pool.step move = some (next, told)) :
    next.submitted = pool.submitted ∧ next.calls = pool.calls := by
  have framed := step_withCalls pool.submitted pool.calls pool working
  have same : pool.withCalls pool.submitted pool.calls = pool := rfl
  rw [same, stepped, Option.map_some, Option.some.injEq] at framed
  exact ⟨congrArg (·.1.submitted) framed, congrArg (·.1.calls) framed⟩

/-! ### Steps beside a submission -/

theorem find?_others (calls : List (SubmitCall J)) (caller other : Nat) (apart : other ≠ caller) :
    (calls.filter (·.caller != caller)).find? (·.caller == other) =
      calls.find? (·.caller == other) := by
  rw [List.find?_filter]
  congr 1
  funext call
  by_cases mine : call.caller = other
  · simp [mine, apart]
  · simp [mine]

theorem any_others (calls : List (SubmitCall J)) (caller other : Nat)
    (fresh : calls.any (·.caller == other) = false) :
    (calls.filter (·.caller != caller)).any (·.caller == other) = false := by
  rw [List.any_eq_false] at fresh ⊢
  exact fun call member => fresh call (List.mem_of_mem_filter member)

theorem filter_callers_comm (calls : List (SubmitCall J)) (one other : Nat) :
    (calls.filter (·.caller != one)).filter (·.caller != other) =
      (calls.filter (·.caller != other)).filter (·.caller != one) := by
  simp only [List.filter_filter, Bool.and_comm]

theorem filter_bounce (calls : List (SubmitCall J)) (caller other : Nat) :
    (calls.map fun call =>
      if call.caller == other then { call with bounced := true } else call).filter
        (·.caller != caller) =
      (calls.filter (·.caller != caller)).map fun call =>
        if call.caller == other then { call with bounced := true } else call := by
  rw [List.filter_map]
  congr 2
  funext call
  simp only [Function.comp]
  split <;> rfl

theorem map_bounce_others (calls : List (SubmitCall J)) (caller : Nat) :
    ((calls.filter (·.caller != caller)).map fun call =>
      if call.caller == caller then { call with bounced := true } else call) =
      calls.filter (·.caller != caller) := by
  refine (List.map_congr_left fun call member => ?_).trans (List.map_id _)
  have other : (call.caller == caller) = false := by
    simpa using (List.mem_filter.mp member).2
  rw [other]
  rfl

theorem Sound.submitted_pos (sound : pool.Sound notes) (caller : Nat)
    (waiting : caller ∈ pool.calls.map SubmitCall.caller) :
    0 < pool.submitted ∧ pool.stage = .accepting := by
  have some : pool.calls ≠ [] := by
    rintro none
    rw [none] at waiting
    cases waiting
  have counted := sound.stocked.submitted
  have length := List.length_pos_iff.mpr some
  refine ⟨by omega, ?_⟩
  by_contra shut
  exact some (sound.staffed.calls shut)

/-- The steps of all others can be made without the submission just as well. -/
theorem Transition.without (caller : Nat) (sound : pool.Sound notes)
    (waiting : caller ∈ pool.calls.map SubmitCall.caller) (other : move.caller? ≠ some caller)
    (transition : pool.Transition move next told) (stepped : pool.step move = some (next, told)) :
    (pool.without caller).step move = some (next.without caller, told) := by
  obtain ⟨positive, accepting⟩ := sound.submitted_pos caller waiting
  have none_of (empty : pool.calls = []) : False := by
    rw [empty] at waiting
    cases waiting
  have sub_add : pool.submitted - 1 + 1 = pool.submitted + 1 - 1 := by omega
  by_cases working : move.isWork = true
  · obtain ⟨submitted, calls⟩ := calls_of_work working stepped
    rw [Pool.without, step_withCalls _ _ pool working, stepped, Pool.without, calls, submitted]
    rfl
  cases transition with
  | spawned stage | opened stage | refused _ stage | turnedAway _ _ _ stage =>
    rw [accepting] at stage
    cases stage
  | joined stage | joinedDead stage =>
    rw [accepting] at stage
    rcases stage with ⟨_, stage⟩ | stage <;> cases stage
  | closed _ calls | detached _ calls => exact (none_of calls).elim
  | counted own job fresh stage =>
    have apart : own ≠ caller := fun same => other (congrArg some same)
    have fresh := any_others pool.calls caller own fresh
    simp [step, count, without, withCalls, fresh, stage, List.filter_append, apart, sub_add]
  | sent own _ job call receiver =>
    have apart : own ≠ caller := fun same => other (congrArg some same)
    have still : (pool.without caller).hasReceiver = true := receiver
    have found : (pool.without caller).calls.find? (·.caller == own) = _ :=
      (find?_others pool.calls caller own apart).trans call
    simp only [step, send, found, still, if_true]
    simp only [without, withCalls, filter_callers_comm]
  | bounced own _ job call receiver =>
    have apart : own ≠ caller := fun same => other (congrArg some same)
    have still : (pool.without caller).hasReceiver = false := receiver
    have found : (pool.without caller).calls.find? (·.caller == own) = _ :=
      (find?_others pool.calls caller own apart).trans call
    simp only [step, send, found, still, Bool.false_eq_true, if_false]
    simp only [without, withCalls, filter_bounce]
  | withdrawn own _ job call =>
    have apart : own ≠ caller := fun same => other (congrArg some same)
    have found : (pool.without caller).calls.find? (·.caller == own) = _ :=
      (find?_others pool.calls caller own apart).trans call
    simp only [step, withdraw, found]
    simp only [without, withCalls, filter_callers_comm]
  | _ => exact absurd rfl working

/-- The caller's own steps make no difference to the pool without the submission, until it is
answered. -/
theorem Transition.own (caller : Nat) (waiting : caller ∈ pool.calls.map SubmitCall.caller)
    (mine : move.caller? = some caller) (unanswered : answer? caller told = none)
    (transition : pool.Transition move next told) :
    told = [] ∧ next.without caller = pool.without caller := by
  cases transition with
  | counted own job fresh stage | turnedAway own job fresh stage =>
    obtain rfl : own = caller := Option.some.inj mine
    obtain ⟨call, member, same⟩ := List.mem_map.mp waiting
    have absent := List.any_eq_false.mp fresh call member
    simp [same] at absent
  | sent own _ job call receiver =>
    obtain rfl : own = caller := Option.some.inj mine
    simp at unanswered
  | bounced own _ job call receiver =>
    obtain rfl : own = caller := Option.some.inj mine
    -- The call that has bounced is the one that is left out.
    simp only [Pool.without, withCalls, filter_bounce, map_bounce_others, and_self]
  | withdrawn own _ job call =>
    obtain rfl : own = caller := Option.some.inj mine
    simp at unanswered
  | _ => cases mine

theorem othersThan_cons_self (caller : Nat) (moves : List (PoolMove J))
    (mine : move.caller? = some caller) :
    othersThan caller (move :: moves) = othersThan caller moves :=
  List.filter_cons_of_neg (by simp [mine])

theorem othersThan_cons_other (caller : Nat) (moves : List (PoolMove J))
    (other : move.caller? ≠ some caller) :
    othersThan caller (move :: moves) = move :: othersThan caller moves :=
  List.filter_cons_of_pos (by simpa using other)

/-- As long as a submission is under way, the others make the same steps as without it. -/
theorem replay_without (caller : Nat) (sound : pool.Sound notes) (dead : pool.BouncedByDead)
    (waiting : caller ∈ pool.calls.map SubmitCall.caller) (moves : List (PoolMove J))
    (ran : GatedRun.replay step pool moves = some (last, told))
    (unanswered : answer? caller told = none) :
    GatedRun.replay step (pool.without caller) (othersThan caller moves) =
        some (last.without caller, told) ∧
      caller ∈ last.calls.map SubmitCall.caller ∧ last.stage = .accepting := by
  induction moves generalizing pool notes told with
  | nil =>
    obtain ⟨rfl, rfl⟩ := (replay_nil_iff pool last told).mp ran
    exact ⟨rfl, waiting, (sound.submitted_pos caller waiting).2⟩
  | cons move moves ih =>
    obtain ⟨after, first, more, stepped, rest, rfl⟩ :=
      (replay_cons_iff pool last move moves told).mp ran
    rw [answer?_append, Option.or_eq_none_iff] at unanswered
    have transition := step_transition move stepped
    have attended := transition.attended caller sound dead waiting
    rw [Attended, unanswered.1] at attended
    obtain ⟨others, kept⟩ := ih (sound.step stepped) (transition.bouncedByDead sound dead) attended
      rest unanswered.2
    refine ⟨?_, kept⟩
    by_cases mine : move.caller? = some caller
    · obtain ⟨rfl, same⟩ := transition.own caller waiting mine unanswered.1
      rw [othersThan_cons_self caller moves mine, ← same]
      exact others
    · rw [othersThan_cons_other caller moves mine]
      exact (replay_cons_iff _ _ _ _ _).mpr
        ⟨_, first, more, transition.without caller sound waiting mine stepped, others, rfl⟩

/-! ### Pools that reject -/

/-- The pool was shut down or let go, or all its workers are dead. -/
def Refusing (pool : Pool J) : Prop :=
  pool.stage = .closed ∨ pool.stage = .detached ∨ pool.Extinct

theorem accepts_of_unanswered (silent : ∀ caller, answer? caller told = none) :
    accepts told = [] := by
  rw [accepts, List.filterMap_eq_nil_iff]
  intro note member
  cases note with
  | accepted caller job =>
    have none := List.findSome?_eq_none_iff.mp (silent caller) _ member
    simp at none
  | _ => rfl

theorem Transition.shut (shut : pool.stage = .closed ∨ pool.stage = .detached)
    (transition : pool.Transition move next told) :
    next.stage = .closed ∨ next.stage = .detached := by
  cases transition with
  | spawned stage | opened stage | refused _ stage => simp [stage] at shut
  | closed => exact .inl rfl
  | detached => exact .inr rfl
  | reported worker ending next told at_ report =>
    cases ending <;> cases report <;> exact shut
  | died worker next told at_ lost =>
    rcases dropQueue_cases _ _ lost with ⟨-, rfl, -⟩ | ⟨-, rfl, -⟩ <;> exact shut
  | exited worker next told at_ left =>
    rcases dropQueue_cases _ _ left with ⟨-, rfl, -⟩ | ⟨-, rfl, -⟩ <;> exact shut
  | _ => exact shut

/-- A job comes to the queue only of a pool that does not reject. -/
theorem Refusing.not_sent (refusing : pool.Refusing) (staffed : pool.Staffed) (caller : Nat)
    (call : SubmitCall J) (found : pool.calls.find? (·.caller == caller) = some call) :
    pool.hasReceiver = false := by
  have under_way : pool.calls ≠ [] := List.ne_nil_of_mem (List.mem_of_find?_eq_some found)
  rcases refusing with stage | stage | extinct
  · exact absurd (staffed.calls (by simp [stage])) under_way
  · exact absurd (staffed.calls (by simp [stage])) under_way
  · exact extinct.deserted

/-- A pool that rejects goes on doing so. -/
theorem Transition.refusing (staffed : pool.Staffed) (refusing : pool.Refusing)
    (transition : pool.Transition move next told) : next.Refusing ∧ accepts told = [] := by
  constructor
  · rcases refusing with stage | stage | extinct
    · exact or_assoc.mp (.inl (transition.shut (.inl stage)))
    · exact or_assoc.mp (.inl (transition.shut (.inr stage)))
    · exact .inr (.inr (transition.extinct extinct []).1)
  rcases transition.caller_cases with ⟨caller, job, rfl⟩ | ⟨caller, rfl⟩ | ⟨caller, rfl⟩ |
    ⟨-, silent⟩
  · cases transition <;> rfl
  -- A job could only come in with a submission that was under way, but nobody would receive it.
  · cases transition with
    | sent _ own job call receiver =>
      rw [refusing.not_sent staffed caller _ call] at receiver
      cases receiver
    | bounced => rfl
  · cases transition
    rfl
  · exact accepts_of_unanswered silent

theorem Sound.refusing_replay (sound : pool.Sound notes) (refusing : pool.Refusing)
    (moves : List (PoolMove J)) (ran : GatedRun.replay Pool.step pool moves = some (last, told)) :
    last.Refusing ∧ accepts told = [] := by
  have kept := replay_preserves
    (fun (state : Pool J) more => state.Sound (notes ++ more) ∧ state.Refusing ∧ accepts more = [])
    pool last moves [] told ?_ ⟨by simpa using sound, refusing, rfl⟩ ran
  · exact kept.2
  rintro state move next more new _ ⟨sound, refusing, none⟩ stepped
  obtain ⟨still, silent⟩ := (step_transition move stepped).refusing sound.staffed refusing
  refine ⟨?_, still, by rw [accepts_append, none, silent]; rfl⟩
  rw [← List.append_assoc]
  exact sound.step stepped

/-- Whoever submits to a pool that rejects is answered, and turned away. -/
theorem Refusing.turns_away (refusing : pool.Refusing) (caller : Nat) (job : J)
    (fresh : pool.calls.any (·.caller == caller) = false)
    (stage : pool.stage = .accepting ∨ pool.stage = .closed) : ∃ later last more,
      GatedRun.replay step pool (.count caller job :: later) = some (last, more) ∧
      answer? caller more = some false := by
  have closed : (pool.isOpen && pool.hasReceiver) = false := by
    rcases refusing with stage | stage | extinct
    · simp [isOpen, stage]
    · simp [isOpen, stage]
    · simp [extinct.deserted]
  rw [← closed]
  exact submit_alone fresh stage

/-! ### A rejected submission -/

/-- A submission is rejected at once by a pool that was shut down, or when its count is taken back,
and then all workers are dead. -/
theorem Transition.rejected (dead : pool.BouncedByDead) (caller : Nat) (job : J)
    (transition : pool.Transition move next [.rejected caller job]) :
    (move = .count caller job ∧ pool.stage = .closed ∧ next = pool) ∨
      (move = .withdraw caller ∧ pool.Extinct ∧ next = pool.without caller) := by
  rcases transition.caller_cases with ⟨own, other, rfl⟩ | ⟨own, rfl⟩ | ⟨own, rfl⟩ | ⟨-, silent⟩
  · cases transition with
    | turnedAway _ _ fresh stage => exact .inl ⟨rfl, stage, rfl⟩
  · cases transition
  · cases transition with
    | withdrawn _ _ _ call =>
      exact .inr ⟨rfl, dead _ (List.mem_of_find?_eq_some call) rfl, rfl⟩
  · have answered := silent caller
    simp at answered

/-- Between its beginning and its rejection, a submission has changed nothing. -/
theorem Sound.undone (sound : pool.Sound notes) (dead : pool.BouncedByDead) (caller : Nat)
    (job : J) (early : List (PoolMove J)) (move : PoolMove J) (middle last : Pool J)
    (begun : (early ++ [move]).head? = some (.count caller job))
    (ran : GatedRun.replay Pool.step pool early = some (middle, told))
    (unanswered : answer? caller told = none)
    (rejected : middle.step move = some (last, [.rejected caller job])) :
    GatedRun.replay Pool.step pool (othersThan caller early) = some (last, told) ∧
      last.Refusing := by
  have ending := (step_transition move rejected).rejected
    (bouncedByDead_of_replay sound dead early middle ran) caller job
  cases early with
  | nil =>
    obtain ⟨rfl, rfl⟩ := (replay_nil_iff pool middle told).mp ran
    obtain rfl : move = .count caller job := Option.some.inj begun
    rcases ending with ⟨-, stage, rfl⟩ | ⟨same, -, -⟩
    · exact ⟨rfl, .inl stage⟩
    · cases same
  | cons first rest =>
    obtain rfl : first = .count caller job := Option.some.inj begun
    obtain ⟨after, one, more, stepped, went, rfl⟩ :=
      (replay_cons_iff pool middle _ rest told).mp ran
    rw [answer?_append, Option.or_eq_none_iff] at unanswered
    rw [othersThan_cons_self caller rest rfl]
    have transition := step_transition _ stepped
    have sound' := sound.step stepped
    have dead' := transition.bouncedByDead sound dead
    cases transition with
    | turnedAway => simp at unanswered
    | counted _ _ fresh stage =>
      obtain ⟨others, waiting, accepting⟩ :=
        replay_without caller sound' dead' (by simp) rest went unanswered.2
      -- The count and the call are all that the beginning has changed.
      have calls : pool.calls.filter (·.caller != caller) = pool.calls := by
        rw [List.filter_eq_self]
        intro call member
        simpa using List.any_eq_false.mp fresh call member
      have same : ({ pool with
          submitted := pool.submitted + 1
          calls := pool.calls ++ [{ caller, job }] } : Pool J).without caller = pool := by
        simp [Pool.without, withCalls, calls]
      rw [same] at others
      rcases ending with ⟨-, closed, -⟩ | ⟨-, extinct, rfl⟩
      · rw [accepting] at closed
        cases closed
      · exact ⟨others, .inr (.inr ⟨extinct.launched, extinct.dead⟩)⟩

/-! ### Whose jobs are run -/

/-- Every job that is under way or was accepted was submitted by one of the moves. -/
def Submitted (moves : List (PoolMove J)) (pool : Pool J) (notes : List (PoolNote J)) : Prop :=
  ∀ job, job ∈ pool.calls.map SubmitCall.job ∨ job ∈ accepts notes →
    ∃ caller, .count caller job ∈ moves

theorem Transition.submitted (moves : List (PoolMove J)) (member : move ∈ moves)
    (known : pool.Submitted moves notes) (transition : pool.Transition move next told) :
    next.Submitted moves (notes ++ told) := by
  -- The jobs of a step that takes calls away are among those from before.
  have fewer (calls : ∀ call ∈ next.calls, call.job ∈ pool.calls.map SubmitCall.job)
      (accepted : ∀ job ∈ accepts told, job ∈ pool.calls.map SubmitCall.job) :
      next.Submitted moves (notes ++ told) := by
    rintro job (later | later)
    · obtain ⟨call, under_way, rfl⟩ := List.mem_map.mp later
      exact known _ (.inl (calls call under_way))
    · rw [accepts_append, List.mem_append] at later
      rcases later with before | new
      · exact known job (.inr before)
      · exact known job (.inl (accepted job new))
  have own (call : SubmitCall J) (under_way : call ∈ pool.calls) :
      call.job ∈ pool.calls.map SubmitCall.job := List.mem_map_of_mem under_way
  rcases transition.caller_cases with ⟨caller, job, rfl⟩ | ⟨caller, rfl⟩ | ⟨caller, rfl⟩ |
    ⟨calls, silent⟩
  · cases transition with
    | counted _ _ fresh stage =>
      rintro other (later | later)
      · rw [List.map_append, List.mem_append] at later
        rcases later with before | new
        · exact known other (.inl before)
        · obtain rfl : other = job := by simpa using new
          exact ⟨caller, member⟩
      · rw [List.append_nil] at later
        exact known other (.inr later)
    | turnedAway => exact fewer own (fun _ new => absurd new List.not_mem_nil)
  · cases transition with
    | sent _ _ job found receiver =>
      refine fewer (fun call under_way => own call (List.mem_of_mem_filter under_way)) ?_
      intro other new
      obtain rfl : other = job := by simpa using new
      exact own _ (List.mem_of_find?_eq_some found)
    | bounced _ _ job found receiver =>
      refine fewer ?_ (fun _ new => absurd new List.not_mem_nil)
      intro call under_way
      obtain ⟨before, held, rfl⟩ := List.mem_map.mp under_way
      have same : (if before.caller == caller then { before with bounced := true }
        else before).job = before.job := by split <;> rfl
      rw [same]
      exact own before held
  · cases transition with
    | withdrawn =>
      exact fewer (fun call under_way => own call (List.mem_of_mem_filter under_way))
        (fun _ new => absurd new List.not_mem_nil)
  · refine fewer (fun call under_way => own call (calls ▸ under_way)) ?_
    rw [accepts_of_unanswered silent]
    exact fun _ new => absurd new List.not_mem_nil

/-- Only a job that somebody submitted is run. -/
theorem submitted_of_stint {width : Nat} {config : Config} {fresh : Pool J}
    (created : create width config = .ok fresh) (moves : List (PoolMove J))
    (ran : GatedRun.replay step fresh moves = some (pool, notes)) (stint : Stint J)
    (taken : stint ∈ stints notes) : ∃ caller, .count caller stint.job ∈ moves := by
  have sound := (create_soundFor width config created).replay moves ran
  obtain ⟨-, -, rfl⟩ := (create_eq_ok_iff width config).mp created
  have known := replay_preserves (Submitted moves) _ pool moves [] notes
    (fun _ _ _ _ _ member known stepped =>
      (step_transition _ stepped).submitted moves member known)
    (by rintro job (none | none) <;> cases none) ran
  exact known stint.job (.inr (sound.stocked.taken_first.mem (List.mem_map_of_mem taken)))

/-! ### After a shutdown -/

/-- The pool was shut down or let go, and all its workers are joined. -/
structure Settled (pool : Pool J) : Prop where
  shut : pool.stage = .closed ∨ pool.stage = .detached
  calls : pool.calls = []
  joined : pool.isJoined = true
  quiet : pool.isQuiet = true

theorem Staffed.settled (staffed : pool.Staffed) (closed : pool.stage = .closed)
    (joined : pool.isJoined = true) : pool.Settled :=
  ⟨.inl closed, staffed.calls (by simp [closed]), joined, staffed.quiet_of_joined joined⟩

/-- All that can still happen to a pool that was shut down is that it is let go. -/
theorem Transition.settled (settled : pool.Settled)
    (transition : pool.Transition move next told) :
    next = pool ∨ next = { pool with stage := .detached } := by
  have gone {worker : Nat} {phase : WorkerPhase J} (at_ : pool.workers[worker]? = some phase)
      (on : phase.isOver = false) : False := by
    have left := isQuiet_iff.mp settled.quiet phase (List.mem_of_getElem? at_)
    rw [on] at left
    cases left
  have all_joined {phase : WorkerPhase J} (at_ : pool.workers[pool.joined]? = some phase) :
      False := by
    rw [isJoined_iff.mp settled.joined, List.getElem?_eq_none (Nat.le_refl _)] at at_
    cases at_
  have none_found {caller : Nat} {call : SubmitCall J}
      (found : pool.calls.find? (·.caller == caller) = some call) : False := by
    rw [settled.calls] at found
    cases found
  have shut := settled.shut
  cases transition with
  | spawned stage | opened stage | refused _ stage | counted _ _ _ stage => simp [stage] at shut
  | closed stage calls =>
    rcases stage with stage | stage
    · simp [stage] at shut
    · exact .inl (by rw [← stage])
  | detached => exact .inr rfl
  | turnedAway => exact .inl rfl
  | joined _ at_ | joinedDead _ at_ => exact (all_joined at_).elim
  | sent _ _ _ call | bounced _ _ _ call | withdrawn _ _ _ call => exact (none_found call).elim
  | locked _ at_ | took _ _ _ at_ | foundNone _ at_ | reported _ _ _ _ at_ | died _ _ _ at_
  | exited _ _ _ at_ | progressed _ _ _ at_ | finished _ _ _ at_ => exact (gone at_ rfl).elim

theorem Settled.replay (settled : pool.Settled) (moves : List (PoolMove J))
    (ran : GatedRun.replay step pool moves = some (last, told)) :
    last = pool ∨ last = { pool with stage := .detached } := by
  refine replay_preserves
    (fun (state : Pool J) _ => state = pool ∨ state = { pool with stage := .detached })
    pool last moves [] told ?_ (.inl rfl) ran
  rintro state move next _ new - same stepped
  have transition := step_transition move stepped
  rcases same with rfl | rfl
  · exact transition.settled settled
  · have detached : ({ pool with stage := .detached } : Pool J).Settled :=
      ⟨.inr rfl, settled.calls, settled.joined, settled.quiet⟩
    exact .inr ((transition.settled detached).elim id id)

theorem Settled.figures (settled : pool.Settled) :
    pool.size = 0 ∧ pool.isOpen = false := by
  have joined := isJoined_iff.mp settled.joined
  rcases settled.shut with stage | stage <;> simp [size, isOpen, stage, joined]

theorem close_again (closed : pool.stage = .closed) (none : pool.calls = []) :
    pool.step .close = some (pool, []) := by
  cases pool
  cases closed
  cases none
  rfl

/-! ### Rejections -/

/-- When a submission is rejected, the pool is what the steps of all others since its beginning
would have made of it without the submission, and they have let the same be known; so it is in no
counter and not in the queue, and its job is run only if somebody else submits it. From then on no
submission is accepted, and whoever submits is turned away. After a shutdown has returned, the pool
has no workers to join and is not open; further shutdowns and submissions leave it exactly as it is,
and whatever is done to it, nothing changes apart from its being let go. -/
theorem rejection_leaves_no_trace (width : Nat) (config : Config) (fresh : Pool J)
    (created : create width config = .ok fresh) (moves : List (PoolMove J)) (pool : Pool J)
    (notes : List (PoolNote J)) (ran : GatedRun.replay step fresh moves = some (pool, notes)) :
    (∀ (caller : Nat) (job : J) (early : List (PoolMove J)) (move : PoolMove J)
      (middle last : Pool J) (told : List (PoolNote J)),
      (early ++ [move]).head? = some (.count caller job) →
      GatedRun.replay step pool early = some (middle, told) → answer? caller told = none →
      middle.step move = some (last, [.rejected caller job]) →
      GatedRun.replay step pool (othersThan caller early) = some (last, told) ∧
      ∀ (further : List (PoolMove J)) (final : Pool J) (rest : List (PoolNote J)),
        GatedRun.replay step last further = some (final, rest) →
        ((∀ other, .count other job ∉ moves ++ othersThan caller early ++ further) →
          ∀ stint ∈ stints (notes ++ told ++ .rejected caller job :: rest), stint.job ≠ job) ∧
        accepts rest = [] ∧
        ∀ (other : Nat) (another : J), final.calls.any (·.caller == other) = false →
          final.stage = .accepting ∨ final.stage = .closed → ∃ later ended more,
          GatedRun.replay step final (.count other another :: later) = some (ended, more) ∧
          answer? other more = some false) ∧
    (pool.stage = .closed → pool.isJoined = true →
      pool.size = 0 ∧ pool.isOpen = false ∧ pool.step .close = some (pool, []) ∧
      (∀ (caller : Nat) (job : J),
        pool.step (.count caller job) = some (pool, [.rejected caller job])) ∧
      ∀ (later : List (PoolMove J)) (last : Pool J) (more : List (PoolNote J)),
        GatedRun.replay step pool later = some (last, more) →
        (last = pool ∨ last = { pool with stage := .detached }) ∧
        last.size = 0 ∧ last.isOpen = false ∧ last.stats = pool.stats) := by
  have sound : pool.SoundFor width config notes :=
    (create_soundFor width config created).replay moves ran
  have dead : pool.BouncedByDead := by
    obtain ⟨-, -, rfl⟩ := (create_eq_ok_iff width config).mp created
    exact bouncedByDead_of_replay (create_sound width config created)
      (fun _ member => absurd member List.not_mem_nil) moves pool ran
  constructor
  · intro caller job early move middle last told begun went unanswered rejected
    obtain ⟨others, refusing⟩ :=
      sound.undone dead caller job early move middle last begun went unanswered rejected
    refine ⟨others, fun further final rest later => ?_⟩
    obtain ⟨still, none⟩ :=
      (sound.replay _ others).toSound.refusing_replay refusing further later
    refine ⟨?_, none, fun other another => still.turns_away other another⟩
    rintro nobody stint taken rfl
    have whole : GatedRun.replay step fresh (moves ++ othersThan caller early ++ further) =
        some (final, notes ++ told ++ rest) := by
      refine (replay_append_iff _ _ _ _ _).mpr ⟨last, notes ++ told, rest, ?_, later, rfl⟩
      exact (replay_append_iff _ _ _ _ _).mpr ⟨pool, notes, told, ran, others, rfl⟩
    -- The run of the others alone is a run of the pool, and none of its moves submits the job.
    obtain ⟨other, submitted⟩ := submitted_of_stint created _ whole stint (by simpa using taken)
    exact nobody other submitted
  · intro closed joined
    have settled := sound.staffed.settled closed joined
    obtain ⟨none, shut⟩ := settled.figures
    refine ⟨none, shut, close_again closed settled.calls, ?_, ?_⟩
    · intro caller job
      simp [step, count, closed, settled.calls]
    · intro later last more went
      have same := settled.replay later went
      refine ⟨same, ?_⟩
      rcases same with rfl | rfl
      · exact ⟨none, shut, rfl⟩
      · have workers : ({ pool with stage := .detached } : Pool J).size = pool.size := by
          rw [none]
          rfl
        exact ⟨rfl, rfl, by simp only [stats, statsAcross, workers]⟩

/-- The only worker of a pool is about to count a job that takes it down. -/
def lastJob : List (PoolMove Nat) :=
  [.spawn .given, .count 0 7, .send 0, .work 0, .work 0, .finish 0 .lethal]

/-- Two callers submit while the worker goes down. -/
def tooLate : List (PoolMove Nat) :=
  [.count 0 8, .work 0, .count 1 9, .work 0, .send 0, .send 1]

theorem rejection_leaves_no_trace_race :
    (∃ (pool middle last : Pool Nat) (notes told : List (PoolNote Nat)),
      GatedRun.replay step (unstarted {} 1) lastJob = some (pool, notes) ∧
      GatedRun.replay step pool tooLate = some (middle, told) ∧ middle.submitted = 3 ∧
      middle.step (.withdraw 0) = some (last, [.rejected 0 8]) ∧ last.submitted = 2 ∧
      GatedRun.replay step pool [.work 0, .count 1 9, .work 0, .send 1] = some (last, told) ∧
      (∀ stint ∈ stints (notes ++ told ++ [.rejected 0 8]), stint.job ≠ 8) ∧
      ∀ (further : List (PoolMove Nat)) (final : Pool Nat) (rest : List (PoolNote Nat)),
        GatedRun.replay step last further = some (final, rest) → accepts rest = []) ∧
    ∃ (pool : Pool Nat) (notes : List (PoolNote Nat)),
      GatedRun.replay step (unstarted {} 2) oneKilled = some (pool, notes) ∧
      pool.step (.count 4 5) = some (pool, [.rejected 4 5]) ∧
      ∀ (later : List (PoolMove Nat)) (last : Pool Nat) (more : List (PoolNote Nat)),
        GatedRun.replay step pool later = some (last, more) →
        last.isOpen = false ∧ last.stats = ⟨0, 3, 1, 2⟩ := by
  have ranRace : GatedRun.replay step (unstarted {} 1) lastJob = some (_, _) := rfl
  have ranOne : GatedRun.replay step (unstarted {} 2) oneKilled = some (_, _) := rfl
  obtain ⟨undone, -⟩ := rejection_leaves_no_trace 1 {} _ rfl _ _ _ ranRace
  obtain ⟨others, later⟩ := undone 0 8 tooLate (.withdraw 0) _ _ _ rfl rfl rfl rfl
  obtain ⟨unrun, -⟩ := later [] _ _ rfl
  obtain ⟨-, shut⟩ := rejection_leaves_no_trace 2 {} _ rfl _ _ _ ranOne
  obtain ⟨-, -, -, rejects, kept⟩ := shut rfl rfl
  refine ⟨⟨_, _, _, _, _, ranRace, rfl, rfl, rfl, rfl, others, unrun ?_,
    fun further final rest went => (later further final rest went).2.1⟩,
    ⟨_, _, ranOne, rejects 4 5, fun later last more went => (kept later last more went).2.2⟩⟩
  intro other
  simp [lastJob, tooLate, othersThan, PoolMove.caller?]

end Pool

end GatedRun
