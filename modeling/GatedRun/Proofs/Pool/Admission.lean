import GatedRun.Proofs.Pool.Conservation

/-!
# Admission to a pool

What becomes of a job that a caller submits, and what `isOpen` says of it beforehand.

A pool is open as long as nobody has shut it down. A job is also turned away when nobody is left to
receive it, and the workers of an open pool are gone only if each was killed by a job of its own. So
`isOpen` tells the answer of a submission exactly as long as a worker is alive. A pool whose workers
are all dead is open and rejects every job, although nobody has shut it down.

A job that is accepted keeps its place: it is taken in the order of acceptance, and it is in the
queue until then. It is lost only with the last worker.
-/

namespace GatedRun

variable {J : Type}

/-- How a submission of the caller is answered: accepted or not. -/
@[simp] def PoolNote.answerTo? (caller : Nat) : PoolNote J → Option Bool
  | .accepted own _ => if own = caller then some true else none
  | .rejected own _ => if own = caller then some false else none
  | _ => none

/-- The first answer that the caller gets. -/
def answer? (caller : Nat) (notes : List (PoolNote J)) : Option Bool :=
  notes.findSome? (PoolNote.answerTo? caller)

@[simp] theorem answer?_nil (caller : Nat) : answer? caller ([] : List (PoolNote J)) = none := rfl

@[simp] theorem answer?_singleton (caller : Nat) (note : PoolNote J) :
    answer? caller [note] = note.answerTo? caller := by
  simp only [answer?, List.findSome?_cons, List.findSome?_nil]
  cases note.answerTo? caller <;> rfl

@[simp] theorem answer?_append (caller : Nat) (notes more : List (PoolNote J)) :
    answer? caller (notes ++ more) = (answer? caller notes).or (answer? caller more) :=
  List.findSome?_append

namespace Pool

variable {pool next after : Pool J} {move : PoolMove J} {notes told : List (PoolNote J)}

/-! ### Open pools -/

theorem isOpen_iff : pool.isOpen = true ↔ pool.stage = .accepting := by
  simp [isOpen]

theorem hasReceiver_eq_false_iff :
    pool.hasReceiver = false ↔ ∀ phase ∈ pool.workers, phase.isOver = true := by
  simp [hasReceiver]

theorem Extinct.deserted (extinct : pool.Extinct) : pool.hasReceiver = false :=
  hasReceiver_eq_false_iff.mpr fun phase member => by rw [extinct.dead phase member]; rfl

/-- No worker leaves an open pool, so those that are over are dead. -/
theorem Sound.extinct_of_deserted (sound : pool.Sound notes) (stage : pool.stage = .accepting)
    (deserted : pool.hasReceiver = false) : pool.Extinct := by
  refine ⟨by simp [stage], fun phase member => ?_⟩
  have gone := hasReceiver_eq_false_iff.mp deserted phase member
  cases phase with
  | dead => rfl
  | exited => exact absurd stage (sound.stocked.left _ member rfl).2.2.2
  | _ => cases gone

theorem Sound.deserted_iff (sound : pool.Sound notes) (stage : pool.stage = .accepting) :
    pool.hasReceiver = false ↔ ∀ phase ∈ pool.workers, phase = .dead :=
  ⟨fun deserted => (sound.extinct_of_deserted stage deserted).dead,
    fun dead => Extinct.deserted ⟨by simp [stage], dead⟩⟩

/-- Each dead worker was killed by a job, so fewer such jobs than workers leave one alive. -/
theorem SoundFor.receiver_of_few {width : Nat} {config : Config}
    (sound : pool.SoundFor width config notes) (stage : pool.stage = .accepting)
    (few : (endings notes).count .lethal < width) : pool.hasReceiver = true := by
  rw [← Bool.not_eq_false]
  intro deserted
  have dead := (sound.deserted_iff stage).mp deserted
  have doomed : pool.workers.countP WorkerPhase.isDoomed = pool.workers.length :=
    List.countP_eq_length.mpr fun phase member => by rw [dead phase member]; rfl
  have manned := sound.staffed.manned
  rw [stage] at manned
  have all : pool.workers.length = pool.width := manned
  have killed := sound.tallied.killed
  have width := sound.width
  omega

/-! ### A submission that is under way -/

/-- A call that could not send its job has found all workers dead. -/
def BouncedByDead (pool : Pool J) : Prop :=
  ∀ call ∈ pool.calls, call.bounced = true → pool.Extinct

/-- Where a submission stands that was counted: it is under way, or it was answered, and it was
answered with a rejection only if all workers are dead. -/
def Attended (caller : Nat) (pool : Pool J) (told : List (PoolNote J)) : Prop :=
  match answer? caller told with
  | none => caller ∈ pool.calls.map SubmitCall.caller
  | some true => True
  | some false => pool.Extinct

/-- A step that is none of a caller's changes no submission, and answers none. -/
theorem Transition.caller_cases (transition : pool.Transition move next told) :
    (∃ caller job, move = .count caller job) ∨ (∃ caller, move = .send caller) ∨
      (∃ caller, move = .withdraw caller) ∨
      (next.calls = pool.calls ∧ ∀ caller, answer? caller told = none) := by
  cases transition with
  | counted caller job | turnedAway caller job => exact .inl ⟨caller, job, rfl⟩
  | sent caller | bounced caller => exact .inr (.inl ⟨caller, rfl⟩)
  | withdrawn caller => exact .inr (.inr (.inl ⟨caller, rfl⟩))
  | reported worker ending next told at_ report =>
    cases ending <;> cases report <;> exact .inr (.inr (.inr ⟨rfl, fun _ => rfl⟩))
  | died worker next told at_ lost =>
    rcases dropQueue_cases _ _ lost with ⟨-, rfl, rfl⟩ | ⟨-, rfl, rfl⟩ <;>
      exact .inr (.inr (.inr ⟨rfl, fun _ => rfl⟩))
  | exited worker next told at_ left =>
    rcases dropQueue_cases _ _ left with ⟨-, rfl, rfl⟩ | ⟨-, rfl, rfl⟩ <;>
      exact .inr (.inr (.inr ⟨rfl, fun _ => rfl⟩))
  | _ => exact .inr (.inr (.inr ⟨rfl, fun _ => rfl⟩))

theorem Transition.bouncedByDead (sound : pool.Sound notes)
    (transition : pool.Transition move next told) (dead : pool.BouncedByDead) :
    next.BouncedByDead := by
  -- A call that is left over was there before the step, and what is extinct stays so.
  have kept (calls : ∀ call ∈ next.calls, call ∈ pool.calls) : next.BouncedByDead :=
    fun call member bounced =>
      (transition.extinct (dead call (calls call member) bounced) notes).1
  rcases transition.caller_cases with ⟨caller, job, rfl⟩ | ⟨caller, rfl⟩ | ⟨caller, rfl⟩ |
    ⟨calls, -⟩
  · cases transition with
    | counted _ _ fresh stage =>
      intro call member bounced
      rcases List.mem_append.mp member with member | member
      · have extinct := dead call member bounced
        exact ⟨extinct.launched, extinct.dead⟩
      · rw [List.mem_singleton.mp member] at bounced
        cases bounced
    | turnedAway => exact dead
  · cases transition with
    | sent => exact kept fun _ member => List.mem_of_mem_filter member
    | bounced _ own job call receiver =>
      have stage := sound.staffed.accepting_of_call caller _ call
      have extinct := sound.extinct_of_deserted stage receiver
      exact fun _ _ _ => ⟨extinct.launched, extinct.dead⟩
  · cases transition with
    | withdrawn => exact kept fun _ member => List.mem_of_mem_filter member
  · exact kept fun _ member => calls ▸ member

/-- A caller whose submission is under way is not forgotten by a step that does not answer it. -/
theorem Transition.attended (caller : Nat) (sound : pool.Sound notes) (dead : pool.BouncedByDead)
    (transition : pool.Transition move next told)
    (waiting : caller ∈ pool.calls.map SubmitCall.caller) : next.Attended caller told := by
  have others (calls : List (SubmitCall J)) (other : Nat) (apart : other ≠ caller)
      (member : caller ∈ calls.map SubmitCall.caller) :
      caller ∈ (calls.filter (·.caller != other)).map SubmitCall.caller := by
    obtain ⟨call, known, rfl⟩ := List.mem_map.mp member
    exact List.mem_map.mpr ⟨call, List.mem_filter.mpr ⟨known, by simpa using Ne.symm apart⟩, rfl⟩
  rcases transition.caller_cases with ⟨other, job, rfl⟩ | ⟨other, rfl⟩ | ⟨other, rfl⟩ |
    ⟨calls, silent⟩
  · cases transition with
    | counted _ _ fresh stage =>
      simp only [Attended, answer?_nil, List.map_append]
      exact List.mem_append_left _ waiting
    | turnedAway _ _ fresh stage =>
      rw [sound.staffed.calls (by simp [stage])] at waiting
      cases waiting
  · cases transition with
    | sent _ own job call receiver =>
      by_cases same : other = caller
      · simp [Attended, same]
      · simpa [Attended, same] using others _ other same waiting
    | bounced _ own job call receiver =>
      simp only [Attended, answer?_nil, callers_bounce]
      exact waiting
  · cases transition with
    | withdrawn _ own job call =>
      by_cases same : other = caller
      · have extinct := dead _ (List.mem_of_find?_eq_some call) rfl
        simp only [Attended, answer?_singleton, PoolNote.answerTo?, same, if_true]
        exact ⟨extinct.launched, extinct.dead⟩
      · simpa [Attended, same] using others _ other same waiting
  · rw [Attended, silent caller, calls]
    exact waiting

/-- What is known of a submission and of those beside it, from the count on. -/
structure Heard (caller : Nat) (known : List (PoolNote J)) (pool : Pool J)
    (told : List (PoolNote J)) : Prop where
  sound : pool.Sound (known ++ told)
  dead : pool.BouncedByDead
  attended : pool.Attended caller told

theorem Heard.step (caller : Nat) (known : List (PoolNote J))
    (heard : Heard caller known pool notes) (stepped : pool.step move = some (next, told)) :
    Heard caller known next (notes ++ told) := by
  have transition := step_transition move stepped
  refine ⟨?_, transition.bouncedByDead heard.sound heard.dead, ?_⟩
  · rw [← List.append_assoc]
    exact heard.sound.step stepped
  have attended := heard.attended
  unfold Attended at attended ⊢
  rw [answer?_append]
  cases answered : answer? caller notes with
  | none =>
    rw [answered] at attended
    exact transition.attended caller heard.sound heard.dead attended
  | some accepted =>
    rw [answered] at attended
    cases accepted with
    | true => trivial
    | false => exact (transition.extinct attended (known ++ notes)).1

/-- The dead accept nothing. -/
theorem Extinct.rejects (extinct : pool.Extinct) (caller : Nat) (moves : List (PoolMove J))
    (last : Pool J) (ran : GatedRun.replay step pool moves = some (last, told)) :
    answer? caller told ≠ some true := by
  have kept := replay_preserves
    (fun (state : Pool J) known => state.Extinct ∧ answer? caller known ≠ some true)
    pool last moves [] told ?_ ⟨extinct, by simp⟩ ran
  · exact kept.2
  rintro state move next known new _ ⟨extinct, rejected⟩ stepped
  have transition := step_transition move stepped
  refine ⟨(transition.extinct extinct known).1, ?_⟩
  rw [answer?_append]
  suffices silent : answer? caller new ≠ some true by
    cases earlier : answer? caller known with
    | none => exact silent
    | some accepted =>
      rw [earlier] at rejected
      exact rejected
  cases transition with
  | sent _ _ _ _ receiver =>
    rw [extinct.deserted] at receiver
    cases receiver
  | turnedAway | withdrawn => simp
  | locked _ at_ | took _ _ _ at_ | foundNone _ at_ | reported _ _ _ _ at_ | died _ _ _ at_
  | exited _ _ _ at_ | progressed _ _ _ at_ | finished _ _ _ at_ =>
    cases extinct.dead _ (List.mem_of_getElem? at_)
  | _ => simp

theorem bouncedByDead_of_replay (sound : pool.Sound notes) (dead : pool.BouncedByDead)
    (moves : List (PoolMove J)) (last : Pool J)
    (ran : GatedRun.replay step pool moves = some (last, told)) : last.BouncedByDead := by
  have kept := replay_preserves
    (fun (state : Pool J) known => state.Sound known ∧ state.BouncedByDead)
    pool last moves notes told ?_ ⟨sound, dead⟩ ran
  · exact kept.2
  rintro state move next known new _ ⟨sound, dead⟩ stepped
  exact ⟨sound.step stepped, (step_transition move stepped).bouncedByDead sound dead⟩

/-- A submission is accepted only where the pool was open when it began, and a worker alive. It is
rejected only by a pool that was closed by then, or whose workers are all dead in the end. -/
theorem Sound.answered (sound : pool.Sound notes) (dead : pool.BouncedByDead) (caller : Nat)
    (job : J) (later : List (PoolMove J)) (last : Pool J) (more : List (PoolNote J))
    (ran : GatedRun.replay Pool.step pool (.count caller job :: later) = some (last, more))
    (accepted : Bool) (answered : answer? caller more = some accepted) :
    (accepted = true → pool.isOpen = true ∧ pool.hasReceiver = true) ∧
      (accepted = false → pool.stage = .closed ∨ ∀ phase ∈ last.workers, phase = .dead) := by
  obtain ⟨after, first, rest, stepped, went, rfl⟩ :=
    (replay_cons_iff pool last (.count caller job) later more).mp ran
  have transition := step_transition _ stepped
  have dead' := transition.bouncedByDead sound dead
  have sound' := sound.step stepped
  cases transition with
  | turnedAway _ _ fresh stage =>
    rw [answer?_append, answer?_singleton, PoolNote.answerTo?, if_pos rfl] at answered
    cases answered
    exact ⟨fun accepted => absurd accepted Bool.false_ne_true, fun _ => .inl stage⟩
  | counted _ _ fresh stage =>
    rw [List.nil_append] at answered
    refine ⟨?_, ?_⟩
    · rintro rfl
      refine ⟨isOpen_iff.mpr stage, ?_⟩
      rw [← Bool.not_eq_false]
      intro deserted
      have extinct := sound.extinct_of_deserted stage deserted
      have still := ((step_transition _ stepped).extinct extinct notes).1
      exact still.rejects caller later last went answered
    · rintro rfl
      rw [List.append_nil] at sound'
      have heard := replay_preserves (Heard caller notes) _ last later [] rest
        (fun _ _ _ _ _ _ heard stepped => heard.step caller notes stepped)
        ⟨by simpa using sound', dead', by simp [Attended]⟩ went
      have attended := heard.attended
      rw [List.nil_append, Attended, answered] at attended
      exact .inr attended.dead

/-! ### A submission without anybody else's steps -/

variable {caller : Nat} {job : J}

theorem count_accepting (job : J) (fresh : pool.calls.any (·.caller == caller) = false)
    (stage : pool.stage = .accepting) : ∃ next, pool.step (.count caller job) = some (next, []) ∧
      next.hasReceiver = pool.hasReceiver ∧
      next.calls.find? (·.caller == caller) = some { caller, job } := by
  refine ⟨{ pool with
    submitted := pool.submitted + 1, calls := pool.calls ++ [{ caller, job }] }, ?_, rfl, ?_⟩
  · simp [step, count, fresh, stage]
  have absent : pool.calls.find? (·.caller == caller) = none := by
    simpa [List.find?_eq_none, List.any_eq_false] using fresh
  simp [List.find?_append, absent]

theorem send_received (call : pool.calls.find? (·.caller == caller) = some { caller, job })
    (receiver : pool.hasReceiver = true) :
    ∃ next, pool.step (.send caller) = some (next, [.accepted caller job]) :=
  ⟨_, by simp only [step, send, call, receiver, if_true]; rfl⟩

theorem send_deserted (call : pool.calls.find? (·.caller == caller) = some { caller, job })
    (deserted : pool.hasReceiver = false) :
    ∃ next, pool.step (.send caller) = some (next, []) ∧
      next.calls.find? (·.caller == caller) = some { caller, job, bounced := true } := by
  refine ⟨{ pool with calls := pool.calls.map fun call =>
    if call.caller == caller then { call with bounced := true } else call }, ?_, ?_⟩
  · simp [step, send, call, deserted]
  have same : ((·.caller == caller) ∘ fun call : SubmitCall J =>
      if call.caller == caller then { call with bounced := true } else call) =
        (·.caller == caller) := by
    funext call
    simp only [Function.comp]
    split <;> rfl
  rw [List.find?_map, same, call]
  simp

theorem withdraw_bounced
    (call : pool.calls.find? (·.caller == caller) = some { caller, job, bounced := true }) :
    ∃ next, pool.step (.withdraw caller) = some (next, [.rejected caller job]) :=
  ⟨_, by simp only [step, withdraw, call]; rfl⟩

/-- A caller can always submit, and then it is accepted exactly where the pool is open and a worker
is alive. -/
theorem submit_alone (fresh : pool.calls.any (·.caller == caller) = false)
    (stage : pool.stage = .accepting ∨ pool.stage = .closed) : ∃ later last more,
      GatedRun.replay Pool.step pool (.count caller job :: later) = some (last, more) ∧
      answer? caller more = some (pool.isOpen && pool.hasReceiver) := by
  rcases stage with stage | stage
  · rw [isOpen_iff.mpr stage, Bool.true_and]
    obtain ⟨counted, first, receiver, call⟩ := count_accepting job fresh stage
    cases alive : pool.hasReceiver with
    | true =>
      obtain ⟨sent, second⟩ := send_received call (receiver.trans alive)
      exact ⟨[.send caller], sent, [.accepted caller job], by simp [replay, first, second],
        by simp⟩
    | false =>
      obtain ⟨bounced, second, call⟩ := send_deserted call (receiver.trans alive)
      obtain ⟨withdrawn, third⟩ := withdraw_bounced call
      exact ⟨[.send caller, .withdraw caller], withdrawn, [.rejected caller job],
        by simp [replay, first, second, third], by simp⟩
  · exact ⟨[], pool, [.rejected caller job], by simp [replay, step, count, fresh, stage],
      by simp [isOpen, stage]⟩

/-! ### What becomes of an accepted job -/

/-- Workers that go on by themselves can take the next job of the queue, and one of them is still
not doomed then. -/
def CanTake (pool : Pool J) (notes : List (PoolNote J)) : Prop :=
  ∃ moves next told, GatedRun.replay step pool moves = some (next, told) ∧ accepts told = [] ∧
    (stints (notes ++ told)).length = (stints notes).length + 1 ∧
    ∃ phase ∈ next.workers, phase.isDoomed = false

theorem CanTake.of_step (stepped : pool.step move = some (next, told)) (none : accepts told = [])
    (same : (stints (notes ++ told)).length = (stints notes).length)
    (can : next.CanTake (notes ++ told)) : pool.CanTake notes := by
  obtain ⟨moves, last, more, ran, silent, one, alive⟩ := can
  refine ⟨move :: moves, last, told ++ more, ?_, by simp [none, silent], ?_, alive⟩
  · exact (replay_cons_iff _ _ _ _ _).mpr ⟨next, told, more, stepped, ran, rfl⟩
  · rw [← List.append_assoc, one, same]

theorem mem_setWorker {worker : Nat} {old : WorkerPhase J} (phase : WorkerPhase J)
    (at_ : pool.workers[worker]? = some old) :
    (pool.setWorker worker phase).workers[worker]? = some phase := by
  simp [setWorker, (List.getElem?_eq_some_iff.mp at_).1]

theorem canTake_of_receiving (worker : Nat) (waiting : pool.queue ≠ [])
    (at_ : pool.workers[worker]? = some .receiving) : pool.CanTake notes := by
  obtain ⟨job, rest, queue⟩ := List.exists_cons_of_ne_nil waiting
  refine ⟨[.work worker], { pool.setWorker worker (.running job) with queue := rest },
    [.taken worker job], ?_, rfl, by simp, .running job, ?_, rfl⟩
  · simp [replay, step, work, receive, at_, queue]
  · exact List.mem_of_getElem? (mem_setWorker (.running job) at_)

theorem canTake_of_idle (worker : Nat) (waiting : pool.queue ≠ [])
    (at_ : pool.workers[worker]? = some .idle) : pool.CanTake notes := by
  cases free : pool.lockIsFree with
  | true =>
    have stepped : pool.step (.work worker) = some (pool.setWorker worker .receiving, []) := by
      simp [step, work, at_, free]
    exact .of_step stepped rfl (by simp)
      (canTake_of_receiving worker waiting (mem_setWorker .receiving at_))
  -- Another worker holds the lock, and it takes the job.
  | false =>
    obtain ⟨holder, held⟩ := exists_receiving free
    exact canTake_of_receiving holder waiting held

theorem canTake_of_reporting (worker : Nat) (ending : JobEnding) (waiting : pool.queue ≠ [])
    (survives : ending ≠ .lethal) (at_ : pool.workers[worker]? = some (.reporting ending)) :
    pool.CanTake notes := by
  have stepped : pool.step (.work worker) = some (pool.report worker ending) := by
    simp [step, work, at_]
  have idle := mem_setWorker .idle at_
  cases ending with
  | returned => exact .of_step stepped rfl (by simp) (canTake_of_idle worker waiting idle)
  | unwound => exact .of_step stepped rfl (by simp) (canTake_of_idle worker waiting idle)
  | lethal => exact absurd rfl survives

/-- As long as a worker is not doomed, the next job of the queue can be taken. -/
theorem Sound.canTake (sound : pool.Sound notes) (waiting : pool.queue ≠ [])
    (alive : ∃ phase ∈ pool.workers, phase.isDoomed = false) : pool.CanTake notes := by
  obtain ⟨phase, member, alive⟩ := alive
  have stays (left : phase.hasLeft = true) : False :=
    waiting (sound.stocked.left phase member left).1
  obtain ⟨worker, at_⟩ := List.mem_iff_getElem?.mp member
  cases phase with
  | idle => exact canTake_of_idle worker waiting at_
  | receiving => exact canTake_of_receiving worker waiting at_
  | running job =>
    have stepped : pool.step (.finish worker .returned) = some
        (pool.setWorker worker (.reporting .returned), [.ended worker job .returned]) := by
      simp [Pool.step, finish, at_]
    refine .of_step stepped rfl (by simp) ?_
    exact canTake_of_reporting worker .returned waiting (by simp)
      (mem_setWorker (.reporting .returned) at_)
  | reporting ending =>
    exact canTake_of_reporting worker ending waiting (by rintro rfl; cases alive) at_
  | leaving | exited => exact (stays rfl).elim
  | dying | dead => cases alive

/-- The job that was accepted in this place was taken. -/
def TakenAt (place : Nat) (job : J) (notes : List (PoolNote J)) : Prop :=
  ∃ stint, (stints notes)[place]? = some stint ∧ stint.job = job

theorem Stocked.takenAt (stocked : pool.Stocked notes) (place : Nat) (job : J)
    (at_ : (accepts notes)[place]? = some job) (below : place < (stints notes).length) :
    TakenAt place job notes := by
  refine ⟨(stints notes)[place], List.getElem?_eq_getElem below, ?_⟩
  rw [stocked.order, List.getElem?_append_left (by simpa using below)] at at_
  simpa [below] using at_

/-- A job that was accepted was taken in its place, or it waits in the queue, unless jobs were
lost. -/
theorem Stocked.taken_or_waits (stocked : pool.Stocked notes) (place : Nat) (job : J)
    (at_ : (accepts notes)[place]? = some job) (kept : losses notes = []) :
    TakenAt place job notes ∨
      (stints notes).length ≤ place ∧ pool.queue[place - (stints notes).length]? = some job := by
  rcases Nat.lt_or_ge place (stints notes).length with below | above
  · exact .inl (stocked.takenAt place job at_ below)
  · rw [stocked.order, kept, List.nil_append,
      List.getElem?_append_right (by simpa using above)] at at_
    exact .inr ⟨above, by simpa using at_⟩

/-- As long as a worker is not doomed, every job that was accepted can be taken. -/
theorem SoundFor.can_take {width : Nat} {config : Config}
    (sound : pool.SoundFor width config notes) (place : Nat) (job : J)
    (at_ : (accepts notes)[place]? = some job)
    (alive : ∃ phase ∈ pool.workers, phase.isDoomed = false) : ∃ moves last told,
      GatedRun.replay step pool moves = some (last, told) ∧ TakenAt place job (notes ++ told) := by
  -- By induction on how many jobs are still to be taken up to this one.
  obtain ⟨left, enough⟩ : ∃ left, place < (stints notes).length + left := ⟨place + 1, by omega⟩
  induction left generalizing pool notes with
  | zero =>
    exact ⟨[], pool, [], rfl, by simpa using sound.stocked.takenAt place job at_ enough⟩
  | succ left ih =>
    have kept : losses notes = [] := by
      by_contra lost
      obtain ⟨phase, member, alive⟩ := alive
      rw [sound.dead_of_losses lost phase member] at alive
      cases alive
    rcases sound.stocked.taken_or_waits place job at_ kept with taken | ⟨above, waits⟩
    · exact ⟨[], pool, [], rfl, by simpa using taken⟩
    have waiting : pool.queue ≠ [] := by
      intro empty
      rw [empty] at waits
      cases waits
    obtain ⟨moves, next, told, ran, none, one, alive⟩ := sound.canTake waiting alive
    obtain ⟨more, last, rest, finished, taken⟩ := ih (sound.replay moves ran)
      (by simpa [none] using at_) alive (by omega)
    refine ⟨moves ++ more, last, told ++ rest, ?_, by simpa using taken⟩
    exact (replay_append_iff _ _ _ _ _).mpr ⟨next, told, rest, ran, finished, rfl⟩

/-! ### The answer of a pool -/

/-- Only its owner closes a pool. -/
theorem close_of_closed (fresh : Pool J) (stage : fresh.stage ≠ .closed)
    (moves : List (PoolMove J)) (ran : GatedRun.replay step fresh moves = some (pool, notes))
    (closed : pool.stage = .closed) : PoolMove.close ∈ moves := by
  obtain ⟨before, move, rest, middle, next, -, second, -, rfl, -, -, opened, stepped, shut, -⟩ :=
    replay_switch (fun state : Pool J => state.stage ≠ .closed) fresh pool moves notes stage
      (fun still => still closed) ran
  suffices move = .close by simp [this]
  have same (still : next.stage = middle.stage) : move = .close :=
    absurd (still ▸ opened) shut
  have transition := step_transition move stepped
  cases transition with
  | closed => rfl
  | opened | refused | detached => exact absurd (by simp) shut
  | reported worker ending next told at_ report =>
    cases ending <;> cases report <;> exact same rfl
  | died worker next told at_ lost =>
    rcases dropQueue_cases _ _ lost with ⟨-, rfl, -⟩ | ⟨-, rfl, -⟩ <;> exact same rfl
  | exited worker next told at_ left =>
    rcases dropQueue_cases _ _ left with ⟨-, rfl, -⟩ | ⟨-, rfl, -⟩ <;> exact same rfl
  | _ => exact same rfl

/-- A submission is accepted only by a pool that is open, with a worker alive, and it is rejected
only by a pool that was closed or whose workers are all dead in the end; without the steps of others
it is accepted exactly where the pool is open and a worker alive. So `isOpen` tells the answer
exactly as long as fewer workers were killed than there are. A job that is accepted is taken in its
place, after all those that were accepted before it, unless every worker is killed. -/
theorem open_answers_submissions (width : Nat) (config : Config) (fresh : Pool J)
    (created : create width config = .ok fresh) (moves : List (PoolMove J)) (pool : Pool J)
    (notes : List (PoolNote J)) (ran : GatedRun.replay step fresh moves = some (pool, notes)) :
    (∀ (caller : Nat) (job : J) (later : List (PoolMove J)) (last : Pool J)
      (more : List (PoolNote J)) (accepted : Bool),
      GatedRun.replay step pool (.count caller job :: later) = some (last, more) →
      answer? caller more = some accepted →
      (accepted = true → pool.isOpen = true ∧ pool.hasReceiver = true) ∧
      (accepted = false →
        pool.isOpen = false ∧ PoolMove.close ∈ moves ∨ ∀ phase ∈ last.workers, phase = .dead)) ∧
    (∀ (caller : Nat) (job : J), pool.calls.any (·.caller == caller) = false →
      pool.stage = .accepting ∨ pool.stage = .closed → ∃ later last more,
      GatedRun.replay step pool (.count caller job :: later) = some (last, more) ∧
      answer? caller more = some (pool.isOpen && pool.hasReceiver)) ∧
    (pool.isOpen = true →
      (pool.hasReceiver = false ↔ ∀ phase ∈ pool.workers, phase = .dead) ∧
      ((endings notes).count .lethal < width → pool.hasReceiver = true)) ∧
    ∀ (caller : Nat) (job : J) (next : Pool J) (later : List (PoolMove J)) (last : Pool J)
      (more : List (PoolNote J)), pool.step (.send caller) = some (next, [.accepted caller job]) →
      GatedRun.replay step next later = some (last, more) →
      (stints notes).length ≤ (accepts notes).length ∧
      ((∀ phase ∈ last.workers, phase = .dead) ∨
        TakenAt (accepts notes).length job (notes ++ [.accepted caller job] ++ more) ∨
        job ∈ last.queue) ∧
      (last.HasEnded → last.workers.countP WorkerPhase.isDead < width →
        TakenAt (accepts notes).length job (notes ++ [.accepted caller job] ++ more)) ∧
      ((∃ phase ∈ last.workers, phase.isDoomed = false) → ∃ further final rest,
        GatedRun.replay step last further = some (final, rest) ∧
        TakenAt (accepts notes).length job
          (notes ++ [.accepted caller job] ++ more ++ rest)) := by
  have sound : pool.SoundFor width config notes :=
    (create_soundFor width config created).replay moves ran
  obtain ⟨-, -, rfl⟩ := (create_eq_ok_iff width config).mp created
  have dead : pool.BouncedByDead := by
    have none : (unstarted config width : Pool J).BouncedByDead :=
      fun _ member => absurd member List.not_mem_nil
    exact bouncedByDead_of_replay (create_sound width config created) none moves pool ran
  refine ⟨?_, ?_, ?_, ?_⟩
  · intro caller job later last more accepted went answered
    obtain ⟨took, refused⟩ := sound.answered dead caller job later last more went accepted answered
    refine ⟨took, fun rejected => (refused rejected).imp_left fun closed => ⟨?_, ?_⟩⟩
    · simp [isOpen, closed]
    · exact close_of_closed _ (by simp [unstarted]) moves ran closed
  · exact fun caller job unknown stage => submit_alone unknown stage
  · intro opened
    have stage := isOpen_iff.mp opened
    exact ⟨sound.deserted_iff stage, sound.receiver_of_few stage⟩
  intro caller job next later last more sent went
  have later : last.SoundFor width config (notes ++ [.accepted caller job] ++ more) := by
    refine SoundFor.replay ?_ later went
    have both : GatedRun.replay step (unstarted config width) (moves ++ [.send caller]) =
        some (next, notes ++ [.accepted caller job]) := by
      refine (replay_append_iff _ _ _ _ _).mpr ⟨pool, notes, _, ran, ?_, rfl⟩
      simp [replay, sent]
    exact (create_soundFor width config created).replay _ both
  have place : (accepts (notes ++ [.accepted caller job] ++ more))[(accepts notes).length]? =
      some job := by simp
  refine ⟨?_, ?_, ?_, fun alive => later.can_take _ job place alive⟩
  · simpa using sound.stocked.taken_first.length_le
  · by_cases lost : losses (notes ++ [.accepted caller job] ++ more) = []
    · refine .inr ((later.stocked.taken_or_waits _ job place lost).imp_right fun waits => ?_)
      exact List.mem_of_getElem? waits.2
    · exact .inl (later.dead_of_losses lost)
  · intro ended survivor
    obtain ⟨empty, none⟩ := later.emptied ended (later.width ▸ survivor)
    refine (later.stocked.taken_or_waits _ job place none).resolve_right fun waits => ?_
    rw [empty] at waits
    cases waits.2

/-- In a pool of two, the worker that is left takes what is submitted after the other one was
killed. A pool whose only worker was killed is open, and it rejects whatever is submitted. -/
theorem open_answers_submissions_killed :
    (∃ (pool next last : Pool Nat) (notes more : List (PoolNote Nat)),
      GatedRun.replay step (unstarted {} 2) (oneKilled.take 16) = some (pool, notes) ∧
      pool.isOpen = true ∧ WorkerPhase.dead ∈ pool.workers ∧
      pool.step (.send 0) = some (next, [.accepted 0 9]) ∧
      GatedRun.replay step next (oneKilled.drop 17) = some (last, more) ∧
      TakenAt 2 9 (notes ++ [.accepted 0 9] ++ more)) ∧
    ∃ (pool : Pool Nat) (notes : List (PoolNote Nat)),
      GatedRun.replay step (unstarted {} 1) allKilled = some (pool, notes) ∧ pool.isOpen = true ∧
      ∀ (caller job : Nat) (later : List (PoolMove Nat)) (last : Pool Nat)
        (more : List (PoolNote Nat)) (accepted : Bool),
        GatedRun.replay step pool (.count caller job :: later) = some (last, more) →
        answer? caller more = some accepted → accepted = false := by
  have ranOne : GatedRun.replay step (unstarted {} 2) (oneKilled.take 16) = some (_, _) := rfl
  have ranAll : GatedRun.replay step (unstarted {} 1) allKilled = some (_, _) := rfl
  obtain ⟨-, -, -, kept⟩ := open_answers_submissions 2 {} _ rfl _ _ _ ranOne
  obtain ⟨answers, -⟩ := open_answers_submissions 1 {} _ rfl _ _ _ ranAll
  refine ⟨⟨_, _, _, _, _, ranOne, rfl, .tail _ (.head _), rfl, rfl,
    (kept 0 9 _ (oneKilled.drop 17) _ _ rfl rfl).2.2.1 (.inl ⟨rfl, rfl⟩) (by decide)⟩,
    ⟨_, _, ranAll, rfl, ?_⟩⟩
  intro caller job later last more accepted went answered
  cases accepted with
  | true => cases ((answers caller job later last more _ went answered).1 rfl).2
  | false => rfl

/-- The only worker of a pool is killed by its first job. Nobody shuts the pool down, which is still
open, and the next job is rejected. -/
theorem open_pool_rejects : ∃ (pool last : Pool Nat) (notes more : List (PoolNote Nat)),
    GatedRun.replay step (unstarted {} 1) [.spawn .given, .count 0 7, .send 0, .work 0, .work 0,
      .finish 0 .lethal, .work 0, .work 0] = some (pool, notes) ∧ pool.isOpen = true ∧
    GatedRun.replay step pool [.count 0 8, .send 0, .withdraw 0] = some (last, more) ∧
    answer? 0 more = some false :=
  ⟨_, _, _, _, rfl, rfl, rfl, rfl⟩

end Pool

end GatedRun
