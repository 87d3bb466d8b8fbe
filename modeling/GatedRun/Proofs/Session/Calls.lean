import GatedRun.Proofs.Execution.Completion

/-!
# The calls of a session

A session interleaves its calls. Seen from one call, a step of the session is a step of that call's
execution with the flag as the session has it, or it is none of its business. So each call is sound
on its own, with the notes that are its own, whatever the others do.
-/

namespace GatedRun

variable {τ α : Type}

/-! ### Notes of a call -/

namespace SessionNote

@[simp] def of? (call : Nat) : SessionNote τ α → Option (RunNote τ α)
  | .ofCall other note => if other = call then some note else none
  | .refused _ => none

end SessionNote

/-- What a session lets know of one call. -/
def callNotes (call : Nat) (notes : List (SessionNote τ α)) : List (RunNote τ α) :=
  notes.filterMap (SessionNote.of? call)

@[simp] theorem callNotes_nil (call : Nat) :
    callNotes call ([] : List (SessionNote τ α)) = [] := rfl

@[simp] theorem callNotes_cons (call : Nat) (note : SessionNote τ α)
    (notes : List (SessionNote τ α)) :
    callNotes call (note :: notes) = (note.of? call).toList ++ callNotes call notes :=
  filterMap_cons_toList _ note notes

@[simp] theorem callNotes_append (call : Nat) (notes more : List (SessionNote τ α)) :
    callNotes call (notes ++ more) = callNotes call notes ++ callNotes call more :=
  List.filterMap_append

theorem callNotes_own (call : Nat) (notes : List (RunNote τ α)) :
    callNotes call (notes.map (.ofCall call)) = notes := by
  induction notes with
  | nil => rfl
  | cons note notes ih => simp [ih]

theorem callNotes_other (call other : Nat) (apart : other ≠ call) (notes : List (RunNote τ α)) :
    callNotes call (notes.map (.ofCall other)) = [] := by
  induction notes with
  | nil => rfl
  | cons note notes ih => simp [ih, apart]

theorem mem_callNotes (call : Nat) (note : RunNote τ α) (notes : List (SessionNote τ α)) :
    note ∈ callNotes call notes ↔ .ofCall call note ∈ notes := by
  simp only [callNotes, List.mem_filterMap]
  constructor
  · rintro ⟨told, member, same⟩
    cases told with
    | refused error => cases same
    | ofCall other own =>
      simp only [SessionNote.of?] at same
      split at same
      next other_same =>
        cases same
        exact other_same ▸ member
      · cases same
  · intro member
    exact ⟨_, member, by simp⟩

namespace Session

variable {session after : Session τ α} {notes : List (SessionNote τ α)}
  {move : SessionMove τ α}

/-! ### Steps -/

theorem run_eq_some_iff (call : Nat) (now : Instant) (own : RunMove α) :
    session.run call now own = some (after, notes) ↔ ∃ execution next,
      session.calls[call]? = some execution ∧
      execution.step session.raised now own = some next ∧
      after = { session with
        raised := next.raised, calls := session.calls.set call next.execution } ∧
      notes = next.notes.map (.ofCall call) := by
  unfold run
  constructor
  · intro ran
    split at ran
    · cases ran
    next execution held =>
      split at ran
      · cases ran
      next next stepped =>
        cases ran
        exact ⟨execution, next, held, stepped, rfl, rfl⟩
  · rintro ⟨execution, next, held, stepped, rfl, rfl⟩
    simp only [held, stepped]

theorem begin_eq_some_iff (now : Instant) :
    session.step (.begin now) = some (after, notes) ↔ ∃ runner, session.runner = some runner ∧
      after = { session with calls :=
        session.calls ++ [(Execution.start runner.tasks runner.config now).1] } ∧
      notes = (Execution.start (α := α) runner.tasks runner.config now).2.map
        (.ofCall session.calls.length) := by
  simp only [step]
  constructor
  · intro stepped
    split at stepped
    · cases stepped
    next runner holds =>
      cases stepped
      exact ⟨runner, holds, rfl, rfl⟩
  · rintro ⟨runner, holds, rfl, rfl⟩
    simp only [holds]

/-- A step, seen from a call that has begun: the call's own, or none of its business. -/
theorem step_call (call : Nat) (execution : Execution τ α)
    (held : session.calls[call]? = some execution)
    (stepped : session.step move = some (after, notes)) :
    (∃ now own next, move = .run call now own ∧
      execution.step session.raised now own = some next ∧
      after.calls[call]? = some next.execution ∧ after.raised = next.raised ∧
      callNotes call notes = next.notes) ∨
    ((∀ now own, move ≠ .run call now own) ∧ after.calls[call]? = some execution ∧
      callNotes call notes = []) := by
  have below := (List.getElem?_eq_some_iff.mp held).1
  cases move with
  | extend extension =>
    right
    simp only [step] at stepped
    split at stepped
    · cases stepped
    · split at stepped <;> cases stepped <;> exact ⟨by simp, held, rfl⟩
  | drop | raise | take =>
    cases stepped
    exact .inr ⟨by simp, held, rfl⟩
  | begin now =>
    right
    obtain ⟨runner, -, rfl, rfl⟩ := (begin_eq_some_iff now).mp stepped
    exact ⟨by simp, by rw [List.getElem?_append_left below, held],
      callNotes_other call _ (Nat.ne_of_gt below) _⟩
  | run other now own =>
    obtain ⟨execution', next, held', moved, rfl, rfl⟩ := (run_eq_some_iff other now own).mp stepped
    by_cases same : other = call
    · subst same
      obtain rfl : execution' = execution := Option.some.inj (held'.symm.trans held)
      exact .inl ⟨now, own, next, rfl, moved, by rw [List.getElem?_set_self below], rfl,
        callNotes_own other _⟩
    -- A step of another call changes that call in the list, and tells of it alone.
    · refine .inr ⟨?_, ?_, callNotes_other call other same _⟩
      · rintro _ _ ⟨⟩
        exact same rfl
      · rw [List.getElem?_set_ne same, held]

/-- A call that was not there before a step is the one that begins in it. -/
theorem step_fresh (call : Nat) (fresh : session.calls[call]? = none) (execution : Execution τ α)
    (held : after.calls[call]? = some execution)
    (stepped : session.step move = some (after, notes)) : ∃ runner now, move = .begin now ∧
      session.runner = some runner ∧
      execution = (Execution.start runner.tasks runner.config now).1 := by
  cases move with
  | extend extension =>
    simp only [step] at stepped
    split at stepped
    · cases stepped
    · split at stepped <;> cases stepped <;> cases fresh.symm.trans held
  | drop | raise | take =>
    cases stepped
    cases fresh.symm.trans held
  | begin now =>
    obtain ⟨runner, holds, rfl, -⟩ := (begin_eq_some_iff now).mp stepped
    rw [List.getElem?_append_right (List.getElem?_eq_none_iff.mp fresh)] at held
    obtain ⟨_, same⟩ := List.getElem?_eq_some_iff.mp held
    rw [List.getElem_singleton] at same
    exact ⟨runner, now, rfl, holds, same.symm⟩
  | run other now own =>
    obtain ⟨before, next, -, -, rfl, -⟩ := (run_eq_some_iff other now own).mp stepped
    rw [List.getElem?_eq_none_iff] at fresh
    have below := (List.getElem?_eq_some_iff.mp held).1
    rw [List.length_set] at below
    omega

/-! ### One call -/

theorem call_soundFor (runner : Runner τ) (call : Nat) (known : List (SessionNote τ α))
    (held : ∃ execution, session.calls[call]? = some execution ∧
      execution.SoundFor runner (callNotes call known))
    (moves : List (SessionMove τ α))
    (ran : replay step session moves = some (after, notes)) :
    ∃ execution, after.calls[call]? = some execution ∧
      execution.SoundFor runner (callNotes call (known ++ notes)) := by
  refine replay_preserves (fun (state : Session τ α) told => ∃ execution,
    state.calls[call]? = some execution ∧ execution.SoundFor runner (callNotes call told))
    session after moves known notes ?_ held ran
  rintro state move next told new - ⟨execution, held, sound⟩ stepped
  -- The call's own step keeps it sound, and no other step changes it.
  rcases step_call call execution held stepped with
    ⟨now, own, further, -, moved, held', -, same⟩ | ⟨-, held', none⟩
  · refine ⟨further.execution, held', ?_⟩
    rw [callNotes_append, same]
    exact sound.step moved
  · refine ⟨execution, held', ?_⟩
    rw [callNotes_append, none, List.append_nil]
    exact sound

/-- A call of a sound runner is sound from its beginning on. -/
theorem begun_soundFor (runner : Runner τ) (sound : runner.IsSound)
    (holds : session.runner = some runner) (now : Instant) (moves : List (SessionMove τ α))
    (ran : replay step session (.begin now :: moves) = some (after, notes)) :
    ∃ execution, after.calls[session.calls.length]? = some execution ∧
      execution.SoundFor runner (callNotes session.calls.length notes) := by
  obtain ⟨begun, first, more, stepped, rest, rfl⟩ :=
    (replay_cons_iff session after (.begin now) moves notes).mp ran
  obtain ⟨runner', holds', rfl, rfl⟩ := (begin_eq_some_iff now).mp stepped
  obtain rfl : runner' = runner := Option.some.inj (holds'.symm.trans holds)
  refine call_soundFor runner' session.calls.length _ ?_ moves rest
  refine ⟨_, List.getElem?_concat_length, ?_⟩
  rw [callNotes_own]
  exact Execution.start_soundFor runner' sound now

/-! ### All calls -/

/-- The runner is an allowed one, and every call is a sound execution of an allowed one. -/
structure Sound (allowed : Runner τ → Prop) (session : Session τ α)
    (known : List (SessionNote τ α)) : Prop where
  runner : ∀ runner, session.runner = some runner → allowed runner
  calls : ∀ (call : Nat) (execution : Execution τ α), session.calls[call]? = some execution →
    ∃ runner, allowed runner ∧ execution.SoundFor runner (callNotes call known)
  fresh : ∀ call, session.calls.length ≤ call → callNotes call known = []

variable {allowed : Runner τ → Prop} {known : List (SessionNote τ α)}

theorem ofRunner_sound (runner : Runner τ) (allows : allowed runner) :
    Sound allowed (ofRunner (α := α) runner) [] := by
  refine ⟨?_, ?_, fun _ _ => rfl⟩
  · rintro _ ⟨⟩
    exact allows
  · intro call execution held
    rw [ofRunner, List.getElem?_nil] at held
    cases held

private theorem Sound.transfer (sound : Sound allowed session known)
    (calls : after.calls = session.calls) (none : ∀ call, callNotes call notes = [])
    (runner : ∀ runner, after.runner = some runner → allowed runner) :
    Sound allowed after (known ++ notes) := by
  refine ⟨runner, ?_, ?_⟩
  · intro call execution held
    rw [calls] at held
    rw [callNotes_append, none, List.append_nil]
    exact sound.calls call execution held
  · intro call above
    rw [calls] at above
    rw [callNotes_append, none, List.append_nil]
    exact sound.fresh call above

private theorem Sound.begin (sound : Sound allowed session known)
    (runs : ∀ runner, allowed runner → runner.IsSound) (now : Instant)
    (stepped : session.step (.begin now) = some (after, notes)) :
    Sound allowed after (known ++ notes) := by
  obtain ⟨runner, holds, rfl, rfl⟩ := (begin_eq_some_iff now).mp stepped
  have allows := sound.runner runner holds
  refine ⟨sound.runner, ?_, ?_⟩
  · intro call execution held
    rw [callNotes_append]
    rw [List.getElem?_append] at held
    split at held
    next below =>
      rw [callNotes_other call _ (Nat.ne_of_gt below), List.append_nil]
      exact sound.calls call execution held
    next above =>
      -- The call that begins is the next one, of which nothing was known.
      obtain ⟨inside, begun⟩ := List.getElem?_eq_some_iff.mp held
      rw [List.length_singleton] at inside
      obtain rfl : call = session.calls.length := by omega
      rw [List.getElem_singleton] at begun
      rw [sound.fresh _ (Nat.le_refl _), callNotes_own, List.nil_append, ← begun]
      exact ⟨runner, allows, Execution.start_soundFor runner (runs runner allows) now⟩
  · intro call above
    simp only [List.length_append, List.length_singleton] at above
    rw [callNotes_append, sound.fresh call (by omega),
      callNotes_other call session.calls.length (by omega), List.append_nil]

private theorem Sound.run (sound : Sound allowed session known) (other : Nat) (now : Instant)
    (own : RunMove α) (stepped : session.step (.run other now own) = some (after, notes)) :
    Sound allowed after (known ++ notes) := by
  obtain ⟨execution, next, held, moved, rfl, rfl⟩ := (run_eq_some_iff other now own).mp stepped
  have below := (List.getElem?_eq_some_iff.mp held).1
  refine ⟨sound.runner, ?_, ?_⟩
  · intro call execution' held'
    rw [callNotes_append]
    by_cases same : other = call
    · subst same
      rw [List.getElem?_set_self below] at held'
      obtain ⟨runner, allows, before⟩ := sound.calls other execution held
      rw [callNotes_own, ← Option.some.inj held']
      exact ⟨runner, allows, before.step moved⟩
    · rw [List.getElem?_set_ne same] at held'
      rw [callNotes_other call other same, List.append_nil]
      exact sound.calls call execution' held'
  · intro call above
    rw [List.length_set] at above
    rw [callNotes_append, sound.fresh call above, callNotes_other call other (by omega),
      List.append_nil]

/-- Every step keeps the calls sound, as long as an allowed runner is only extended to one. -/
theorem Sound.step (sound : Sound allowed session known)
    (runs : ∀ runner, allowed runner → runner.IsSound)
    (grows : ∀ runner extension extended, move = .extend extension → allowed runner →
      runner.extend extension = .ok extended → allowed extended)
    (stepped : session.step move = some (after, notes)) : Sound allowed after (known ++ notes) := by
  cases move with
  | extend extension =>
    simp only [Session.step] at stepped
    split at stepped
    · cases stepped
    next runner holds =>
      split at stepped
      next extended done =>
        cases stepped
        refine sound.transfer rfl (fun _ => rfl) ?_
        rintro _ ⟨⟩
        exact grows runner extension extended rfl (sound.runner runner holds) done
      · cases stepped
        exact sound.transfer rfl (fun _ => rfl) (by simp)
  | drop =>
    cases stepped
    exact sound.transfer rfl (fun _ => rfl) (by simp)
  | raise | take =>
    cases stepped
    exact sound.transfer rfl (fun _ => rfl) sound.runner
  | begin now => exact sound.begin runs now stepped
  | run other now own => exact sound.run other now own stepped

theorem Sound.next (sound : Sound Runner.IsSound session known)
    (stepped : session.step move = some (after, notes)) :
    Sound Runner.IsSound after (known ++ notes) := by
  refine sound.step (fun _ => id) ?_ stepped
  intro runner extension extended _ allows done
  exact allows.extend extension done

/-- What holds of every run as it starts, and is kept by its steps, a step of a session keeps of all
its calls. -/
theorem Sound.forall_calls (Holds : Execution τ α → Prop)
    (starts : ∀ runner : Runner τ, runner.IsSound → ∀ now,
      Holds (Execution.start runner.tasks runner.config now).1)
    (kept : ∀ (execution : Execution τ α) raised now own next, Holds execution →
      execution.Transition raised now own next → Holds next.execution)
    (sound : Sound Runner.IsSound session known)
    (all : ∀ (call : Nat) (execution : Execution τ α), session.calls[call]? = some execution →
      Holds execution)
    (stepped : session.step move = some (after, notes)) (call : Nat) (execution : Execution τ α)
    (held : after.calls[call]? = some execution) : Holds execution := by
  cases before : session.calls[call]? with
  | none =>
    obtain ⟨runner, now, -, holds, rfl⟩ := step_fresh call before execution held stepped
    exact starts runner (sound.runner runner holds) now
  | some earlier =>
    rcases step_call call earlier before stepped with
      ⟨now, own, next, -, moved, held', -, -⟩ | ⟨-, held', -⟩
    · obtain ⟨_, -, runs⟩ := sound.calls call earlier before
      obtain rfl : next.execution = execution := Option.some.inj (held'.symm.trans held)
      exact kept earlier _ now own next (all call earlier before) (runs.toSound.transition moved)
    · obtain rfl : earlier = execution := Option.some.inj (held'.symm.trans held)
      exact all call earlier before

/-- Whatever happens in the session of a sound runner, all its calls are sound. -/
theorem reached_sound (runner : Runner τ) (runs : runner.IsSound) (moves : List (SessionMove τ α))
    (ran : replay Session.step (ofRunner runner) moves = some (session, known)) :
    Sound Runner.IsSound session known := by
  refine replay_preserves (Sound Runner.IsSound) (ofRunner runner) session moves [] known ?_
    (ofRunner_sound runner runs) ran
  intro state move after told notes _ sound stepped
  exact sound.next stepped

end Session

end GatedRun
