import GatedRun.Proofs.Session.Handles
import GatedRun.Proofs.Workshop.Sessions

/-!
# Handles on bodies

A workshop counts the handles on each body as they are made and let go, step by step. Here this
count is compared with what there is: the named tasks, the entries in the lists of the runners, and
the jobs of all runs that are not over. They are as many in every state (`Tracked.replay`), whatever
was refused on the way and however the runs have ended.

`Gained` says what the steps before a runner is made or extended have added to the count, and
`Balanced.settle` is the one account of a step in a session.
-/

namespace GatedRun

variable {α : Type}

namespace Workshop

variable {workshop after held : Workshop α}

/-! ### Counting handles -/

theorem lt_of_handlesOn_pos (body : Nat) (some : 0 < workshop.handlesOn body) :
    body < workshop.handles.length := by
  apply Nat.lt_of_not_le
  intro above
  rw [handlesOn, List.getD_eq_getElem?_getD, List.getElem?_eq_none above] at some
  exact Nat.lt_irrefl 0 some

theorem handlesOn_retain (body count : Nat) (known : body < workshop.handles.length)
    (other : Nat) : (workshop.retain body count).handlesOn other =
      workshop.handlesOn other + (List.replicate count body).count other := by
  simp only [handlesOn, retain, List.getD_eq_getElem?_getD, List.getElem?_modify,
    List.count_replicate]
  by_cases same : body = other
  · subst same
    simp [List.getElem?_eq_getElem known]
  · simp [same]

theorem handlesOn_release (workshop : Workshop α) (bodies : List Nat) (body : Nat) :
    (workshop.release bodies).handlesOn body = workshop.handlesOn body - bodies.count body := by
  induction bodies generalizing workshop with
  | nil => rfl
  | cons first rest ih =>
    have one : (workshop.release [first]).handlesOn body =
        workshop.handlesOn body - [first].count body := by
      simp only [handlesOn, release, List.foldl_cons, List.foldl_nil,
        List.getD_eq_getElem?_getD, List.getElem?_modify, List.count_singleton]
      by_cases same : first = body
      · subst same
        cases workshop.handles[first]? <;> simp
      · simp [same]
    change ((workshop.release [first]).release rest).handlesOn body = _
    rw [ih, one, Nat.sub_sub, ← List.count_append]
    rfl

theorem handlesOn_newBody (body : Nat) : workshop.newBody.2.handlesOn body =
    workshop.handlesOn body + [workshop.newBody.1].count body := by
  simp only [handlesOn, newBody, List.getD_eq_getElem?_getD, List.getElem?_append,
    List.count_singleton]
  split
  next below => simp [Nat.ne_of_gt below]
  next above =>
    rw [List.getElem?_eq_none (Nat.not_lt.mp above), List.getElem?_singleton]
    by_cases same : workshop.handles.length = body
    · simp [same]
    · have apart : body - workshop.handles.length ≠ 0 := by omega
      simp [same, apart]

@[simp] theorem length_release (bodies : List Nat) :
    (workshop.release bodies).handles.length = workshop.handles.length := by
  induction bodies generalizing workshop with
  | nil => rfl
  | cons first rest ih =>
    change ((workshop.release [first]).release rest).handles.length = _
    rw [ih]
    exact List.length_modify _ _ _

@[simp] theorem length_retain (body count : Nat) :
    (workshop.retain body count).handles.length = workshop.handles.length :=
  List.length_modify _ _ _

@[simp] theorem length_account (note : SessionNote Nat α) :
    (workshop.account note).handles.length = workshop.handles.length := by
  unfold account
  split
  · exact length_retain _ _
  · exact length_release _
  · rfl

/-- What is let know of a run changes the count by the handle that is made or let go. -/
private theorem handlesOn_account (workshop : Workshop α) (note : SessionNote Nat α)
    (known : ∀ body ∈ handlesTaken note.note?.toList, body < workshop.handles.length)
    (fits : ∀ body, (handlesReleased note.note?.toList).count body ≤ workshop.handlesOn body)
    (body : Nat) : (workshop.account note).handlesOn body +
        (handlesReleased note.note?.toList).count body =
      workshop.handlesOn body + (handlesTaken note.note?.toList).count body := by
  cases note with
  | refused error => rfl
  | ofCall call note =>
    cases note with
    | handleTaken task =>
      have below : task < workshop.handles.length := known task List.mem_cons_self
      exact handlesOn_retain task 1 below body
    | handleReleased task =>
      have less : (workshop.release [task]).handlesOn body + [task].count body =
          workshop.handlesOn body := by
        rw [handlesOn_release]
        exact Nat.sub_add_cancel (fits body)
      exact less
    | _ => rfl

/-- What a session lets know changes the count by the handles that were made and let go. -/
theorem handlesOn_foldl_account (workshop : Workshop α) (told : List (SessionNote Nat α))
    (known : ∀ body ∈ handlesTaken (runNotes told), body < workshop.handles.length)
    (fits : ∀ body, (handlesReleased (runNotes told)).count body ≤ workshop.handlesOn body)
    (body : Nat) : (told.foldl account workshop).handlesOn body +
        (handlesReleased (runNotes told)).count body =
      workshop.handlesOn body + (handlesTaken (runNotes told)).count body := by
  induction told generalizing workshop with
  | nil => rfl
  | cons note told ih =>
    simp only [runNotes_cons, handlesTaken_append, handlesReleased_append, List.mem_append,
      List.count_append, List.foldl_cons] at known fits ⊢
    have one := handlesOn_account workshop note (fun body taken => known body (.inl taken))
      fun body => Nat.le_trans (Nat.le_add_right _ _) (fits body)
    have rest := ih (workshop.account note) ?_ ?_
    · have one := one body
      omega
    · intro other taken
      rw [length_account]
      exact known other (.inr taken)
    · intro other
      have one := one other
      have fits := fits other
      omega

theorem length_foldl_account (told : List (SessionNote Nat α)) :
    (told.foldl account workshop).handles.length = workshop.handles.length := by
  induction told generalizing workshop with
  | nil => rfl
  | cons note told ih => rw [List.foldl_cons, ih, length_account]

theorem tasks_foldl_account (told : List (SessionNote Nat α)) :
    (told.foldl account workshop).tasks = workshop.tasks := by
  induction told generalizing workshop with
  | nil => rfl
  | cons note told ih =>
    rw [List.foldl_cons, ih]
    unfold account
    split <;> rfl

/-! ### Obtaining handles -/

/-- Handles on the bodies were added to the count, and nothing else was done. -/
structure Gained (before after : Workshop α) (bodies : List Nat) : Prop where
  tasks : after.tasks = before.tasks
  sessions : after.sessions = before.sessions
  more : before.handles.length ≤ after.handles.length
  handles : ∀ body, after.handlesOn body = before.handlesOn body + bodies.count body

theorem Gained.refl (workshop : Workshop α) : Gained workshop workshop [] :=
  ⟨rfl, rfl, Nat.le_refl _, fun _ => rfl⟩

theorem Gained.trans {first second third : Workshop α} {bodies more : List Nat}
    (one : Gained first second bodies) (other : Gained second third more) :
    Gained first third (bodies ++ more) := by
  refine ⟨other.tasks.trans one.tasks, other.sessions.trans one.sessions,
    Nat.le_trans one.more other.more, fun body => ?_⟩
  rw [other.handles, one.handles, List.count_append, Nat.add_assoc]

/-- What was gained can be let go again. -/
theorem Gained.released {before after : Workshop α} {bodies : List Nat}
    (gained : Gained before after bodies) : Gained before (after.release bodies) [] := by
  refine ⟨gained.tasks, gained.sessions, ?_, fun body => ?_⟩
  · rw [length_release]
    exact gained.more
  · rw [handlesOn_release, gained.handles, Nat.add_sub_cancel]
    rfl

theorem newBody_gained (workshop : Workshop α) :
    Gained workshop workshop.newBody.2 [workshop.newBody.1] := by
  refine ⟨rfl, rfl, ?_, handlesOn_newBody⟩
  simp [newBody]

theorem retain_gained (body count : Nat) (known : body < workshop.handles.length) :
    Gained workshop (workshop.retain body count) (List.replicate count body) :=
  ⟨rfl, rfl, Nat.le_of_eq (length_retain body count).symm, handlesOn_retain body count known⟩

/-- The tasks that have a name are handles on bodies that there are. -/
def HasBodies (workshop : Workshop α) : Prop :=
  ∀ name body, workshop.task? name = some body → body < workshop.handles.length

theorem Gained.hasBodies {bodies : List Nat} (gained : Gained workshop held bodies)
    (based : workshop.HasBodies) : held.HasBodies := by
  intro name body found
  rw [task?, gained.tasks] at found
  exact Nat.lt_of_lt_of_le (based name body found) gained.more

theorem obtain_gained (based : workshop.HasBodies) (source : TaskSource) (body : Nat)
    (obtained : workshop.obtain? source = some (body, held)) : Gained workshop held [body] := by
  cases source with
  | fresh =>
    cases obtained
    exact newBody_gained workshop
  | copy name =>
    obtain ⟨own, found, same⟩ := Option.map_eq_some_iff.mp obtained
    cases same
    exact retain_gained body 1 (based name body found)

theorem obtainAll_gained (based : workshop.HasBodies) (sources : List TaskSource)
    (bodies : List Nat) (obtained : workshop.obtainAll? sources = some (bodies, held)) :
    Gained workshop held bodies := by
  induction sources generalizing workshop bodies with
  | nil =>
    cases obtained
    exact .refl _
  | cons source rest ih =>
    rw [obtainAll?] at obtained
    split at obtained
    · cases obtained
    next body first one =>
      obtain ⟨⟨others, _⟩, more, same⟩ := Option.map_eq_some_iff.mp obtained
      cases same
      have gained := obtain_gained based source body one
      exact gained.trans (ih (gained.hasBodies based) others more)

theorem obtainOpening_gained (based : workshop.HasBodies) (opening : Opening TaskSource)
    (opened : Opening Nat) (obtained : workshop.obtainOpening? opening = some (opened, held)) :
    Gained workshop held opened.handles := by
  cases opening with
  | task source | repeated source count =>
    obtain ⟨⟨body, _⟩, one, same⟩ := Option.map_eq_some_iff.mp obtained
    cases same
    exact obtain_gained based source body one
  | tasks sources =>
    obtain ⟨⟨bodies, _⟩, all, same⟩ := Option.map_eq_some_iff.mp obtained
    cases same
    exact obtainAll_gained based sources bodies all

theorem obtainExtension_gained (based : workshop.HasBodies) (extension : Extension TaskSource)
    (extended : Extension Nat)
    (obtained : workshop.obtainExtension? extension = some (extended, held)) :
    Gained workshop held extended.handles := by
  cases extension with
  | task source | repeated source count =>
    obtain ⟨⟨body, _⟩, one, same⟩ := Option.map_eq_some_iff.mp obtained
    cases same
    exact obtain_gained based source body one
  | threadCount count | config config =>
    cases obtained
    exact .refl workshop

/-- One handle becomes that of the first entry, and each further entry gets another one. -/
theorem Gained.repeats (body count : Nat) (gained : Gained workshop held [body])
    (some : count ≠ 0) : Gained workshop (held.retainRepeats (List.replicate count body))
      (List.replicate count body) := by
  obtain ⟨more, rfl⟩ := Nat.exists_eq_succ_of_ne_zero some
  have known : body < held.handles.length := by
    apply lt_of_handlesOn_pos
    rw [gained.handles, List.count_singleton_self]
    exact Nat.succ_pos _
  have repeated := gained.trans (retain_gained body more known)
  simpa [List.replicate_succ, retainRepeats] using repeated

/-! ### Named tasks -/

def named (workshop : Workshop α) (body : Nat) : Nat := (workshop.tasks.map Prod.snd).count body

/-- Taking a name away takes its task out of the list, if there is one, and lets its handle go. -/
theorem withoutTask_cases (names : (workshop.tasks.map Prod.fst).Nodup) (name : String) :
    (workshop.withoutTask name = workshop ∧ name ∉ workshop.tasks.map Prod.fst) ∨
    ∃ body earlier later, workshop.tasks = earlier ++ (name, body) :: later ∧
      name ∉ (earlier ++ later).map Prod.fst ∧
      workshop.withoutTask name =
        { workshop.release [body] with tasks := earlier ++ later } := by
  unfold withoutTask
  split
  next none =>
    left
    refine ⟨rfl, fun member => ?_⟩
    obtain ⟨task, held, rfl⟩ := List.mem_map.mp member
    simpa using List.lookup_eq_none_iff.mp none task held
  next body found =>
    right
    obtain ⟨earlier, later, same, -⟩ := List.lookup_eq_some_iff.mp found
    rw [same, List.map_append, List.map_cons, List.nodup_middle, ← List.map_append,
      List.nodup_cons] at names
    refine ⟨body, earlier, later, same, names.1, ?_⟩
    have others : (earlier ++ later).filter (·.1 != name) = earlier ++ later := by
      apply List.filter_eq_self.mpr
      intro task member
      have apart : task.1 ≠ name := fun same => names.1 (List.mem_map.mpr ⟨task, member, same⟩)
      simpa using apart
    rw [same, List.filter_append, List.filter_cons_of_neg (by simp), ← List.filter_append, others]

/-- Without a name there are as many handles fewer as there are named tasks fewer. -/
theorem handlesOn_withoutTask (names : (workshop.tasks.map Prod.fst).Nodup) (name : String)
    (body : Nat) (fits : workshop.named body ≤ workshop.handlesOn body) :
    (workshop.withoutTask name).handlesOn body + workshop.named body =
      workshop.handlesOn body + (workshop.withoutTask name).named body := by
  rcases withoutTask_cases names name with ⟨same, -⟩ | ⟨own, earlier, later, tasks, -, freed⟩
  · rw [same]
  · have split : workshop.named body =
        (workshop.withoutTask name).named body + [own].count body := by
      rw [named, named, freed, tasks]
      simp [List.count_cons, Nat.add_assoc]
    have less : (workshop.withoutTask name).handlesOn body =
        workshop.handlesOn body - [own].count body := by
      rw [freed]
      exact handlesOn_release workshop [own] body
    omega

theorem withoutTask_names (names : (workshop.tasks.map Prod.fst).Nodup) (name : String) :
    ((workshop.withoutTask name).tasks.map Prod.fst).Nodup ∧
      name ∉ (workshop.withoutTask name).tasks.map Prod.fst := by
  rcases withoutTask_cases names name with
    ⟨same, absent⟩ | ⟨own, earlier, later, tasks, absent, freed⟩
  · rw [same]
    exact ⟨names, absent⟩
  · rw [freed]
    rw [tasks, List.map_append, List.map_cons, List.nodup_middle, ← List.map_append] at names
    exact ⟨(List.nodup_cons.mp names).2, absent⟩

@[simp] theorem length_withoutTask (name : String) :
    (workshop.withoutTask name).handles.length = workshop.handles.length := by
  unfold withoutTask
  split
  · rfl
  · exact length_release _

theorem length_bind (name : String) (body : Nat) :
    (workshop.bind name body).handles.length = workshop.handles.length :=
  length_withoutTask name

/-! ### Who holds a handle -/

/-- The entries of the body in the lists of all runners that are left. -/
def listed (workshop : Workshop α) (body : Nat) : Nat :=
  sumOver (fun session => session.listed body) workshop.sessions

/-- The jobs of the body, in any run, that are not over. -/
def jobsOf (workshop : Workshop α) (body : Nat) : Nat :=
  sumOver (fun session => session.jobsOf body) workshop.sessions

theorem listed_le (session : Nat) (current : Session Nat α)
    (there : workshop.sessions[session]? = some current) (body : Nat) :
    current.listed body ≤ workshop.listed body :=
  le_sumOver (fun session => session.listed body) _ current (List.mem_of_getElem? there)

/-- No two tasks have one name, and the handles counted are those that somebody holds. -/
structure Balanced (workshop : Workshop α) : Prop where
  names : (workshop.tasks.map Prod.fst).Nodup
  handles : ∀ body, workshop.handlesOn body =
    workshop.named body + workshop.listed body + workshop.jobsOf body

/-- Runs are sound, and their tasks are handles on bodies that there are. -/
structure Peopled (workshop : Workshop α) : Prop where
  sound : ∀ session ∈ workshop.sessions, ∃ told, session.Sound Runner.IsSound told
  known : ∀ session ∈ workshop.sessions, ∀ execution ∈ session.calls,
    ∀ body ∈ execution.tasks, body < workshop.handles.length

theorem Balanced.hasBodies (balanced : workshop.Balanced) : workshop.HasBodies := by
  intro name body found
  obtain ⟨earlier, later, same, -⟩ := List.lookup_eq_some_iff.mp found
  have some : 0 < workshop.named body := by
    rw [named, same]
    exact List.count_pos_iff.mpr (by simp)
  have handles := balanced.handles body
  exact lt_of_handlesOn_pos body (by omega)

/-- A task with a new name, on a body of which there is a handle. -/
theorem Balanced.bind (balanced : workshop.Balanced) (name : String) (body : Nat)
    (gained : Gained workshop held [body]) : (held.bind name body).Balanced := by
  have names : (held.tasks.map Prod.fst).Nodup := gained.tasks ▸ balanced.names
  obtain ⟨distinct, absent⟩ := withoutTask_names names name
  constructor
  · exact List.nodup_cons.mpr ⟨absent, distinct⟩
  · intro other
    have before := balanced.handles other
    have more := gained.handles other
    have same : held.named other = workshop.named other := by rw [named, named, gained.tasks]
    have freed := handlesOn_withoutTask names name other (by omega)
    have listed : (held.bind name body).listed other = workshop.listed other := by
      rw [Workshop.listed, (bind_spares held name body).sessions, gained.sessions, Workshop.listed]
    have jobs : (held.bind name body).jobsOf other = workshop.jobsOf other := by
      rw [Workshop.jobsOf, (bind_spares held name body).sessions, gained.sessions, Workshop.jobsOf]
    have one : (held.bind name body).named other =
        [body].count other + (held.withoutTask name).named other := by
      change ([body] ++ (held.withoutTask name).tasks.map Prod.snd).count other = _
      rw [List.count_append, named]
    have handles : (held.bind name body).handlesOn other =
        (held.withoutTask name).handlesOn other := rfl
    omega

theorem Balanced.withoutTask (balanced : workshop.Balanced) (name : String) :
    (workshop.withoutTask name).Balanced := by
  constructor
  · exact (withoutTask_names balanced.names name).1
  · intro body
    have before := balanced.handles body
    have freed := handlesOn_withoutTask balanced.names name body (by omega)
    have listed : (workshop.withoutTask name).listed body = workshop.listed body := by
      rw [Workshop.listed, (withoutTask_spares workshop name).sessions, Workshop.listed]
    have jobs : (workshop.withoutTask name).jobsOf body = workshop.jobsOf body := by
      rw [Workshop.jobsOf, (withoutTask_spares workshop name).sessions, Workshop.jobsOf]
    omega

/-- Steps that add handles to the count and give them to nobody. -/
theorem Balanced.gain (balanced : workshop.Balanced) (bodies : List Nat)
    (gained : Gained workshop after bodies) (body : Nat) : after.handlesOn body =
      after.named body + after.listed body + after.jobsOf body + bodies.count body := by
  have named : after.named body = workshop.named body := by
    rw [Workshop.named, Workshop.named, gained.tasks]
  have listed : after.listed body = workshop.listed body := by
    rw [Workshop.listed, Workshop.listed, gained.sessions]
  have jobs : after.jobsOf body = workshop.jobsOf body := by
    rw [Workshop.jobsOf, Workshop.jobsOf, gained.sessions]
  rw [gained.handles, balanced.handles, named, listed, jobs]

/-- A runner that is made has its own handle for each of its entries. -/
private theorem Balanced.admit (balanced : workshop.Balanced) (runner : Runner Nat) (made : Nat)
    (gained : Gained workshop held runner.tasks) : ({ held with
      sessions := held.sessions ++ [.ofRunner runner]
      interrupts := made } : Workshop α).Balanced ∧
      workshop.handles.length ≤ held.handles.length := by
  refine ⟨⟨gained.tasks ▸ balanced.names, fun body => ?_⟩, gained.more⟩
  have more := balanced.gain runner.tasks gained body
  have listed : sumOver (fun session => session.listed body)
      (held.sessions ++ [.ofRunner runner]) = held.listed body + runner.tasks.count body :=
    sumOver_append _ _ _
  have jobs : sumOver (fun session => session.jobsOf body)
      (held.sessions ++ [.ofRunner runner]) = held.jobsOf body := sumOver_append _ _ _
  change held.handlesOn body = held.named body + sumOver _ _ + sumOver _ _
  rw [listed, jobs]
  omega

theorem Balanced.openRunner (balanced : workshop.Balanced) (opening : Opening TaskSource)
    (notes : List (WorkshopNote α))
    (stepped : workshop.openRunner opening = some (after, notes)) :
    after.Balanced ∧ workshop.handles.length ≤ after.handles.length := by
  unfold Workshop.openRunner at stepped
  split at stepped
  · cases stepped
  next opened held obtained =>
    have gained := obtainOpening_gained balanced.hasBodies opening opened obtained
    split at stepped
    next error refused =>
      cases stepped
      have same := gained.released
      exact ⟨⟨gained.tasks ▸ balanced.names, balanced.gain [] same⟩, same.more⟩
    next runner made =>
      cases stepped
      obtain rfl := Runner.eq_of_opened opened runner made
      cases opened with
      | task body => exact balanced.admit _ _ gained
      | repeated body count =>
        have some : count ≠ 0 := by
          rintro rfl
          cases made
        exact balanced.admit _ _ (gained.repeats body count some)
      | tasks bodies => exact balanced.admit _ _ gained

/-- A step in a session, for which the workshop has counted the handles that its runner gets or
loses. The handles of jobs are counted as the session tells. -/
private theorem Balanced.settle (balanced : workshop.Balanced) (peopled : workshop.Peopled)
    (given : Workshop α) (tasks : given.tasks = workshop.tasks)
    (sessions : given.sessions = workshop.sessions)
    (more : workshop.handles.length ≤ given.handles.length)
    (enough : ∀ body, workshop.jobsOf body ≤ given.handlesOn body) (session : Nat)
    (own : SessionMove Nat α) (notes : List (WorkshopNote α))
    (stepped : given.inSession session own = some (after, notes)) (current : Session Nat α)
    (there : workshop.sessions[session]? = some current)
    (even : ∀ next told, current.step own = some (next, told) → ∀ body,
      given.handlesOn body + current.listed body = workshop.handlesOn body + next.listed body) :
    after.Balanced ∧ workshop.handles.length ≤ after.handles.length := by
  obtain ⟨current', next, told, there', moved, settled, -⟩ :=
    (inSession_eq_some_iff given session own).mp stepped
  rw [sessions] at there' settled
  obtain rfl : current = current' := Option.some.inj (there.symm.trans there')
  have member := List.mem_of_getElem? there
  obtain ⟨known, sound⟩ := peopled.sound current member
  have handled := sound.handled moved
  have fits (body : Nat) : current.jobsOf body ≤ workshop.jobsOf body :=
    le_sumOver (fun session => session.jobsOf body) _ current member
  -- The notes of the step say which handles its jobs took and let go of.
  have counted := handlesOn_foldl_account
    { given with sessions := workshop.sessions.set session next } told ?_ ?_
  · rw [← settled] at counted
    have tasks : after.tasks = workshop.tasks := by rw [settled, tasks_foldl_account, tasks]
    have sessions : after.sessions = workshop.sessions.set session next := by
      rw [settled, (foldl_account_spares _ told).sessions]
    refine ⟨⟨tasks ▸ balanced.names, fun body => ?_⟩, ?_⟩
    · have before := balanced.handles body
      have change := counted body
      have entries := sumOver_set_add (fun session => session.listed body) _ _ current next there
      have runs := sumOver_set_add (fun session => session.jobsOf body) _ _ current next there
      have jobs := handled.jobs body
      have lists := even next told moved body
      rw [named, listed, jobsOf] at before ⊢
      rw [tasks, sessions]
      change _ = given.handlesOn body + _ at change
      omega
    · rw [settled, length_foldl_account]
      exact more
  -- A handle that a job takes is on a body of its own run, which is known.
  · intro body taken
    obtain ⟨execution, call, has⟩ := handled.own body taken
    exact Nat.lt_of_lt_of_le (peopled.known current member execution call body has) more
  · intro body
    exact Nat.le_trans (handled.fits body) (Nat.le_trans (fits body) (enough body))

/-- A step in a session that leaves the runner as it is. -/
private theorem Balanced.inSession (balanced : workshop.Balanced) (peopled : workshop.Peopled)
    (session : Nat) (own : SessionMove Nat α) (notes : List (WorkshopNote α))
    (stepped : workshop.inSession session own = some (after, notes))
    (kept : ∀ (current next : Session Nat α) told, current.step own = some (next, told) →
      next.runner = current.runner) :
    after.Balanced ∧ workshop.handles.length ≤ after.handles.length := by
  obtain ⟨current, -, -, there, -⟩ := (inSession_eq_some_iff workshop session own).mp stepped
  refine balanced.settle peopled workshop rfl rfl (Nat.le_refl _) ?_ session own notes stepped
    current there ?_
  · intro body
    have handles := balanced.handles body
    omega
  · intro next told moved body
    rw [Session.listed, Session.listed, kept current next told moved]

theorem runner?_eq_some_iff (session : Nat) (runner : Runner Nat) :
    workshop.runner? session = some runner ↔
      ∃ current, workshop.sessions[session]? = some current ∧ current.runner = some runner :=
  Option.bind_eq_some_iff

/-- With the runner its entries let their handles go. -/
theorem Balanced.dropRunner (balanced : workshop.Balanced) (peopled : workshop.Peopled)
    (session : Nat) (notes : List (WorkshopNote α))
    (stepped : workshop.dropRunner session = some (after, notes)) :
    after.Balanced ∧ workshop.handles.length ≤ after.handles.length := by
  unfold Workshop.dropRunner at stepped
  split at stepped
  · cases stepped
  next runner holds =>
    obtain ⟨current, there, owns⟩ := (runner?_eq_some_iff session runner).mp holds
    have own (body : Nat) : current.listed body = runner.tasks.count body := by
      rw [Session.listed, owns]
    refine balanced.settle peopled (workshop.release runner.tasks) rfl rfl ?_ ?_ session .drop
      notes stepped current there ?_
    · exact Nat.le_of_eq (length_release _).symm
    · intro body
      have handles := balanced.handles body
      have part := listed_le session current there body
      rw [handlesOn_release, ← own]
      omega
    · intro next told dropped body
      cases dropped
      have handles := balanced.handles body
      have part := listed_le session current there body
      rw [handlesOn_release, ← own]
      change _ = _ + 0
      omega

/-- A runner that is extended has its own handle for each entry that it gets. -/
private theorem Balanced.grow (balanced : workshop.Balanced) (peopled : workshop.Peopled)
    (given : Workshop α) (session : Nat) (extension : Extension Nat)
    (gained : Gained workshop given extension.added) (runner extended : Runner Nat)
    (holds : workshop.runner? session = some runner)
    (done : runner.extend extension = .ok extended) (notes : List (WorkshopNote α))
    (stepped : given.inSession session (.extend extension) = some (after, notes)) :
    after.Balanced ∧ workshop.handles.length ≤ after.handles.length := by
  obtain ⟨current, there, owns⟩ := (runner?_eq_some_iff session runner).mp holds
  refine balanced.settle peopled given gained.tasks gained.sessions gained.more ?_ session
    (.extend extension) notes stepped current there ?_
  · intro body
    have handles := balanced.handles body
    rw [gained.handles]
    omega
  · intro next told grown body
    simp only [Session.step, owns, done] at grown
    cases grown
    simp only [Session.listed, owns, Runner.tasks_of_extended runner extended extension done,
      gained.handles, List.count_append]
    omega

/-- A runner that is refused an extension is lost with its entries, and so is the handle that was
held for the extension. -/
private theorem Balanced.lose (balanced : workshop.Balanced) (peopled : workshop.Peopled)
    (session : Nat) (extension : Extension Nat) (gained : Gained workshop held extension.handles)
    (runner : Runner Nat) (error : RunError) (holds : workshop.runner? session = some runner)
    (refused : runner.extend extension = .error error) (notes : List (WorkshopNote α))
    (stepped : (held.release (extension.handles ++ runner.tasks)).inSession session
      (.extend extension) = some (after, notes)) :
    after.Balanced ∧ workshop.handles.length ≤ after.handles.length := by
  obtain ⟨current, there, owns⟩ := (runner?_eq_some_iff session runner).mp holds
  have left (body : Nat) : (held.release (extension.handles ++ runner.tasks)).handlesOn body +
      current.listed body = workshop.handlesOn body := by
    have handles := balanced.handles body
    have part := listed_le session current there body
    have own : current.listed body = runner.tasks.count body := by rw [Session.listed, owns]
    rw [handlesOn_release, gained.handles, List.count_append]
    omega
  refine balanced.settle peopled (held.release (extension.handles ++ runner.tasks)) gained.tasks
    gained.sessions ?_ ?_ session (.extend extension) notes stepped current there ?_
  · rw [length_release]
    exact gained.more
  · intro body
    have left := left body
    have handles := balanced.handles body
    have part := listed_le session current there body
    omega
  · intro next told lost body
    simp only [Session.step, owns, refused] at lost
    cases lost
    exact left body

theorem Balanced.extend (balanced : workshop.Balanced) (peopled : workshop.Peopled)
    (session : Nat) (extension : Extension TaskSource) (notes : List (WorkshopNote α))
    (stepped : workshop.extend session extension = some (after, notes)) :
    after.Balanced ∧ workshop.handles.length ≤ after.handles.length := by
  unfold Workshop.extend at stepped
  split at stepped
  next runner obtained held holds taken =>
    have gained := obtainExtension_gained balanced.hasBodies extension obtained taken
    split at stepped
    next error refused =>
      exact balanced.lose peopled session obtained gained runner error holds refused notes stepped
    next extended done =>
      cases obtained with
      | repeated body count =>
        have some : count ≠ 0 := by
          rintro rfl
          cases done
        exact balanced.grow peopled _ session _ (gained.repeats body count some) runner extended
          holds done notes stepped
      | _ => exact balanced.grow peopled _ session _ gained runner extended holds done notes stepped
  · cases stepped

/-! ### Steps and runs -/

theorem Balanced.step (balanced : workshop.Balanced) (peopled : workshop.Peopled)
    (move : WorkshopMove α) (notes : List (WorkshopNote α))
    (stepped : workshop.step move = some (after, notes)) :
    after.Balanced ∧ workshop.handles.length ≤ after.handles.length := by
  cases move with
  | define name =>
    cases stepped
    have gained := newBody_gained workshop
    exact ⟨balanced.bind name _ gained,
      Nat.le_trans gained.more (Nat.le_of_eq (length_bind name _).symm)⟩
  | copyTask name copy =>
    obtain ⟨⟨body, held⟩, obtained, same⟩ := Option.map_eq_some_iff.mp stepped
    cases same
    have gained := obtain_gained balanced.hasBodies _ body obtained
    exact ⟨balanced.bind copy body gained,
      Nat.le_trans gained.more (Nat.le_of_eq (length_bind copy body).symm)⟩
  | dropTask name =>
    obtain ⟨_, -, same⟩ := Option.map_eq_some_iff.mp stepped
    cases same
    exact ⟨balanced.withoutTask name, Nat.le_of_eq (length_withoutTask name).symm⟩
  | openRunner opening => exact balanced.openRunner opening notes stepped
  | extend session extension => exact balanced.extend peopled session extension notes stepped
  | dropRunner session => exact balanced.dropRunner peopled session notes stepped
  | begin session now =>
    refine balanced.inSession peopled session _ notes stepped fun current next told begun => ?_
    obtain ⟨runner, -, rfl, -⟩ := (Session.begin_eq_some_iff now).mp begun
    rfl
  | run session call now own =>
    refine balanced.inSession peopled session _ notes stepped fun current next told ran => ?_
    obtain ⟨execution, further, -, -, rfl, -⟩ := (Session.run_eq_some_iff call now own).mp ran
    rfl
  | raise handle | take handle =>
    obtain ⟨session, -, moved⟩ := (onInterrupt_eq_some_iff handle _).mp stepped
    refine balanced.inSession peopled session _ notes moved fun current next told put => ?_
    cases put
    rfl

theorem Peopled.step (peopled : workshop.Peopled) (balanced : workshop.Balanced)
    (move : WorkshopMove α) (notes : List (WorkshopNote α))
    (stepped : workshop.step move = some (after, notes))
    (more : workshop.handles.length ≤ after.handles.length) : after.Peopled := by
  cases about : workshop.about? move with
  | none =>
    rcases step_elsewhere about stepped with same | ⟨runner, sound, -, sessions, -⟩
    · constructor
      · rw [same.sessions]
        exact peopled.sound
      · intro session member execution call body has
        rw [same.sessions] at member
        exact Nat.lt_of_lt_of_le (peopled.known session member execution call body has) more
    · constructor
      · intro session member
        rw [sessions, List.mem_append, List.mem_singleton] at member
        rcases member with member | rfl
        · exact peopled.sound session member
        · exact ⟨[], Session.ofRunner_sound runner sound⟩
      · intro session member execution call body has
        rw [sessions, List.mem_append, List.mem_singleton] at member
        rcases member with member | rfl
        · exact Nat.lt_of_lt_of_le (peopled.known session member execution call body has) more
        · cases call
  | some index =>
    obtain ⟨own, current, next, told, -, there, moved, sessions, -⟩ :=
      step_within index about stepped
    have member := List.mem_of_getElem? there
    constructor
    · intro session held
      rw [sessions] at held
      rcases List.mem_or_eq_of_mem_set held with held | rfl
      · exact peopled.sound session held
      · obtain ⟨known, sound⟩ := peopled.sound current member
        exact ⟨known ++ told, sound.next moved⟩
    · intro session held execution call body has
      rw [sessions] at held
      rcases List.mem_or_eq_of_mem_set held with held | rfl
      · exact Nat.lt_of_lt_of_le (peopled.known session held execution call body has) more
      · obtain ⟨known, sound⟩ := peopled.sound current member
        apply Nat.lt_of_lt_of_le _ more
        rcases sound.tasks_of_call moved execution call with
          ⟨earlier, held, same⟩ | ⟨runner, holds, same⟩
        · exact peopled.known current member earlier held body (same ▸ has)
        -- The entries of the runner are handles that are counted.
        · apply lt_of_handlesOn_pos
          have some : 0 < current.listed body := by
            rw [Session.listed, holds]
            exact List.count_pos_iff.mpr (same ▸ has)
          have part := listed_le index current there body
          have handles := balanced.handles body
          omega

/-- What is known of a workshop after any steps. -/
structure Tracked (workshop : Workshop α) : Prop extends Balanced workshop, Peopled workshop

theorem Tracked.step (tracked : workshop.Tracked) (move : WorkshopMove α)
    (notes : List (WorkshopNote α)) (stepped : workshop.step move = some (after, notes)) :
    after.Tracked := by
  obtain ⟨balanced, more⟩ := tracked.toBalanced.step tracked.toPeopled move notes stepped
  exact ⟨balanced, tracked.toPeopled.step tracked.toBalanced move notes stepped more⟩

theorem empty_tracked : ({} : Workshop α).Tracked :=
  ⟨⟨List.nodup_nil, fun _ => rfl⟩, ⟨List.forall_mem_nil _, List.forall_mem_nil _⟩⟩

/-- Whatever happens in a workshop, its count is that of the handles that there are. -/
theorem Tracked.replay (tracked : workshop.Tracked) (moves : List (WorkshopMove α))
    (notes : List (WorkshopNote α))
    (ran : GatedRun.replay Workshop.step workshop moves = some (after, notes)) : after.Tracked := by
  refine replay_preserves (fun (state : Workshop α) _ => state.Tracked) workshop after moves []
    notes ?_ tracked ran
  intro state move next known told _ tracked stepped
  exact tracked.step move told stepped

end Workshop

end GatedRun
