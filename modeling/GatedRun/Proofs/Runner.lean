import GatedRun.Proofs.Config
import GatedRun.Runner

/-!
# Built runners

However a runner is built, it has a task and its configuration passes its own check, so a run of it
can be started.
-/

namespace GatedRun

variable {τ : Type}

namespace Runner

/-- A runner that has a task and an accepted configuration. -/
structure IsSound (runner : Runner τ) : Prop where
  tasks : runner.tasks ≠ []
  config : runner.config.check = .ok ()

theorem IsSound.taskCount_pos {runner : Runner τ} (sound : runner.IsSound) :
    0 < runner.taskCount :=
  List.length_pos_iff.mpr sound.tasks

variable {interrupt : Interrupt}

theorem ofOpening_sound (opening : Opening τ) (runner : Runner τ)
    (opened : ofOpening opening interrupt = .ok runner) : runner.IsSound := by
  have config : ({} : Config).check = .ok () := by rfl
  cases opening with
  | task single =>
    cases opened
    exact ⟨List.cons_ne_nil _ _, config⟩
  | repeated single count =>
    simp only [ofOpening, Opening.check, checkRepeatCount] at opened
    split at opened
    · cases opened
    next some =>
      cases opened
      exact ⟨by simpa [Opening.added, List.replicate_eq_nil_iff] using some, config⟩
  | tasks several =>
    simp only [ofOpening, Opening.check] at opened
    split at opened
    · cases opened
    next some =>
      cases opened
      exact ⟨by simpa [Opening.added] using some, config⟩

theorem eq_of_opened (opening : Opening τ) (runner : Runner τ)
    (made : ofOpening opening interrupt = .ok runner) :
    runner = { tasks := opening.added, interrupt } := by
  rw [ofOpening] at made
  cases checked : opening.check with
  | error error =>
    rw [checked] at made
    cases made
  | ok =>
    rw [checked] at made
    cases made
    rfl

theorem configure_sound (config next : Config) (extension : Extension τ)
    (accepted : config.check = .ok ()) (configured : extension.configure config = .ok next) :
    next.check = .ok () := by
  cases extension with
  | task single =>
    cases configured
    exact accepted
  | repeated single count =>
    simp only [Extension.configure, checkRepeatCount] at configured
    split at configured
    · cases configured
    · cases configured
      exact accepted
  | threadCount count =>
    simp only [Extension.configure, Config.withThreadCount] at configured
    split at configured
    · cases configured
    next checked =>
      cases configured
      refine (Config.check_eq_ok_iff _).mpr ⟨?_, (config.check_eq_ok_iff.mp accepted).2⟩
      rintro count' ⟨⟩
      exact checked
  | config replacement =>
    cases checked : replacement.check with
    | error fault => simp [Extension.configure, checked, Except.map] at configured
    | ok =>
      simp only [Extension.configure, checked, Except.map, Except.ok.injEq] at configured
      rw [← configured]
      exact checked

theorem IsSound.extend {runner extended : Runner τ} (sound : runner.IsSound)
    (extension : Extension τ) (done : runner.extend extension = .ok extended) :
    extended.IsSound := by
  unfold Runner.extend at done
  split at done
  · cases done
  next config configured =>
    cases done
    refine ⟨?_, configure_sound _ _ extension sound.config configured⟩
    simp [sound.tasks]

theorem tasks_of_extended (runner extended : Runner τ) (extension : Extension τ)
    (done : runner.extend extension = .ok extended) :
    extended.tasks = runner.tasks ++ extension.added := by
  unfold extend at done
  split at done
  · cases done
  · cases done
    rfl

/-- However it is extended, a runner keeps its interrupt. -/
theorem interrupt_of_extended (runner extended : Runner τ) (extension : Extension τ)
    (done : runner.extend extension = .ok extended) : extended.interrupt = runner.interrupt := by
  unfold extend at done
  split at done
  · cases done
  · cases done
    rfl

theorem IsSound.extendAll {runner extended : Runner τ} (sound : runner.IsSound)
    (extensions : List (Extension τ)) (done : runner.extendAll extensions = .ok extended) :
    extended.IsSound := by
  induction extensions generalizing runner with
  | nil =>
    cases done
    exact sound
  | cons extension rest ih =>
    simp only [Runner.extendAll] at done
    split at done
    · cases done
    next first extended => exact ih (sound.extend extension extended) done

theorem build_sound (opening : Opening τ) (extensions : List (Extension τ)) (runner : Runner τ)
    (built : build opening extensions interrupt = .ok runner) : runner.IsSound := by
  unfold build at built
  split at built
  · cases built
  next first opened => exact (ofOpening_sound opening first opened).extendAll extensions built

end Runner

end GatedRun
