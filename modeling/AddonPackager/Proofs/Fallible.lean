/-! Runs that may fail. A run that succeeds has succeeded step by step, and a run that fails has
failed in one of its steps.
-/

namespace AddonPackager

/-- A run of two steps that succeeds is a run of both. -/
theorem exists_of_bind_eq_ok {ε α β : Type} {first : Except ε α} {next : α → Except ε β} {result : β}
    (done : first >>= next = .ok result)
    : ∃ middle, first = .ok middle ∧ next middle = .ok result := by
  cases first with
  | error fault => cases done
  | ok middle => exact ⟨middle, rfl, done⟩

theorem bind_ok {ε α β : Type} {value : α} {next : α → Except ε β}
    : Except.ok value >>= next = next value :=
  rfl

theorem exists_of_map_eq_ok {ε α β : Type} {first : Except ε α} {change : α → β} {result : β}
    (done : first.map change = .ok result)
    : ∃ before, first = .ok before ∧ change before = result := by
  cases first with
  | error fault => cases done
  | ok before => exact ⟨before, rfl, Except.ok.inj done⟩

theorem error_of_map_eq_error {ε α β : Type} {first : Except ε α} {change : α → β} {cause : ε}
    (failed : first.map change = .error cause)
    : first = .error cause := by
  cases first with
  | error fault => exact congrArg Except.error (Except.error.inj failed)
  | ok before => cases failed

/-- A run that can be seen to give a result has succeeded. -/
theorem exists_of_map_toOption {ε α β : Type} {result : Except ε α} {view : α → β} {seen : β}
    (known : result.toOption.map view = some seen)
    : ∃ value, result = .ok value ∧ view value = seen := by
  cases result with
  | error fault => cases known
  | ok value => exact ⟨value, rfl, Option.some.inj known⟩

-----------------------------------------------------------------------------------------
-- Runs over lists
-----------------------------------------------------------------------------------------

section

variable {ε α β : Type} {step : α → β → Except ε α} {sources : List β} {start result : α}

/-- What holds at the start of a run and is kept by every step holds at its end, by induction on the
steps.
-/
theorem invariant_of_foldlM {invariant : α → Prop} (holds : invariant start)
    (each : ∀ before after, ∀ source ∈ sources, invariant before →
      step before source = .ok after → invariant after)
    (done : sources.foldlM step start = .ok result)
    : invariant result := by
  induction sources generalizing start with
  | nil =>
      cases done
      exact holds
  | cons source rest ih =>
      rw [List.foldlM_cons] at done
      obtain ⟨next, first, later⟩ := exists_of_bind_eq_ok done
      exact ih (each start next source List.mem_cons_self holds first)
        (fun before after other member =>
          each before after other (List.mem_cons_of_mem _ member)) later

/-- A run that succeeds has taken every step, by induction on the steps. -/
theorem exists_step_of_foldlM (done : sources.foldlM step start = .ok result) {source : β}
    (member : source ∈ sources)
    : ∃ before after, step before source = .ok after := by
  induction sources generalizing start with
  | nil => simp at member
  | cons first rest ih =>
      rw [List.foldlM_cons] at done
      obtain ⟨next, firstDone, later⟩ := exists_of_bind_eq_ok done
      rcases List.mem_cons.mp member with rfl | inRest
      · exact ⟨start, next, firstDone⟩
      · exact ih later inRest

/-- A run that fails has failed in a step, by induction on the steps. -/
theorem exists_step_of_foldlM_error {cause : ε} (failed : sources.foldlM step start = .error cause)
    : ∃ source ∈ sources, ∃ before, step before source = .error cause := by
  induction sources generalizing start with
  | nil => cases failed
  | cons first rest ih =>
      rw [List.foldlM_cons] at failed
      cases firstRan : step start first with
      | error fault =>
          rw [firstRan] at failed
          cases failed
          exact ⟨first, List.mem_cons_self, start, firstRan⟩
      | ok next =>
          rw [firstRan] at failed
          obtain ⟨source, member, before, stepFailed⟩ := ih failed
          exact ⟨source, List.mem_cons_of_mem _ member, before, stepFailed⟩

end

end AddonPackager
