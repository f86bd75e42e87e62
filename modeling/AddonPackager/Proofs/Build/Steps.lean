import AddonPackager.Build.Assembly
import AddonPackager.Proofs.Build.Params

/-! The steps of a build. A build that succeeds has succeeded in each of them, and what it works
with is read from the project and from what version control tells of it.
-/

namespace AddonPackager.Build

variable {signer : Signature.Signer} {tree : FileTree} {config : BuildConfig}
  {control control' : VersionControl} {built : Assembled}

/-- The packages that a build goes through on its way to a result. -/
structure Steps (signer : Signature.Signer) (tree : FileTree) (config : BuildConfig)
    (control : VersionControl) (built : Assembled) where
  warnings : List Warning
  filter : PathFilter
  gathered : Package
  imported : Package
  completed : Package
  runnable : Package
  rendered : Package
  valid : Package
  paramsDone : BuildParams.read tree config control = .ok (built.params, warnings)
  filterDone : PathFilter.forPackage tree config.base = .ok filter
  gatherDone : gather tree built.params (start filter built.params warnings) = .ok gathered
  importDone
    : MessageBundle.importLocales tree built.params.metadata built.params.locales gathered
      = .ok imported
  fallbackDone : Locale.fillGaps tree built.params imported = .ok completed
  runnableDone : Bootstrap.addMissing tree built.params completed = .ok runnable
  renderedDone : renderTemplates built.params runnable = .ok rendered
  validDone : checked rendered = .ok valid
  signedDone : signed signer tree built.params.config.keyFile valid = .ok built.package

theorem nonempty_steps_of_assemble (done : assemble signer tree config control = .ok built)
    : Nonempty (Steps signer tree config control built) := by
  unfold assemble at done
  obtain ⟨⟨params, warnings⟩, paramsDone, filtered⟩ := exists_of_bind_eq_ok done
  obtain ⟨filter, filterDone, assembled⟩ := exists_of_bind_eq_ok filtered
  cases filled : fill signer tree params (start filter params warnings) with
  | error failure =>
      rw [filled] at assembled
      cases assembled
  | ok package =>
      rw [filled] at assembled
      cases assembled
      unfold fill at filled
      obtain ⟨gathered, gatherDone, afterGather⟩ := exists_of_bind_eq_ok filled
      obtain ⟨imported, importDone, afterImport⟩ := exists_of_bind_eq_ok afterGather
      obtain ⟨completed, fallbackDone, afterFallback⟩ := exists_of_bind_eq_ok afterImport
      obtain ⟨runnable, runnableDone, afterRunnable⟩ := exists_of_bind_eq_ok afterFallback
      obtain ⟨rendered, renderedDone, afterRendered⟩ := exists_of_bind_eq_ok afterRunnable
      obtain ⟨valid, validDone, signedDone⟩ := exists_of_bind_eq_ok afterRendered
      exact ⟨⟨warnings, filter, gathered, imported, completed, runnable, rendered, valid,
        paramsDone, filterDone, gatherDone, importDone, fallbackDone, runnableDone, renderedDone,
        validDone, signedDone⟩⟩

theorem eq_of_checked {package changed : Package} (done : checked package = .ok changed)
    : changed = package := by
  rw [checked] at done
  split at done
  · cases done
    rfl
  · cases done

/-- Releases, and builds whose number is given, are assembled from the project alone. -/
theorem assemble_congr (given : config.release = true ∨ config.buildNumber.isSome = true)
    : assemble signer tree config control = assemble signer tree config control' := by
  rw [assemble, assemble, BuildParams.read_congr given]

namespace Steps

variable (steps : Steps signer tree config control built)

include steps

theorem isRead : BuildParams.IsRead tree config control built.params steps.warnings :=
  BuildParams.read_eq_ok_iff.mp steps.paramsDone

theorem config_eq : built.params.config = config :=
  steps.isRead.config_eq

theorem isName : ∀ locale ∈ built.params.locales, Locale.isName locale = true :=
  steps.isRead.isName

/-- What is checked is what is signed. -/
theorem signed_rendered : signed signer tree config.keyFile steps.rendered = .ok built.package := by
  have signedDone := steps.signedDone
  rw [eq_of_checked steps.validDone, steps.config_eq] at signedDone
  exact signedDone

end Steps

end AddonPackager.Build
