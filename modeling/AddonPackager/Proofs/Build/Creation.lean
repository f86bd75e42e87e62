import AddonPackager.Proofs.Archive.MemberOrder
import AddonPackager.Proofs.Archive.Writing

/-! What creating a build does to the file tree. It writes the whole archive of the assembled
package or, whatever goes wrong, nothing but a partial file.
-/

namespace AddonPackager

/-- The members of an archive are in archive order. -/
theorem Package.pairwise_members {package : Package}
    : package.members.Pairwise fun a b => Archive.precedes Archive.textLe id a.1 b.1 = true := by
  rw [members, membersBy, List.pairwise_map]
  exact Archive.pairwise_order Archive.textLe_trans Archive.textLe_total

-----------------------------------------------------------------------------------------
-- Outcomes
-----------------------------------------------------------------------------------------

namespace Build

variable {signer : Signature.Signer} {tree : FileTree} {config : BuildConfig}
  {assembled : Assembled} {output : BuildOutput} {failure : BuildFailure}

/-- The archive of an assembled package is written, and nothing else is. -/
structure IsWritten (tree : FileTree) (assembled : Assembled) (output : BuildOutput) : Prop where
  path : outputPath assembled.params = .ok output.path
  archive : output.tree.read? output.path = some (Archive.encode assembled.package.members)
  /-- The archive reads back as its members. -/
  readable : (∀ member ∈ assembled.package.members, Archive.Fits member) →
    Archive.decode? (Archive.encode assembled.package.members) = some assembled.package.members
  complete : assembled.package.members.Perm assembled.package.files
  ordered : assembled.package.members.Pairwise fun a b =>
    Archive.precedes Archive.textLe id a.1 b.1 = true
  count : output.fileCount = assembled.package.members.length
  noPartial : output.tree.lookup? (Archive.partialPath output.path) = none
  others : tree.SameFilesExcept output.tree [output.path, Archive.partialPath output.path]

theorem isWritten_of_write (done : write tree assembled = .ok output)
    : IsWritten tree assembled output := by
  rw [write] at done
  split at done
  · cases done
  · rename_i path named
    simp only at done
    split at done
    · cases done
    · rename_i written wrote
      cases done
      obtain ⟨archive, noPartial, others⟩ := Archive.sameFilesExcept_of_write wrote
      exact {
        path := named
        archive := archive
        readable := Archive.decode?_encode
        complete := Package.membersBy_perm_files
        ordered := Package.pairwise_members
        count := Package.membersBy_perm_files.length_eq.symm
        noPartial := noPartial
        others := others }

/-- A failed writing changes no file, unless it got to the partial one. -/
theorem sameFilesExcept_of_write_error (failed : write tree assembled = .error failure)
    : failure.tree = tree
      ∨ ∃ path,
          outputPath assembled.params = .ok path
          ∧ tree.SameFilesExcept failure.tree [Archive.partialPath path] := by
  rw [write] at failed
  split at failed
  · cases failed
    exact .inl rfl
  · rename_i path named
    simp only at failed
    split at failed
    · rename_i cause notWritten
      cases failed
      exact .inr ⟨path, named, Archive.sameFilesExcept_of_write_error notWritten⟩
    · cases failed

/-- Creating a build is all or nothing. If it fails, no file is new or different, except for the
partial file of the archive; if it succeeds, the archive of the assembled package is in its place,
and no other file is new or different.
-/
theorem create_allOrNothing (signer : Signature.Signer) (tree : FileTree) (config : BuildConfig)
    (control : VersionControl)
    : match create signer tree config control with
      | .error failure =>
          failure.tree = tree
          ∨ ∃ assembled path,
              assemble signer tree config control = .ok assembled
              ∧ outputPath assembled.params = .ok path
              ∧ tree.SameFilesExcept failure.tree [Archive.partialPath path]
      | .ok output =>
          ∃ assembled,
            assemble signer tree config control = .ok assembled
            ∧ IsWritten tree assembled output := by
  rw [create]
  cases done : assemble signer tree config control with
  | error cause => exact .inl rfl
  | ok assembled =>
      simp only
      cases result : write tree assembled with
      | error failure =>
          rcases sameFilesExcept_of_write_error result with same | ⟨path, named, others⟩
          · exact .inl same
          · exact .inr ⟨assembled, path, rfl, named, others⟩
      | ok output => exact ⟨assembled, rfl, isWritten_of_write result⟩

end Build

end AddonPackager
