import AddonPackager.Package.Basic
import AddonPackager.Proofs.Dict.Lookup
import AddonPackager.Proofs.Fallible
import Mathlib.Data.List.Induction

/-! What changes of a package do to the bytes under one path. Every change leaves the filter and
the transforms as they are, so a run of changes is described path by path.
-/

namespace AddonPackager

/-- Bytes are read as a text exactly if they are its encoding. -/
theorem fromUTF8?_eq_some_iff {data : ByteArray} {text : String}
    : String.fromUTF8? data = some text ↔ data = text.toUTF8 := by
  rw [String.fromUTF8?]
  constructor
  · intro found
    split at found
    · cases found
      rfl
    · simp at found
  · rintro rfl
    exact dif_pos text.isValidUTF8

namespace Package

variable {package : Package} {path other : String} {data : ByteArray}
  {files : List (String × ByteArray)} {warning : Warning} {warnings : List Warning}

-----------------------------------------------------------------------------------------
-- Warnings
-----------------------------------------------------------------------------------------

@[simp] theorem get?_warn : (package.warn warning).get? path = package.get? path := rfl

/-- Warnings change nothing else, by induction on them. -/
theorem warnAll_eq
    : package.warnAll warnings = { package with warnings := package.warnings ++ warnings } := by
  induction warnings generalizing package with
  | nil => simp [warnAll]
  | cons first rest ih =>
      rw [warnAll, List.foldl_cons, ← warnAll, ih, warn]
      simp

@[simp] theorem transforms_warnAll
    : (package.warnAll warnings).transforms = package.transforms := by
  rw [warnAll_eq]

@[simp] theorem get?_warnAll : (package.warnAll warnings).get? path = package.get? path := by
  rw [warnAll_eq]
  rfl

-----------------------------------------------------------------------------------------
-- Storing
-----------------------------------------------------------------------------------------

@[simp] theorem filter_put : (package.put path data).filter = package.filter := rfl

@[simp] theorem transforms_put : (package.put path data).transforms = package.transforms := rfl

/-- Packages with the same transforms store the same bytes. -/
theorem transformed_congr {changed : Package} (same : changed.transforms = package.transforms)
    : changed.transformed = package.transformed := by
  funext path data
  rw [transformed, transformed, same]

@[simp] theorem get?_empty {filter : PathFilter} : (empty filter).get? path = none := rfl

/-- Storing a file changes the bytes under its path only. -/
theorem get?_put
    : (package.put path data).get? other
      = if path = other then some (package.transformed path data) else package.get? other :=
  Dict.get?_insert

theorem get?_put_of_ne (different : path ≠ other)
    : (package.put path data).get? other = package.get? other := by
  rw [get?_put, if_neg different]

def putAll (package : Package) (files : List (String × ByteArray)) : Package :=
  files.foldl (fun package file => package.put file.1 file.2) package

theorem putAll_append {more : List (String × ByteArray)}
    : package.putAll (files ++ more) = (package.putAll files).putAll more := by
  rw [putAll, List.foldl_append]
  rfl

@[simp] theorem filter_putAll : (package.putAll files).filter = package.filter := by
  induction files generalizing package with
  | nil => rfl
  | cons file rest ih => exact ih

@[simp] theorem transforms_putAll : (package.putAll files).transforms = package.transforms := by
  induction files generalizing package with
  | nil => rfl
  | cons file rest ih => exact ih

theorem warnings_putAll : (package.putAll files).warnings = package.warnings := by
  induction files generalizing package with
  | nil => rfl
  | cons file rest ih => exact ih

/-- Of files stored one after the other the last one of a path counts, by induction on the files
from their end.
-/
theorem get?_putAll
    : (package.putAll files).get? path
      = ((Assoc.get? path files.reverse).map (package.transformed path)).or
          (package.get? path) := by
  induction files using List.reverseRecOn with
  | nil => simp [putAll]
  | append_singleton front file ih =>
      obtain ⟨target, data⟩ := file
      rw [putAll_append, putAll, List.foldl_cons, List.foldl_nil, get?_put, ih,
        transformed_congr transforms_putAll, List.reverse_append, List.reverse_singleton,
        List.singleton_append, Assoc.get?_cons]
      split
      · rename_i here
        cases here
        rfl
      · rfl

/-- Steps that each store some files store all of them, by induction on the steps. -/
theorem eq_putAll_of_foldlM {β : Type} {step : Package → β → Except Failure Package}
    {listing : β → List (String × ByteArray)} {sources : List β} {changed : Package}
    (stores : ∀ {package source changed}, step package source = .ok changed →
      changed = package.putAll (listing source))
    (done : sources.foldlM step package = .ok changed)
    : changed = package.putAll (sources.flatMap listing) := by
  induction sources generalizing package with
  | nil =>
      cases done
      rfl
  | cons source rest ih =>
      rw [List.foldlM_cons] at done
      cases first : step package source with
      | error failure =>
          rw [first] at done
          cases done
      | ok next =>
          rw [first] at done
          rw [List.flatMap_cons, putAll_append, ← stores first]
          exact ih done

-----------------------------------------------------------------------------------------
-- Offering
-----------------------------------------------------------------------------------------

@[simp] theorem filter_offer : (package.offer path data).filter = package.filter := by
  rw [offer]
  split <;> rfl

@[simp] theorem transforms_offer
    : (package.offer path data).transforms = package.transforms := by
  rw [offer]
  split <;> rfl

/-- An offer counts where nothing is stored yet. -/
theorem get?_offer
    : (package.offer path data).get? other
      = (package.get? other).or
          (if path = other then some (package.transformed path data) else none) := by
  rw [offer]
  split
  · rename_i taken
    rw [get?_warn]
    split
    · rename_i here
      obtain ⟨old, stored⟩ := Option.isSome_iff_exists.mp taken
      rw [← here, get?, stored]
      rfl
    · simp
  · rename_i free
    rw [get?_put]
    split
    · rename_i here
      rw [← here, get?, Option.not_isSome_iff_eq_none.mp free, Option.none_or]
    · simp

@[simp] theorem filter_offerAll : (package.offerAll files).filter = package.filter := by
  induction files generalizing package with
  | nil => rfl
  | cons file rest ih => exact ih.trans filter_offer

@[simp] theorem transforms_offerAll
    : (package.offerAll files).transforms = package.transforms := by
  induction files generalizing package with
  | nil => rfl
  | cons file rest ih => exact ih.trans transforms_offer

theorem offerAll_append {more : List (String × ByteArray)}
    : package.offerAll (files ++ more) = (package.offerAll files).offerAll more := by
  rw [offerAll, List.foldl_append]
  rfl

/-- Of files offered one after the other the first one of a path counts, unless the path was
taken, by induction on the files.
-/
theorem get?_offerAll
    : (package.offerAll files).get? path
      = (package.get? path).or
          ((Assoc.get? path files).map (package.transformed path)) := by
  induction files generalizing package with
  | nil => simp [offerAll]
  | cons file rest ih =>
      obtain ⟨target, data⟩ := file
      rw [offerAll, List.foldl_cons, ← offerAll, ih, get?_offer,
        transformed_congr transforms_offer, Option.or_assoc, Assoc.get?_cons]
      split
      · rename_i here
        cases here
        simp
      · simp

/-- Steps that each offer some files offer all of them, by induction on the steps. What they
offer may depend on the filter, which offers leave as it is.
-/
theorem eq_offerAll_of_foldlM {β : Type} {step : Package → β → Except Failure Package}
    {listing : PathFilter → β → List (String × ByteArray)} {sources : List β} {changed : Package}
    (offers : ∀ {package source changed}, step package source = .ok changed →
      changed = package.offerAll (listing package.filter source))
    (done : sources.foldlM step package = .ok changed)
    : changed = package.offerAll (sources.flatMap (listing package.filter)) := by
  induction sources generalizing package with
  | nil =>
      cases done
      rfl
  | cons source rest ih =>
      rw [List.foldlM_cons] at done
      cases first : step package source with
      | error failure =>
          rw [first] at done
          cases done
      | ok next =>
          rw [first] at done
          have later := ih done
          rw [offers first, filter_offerAll] at later
          rw [List.flatMap_cons, offerAll_append]
          exact later

end Package

end AddonPackager
