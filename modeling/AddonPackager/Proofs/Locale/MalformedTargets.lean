import AddonPackager.Proofs.Locale.Completion

/-! Merging references into locales that hold malformed files. A malformed file keeps its bytes and
is reported once, in the order of the locales and files, and what becomes of any other file does
not depend on it.
-/

namespace AddonPackager.Locale.References

variable {references : References} {package other : Package} {reference : Catalog}
  {locale file path : String} {locales : List String} {pairs : List (String × Catalog)}
  {data : ByteArray} {warning : Warning}

-----------------------------------------------------------------------------------------
-- Targets and their faults
-----------------------------------------------------------------------------------------

/-- Where the references are merged to, in the order in which that happens. -/
def targets (references : References) (locales : List String) : List String :=
  locales.flatMap fun locale => references.catalogs.keys.map (Locale.path locale)

/-- The bytes are no text, or their text does not have the format of the path. -/
def isMalformed (path : String) (data : ByteArray) : Bool :=
  match String.fromUTF8? data with
  | none => true
  | some text => !(Catalog.parse text path).isOk

def hasMalformed (package : Package) (path : String) : Bool :=
  (package.get? path).any (isMalformed path)

/-- The targets at which a package holds a malformed file. -/
def malformedTargets (references : References) (locales : List String) (package : Package)
    : List String :=
  (targets references locales).filter (hasMalformed package)

/-- A warning that tells what is wrong with a file of a package. -/
structure TellsOf (package : Package) (path : String) (warning : Warning) : Prop where
  kind : warning.kind = .malformedCatalog
  location : warning.location = some path
  message
    : ∃ data, package.get? path = some data
      ∧ (String.fromUTF8? data = none ∧ warning.message = path ++ " is not valid UTF-8"
        ∨ ∃ text error, String.fromUTF8? data = some text
          ∧ Catalog.parse text path = .error error
          ∧ warning.message = error.message)

/-- The warning that a file of a package deserves. A missing file deserves none. -/
def fault? (package : Package) (path : String) : Option Warning :=
  (package.get? path).bind fun data =>
    match String.fromUTF8? data with
    | none => some (.catalogNotText path)
    | some text =>
        match Catalog.parse text path with
        | .ok _ => none
        | .error error => some (.malformed path error.message)

theorem fault?_congr (same : other.get? path = package.get? path)
    : fault? other path = fault? package path := by
  rw [fault?, fault?, same]

theorem isSome_fault? : (fault? package path).isSome = hasMalformed package path := by
  rw [hasMalformed]
  cases stored : package.get? path with
  | none => simp [fault?, stored]
  | some data =>
      cases isText : String.fromUTF8? data with
      | none => simp [fault?, stored, isMalformed, isText]
      | some text =>
          cases parsed : Catalog.parse text path <;>
            simp [fault?, stored, isMalformed, isText, parsed, Except.isOk, Except.toBool]

theorem tellsOf_of_fault? (deserved : fault? package path = some warning)
    : TellsOf package path warning := by
  obtain ⟨data, stored, told⟩ := Option.bind_eq_some_iff.mp deserved
  cases isText : String.fromUTF8? data with
  | none =>
      simp only [isText, Option.some.injEq] at told
      subst told
      exact ⟨rfl, rfl, data, stored, .inl ⟨isText, rfl⟩⟩
  | some text =>
      simp only [isText] at told
      cases parsed : Catalog.parse text path with
      | ok found => simp [parsed] at told
      | error error =>
          simp only [parsed, Option.some.injEq] at told
          subst told
          exact ⟨rfl, rfl, data, stored, .inr ⟨text, error, isText, parsed, rfl⟩⟩

/-- The files with a fault and their warnings, side by side, by induction on the files. -/
theorem forall₂_tellsOf (package : Package) (paths : List String)
    : List.Forall₂ (TellsOf package) (paths.filter (hasMalformed package))
        (paths.filterMap (fault? package)) := by
  induction paths with
  | nil => exact .nil
  | cons path rest ih =>
      cases deserved : fault? package path with
      | none =>
          have sound : ¬ hasMalformed package path = true := by
            simp [← isSome_fault?, deserved]
          rw [List.filterMap_cons_none deserved, List.filter_cons_of_neg sound]
          exact ih
      | some warning =>
          have faulty : hasMalformed package path = true := by
            simp [← isSome_fault?, deserved]
          rw [List.filterMap_cons_some deserved, List.filter_cons_of_pos faulty]
          exact .cons (tellsOf_of_fault? deserved) ih

/-- Malformed bytes stay when a reference is merged into them. -/
theorem filled_of_isMalformed (malformed : isMalformed path data = true)
    : filled reference path (some data) = data := by
  rw [isMalformed] at malformed
  rw [filled]
  cases isText : String.fromUTF8? data with
  | none => rfl
  | some text =>
      simp only [isText] at malformed ⊢
      cases parsed : Catalog.parse text path with
      | error error => rfl
      | ok found => simp [parsed, Except.isOk, Except.toBool] at malformed

-----------------------------------------------------------------------------------------
-- Targets
-----------------------------------------------------------------------------------------

theorem mem_targets_iff
    : path ∈ targets references locales
      ↔ ∃ locale ∈ locales, ∃ file reference,
          references.catalogs.get? file = some reference ∧ Locale.path locale file = path := by
  simp only [targets, List.mem_flatMap, List.mem_map, Dict.mem_keys_iff, Option.isSome_iff_exists]
  constructor
  · rintro ⟨locale, member, file, ⟨reference, listed⟩, here⟩
    exact ⟨locale, member, file, reference, listed, here⟩
  · rintro ⟨locale, member, file, reference, listed, here⟩
    exact ⟨locale, member, file, ⟨reference, listed⟩, here⟩

/-- No target comes twice, since a path gives away its locale and its file. -/
theorem nodup_targets (named : ∀ locale ∈ locales, isName locale = true)
    (distinct : locales.Nodup)
    : (targets references locales).Nodup := by
  rw [targets, List.nodup_flatMap]
  constructor
  · intro locale _
    exact references.catalogs.ascending.nodup_names.map fun _ _ => path_inj.mp
  · refine distinct.imp_of_mem ?_
    intro locale next member nextMember different path inFirst inNext
    obtain ⟨file, -, rfl⟩ := List.mem_map.mp inFirst
    obtain ⟨file', -, same⟩ := List.mem_map.mp inNext
    exact different ((path_eq_iff (named next nextMember) (named locale member)).mp same).1.symm

-----------------------------------------------------------------------------------------
-- Warnings of one file, one locale and all locales
-----------------------------------------------------------------------------------------

/-- Merging into a file warns of the fault the file has. -/
theorem warnings_mergeFile {entry : String × Catalog}
    : (mergeFile locale package entry).warnings
      = package.warnings ++ (fault? package (Locale.path locale entry.1)).toList := by
  rw [mergeFile, fault?]
  generalize Locale.path locale entry.1 = path
  cases stored : package.get? path with
  | none => simp [Package.putText, Package.put]
  | some data =>
      cases isText : String.fromUTF8? data with
      | none => simp [isText, Package.warn]
      | some text =>
          simp only [isText, mergeCatalog, Option.bind_some]
          cases parsed : Catalog.parse text path with
          | error error => simp [Package.warn]
          | ok found =>
              cases found with
              | none => simp
              | some target =>
                  simp only [Option.toList_none, List.append_nil]
                  split
                  · rfl
                  · rfl

/-- Merging references with different names warns of the faults that their files had at first, by
induction on the references: when the turn of a file comes, it is still untouched.
-/
theorem warnings_foldl_mergeFile (distinct : (Assoc.names pairs).Nodup)
    : (pairs.foldl (mergeFile locale) package).warnings
      = package.warnings
        ++ ((Assoc.names pairs).map (Locale.path locale)).filterMap (fault? package) := by
  induction pairs generalizing package with
  | nil => simp
  | cons entry rest ih =>
      obtain ⟨name, reference⟩ := entry
      rw [Assoc.names_cons, List.nodup_cons] at distinct
      have untouched : ∀ path ∈ (Assoc.names rest).map (Locale.path locale),
          fault? (mergeFile locale package (name, reference)) path = fault? package path := by
        intro path member
        obtain ⟨next, nextMember, rfl⟩ := List.mem_map.mp member
        refine fault?_congr (get?_mergeFile_of_ne fun same => ?_)
        have same : name = next := path_inj.mp same
        exact distinct.1 (same ▸ nextMember)
      rw [List.foldl_cons, ih distinct.2, warnings_mergeFile, List.filterMap_congr untouched,
        List.append_assoc, Assoc.names_cons, List.map_cons]
      cases deserved : fault? package (Locale.path locale name) <;> simp [deserved]

/-- Merging into different locales warns of the faults that the targets had at first, in their
order, by induction on the locales.
-/
theorem warnings_mergeInto (named : ∀ locale ∈ locales, isName locale = true)
    (distinct : locales.Nodup)
    : (references.mergeInto locales package).warnings
      = package.warnings ++ (targets references locales).filterMap (fault? package) := by
  induction locales generalizing package with
  | nil => simp [mergeInto, targets]
  | cons locale rest ih =>
      rw [List.nodup_cons] at distinct
      have restNamed : ∀ next ∈ rest, isName next = true :=
        fun next member => named next (List.mem_cons_of_mem _ member)
      have untouched : ∀ path ∈ targets references rest,
          fault? (references.mergeLocale package locale) path = fault? package path := by
        intro path member
        obtain ⟨next, nextMember, file, reference, -, rfl⟩ := mem_targets_iff.mp member
        refine fault?_congr (get?_mergeLocale_of_ne fun file' _ _ same => ?_)
        have same := (path_eq_iff (named locale List.mem_cons_self)
          (restNamed next nextMember)).mp same
        exact distinct.1 (same.1 ▸ nextMember)
      have first : (references.mergeLocale package locale).warnings
          = package.warnings
            ++ (references.catalogs.keys.map (Locale.path locale)).filterMap (fault? package) :=
        warnings_foldl_mergeFile references.catalogs.ascending.nodup_names
      rw [mergeInto, List.foldl_cons, ← mergeInto, ih restNamed distinct.2, first,
        List.filterMap_congr untouched, List.append_assoc, ← List.filterMap_append]
      rfl

-----------------------------------------------------------------------------------------
-- Isolation
-----------------------------------------------------------------------------------------

/-- Malformed targets are isolated. They keep their bytes, each is reported once in the order of
the locales and files, and nothing else is. Whatever a package holds at them instead, all other
files come out the same.
-/
theorem mergeInto_isolates_malformed (expands : package.OnlyExpandsManifests)
    (parsed : references.Parsed) (named : ∀ locale ∈ locales, isName locale = true)
    (distinct : locales.Nodup)
    : (∀ path ∈ malformedTargets references locales package,
          (references.mergeInto locales package).get? path = package.get? path)
      ∧ (∃ added,
          (references.mergeInto locales package).warnings = package.warnings ++ added
          ∧ (malformedTargets references locales package).Nodup
          ∧ List.Forall₂ (TellsOf package) (malformedTargets references locales package) added)
      ∧ ∀ other : Package, other.OnlyExpandsManifests →
          (∀ path ∉ malformedTargets references locales package,
            other.get? path = package.get? path) →
          ∀ path ∉ malformedTargets references locales package,
            (references.mergeInto locales other).get? path
              = (references.mergeInto locales package).get? path := by
  refine ⟨?_, ⟨_, warnings_mergeInto named distinct, ?_, forall₂_tellsOf package _⟩, ?_⟩
  · intro path member
    obtain ⟨isTarget, malformed⟩ := List.mem_filter.mp member
    obtain ⟨locale, localeMember, file, reference, listed, rfl⟩ := mem_targets_iff.mp isTarget
    obtain ⟨data, stored, malformed⟩ := (Option.any_eq_true _ _).mp malformed
    rw [get?_mergeInto expands parsed named localeMember listed, stored,
      filled_of_isMalformed malformed]
  · exact (nodup_targets named distinct).filter _
  · intro other otherExpands agree path sound
    have same := agree path sound
    by_cases isTarget : path ∈ targets references locales
    · obtain ⟨locale, localeMember, file, reference, listed, rfl⟩ := mem_targets_iff.mp isTarget
      rw [get?_mergeInto otherExpands parsed named localeMember listed,
        get?_mergeInto expands parsed named localeMember listed, same]
    · have untouched : ∀ locale ∈ locales, ∀ file reference,
          references.catalogs.get? file = some reference → Locale.path locale file ≠ path :=
        fun locale member file reference listed here =>
          isTarget (mem_targets_iff.mpr ⟨locale, member, file, reference, listed, here⟩)
      rw [get?_mergeInto_of_ne untouched, get?_mergeInto_of_ne untouched, same]

def oneEntity : References :=
  single "x.dtd" ⟨.dtd, [("k", "v")], "<!ENTITY k 'v'>", []⟩

/-- Two locales with broken files, one of which is no text. -/
def twoBroken : Package :=
  ((Package.empty ⟨["chrome"], []⟩).put (Locale.path "de" "x.dtd") ⟨#[0xFF]⟩).putText
    (Locale.path "fr" "x.dtd") "<!ENTITY"

/-- The broken files stay and are reported in the order of the locales, and a locale without the
file gets what it would get beside a sound one.
-/
theorem mergeInto_isolates_two_broken
    : (oneEntity.mergeInto ["fr", "de", "it"] twoBroken).get? (Locale.path "de" "x.dtd")
        = some ⟨#[0xFF]⟩
      ∧ (∃ added,
          (oneEntity.mergeInto ["fr", "de", "it"] twoBroken).warnings = added
          ∧ List.Forall₂ (TellsOf twoBroken)
              [Locale.path "fr" "x.dtd", Locale.path "de" "x.dtd"] added)
      ∧ (oneEntity.mergeInto ["fr", "de", "it"] (packageWith "de" "x.dtd" "")).get?
            (Locale.path "it" "x.dtd")
          = (oneEntity.mergeInto ["fr", "de", "it"] twoBroken).get?
              (Locale.path "it" "x.dtd") := by
  have parsed : oneEntity.Parsed :=
    parsed_single (show Catalog.parse "<!ENTITY k 'v'>" "x.dtd" = _ by decide +kernel)
  have expands : twoBroken.OnlyExpandsManifests := by
    intro transform member
    simp [twoBroken, Package.putText, Package.empty] at member
  have broken : malformedTargets oneEntity ["fr", "de", "it"] twoBroken
      = [Locale.path "fr" "x.dtd", Locale.path "de" "x.dtd"] := by
    decide +kernel
  obtain ⟨kept, ⟨added, warned, -, told⟩, isolated⟩ := mergeInto_isolates_malformed expands parsed
    (show ∀ locale ∈ ["fr", "de", "it"], isName locale = true by decide) (by decide)
  rw [broken] at kept told isolated
  refine ⟨?_, ⟨added, warned, told⟩, ?_⟩
  · rw [kept _ (by simp)]
    decide +kernel
  · refine isolated _ (onlyExpandsManifests_packageWith "de" "x.dtd" "") ?_ _ (by decide +kernel)
    intro path sound
    rw [List.mem_cons, List.mem_singleton, not_or] at sound
    rw [packageWith, twoBroken, Package.putText, Package.putText,
      Package.get?_put_of_ne (Ne.symm sound.2), Package.get?_put_of_ne (Ne.symm sound.1),
      Package.get?_put_of_ne (Ne.symm sound.2)]

end AddonPackager.Locale.References
