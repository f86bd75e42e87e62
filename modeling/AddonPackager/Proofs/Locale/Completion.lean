import AddonPackager.Proofs.Locale.Merging

/-! What merging references guarantees. Catalogs grow at their end by exactly the keys they lack,
the result depends on the set of locales only, and a message arrives with its meaning unless it
spells one of the references to the predefined entities.
-/

namespace AddonPackager.Locale

variable {references : References} {package : Package} {reference target merged : Catalog}
  {locale file key value text : String} {locales locales' : List String} {data : ByteArray}

/-- A catalog completed from a reference: first come the old entries as they were, then those
for the keys that were missing, in the order of the reference.
-/
structure IsCompletion (reference target merged : Catalog) : Prop where
  entries : target.entries <+: merged.entries
  messages : ∀ key ∈ target.keys, merged.get? key = target.get? key
  keys : merged.keys = target.keys ++ reference.keys.filter (· ∉ target.keys)
  complete : ∀ key ∈ reference.keys, key ∈ merged.keys

def packageWith (locale file text : String) : Package :=
  (Package.empty ⟨["chrome"], []⟩).putText (path locale file) text

theorem onlyExpandsManifests_packageWith (locale file text : String)
    : (packageWith locale file text).OnlyExpandsManifests := by
  intro transform member
  simp [packageWith, Package.putText, Package.empty] at member

def twoMessages : Catalog :=
  ⟨.properties, [("a", "9"), ("b", "2")], "a=9\nb=2\n", []⟩

theorem parse_twoMessages
    : Catalog.parse "a=9\nb=2\n" "x.properties" = .ok (some twoMessages) := by
  decide +kernel

namespace References

def single (file : String) (reference : Catalog) : References :=
  ⟨.ofList [(file, reference)]⟩

theorem parsed_single (read : Catalog.parse text file = .ok (some reference))
    : (single file reference).Parsed := by
  intro other catalog listed
  have found : Assoc.get? other [(file, reference)] = some catalog := by
    rw [single, Dict.get?_ofList] at listed
    exact listed
  rw [Assoc.get?_cons] at found
  split at found
  · rename_i here
    cases here
    cases found
    exact ⟨text, read⟩
  · simp at found

/-- A catalog that reads as an old one with the missing entries at its end is a completion. -/
theorem isCompletion_of_entries
    (entries : merged.entries = target.entries
      ++ (missing reference target).map target.format.rereadEntry)
    : IsCompletion reference target merged where
  entries := ⟨_, entries.symm⟩
  messages key member := by
    obtain ⟨value, found⟩ := Option.isSome_iff_exists.mp (Assoc.isSome_get?_iff.mpr member)
    rw [get?_supplemented entries, Catalog.get?, found]
    rfl
  keys := keys_supplemented entries
  complete _ member := mem_keys_supplemented entries member

-----------------------------------------------------------------------------------------
-- Conservative extension
-----------------------------------------------------------------------------------------

/-- Merging is a conservative extension. A missing file is copied; a catalog keeps its bytes and
gets the missing keys at its end; every other path stays as it is.
-/
theorem mergeInto_extends (expands : package.OnlyExpandsManifests) (parsed : references.Parsed)
    (named : ∀ locale ∈ locales, isName locale = true)
    : (∀ locale ∈ locales, ∀ file reference, references.catalogs.get? file = some reference →
        (package.get? (path locale file) = none →
          (references.mergeInto locales package).get? (path locale file)
            = some reference.raw.toUTF8)
        ∧ ∀ data text target,
            package.get? (path locale file) = some data →
            String.fromUTF8? data = some text →
            Catalog.parse text (path locale file) = .ok (some target) →
            ∃ extra longer merged,
              (references.mergeInto locales package).get? (path locale file)
                = some (data ++ extra)
              ∧ String.fromUTF8? (data ++ extra) = some longer
              ∧ Catalog.parse longer (path locale file) = .ok (some merged)
              ∧ IsCompletion reference target merged)
      ∧ ∀ other,
          (∀ locale ∈ locales, ∀ file reference,
            references.catalogs.get? file = some reference → path locale file ≠ other) →
          (references.mergeInto locales package).get? other = package.get? other := by
  constructor
  · intro locale member file reference listed
    have filledFile := get?_mergeInto expands parsed named member listed
    constructor
    · intro absent
      rw [filledFile, absent]
      rfl
    · intro data text target stored isText read
      obtain ⟨source, isReference⟩ := parsed file reference listed
      obtain ⟨merged, mergedParsed, -, entries⟩ := parse_filled isReference read
      have longer : (text ++ supplement reference target).toUTF8
          = data ++ (supplement reference target).toUTF8 := by
        rw [fromUTF8?_eq_some_iff.mp isText]
        exact String.toByteArray_append
      refine ⟨(supplement reference target).toUTF8, text ++ supplement reference target, merged,
        ?_, ?_, mergedParsed, isCompletion_of_entries entries⟩
      · rw [filledFile, stored, filled_of_parse isText read, longer]
      · rw [← longer]
        exact fromUTF8?_eq_some_iff.mpr rfl
  · intro other different
    exact get?_mergeInto_of_ne different

/-- A catalog that lacks a key and the line feed at its end gets both. -/
theorem mergeInto_extends_unended_line
    : ∃ extra longer merged,
        ((single "x.properties" twoMessages).mergeInto ["de"]
            (packageWith "de" "x.properties" "a=1")).get? (path "de" "x.properties")
          = some ("a=1".toUTF8 ++ extra)
        ∧ String.fromUTF8? ("a=1".toUTF8 ++ extra) = some longer
        ∧ Catalog.parse longer (path "de" "x.properties") = .ok (some merged)
        ∧ IsCompletion twoMessages ⟨.properties, [("a", "1")], "a=1", []⟩ merged := by
  have parsed : (single "x.properties" twoMessages).Parsed := parsed_single parse_twoMessages
  have extended := mergeInto_extends (onlyExpandsManifests_packageWith "de" "x.properties" "a=1")
    parsed (show ∀ locale ∈ ["de"], isName locale = true by decide)
  have filled := (extended.1 "de" (by decide) "x.properties" twoMessages (by decide)).2
  exact filled "a=1".toUTF8 "a=1" _ (by decide +kernel) (by decide +kernel) (by decide +kernel)

-----------------------------------------------------------------------------------------
-- Order and repetition of locales
-----------------------------------------------------------------------------------------

/-- Merging depends on the set of locales only: neither their order nor repetitions matter, and
merging once more changes nothing.
-/
theorem mergeInto_congr (expands : package.OnlyExpandsManifests) (parsed : references.Parsed)
    (named : ∀ locale ∈ locales, isName locale = true)
    (same : ∀ locale, locale ∈ locales ↔ locale ∈ locales')
    : (references.mergeInto locales package).entries
        = (references.mergeInto locales' package).entries
      ∧ (references.mergeInto locales' (references.mergeInto locales package)).entries
        = (references.mergeInto locales package).entries := by
  refine ⟨entries_mergeInto_congr expands parsed named same, ?_⟩
  have together : references.mergeInto locales' (references.mergeInto locales package)
      = references.mergeInto (locales ++ locales') package := by
    rw [mergeInto, mergeInto, mergeInto, List.foldl_append]
  rw [together]
  refine (entries_mergeInto_congr expands parsed named ?_).symm
  intro locale
  rw [List.mem_append, ← same, or_self]

/-- The order of two locales and a repetition do not matter. -/
theorem mergeInto_congr_swapped
    : ((single "x.properties" twoMessages).mergeInto ["de", "fr", "de"]
          (packageWith "de" "x.properties" "a=1")).entries
        = ((single "x.properties" twoMessages).mergeInto ["fr", "de"]
            (packageWith "de" "x.properties" "a=1")).entries
      ∧ ((single "x.properties" twoMessages).mergeInto ["fr", "de"]
            ((single "x.properties" twoMessages).mergeInto ["de", "fr", "de"]
              (packageWith "de" "x.properties" "a=1"))).entries
          = ((single "x.properties" twoMessages).mergeInto ["de", "fr", "de"]
              (packageWith "de" "x.properties" "a=1")).entries :=
  mergeInto_congr (onlyExpandsManifests_packageWith "de" "x.properties" "a=1")
    (parsed_single parse_twoMessages) (by decide) (by simp)

-----------------------------------------------------------------------------------------
-- The meaning of messages
-----------------------------------------------------------------------------------------

def bareAmpersand : Catalog :=
  ⟨.dtd, [("k", "a & b")], "<!ENTITY k 'a & b'>", []⟩

def spelledReference : Catalog :=
  ⟨.dtd, [("k", "&lt;")], "<!ENTITY k \"&amp;lt;\">\n", []⟩

/-- A message that a catalog lacked arrives with its meaning exactly if the catalog is one of
properties or the message spells none of the references to the predefined entities: such a
spelling would be taken for the reference and stand for one character.
-/
theorem get?_mergeInto_eq_iff (expands : package.OnlyExpandsManifests)
    (parsed : references.Parsed) (named : ∀ locale ∈ locales, isName locale = true)
    (member : locale ∈ locales) (listed : references.catalogs.get? file = some reference)
    (stored : package.get? (path locale file) = some data)
    (isText : String.fromUTF8? data = some text)
    (read : Catalog.parse text (path locale file) = .ok (some target))
    (absent : key ∉ target.keys) (found : reference.get? key = some value)
    : ∃ longer merged,
        (references.mergeInto locales package).get? (path locale file) = some longer.toUTF8
        ∧ Catalog.parse longer (path locale file) = .ok (some merged)
        ∧ (merged.get? key = some value
            ↔ reference.format = .properties ∨ Dtd.IsFreeOfPredefined value.toList) := by
  obtain ⟨source, isReference⟩ := parsed file reference listed
  obtain ⟨merged, mergedParsed, -, entries⟩ := parse_filled isReference read
  refine ⟨text ++ supplement reference target, merged, ?_, mergedParsed, ?_⟩
  · rw [get?_mergeInto expands parsed named member listed, stored, filled_of_parse isText read]
  have missing : target.get? key = none := Assoc.get?_eq_none_iff.mpr absent
  have arrives : merged.get? key = some value
      ↔ reference.format.KeepsValue value.toList := by
    rw [get?_supplemented entries, missing, found, format_eq_of_parse isReference read,
      Option.none_or, Option.map_some, Option.some.injEq, ← CatalogFormat.reread_eq_self_iff,
      ← String.toList_inj, String.toList_ofList]
  rw [arrives]
  cases format : reference.format with
  | properties =>
      have kept := CatalogFormat.keepsValue_of_isReadFrom
        (Catalog.isReadFrom_of_parse isReference) found format
      simp [kept]
  | dtd =>
      simp [CatalogFormat.KeepsValue]

/-- A message with a bare ampersand arrives. -/
theorem get?_mergeInto_eq_ampersand
    : ∃ longer merged,
        ((single "x.dtd" bareAmpersand).mergeInto ["de"] (packageWith "de" "x.dtd" "")).get?
            (path "de" "x.dtd")
          = some longer.toUTF8
        ∧ Catalog.parse longer (path "de" "x.dtd") = .ok (some merged)
        ∧ merged.get? "k" = some "a & b" := by
  have read : Catalog.parse "<!ENTITY k 'a & b'>" "x.dtd" = .ok (some bareAmpersand) := by
    decide +kernel
  have empty : Catalog.parse "" (path "de" "x.dtd") = .ok (some ⟨.dtd, [], "", []⟩) := by
    decide +kernel
  have named : ∀ locale ∈ ["de"], isName locale = true := by decide
  have listed : (single "x.dtd" bareAmpersand).catalogs.get? "x.dtd" = some bareAmpersand := by
    decide
  have stored : (packageWith "de" "x.dtd" "").get? (path "de" "x.dtd") = some "".toUTF8 := by
    decide +kernel
  have found : bareAmpersand.get? "k" = some "a & b" := by decide
  have free : Dtd.IsFreeOfPredefined "a & b".toList := by
    intro entity
    cases entity <;> decide
  obtain ⟨longer, merged, filled, parsed, arrives⟩ :=
    get?_mergeInto_eq_iff (onlyExpandsManifests_packageWith "de" "x.dtd" "")
      (parsed_single read) named (by simp) listed stored (fromUTF8?_eq_some_iff.mpr rfl) empty
      (by decide) found
  exact ⟨longer, merged, filled, parsed, arrives.mpr (.inr free)⟩

/-- A message that spells the reference to the less-than sign arrives as that sign. -/
theorem get?_mergeInto_ne_spelled_reference
    : Catalog.parse "<!ENTITY k \"&amp;lt;\">\n" "x.dtd" = .ok (some spelledReference)
      ∧ Catalog.parse "" (path "de" "x.dtd") = .ok (some ⟨.dtd, [], "", []⟩)
      ∧ ((single "x.dtd" spelledReference).mergeInto ["de"] (packageWith "de" "x.dtd" "")).get?
            (path "de" "x.dtd")
          = some "<!ENTITY k \"&lt;\">\n".toUTF8
      ∧ Catalog.parse "<!ENTITY k \"&lt;\">\n" (path "de" "x.dtd")
          = .ok (some ⟨.dtd, [("k", "<")], "<!ENTITY k \"&lt;\">\n", []⟩)
      ∧ spelledReference.get? "k" = some "&lt;"
      ∧ Assoc.get? "k" [("k", "<")] ≠ spelledReference.get? "k" := by
  decide +kernel

end References

end AddonPackager.Locale
