import AddonPackager.Package.Basic
import AddonPackager.Proofs.Dict.Lookup
import AddonPackager.Proofs.Digest.Base64
import AddonPackager.Proofs.Text.Splitting
import AddonPackager.Signature.Manifest

/-! What a manifest tells about a package. Its sections follow each other without a frame, so it
names the packaged paths and their digests as long as no path spells the end of one section and
the start of another.
-/

namespace AddonPackager

namespace Signature

open Digest Text

variable {path other : String} {data more : ByteArray} {files others : List (String × ByteArray)}
  {sums moreSums : List UInt8 × List UInt8} {listed : List (String × List UInt8 × List UInt8)}
  {text behind : List Char}

-----------------------------------------------------------------------------------------
-- Lines of a section
-----------------------------------------------------------------------------------------

/-- The two digests of some bytes. -/
def digests (data : ByteArray) : List UInt8 × List UInt8 :=
  (Md5.digest data.toList, Sha1.digest data.toList)

def algorithmsLine : List Char :=
  "Digest-Algorithms: MD5 SHA1".toList

/-- The line with a digest. -/
def digestLine (label : String) (digest : List UInt8) : List Char :=
  label.toList ++ Base64.encode digest

/-- The lines with two digests, and what follows them. -/
def withDigestLines (sums : List UInt8 × List UInt8) (text : List Char) : List Char :=
  algorithmsLine ++ '\n' :: (digestLine "MD5-Digest: " sums.1
    ++ '\n' :: (digestLine "SHA1-Digest: " sums.2 ++ '\n' :: text))

theorem withDigestLines_append
    : withDigestLines sums text ++ behind = withDigestLines sums (text ++ behind) := by
  simp only [withDigestLines, List.append_assoc, List.cons_append]

theorem toList_digestLines_append
    : (digestLines data).toList ++ text = withDigestLines (digests data) text := by
  have first : "Digest-Algorithms: MD5 SHA1\nMD5-Digest: ".toList
      = algorithmsLine ++ '\n' :: "MD5-Digest: ".toList := by
    decide +kernel
  have second : "\nSHA1-Digest: ".toList = '\n' :: "SHA1-Digest: ".toList := by
    decide +kernel
  unfold digestLines digestText
  simp only [String.toList_append, String.toList_ofList, first, second, toList_newline,
    withDigestLines, digestLine, digests, List.append_assoc, List.cons_append, List.nil_append]

theorem newline_not_mem_digestLine {label : String} {digest : List UInt8}
    (free : '\n' ∉ label.toList)
    : '\n' ∉ digestLine label digest := by
  simp [digestLine, free, Base64.newline_not_mem_encode]

theorem newline_not_mem_algorithmsLine : '\n' ∉ algorithmsLine := by
  decide +kernel

/-- The digests and what follows them can be read off a section. -/
theorem withDigestLines_inj
    (same : withDigestLines sums text = withDigestLines moreSums behind)
    : sums = moreSums ∧ text = behind := by
  have lineInj {label : String} {digest digest' : List UInt8}
      (same : digestLine label digest = digestLine label digest') : digest = digest' :=
    Base64.encode_injective (List.append_cancel_left same)
  have afterAlgorithms := (append_cons_inj newline_not_mem_algorithmsLine
    newline_not_mem_algorithmsLine same).2
  obtain ⟨md5, afterMd5⟩ := append_cons_inj (newline_not_mem_digestLine (by decide))
    (newline_not_mem_digestLine (by decide)) afterAlgorithms
  obtain ⟨sha1, afterSha1⟩ := append_cons_inj (newline_not_mem_digestLine (by decide))
    (newline_not_mem_digestLine (by decide)) afterMd5
  exact ⟨Prod.ext (lineInj md5) (lineInj sha1), afterSha1⟩

/-- What does not start with a D differs from the lines with digests. -/
theorem ne_withDigestLines (start : text.head? ≠ some 'D')
    : text ≠ withDigestLines sums behind := by
  rintro rfl
  exact start rfl

-----------------------------------------------------------------------------------------
-- Sections
-----------------------------------------------------------------------------------------

def nameLabel : List Char :=
  "Name: ".toList

theorem newline_not_mem_nameLabel : '\n' ∉ nameLabel := by
  decide +kernel

/-- The paths of files with their digests. -/
def listing (files : List (String × ByteArray)) : List (String × List UInt8 × List UInt8) :=
  files.map fun file => (file.1, digests file.2)

/-- The sections of listed files, each behind a line feed. -/
def sectionsText : List (String × List UInt8 × List UInt8) → List Char
  | [] => []
  | (path, sums) :: rest =>
      '\n' :: (nameLabel ++ (path.toList ++ '\n' :: withDigestLines sums (sectionsText rest)))

theorem toList_nameLine : (nameLine path).toList = nameLabel ++ (path.toList ++ ['\n']) := by
  unfold nameLine nameLabel
  rw [String.toList_append, String.toList_append, toList_newline, List.append_assoc]

theorem toList_manifestSection_append
    : (manifestSection path data).toList ++ text
      = nameLabel ++ (path.toList ++ '\n' :: withDigestLines (digests data) text) := by
  unfold manifestSection
  rw [String.toList_append, List.append_assoc, toList_digestLines_append, toList_nameLine]
  simp only [List.append_assoc, List.cons_append, List.nil_append]

/-- A manifest is its header and the sections of the files, by induction on the files. -/
theorem toList_manifest
    : (manifest files).toList = manifestHeader.toList ++ sectionsText (listing files) := by
  rw [manifest, toList_join_cons, toList_newline]
  congr 1
  induction files with
  | nil => rfl
  | cons file rest ih =>
      obtain ⟨path, data⟩ := file
      rw [List.map_cons, List.flatMap_cons, ih, List.append_assoc, toList_manifestSection_append]
      rfl

/-- A manifest tells exactly what the sections tell. -/
theorem manifest_eq_iff_sectionsText
    : manifest files = manifest others
      ↔ sectionsText (listing files) = sectionsText (listing others) := by
  rw [← String.toList_inj, toList_manifest, toList_manifest, List.append_cancel_left_eq]

-----------------------------------------------------------------------------------------
-- Paths that spell sections
-----------------------------------------------------------------------------------------

/-- A path that holds all the lines between the path of one section and the path of the next. -/
def SpellsSection (path : String) : Prop :=
  ∃ before data after,
    path.toList
      = before ++ '\n' :: withDigestLines (digests data) ('\n' :: (nameLabel ++ after))

/-- A path on one line spells no section. -/
theorem not_spellsSection_of_newline_not_mem (free : '\n' ∉ path.toList)
    : ¬ SpellsSection path := by
  rintro ⟨before, data, after, spelled⟩
  exact free (by simp [spelled])

/-- A path that spells a section stands for two files. -/
theorem sectionsText_of_spells {before after : String}
    (spells
      : path.toList
        = before.toList ++ '\n' :: withDigestLines sums ('\n' :: (nameLabel ++ after.toList)))
    : sectionsText ((path, moreSums) :: listed)
      = sectionsText ((before, sums) :: (after, moreSums) :: listed) := by
  rw [sectionsText, spells, sectionsText, sectionsText]
  simp only [List.append_assoc, List.cons_append, withDigestLines_append]

/-- Where the text from digests on also goes on elsewhere with digests, what stands between is
nothing or spells the section.
-/
theorem eq_nil_or_spells {between : List Char}
    (same
      : '\n' :: withDigestLines sums (sectionsText listed)
        = between ++ '\n' :: withDigestLines moreSums text)
    : between = []
      ∨ ∃ after, between = '\n' :: withDigestLines sums ('\n' :: (nameLabel ++ after)) := by
  cases between with
  | nil => exact .inl rfl
  | cons c afterFeed =>
      obtain ⟨rfl, fromAlgorithms⟩ := List.cons.inj same
      -- Every line of the section is inside, as the text behind it does not start with digests.
      obtain ⟨fromMd5, rfl, sameMd5⟩ := exists_piece_of_append_cons
        newline_not_mem_algorithmsLine fromAlgorithms (ne_withDigestLines (by simp [digestLine]))
      obtain ⟨fromSha1, rfl, sameSha1⟩ := exists_piece_of_append_cons
        (newline_not_mem_digestLine (by decide)) sameMd5
        (ne_withDigestLines (by simp [digestLine]))
      cases listed with
      | nil =>
          obtain ⟨fromEnd, -, sameEnd⟩ := exists_piece_of_append_cons
            (newline_not_mem_digestLine (by decide)) sameSha1
            (ne_withDigestLines (by simp [sectionsText]))
          exact absurd sameEnd (by simp [sectionsText])
      | cons file rest =>
          obtain ⟨path, fileSums⟩ := file
          obtain ⟨fromEnd, rfl, sameEnd⟩ := exists_piece_of_append_cons
            (newline_not_mem_digestLine (by decide)) sameSha1
            (ne_withDigestLines (by simp [sectionsText]))
          have fromFeed : [] ++ '\n' :: (nameLabel ++ _) = fromEnd ++ _ := sameEnd
          obtain ⟨fromName, rfl, sameName⟩ := exists_piece_of_append_cons List.not_mem_nil fromFeed
            (ne_withDigestLines (by simp [nameLabel]))
          obtain ⟨after, rfl, -⟩ := exists_between_of_append newline_not_mem_nameLabel sameName
          exact .inr ⟨after, rfl⟩

/-- Paths that spell no section are the same where they start the same text. -/
theorem eq_of_append_withDigestLines {moreListed : List (String × List UInt8 × List UInt8)}
    (clear : ¬ SpellsSection path) (otherClear : ¬ SpellsSection other)
    (same
      : path.toList ++ '\n' :: withDigestLines (digests data) (sectionsText listed)
        = other.toList ++ '\n' :: withDigestLines (digests more) (sectionsText moreListed))
    : path = other := by
  rcases List.append_eq_append_iff.mp same with ⟨between, longer, after⟩ | ⟨between, longer, after⟩
  · obtain rfl | ⟨name, rfl⟩ := eq_nil_or_spells after
    · rw [List.append_nil] at longer
      exact (String.toList_injective longer).symm
    · exact absurd ⟨path.toList, data, name, longer⟩ otherClear
  · obtain rfl | ⟨name, rfl⟩ := eq_nil_or_spells after
    · rw [List.append_nil] at longer
      exact String.toList_injective longer
    · exact absurd ⟨other.toList, more, name, longer⟩ clear

/-- Without paths that spell sections the paths and the digests can be read off the sections, by
induction on the files.
-/
theorem listing_eq_of_sectionsText (clear : ∀ file ∈ files, ¬ SpellsSection file.1)
    (otherClear : ∀ file ∈ others, ¬ SpellsSection file.1)
    (same : sectionsText (listing files) = sectionsText (listing others))
    : listing files = listing others := by
  induction files generalizing others with
  | nil =>
      cases others with
      | nil => rfl
      | cons other rest => cases same
  | cons file rest ih =>
      cases others with
      | nil => cases same
      | cons other otherRest =>
          rw [List.forall_mem_cons] at clear otherClear
          have fromPath := List.append_cancel_left (List.cons.inj same).2
          have samePath := eq_of_append_withDigestLines clear.1 otherClear.1 fromPath
          rw [samePath] at fromPath
          have fromDigests := (List.cons.inj (List.append_cancel_left fromPath)).2
          obtain ⟨sameDigests, sameRest⟩ := withDigestLines_inj fromDigests
          have sameListing := ih clear.2 otherClear.2 sameRest
          rw [listing] at sameListing ⊢
          rw [List.map_cons, samePath, sameDigests, sameListing]
          rfl

-----------------------------------------------------------------------------------------
-- Packages
-----------------------------------------------------------------------------------------

theorem names_listing : Assoc.names (listing files) = Assoc.names files := by
  simp [listing, Assoc.names]

theorem get?_listing : Assoc.get? path (listing files) = (Assoc.get? path files).map digests :=
  Assoc.get?_map digests

/-- Maps have the same listing exactly if they have the same keys and digests. -/
theorem listing_eq_iff {entries entries' : Dict ByteArray}
    : listing entries.toList = listing entries'.toList
      ↔ entries.keys = entries'.keys
        ∧ ∀ path, (entries.get? path).map digests = (entries'.get? path).map digests := by
  constructor
  · intro same
    refine ⟨?_, fun path => ?_⟩
    · rw [Dict.keys, ← names_listing, same, names_listing, Dict.keys]
    · rw [Dict.get?, ← get?_listing, same, get?_listing, Dict.get?]
  · rintro ⟨-, sameDigests⟩
    have same : entries.map digests = entries'.map digests := by
      refine Dict.ext_get? fun path => ?_
      exact get?_listing.trans ((sameDigests path).trans get?_listing.symm)
    exact congrArg Dict.toList same

/-- Packages whose paths spell no section have the same manifest exactly if they have the same
paths with the same digests.
-/
theorem manifest_eq_iff {package package' : Package}
    (clear : ∀ path ∈ package.paths, ¬ SpellsSection path)
    (clear' : ∀ path ∈ package'.paths, ¬ SpellsSection path)
    : manifest package.files = manifest package'.files
      ↔ package.paths = package'.paths
        ∧ ∀ path, (package.get? path).map digests = (package'.get? path).map digests := by
  have readable : sectionsText (listing package.files) = sectionsText (listing package'.files)
      ↔ listing package.files = listing package'.files :=
    ⟨listing_eq_of_sectionsText
        (fun file member => clear file.1 (List.mem_map_of_mem member))
        (fun file member => clear' file.1 (List.mem_map_of_mem member)),
      congrArg sectionsText⟩
  rw [manifest_eq_iff_sectionsText, readable]
  exact listing_eq_iff

/-- A package of three files; the content of its script is given. -/
def threeFiles (content : String) : Package :=
  (((Package.empty ⟨[], []⟩).put "install.rdf" "<RDF/>".toUTF8).put "lib/main.js"
    content.toUTF8).put "chrome/content/ui.xul" .empty

theorem not_spellsSection_of_mem_threeFiles (content : String)
    : ∀ path ∈ (threeFiles content).paths, ¬ SpellsSection path := by
  have paths : (threeFiles content).paths
      = ["chrome/content/ui.xul", "install.rdf", "lib/main.js"] :=
    rfl
  have free : ["chrome/content/ui.xul", "install.rdf", "lib/main.js"].all
      (fun path => !path.toList.contains '\n') = true := by
    decide +kernel
  intro path member
  rw [paths] at member
  have plain := List.all_eq_true.mp free path member
  exact not_spellsSection_of_newline_not_mem (by simpa using plain)

/-- Two packages that differ in one of their three files have different manifests. -/
theorem manifest_ne_of_contents
    : (threeFiles "run();").paths = (threeFiles "stop();").paths
      ∧ manifest (threeFiles "run();").files ≠ manifest (threeFiles "stop();").files := by
  refine ⟨rfl, fun same => ?_⟩
  have told := (manifest_eq_iff (not_spellsSection_of_mem_threeFiles "run();")
    (not_spellsSection_of_mem_threeFiles "stop();")).mp same
  exact absurd (told.2 "lib/main.js") (by decide +kernel)

/-- A path that reads like the end of one section and the start of another. -/
def forgedPath : String :=
  "a\nDigest-Algorithms: MD5 SHA1\nMD5-Digest: 1B2M2Y8AsgTpgAmY7PhCfg==\n"
    ++ "SHA1-Digest: 2jmj7l5rSw0yVb/vlWAYkK/YBwk=\n\nName: b"

/-- A package with one empty file under a forged path. -/
def forgedPackage : Package :=
  (Package.empty ⟨[], []⟩).put forgedPath .empty

def plainPackage : Package :=
  ((Package.empty ⟨[], []⟩).put "a" .empty).put "b" .empty

/-- The forged path has the manifest of two empty files. -/
theorem manifest_forgedPackage
    : manifest forgedPackage.files = manifest plainPackage.files
      ∧ forgedPackage.paths ≠ plainPackage.paths := by
  have spells : forgedPath.toList
      = "a".toList ++ '\n' :: withDigestLines (digests .empty)
          ('\n' :: (nameLabel ++ "b".toList)) := by
    decide +kernel
  refine ⟨manifest_eq_iff_sectionsText.mpr (sectionsText_of_spells spells), ?_⟩
  decide +kernel

end Signature

end AddonPackager
