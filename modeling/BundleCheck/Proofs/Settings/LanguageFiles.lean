import BundleCheck.Proofs.Files.Components
import BundleCheck.Settings.LanguageFile

/-!
# Languages and their files

The file of a language takes the place of the base file in its directory, under a name that has the language in it.
Nothing of the name is lost on the way: what stands before the suffix, the language and the suffix are all there, and
so the name tells the languages apart and is never that of the base file. All of it is a matter of file names, since
a base path can be written in many ways.
-/

namespace BundleCheck.Settings

open BundleCheck.Path (components fileName? isIdle)

theorem stem?_eq_some_iff {suffix name stem : List Char} : stem? suffix name = some stem ↔ name = stem ++ suffix := by
  rw [stem?]
  split
  · rename_i hsuffix
    obtain ⟨rest, rfl⟩ := List.isSuffixOf_iff_suffix.1 hsuffix
    simp
  · rename_i hsuffix
    refine iff_of_false (by simp) ?_
    rintro rfl
    exact hsuffix (List.isSuffixOf_iff_suffix.2 (List.suffix_append stem suffix))

variable {s : Settings} {base language language' path : String} {stem : List Char}

/-- The name of the file of a language, given what stands before the suffix in that of the base file. -/
def languageName (s : Settings) (stem : List Char) (language : String) : List Char :=
  stem ++ '_' :: language.toList ++ s.fileSuffix.toList

theorem languageFile_eq_ok_iff : s.languageFile base language = .ok path ↔
    ∃ cut stem, Path.cut? base.toList = some cut ∧ cut.last ≠ ['.', '.'] ∧ cut.last = stem ++ s.fileSuffix.toList ∧
      path = String.ofList (Path.join cut.parent (s.languageName stem language)) := by
  constructor
  · intro h
    unfold languageFile at h
    split at h
    · cases h
    · rename_i cut hcut
      split at h
      · cases h
      · rename_i hup
        split at h
        · cases h
        · rename_i stem hstem
          exact ⟨cut, stem, hcut, hup, stem?_eq_some_iff.1 hstem, (Except.ok.inj h).symm⟩
  · rintro ⟨cut, stem, hcut, hup, hlast, rfl⟩
    rw [languageFile, hcut]
    simp only
    rw [if_neg hup, stem?_eq_some_iff.2 hlast]
    rfl

/-- The underscore before the language makes it a name, whatever stands around it. -/
theorem languageName_isName (s : Settings) (stem : List Char) (language : String) :
    isIdle (s.languageName stem language) = false ∧ s.languageName stem language ≠ ['.', '.'] := by
  have hmem : '_' ∈ s.languageName stem language := by simp [languageName]
  constructor
  · rw [Bool.eq_false_iff]
    intro hidle
    simp only [isIdle, Bool.or_eq_true, beq_iff_eq] at hidle
    rcases hidle with hidle | hidle
    · simp [hidle] at hmem
    · simp [hidle] at hmem
  · intro hup
    simp [hup] at hmem

theorem languageName_injective (h : s.languageName stem language = s.languageName stem language') :
    language = language' := by
  rw [languageName, languageName] at h
  have htail := List.append_cancel_left (List.append_cancel_right h)
  exact String.toList_inj.1 (List.cons.inj htail).2

theorem slash_notMem_languageName (hstem : '/' ∉ stem ++ s.fileSuffix.toList) (hlanguage : '/' ∉ language.toList) :
    '/' ∉ s.languageName stem language := by
  rw [languageName]
  simp only [List.mem_append, List.mem_cons, not_or] at hstem ⊢
  exact ⟨⟨hstem.1, by decide, hlanguage⟩, hstem.2⟩

/-- The file of a language has the components of the base file but for the last, which is its own name. -/
theorem components_of_languageFile (hlanguage : '/' ∉ language.toList) (h : s.languageFile base language = .ok path) :
    ∃ stem, fileName? base.toList = some (stem ++ s.fileSuffix.toList) ∧
      fileName? path.toList = some (s.languageName stem language) ∧
      (components path.toList).dropLast = (components base.toList).dropLast := by
  obtain ⟨cut, stem, hcut, hup, hlast, rfl⟩ := languageFile_eq_ok_iff.1 h
  obtain ⟨hcomponents, -, hslash⟩ := Path.components_of_cut? hcut
  rw [hlast] at hslash
  obtain ⟨hidle, hname⟩ := languageName_isName s stem language
  have hjoined := slash_notMem_languageName hslash hlanguage
  rw [String.toList_ofList]
  refine ⟨stem, ?_, Path.fileName?_join hjoined hidle hname, ?_⟩
  · rw [Path.fileName?_of_cut? hcut, if_neg hup, hlast]
  · rw [Path.components_join hjoined hidle, hcomponents, List.dropLast_concat, List.dropLast_concat]

/-- For one base file, languages do not get in the way of each other or of the base file. Just a base file with a name
that has the suffix has translations. Each of them is where the base file is, under a name that is put together from
that of the base file and the language. -/
theorem language_files_apart (s : Settings) (base : String) :
    (∀ language, (∃ path, s.languageFile base language = .ok path) ↔
      ∃ name, fileName? base.toList = some name ∧ s.fileSuffix.toList <:+ name) ∧
    (∀ language path, '/' ∉ language.toList → s.languageFile base language = .ok path →
      (components path.toList).dropLast = (components base.toList).dropLast ∧
      fileName? path.toList ≠ fileName? base.toList ∧
      ∃ stem, fileName? base.toList = some (stem ++ s.fileSuffix.toList) ∧
        fileName? path.toList = some (stem ++ '_' :: language.toList ++ s.fileSuffix.toList)) ∧
    ∀ language language' path path', '/' ∉ language.toList → '/' ∉ language'.toList →
      s.languageFile base language = .ok path → s.languageFile base language' = .ok path' → language ≠ language' →
        path ≠ path' ∧ components path.toList ≠ components path'.toList := by
  refine ⟨fun language => ⟨?_, ?_⟩, fun language path hlanguage hpath => ?_, ?_⟩
  · rintro ⟨path, hpath⟩
    obtain ⟨cut, stem, hcut, hup, hlast, -⟩ := languageFile_eq_ok_iff.1 hpath
    refine ⟨cut.last, ?_, stem, hlast.symm⟩
    rw [Path.fileName?_of_cut? hcut, if_neg hup]
  · rintro ⟨name, hname, stem, rfl⟩
    cases hcut : Path.cut? base.toList with
    | none =>
      rw [Path.fileName?_of_cut?_eq_none hcut] at hname
      cases hname
    | some cut =>
      rw [Path.fileName?_of_cut? hcut] at hname
      split at hname
      · cases hname
      · rename_i hup
        exact ⟨_, languageFile_eq_ok_iff.2 ⟨cut, stem, hcut, hup, Option.some.inj hname, rfl⟩⟩
  · obtain ⟨stem, hbase, hown, hparent⟩ := components_of_languageFile hlanguage hpath
    refine ⟨hparent, ?_, stem, hbase, hown⟩
    rw [hbase, hown, languageName]
    intro hsame
    have hlength := congrArg List.length (Option.some.inj hsame)
    simp at hlength
    omega
  · intro language language' path path' hlanguage hlanguage' hpath hpath' hne
    obtain ⟨stem, hbase, hown, -⟩ := components_of_languageFile hlanguage hpath
    obtain ⟨stem', hbase', hown', -⟩ := components_of_languageFile hlanguage' hpath'
    rw [hbase] at hbase'
    obtain rfl := List.append_cancel_right (Option.some.inj hbase')
    have happart : components path.toList ≠ components path'.toList := by
      intro hsame
      have hnames : fileName? path.toList = fileName? path'.toList := by
        rw [fileName?, hsame, fileName?]
      rw [hown, hown'] at hnames
      exact hne (languageName_injective (Option.some.inj hnames))
    exact ⟨fun hsame => happart (by rw [hsame]), happart⟩

/-- The base path has more slashes and dots than it needs. -/
theorem language_files_apart_idle_pieces :
    let base := ".//a/./m.properties/"
    let path := ".//a/m_de.properties"
    let path' := ".//a/m_fr.properties"
    '/' ∉ "de".toList ∧ '/' ∉ "fr".toList ∧ "de" ≠ "fr" ∧
      Settings.standard.languageFile base "de" = .ok path ∧ Settings.standard.languageFile base "fr" = .ok path' ∧
      (components path.toList).dropLast = (components base.toList).dropLast ∧
      fileName? path.toList ≠ fileName? base.toList ∧ components path.toList ≠ components path'.toList := by
  intro base path path'
  have hlanguage : '/' ∉ "de".toList := by decide
  have hlanguage' : '/' ∉ "fr".toList := by decide
  have hne : "de" ≠ "fr" := by decide
  have hpath : Settings.standard.languageFile base "de" = .ok path := by decide +kernel
  have hpath' : Settings.standard.languageFile base "fr" = .ok path' := by decide +kernel
  obtain ⟨-, hown, hapart⟩ := language_files_apart .standard base
  obtain ⟨hparent, hother, -⟩ := hown "de" path hlanguage hpath
  exact ⟨hlanguage, hlanguage', hne, hpath, hpath', hparent, hother,
    (hapart "de" "fr" path path' hlanguage hlanguage' hpath hpath' hne).2⟩

end BundleCheck.Settings
