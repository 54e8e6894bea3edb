import BundleCheck.Proofs.Bundle.Renewal
import BundleCheck.Proofs.Files.Locality
import BundleCheck.Settings.LanguageFile

/-!
# What an updating run does to files

An updating run changes a file only where a translation has its place, and what it leaves there depends on
that file and on the reference. So if the translations have places of their own and no base file is one of
them, a run renews each translation on its own, and a second run finds the same references and all that the
first one left. It leaves everything as it is exactly if each entry that the first run kept is durable.
-/

namespace BundleCheck

abbrev Ways : Type := String → Tree.Spot

/-- The content of the file at the end of a path, if all of it can be read. -/
def contentAt? (s : Settings) (ways : Ways) (v : View) (path : String) : Option Content :=
  match ways path with
  | .file l =>
    match v l with
    | some (.file (.text text)) => Content.ofText? s.deferralMarker text
    | _ => none
  | _ => none

/-! ### The effect -/

/-- The text of a translation after an update. One that cannot be read stays as it is. -/
def renewedText (s : Settings) (reference : Content) (text : String) : String :=
  match Content.ofText? s.deferralMarker text with
  | some d => (d.update s reference).text
  | none => text

/-- The text of a translation that has been created and updated. -/
def createdText (s : Settings) (reference : Content) : String :=
  ((Content.empty.update s reference).update s reference).text

/-- What a run leaves in the place of a translation, unless it fails there. -/
def renewedNode (s : Settings) (reference : Content) : Option Node → Option (Option Node)
  | none => some (if s.create then some (.file (.text (createdText s reference))) else none)
  | some (.file (.text text)) => some (some (.file (.text (renewedText s reference text))))
  | some (.file (.bytes _)) => none
  | some .directory => none

def translationEffect (s : Settings) (ways : Ways) (reference : Content) (path : String) (v : View) :
    Option View :=
  match ways path with
  | .file l => (renewedNode s reference (v l)).map fun n => Function.update v l n
  | .directory => none
  | .nowhere => if s.create then none else some v

def languageEffect (s : Settings) (ways : Ways) (base : String) (reference : Content) (language : String)
    (v : View) : Option View :=
  match s.languageFile base language with
  | .ok path => translationEffect s ways reference path v
  | .error _ => none

def baseEffect (s : Settings) (ways : Ways) (base : String) (v : View) : Option View :=
  (contentAt? s ways v base).bind fun reference =>
    inTurn (languageEffect s ways base reference) s.languages v

def projectEffect (s : Settings) (ways : Ways) (v : View) : Option View :=
  inTurn (baseEffect s ways) s.files v

/-! ### Places -/

/-- The files of all translations, in the order in which a run goes over them. -/
def Settings.targets (s : Settings) : List String :=
  s.files.flatMap fun base => s.languages.filterMap fun language => (s.languageFile base language).toOption

/-- The translations are different files, and no base file is one of them. -/
structure Settings.IsSpread (s : Settings) (ways : Ways) : Prop where
  distinct : s.targets.Pairwise fun path path' => ∀ l, ways path = .file l → ways path' ≠ .file l
  ne_base : ∀ path ∈ s.targets, ∀ base ∈ s.files, ∀ l, ways path = .file l → ways base ≠ .file l

variable {s : Settings} {ways : Ways} {base : String} {reference : Content}

def ownsAsLanguage (s : Settings) (ways : Ways) (base language : String) (l : Location) : Prop :=
  ∃ path, s.languageFile base language = .ok path ∧ ways path = .file l

def ownsAsBase (s : Settings) (ways : Ways) (base : String) (l : Location) : Prop :=
  ∃ language ∈ s.languages, ownsAsLanguage s ways base language l

def seesAsBase (ways : Ways) (base : String) (l : Location) : Prop := ways base = .file l

theorem contentAt?_congr {v v' : View} {path : String} (h : ∀ l, ways path = .file l → v' l = v l) :
    contentAt? s ways v' path = contentAt? s ways v path := by
  rw [contentAt?, contentAt?]
  cases hways : ways path with
  | file l => simp only [h l hways]
  | directory => rfl
  | nowhere => rfl

theorem isLocal_translationEffect (path : String) :
    IsLocal (translationEffect s ways reference path) (fun l => ways path = .file l) (fun _ => False) where
  frame {v v'} hv l hl := by
    rw [translationEffect] at hv
    split at hv
    · rename_i k hk
      obtain ⟨n, -, rfl⟩ := Option.map_eq_some_iff.1 hv
      have hne : l ≠ k := by
        rintro rfl
        exact hl hk
      rw [Function.update_apply, if_neg hne]
    · cases hv
    · split at hv
      · cases hv
      · rw [Option.some.inj hv]
  agree {v v' u} hv hu := by
    rw [translationEffect] at hv ⊢
    split at hv
    · rename_i k hk
      obtain ⟨n, hn, rfl⟩ := Option.map_eq_some_iff.1 hv
      refine ⟨Function.update u k n, ?_, fun l hl => ?_⟩
      · rw [hu k (.inl hk), hn]
        rfl
      · obtain rfl := Tree.Spot.file.inj (hk.symm.trans hl)
        rw [Function.update_self, Function.update_self]
    · cases hv
    · split at hv
      · cases hv
      · rename_i hnowhere hcreate
        refine ⟨u, if_neg hcreate, fun l hl => ?_⟩
        rw [hl] at hnowhere
        cases hnowhere

theorem isLocal_languageEffect (language : String) :
    IsLocal (languageEffect s ways base reference language) (ownsAsLanguage s ways base language)
      (fun _ => False) := by
  cases hfile : s.languageFile base language with
  | error fault =>
    have hnone : ∀ v, languageEffect s ways base reference language v = none := fun v => by
      rw [languageEffect, hfile]
    exact ⟨fun hv => by simp [hnone] at hv, fun hv => by simp [hnone] at hv⟩
  | ok path =>
    have heffect : languageEffect s ways base reference language = translationEffect s ways reference path :=
      funext fun v => by rw [languageEffect, hfile]
    have howns : ownsAsLanguage s ways base language = fun l => ways path = .file l := by
      funext l
      rw [ownsAsLanguage, hfile]
      simp
    rw [heffect, howns]
    exact isLocal_translationEffect path

theorem mem_targets {language path : String} (hbase : base ∈ s.files) (hlanguage : language ∈ s.languages)
    (hpath : s.languageFile base language = .ok path) : path ∈ s.targets := by
  rw [Settings.targets, List.mem_flatMap]
  refine ⟨base, hbase, List.mem_filterMap.2 ⟨language, hlanguage, ?_⟩⟩
  rw [hpath]
  rfl

theorem Settings.IsSpread.apart_languages (h : s.IsSpread ways) (hbase : base ∈ s.files)
    (reference : Content) :
    Apart (languageEffect s ways base reference) (ownsAsLanguage s ways base) (fun _ _ => False)
      s.languages where
  isLocal language _ := isLocal_languageEffect language
  own_disjoint := by
    have hown := (List.pairwise_filterMap.1 ((List.pairwise_flatMap.1 h.distinct).1 base hbase))
    refine hown.imp ?_
    rintro a b hab l ⟨path, hpath, hl⟩ ⟨path', hpath', hl'⟩
    exact hab path (by rw [hpath]; rfl) path' (by rw [hpath']; rfl) l hl hl'
  not_seen _ _ _ _ _ _ := id

theorem Settings.IsSpread.isLocal_baseEffect (h : s.IsSpread ways) (hbase : base ∈ s.files) :
    IsLocal (baseEffect s ways base) (ownsAsBase s ways base) (seesAsBase ways base) where
  frame hv := by
    obtain ⟨reference, -, hv⟩ := Option.bind_eq_some_iff.1 hv
    exact (h.apart_languages hbase reference).isLocal_inTurn.frame hv
  agree {v v' u} hv hu := by
    obtain ⟨reference, hreference, hv⟩ := Option.bind_eq_some_iff.1 hv
    have hsame : contentAt? s ways u base = some reference := by
      rw [contentAt?_congr fun l hl => hu l (.inr hl)]
      exact hreference
    rw [baseEffect, hsame, Option.bind_some]
    refine (h.apart_languages hbase reference).isLocal_inTurn.agree hv fun l hl => hu l ?_
    rcases hl with hl | ⟨-, -, hfalse⟩
    · exact .inl hl
    · exact hfalse.elim

theorem Settings.IsSpread.apart_files (h : s.IsSpread ways) :
    Apart (baseEffect s ways) (ownsAsBase s ways) (seesAsBase ways) s.files where
  isLocal _ hbase := h.isLocal_baseEffect hbase
  own_disjoint := by
    refine (List.pairwise_flatMap.1 h.distinct).2.imp ?_
    rintro a b hab l ⟨language, hlanguage, path, hpath, hl⟩ ⟨language', hlanguage', path', hpath', hl'⟩
    refine hab path (List.mem_filterMap.2 ⟨language, hlanguage, by rw [hpath]; rfl⟩) path'
      (List.mem_filterMap.2 ⟨language', hlanguage', by rw [hpath']; rfl⟩) l hl hl'
  not_seen := by
    rintro a ha b hb l ⟨language, hlanguage, path, hpath, hl⟩
    exact h.ne_base path (mem_targets ha hlanguage hpath) b hb l hl

/-! ### Each translation on its own -/

/-- One view has the translation at the path renewed from the other. -/
def IsRenewed (s : Settings) (ways : Ways) (reference : Content) (path : String) (v v' : View) : Prop :=
  (∃ l, ways path = .file l ∧ renewedNode s reference (v l) = some (v' l)) ∨
    ways path = .nowhere ∧ s.create = false

/-- Every translation of every base file satisfies a property that can depend on the reference. -/
def ForTranslations (s : Settings) (ways : Ways) (v : View) (P : Content → String → Prop) : Prop :=
  ∀ base ∈ s.files, ∃ reference, contentAt? s ways v base = some reference ∧
    ∀ language ∈ s.languages, ∃ path, s.languageFile base language = .ok path ∧ P reference path

theorem isRenewed_of_languageEffect {language : String} {v v' : View}
    (h : languageEffect s ways base reference language v = some v') :
    ∃ path, s.languageFile base language = .ok path ∧ IsRenewed s ways reference path v v' := by
  rw [languageEffect] at h
  split at h
  · rename_i path hpath
    refine ⟨path, hpath, ?_⟩
    rw [translationEffect] at h
    split at h
    · rename_i l hl
      obtain ⟨n, hn, rfl⟩ := Option.map_eq_some_iff.1 h
      refine .inl ⟨l, hl, ?_⟩
      rw [Function.update_self, hn]
    · cases h
    · rename_i hnowhere
      split at h
      · cases h
      · rename_i hcreate
        exact .inr ⟨hnowhere, Bool.eq_false_iff.2 hcreate⟩
  · cases h

theorem exists_languageEffect {language path : String} {v : View}
    (hpath : s.languageFile base language = .ok path)
    (h : (∃ l n, ways path = .file l ∧ renewedNode s reference (v l) = some n) ∨
      ways path = .nowhere ∧ s.create = false) :
    ∃ v', languageEffect s ways base reference language v = some v' := by
  simp only [languageEffect, hpath, translationEffect]
  rcases h with ⟨l, n, hl, hn⟩ | ⟨hnowhere, hcreate⟩
  · exact ⟨Function.update v l n, by simp only [hl, hn, Option.map_some]⟩
  · exact ⟨v, by simp only [hnowhere, hcreate, Bool.false_eq_true, if_false]⟩

theorem Settings.IsSpread.renewed_of_projectEffect (h : s.IsSpread ways) {v v' : View}
    (hv : projectEffect s ways v = some v') :
    ForTranslations s ways v fun reference path => IsRenewed s ways reference path v v' := by
  intro base hbase
  obtain ⟨u, hu, hown⟩ := h.apart_files.each hv base hbase
  obtain ⟨reference, hreference, hu⟩ := Option.bind_eq_some_iff.1 hu
  refine ⟨reference, hreference, fun language hlanguage => ?_⟩
  obtain ⟨x, hx, hxown⟩ := (h.apart_languages hbase reference).each hu language hlanguage
  obtain ⟨path, hpath, hrenewed⟩ := isRenewed_of_languageEffect hx
  refine ⟨path, hpath, hrenewed.imp_left ?_⟩
  rintro ⟨l, hl, hnode⟩
  refine ⟨l, hl, ?_⟩
  rw [hown l ⟨language, hlanguage, path, hpath, hl⟩, hxown l ⟨path, hpath, hl⟩]
  exact hnode

theorem Settings.IsSpread.eq_of_projectEffect (h : s.IsSpread ways) {v v' : View}
    (hv : projectEffect s ways v = some v') {l : Location} (hl : ∀ base ∈ s.files, ¬ ownsAsBase s ways base l) :
    v' l = v l :=
  h.apart_files.frame hv l hl

/-- A run finds the references as they were before it. -/
theorem Settings.IsSpread.contentAt?_base (h : s.IsSpread ways) {v v' : View}
    (hv : projectEffect s ways v = some v') (hbase : base ∈ s.files) :
    contentAt? s ways v' base = contentAt? s ways v base := by
  refine contentAt?_congr fun l hl => h.eq_of_projectEffect hv ?_
  rintro base' hbase' ⟨language, hlanguage, path, hpath, hown⟩
  exact h.ne_base path (mem_targets hbase' hlanguage hpath) base hbase l hown hl

theorem Settings.IsSpread.exists_projectEffect (h : s.IsSpread ways) {v : View}
    (hv : ForTranslations s ways v fun reference path =>
      (∃ l n, ways path = .file l ∧ renewedNode s reference (v l) = some n) ∨
        ways path = .nowhere ∧ s.create = false) : ∃ v', projectEffect s ways v = some v' := by
  refine h.apart_files.exists_inTurn fun base hbase => ?_
  obtain ⟨reference, hreference, hlanguages⟩ := hv base hbase
  rw [baseEffect, hreference, Option.bind_some]
  refine (h.apart_languages hbase reference).exists_inTurn fun language hlanguage => ?_
  obtain ⟨path, hpath, hstep⟩ := hlanguages language hlanguage
  exact exists_languageEffect hpath hstep

theorem exists_renewedNode_again {n n' : Option Node} (h : renewedNode s reference n = some n') :
    ∃ n'', renewedNode s reference n' = some n'' := by
  rcases n with - | ⟨(text | bytes) | -⟩
  · obtain rfl := Option.some.inj h
    cases s.create <;> exact ⟨_, rfl⟩
  · obtain rfl := Option.some.inj h
    exact ⟨_, rfl⟩
  · cases h
  · cases h

/-- After a run that came to its end, another can do so too. -/
theorem Settings.IsSpread.exists_projectEffect_again (h : s.IsSpread ways) {v v' : View}
    (hv : projectEffect s ways v = some v') : ∃ v'', projectEffect s ways v' = some v'' := by
  refine h.exists_projectEffect fun base hbase => ?_
  obtain ⟨reference, hreference, hlanguages⟩ := h.renewed_of_projectEffect hv base hbase
  refine ⟨reference, (h.contentAt?_base hv hbase).trans hreference, fun language hlanguage => ?_⟩
  obtain ⟨path, hpath, hrenewed⟩ := hlanguages language hlanguage
  refine ⟨path, hpath, hrenewed.imp_left ?_⟩
  rintro ⟨l, hl, hnode⟩
  obtain ⟨n, hn⟩ := exists_renewedNode_again hnode
  exact ⟨l, n, hl, hn⟩

end BundleCheck
