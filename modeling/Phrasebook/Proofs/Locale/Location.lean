import Mathlib.Data.List.Forall2
import Phrasebook.Locale.Location
import Phrasebook.Proofs.Files.Path

/-!
# Which paths are those of locale files

The location of a path is stated here by its components alone, without the rules for the names,
parents, stems and suffixes of paths:

* `components`, `IsLocaleFileName`, `Located` — the components of a path, the names of locale files,
  and the components with a location;
* `ofPath?_eq_some_iff` — **a path has exactly the location of its components**;
* `Location.ofPathBy`, `ofPathBy_eq` — a path library and any full lower case give the same;
* `Alike`, `ofPath?_of_alike`, `ofPath?_join`, `ofPath?_append` — what the location does not see:
  the kind of a separator, the case of ASCII letters, components that say nothing, and whatever is
  in front of a path that has a location;
* `classification_by_components` — all of this for what a path is classified as.
-/

namespace Phrasebook

open Phrasebook.Text

/-- The components of a written path: both slashes separate them, and those that are empty or `.`
are dropped. -/
def components (written : String) : List String :=
  pathParts (slashed written)

/-- A name that is at least one character with the extension of a locale file behind it, in any case
of the ASCII letters. -/
def IsLocaleFileName (name : String) : Prop :=
  ∃ stem ext : String, stem ≠ "" ∧ name = stem ++ ext ∧ lowerAscii ext = localeExtension

/-- The components that have a location.  The case of ASCII letters does not count. -/
inductive Located : List String → Location → Prop
  /-- A file directly in the folder of the locale files: its name tells the locale. -/
  | rootFile {before : List String} {folder name : String} {isDefault : Bool}
      (hname : IsLocaleFileName name) (hfolder : lowerAscii folder = i18nFolder)
      (hdefault : isDefault = true ↔ lowerAscii name = "default.json") :
      Located (before ++ [folder, name]) ⟨.rootFiles, isDefault⟩
  /-- A file in a folder of that folder: the name of the inner folder is the locale. -/
  | localeFolder {before : List String} {top folder name : String} {isDefault : Bool}
      (hname : IsLocaleFileName name) (hfolder : lowerAscii folder ≠ i18nFolder)
      (htop : lowerAscii top = i18nFolder)
      (hdefault : isDefault = true ↔ lowerAscii folder = defaultLocale) :
      Located (before ++ [top, folder, name]) ⟨.localeFolders, isDefault⟩

/-! ### Names of locale files -/

/-- The extension of the name of a locale file is what it is called. -/
theorem splitExtension_of_locale {stem ext : String} (hstem : stem ≠ "")
    (hext : lowerAscii ext = localeExtension) : splitExtension (stem ++ ext) = (stem, ext) := by
  have hchars : ext.toList.map Char.toLower = '.' :: ['j', 's', 'o', 'n'] := by
    rw [← toList_lowerAscii, hext]
    rfl
  obtain ⟨c, rest, hcons, hdot, hrest⟩ := List.map_eq_cons_iff.mp hchars
  have hc : c = '.' := (toLower_eq_iff (by decide)).mp hdot
  have hne : rest ≠ [] := by
    rintro rfl
    exact absurd hrest (by decide)
  have hfree : '.' ∉ rest := by
    intro hmem
    have hlower := List.mem_map_of_mem (f := Char.toLower) hmem
    rw [hrest] at hlower
    exact absurd hlower (by decide)
  have hstem' : stem.toList ≠ [] := fun hnil => hstem (String.toList_eq_nil_iff.mp hnil)
  rw [splitExtension, String.toList_append, hcons, hc, splitExtensionChars_append hstem' hne hfree,
    String.ofList_toList, ← hc, ← hcons, String.ofList_toList]

/-- What has the extension of a locale file is a stem with this extension behind it. -/
theorem stem_ne_empty {name : String} (h : hasLocaleExtension name = true) :
    (splitExtension name).1 ≠ "" ∧ name = (splitExtension name).1 ++ (splitExtension name).2 := by
  obtain ⟨hboth, hstem⟩ := splitExtensionChars_parts name.toList
  have hext : (splitExtensionChars name.toList).2 ≠ [] := by
    intro hnil
    rw [hasLocaleExtension, splitExtension, hnil] at h
    exact absurd (show (lowerAscii "" == localeExtension) = true from h) (by decide)
  constructor
  · intro hempty
    refine hstem hext ?_
    rw [← String.toList_inj, splitExtension, String.toList_ofList] at hempty
    exact hempty
  · rw [splitExtension, ← String.ofList_append, hboth, String.ofList_toList]

theorem hasLocaleExtension_iff {name : String} :
    hasLocaleExtension name = true ↔ IsLocaleFileName name := by
  constructor
  · intro h
    obtain ⟨hstem, hname⟩ := stem_ne_empty h
    exact ⟨_, _, hstem, hname, beq_iff_eq.mp h⟩
  · rintro ⟨stem, ext, hstem, rfl, hext⟩
    rw [hasLocaleExtension, splitExtension_of_locale hstem hext, hext]
    exact beq_self_eq_true _

/-- The stem is that of the default locale exactly when the whole name is. -/
theorem lowerAscii_stem_iff {name : String} (h : hasLocaleExtension name = true) :
    lowerAscii (splitExtension name).1 = defaultLocale ↔ lowerAscii name = "default.json" := by
  obtain ⟨-, hname⟩ := stem_ne_empty h
  have hext : lowerAscii (splitExtension name).2 = localeExtension := beq_iff_eq.mp h
  have hlower : lowerAscii name = lowerAscii (splitExtension name).1 ++ localeExtension := by
    rw [← hext, ← lowerAscii_append, ← hname]
  rw [hlower, show "default.json" = defaultLocale ++ localeExtension from rfl]
  exact (String.append_left_inj _).symm

/-! ### Locations by components -/

/-- Components that have a location do have it. -/
theorem Located.ofReversedParts?_eq {parts : List String} {l : Location} (h : Located parts l) :
    Location.ofReversedParts? parts.reverse = some l := by
  cases h with
  | @rootFile before folder name isDefault hname hfolder hdefault =>
    have hextension := hasLocaleExtension_iff.mpr hname
    have hflag : (lowerAscii (splitExtension name).1 == defaultLocale) = isDefault := by
      rw [Bool.eq_iff_iff, beq_iff_eq, lowerAscii_stem_iff hextension, hdefault]
    simp [Location.ofReversedParts?, hextension, hfolder, hflag]
  | @localeFolder before top folder name isDefault hname hfolder htop hdefault =>
    have hextension := hasLocaleExtension_iff.mpr hname
    have hflag : (lowerAscii folder == defaultLocale) = isDefault := by
      rw [Bool.eq_iff_iff, beq_iff_eq, hdefault]
    simp [Location.ofReversedParts?, hextension, hfolder, htop, hflag]

/-- No others do. -/
theorem located_of_ofReversedParts? {parts : List String} {l : Location}
    (h : Location.ofReversedParts? parts.reverse = some l) : Located parts l := by
  generalize hreverse : parts.reverse = reversed at h
  rw [List.reverse_eq_iff] at hreverse
  subst hreverse
  rcases reversed with - | ⟨name, - | ⟨folder, rest⟩⟩
  · exact absurd h (by simp [Location.ofReversedParts?])
  · exact absurd h (by simp [Location.ofReversedParts?])
  simp only [Location.ofReversedParts?, List.head?_cons, Option.map_some, Option.some.injEq,
    List.getElem?_cons_succ] at h
  split at h
  · exact absurd h (by simp)
  rename_i hextension
  rw [Bool.not_eq_true, Bool.not_eq_false'] at hextension
  have hname := hasLocaleExtension_iff.mp hextension
  split at h
  · rename_i hfolder
    rw [← Option.some.inj h, List.reverse_cons, List.reverse_cons, List.append_assoc]
    refine .rootFile hname hfolder ?_
    rw [beq_iff_eq, lowerAscii_stem_iff hextension]
  rename_i hfolder
  split at h
  · rename_i htop
    rcases rest with - | ⟨top, rest⟩
    · exact absurd htop (by simp)
    rw [List.getElem?_cons_zero, Option.map_some, Option.some.injEq] at htop
    rw [← Option.some.inj h, List.reverse_cons, List.reverse_cons, List.reverse_cons,
      List.append_assoc, List.append_assoc]
    refine .localeFolder hname hfolder htop ?_
    rw [beq_iff_eq, Option.some.injEq]
  · exact absurd h (by simp)

/-- **The components of a path that has a location**, and what it is. -/
theorem ofPath?_eq_some_iff {written : String} {l : Location} :
    Location.ofPath? written = some l ↔ Located (components written) l :=
  ⟨located_of_ofReversedParts?, Located.ofReversedParts?_eq⟩

/-! ### Paths as a library sees them -/

/-- The name of a path: its last component, or nothing for a path that has none. -/
def fileName (path : List String) : String :=
  path.getLast?.getD ""

/-- The location of a path, from the name, the stem and the suffix of the path, the names of its
parent and of the parent of that, and a lower case. -/
def Location.ofPathBy (lower : String → String) (written : String) : Option Location :=
  let path := components written
  if lower (splitExtension (fileName path)).2 ≠ localeExtension then none
  else if lower (fileName path.dropLast) = i18nFolder then
    some ⟨.rootFiles, lower (splitExtension (fileName path)).1 == defaultLocale⟩
  else if lower (fileName path.dropLast.dropLast) = i18nFolder then
    some ⟨.localeFolders, lower (fileName path.dropLast) == defaultLocale⟩
  else none

/-- The words that names, stems and suffixes are compared with. -/
def locationWords : List String :=
  [localeExtension, i18nFolder, defaultLocale]

theorem locationWords_plain :
    ∀ word ∈ locationWords, ∀ c ∈ word.toList, isForeign c = false := by
  have hall : ∀ word ∈ locationWords, word.toList.all (!isForeign ·) = true := by decide
  exact fun word hword => forall_mem_of_all (hall word hword)

/-- Only the comparisons with these words count. -/
theorem ofPathBy_congr {lower other : String → String} (written : String)
    (h : ∀ word ∈ locationWords, ∀ s, lower s = word ↔ other s = word) :
    Location.ofPathBy lower written = Location.ofPathBy other written := by
  simp only [locationWords, List.forall_mem_cons] at h
  obtain ⟨hextension, hfolder, hdefault, -⟩ := h
  have hflag : ∀ s, (lower s == defaultLocale) = (other s == defaultLocale) := by
    intro s
    rw [Bool.eq_iff_iff, beq_iff_eq, beq_iff_eq, hdefault]
  simp only [Location.ofPathBy, ne_eq, hextension, hfolder, hflag]

/-- With the ASCII letters in lower case it is the location. -/
theorem ofPathBy_lowerAscii (written : String) :
    Location.ofPathBy lowerAscii written = Location.ofPath? written := by
  have hextension : (lowerAscii (splitExtension "").2 = localeExtension) = False := by decide
  have hfolder : (lowerAscii "" = i18nFolder) = False := by decide
  rw [Location.ofPath?, Location.ofPathBy]
  show _ = Location.ofReversedParts? (components written).reverse
  generalize hreverse : (components written).reverse = reversed
  rw [List.reverse_eq_iff] at hreverse
  rw [hreverse]
  rcases reversed with - | ⟨name, - | ⟨folder, - | ⟨top, rest⟩⟩⟩
  · simp [Location.ofReversedParts?, fileName, hextension]
  · simp [Location.ofReversedParts?, fileName, hfolder]
  · simp [Location.ofReversedParts?, fileName, hfolder, hasLocaleExtension]
  · simp [Location.ofReversedParts?, fileName, hasLocaleExtension]

/-- **Every full lower case gives the location.** -/
theorem ofPathBy_eq {lower : String → String}
    (hlower : ∀ s, LowerCase s.toList (lower s).toList) (written : String) :
    Location.ofPathBy lower written = Location.ofPath? written := by
  rw [← ofPathBy_lowerAscii]
  refine ofPathBy_congr written fun word hword s => ?_
  rw [← String.toList_inj, ← String.toList_inj, toList_lowerAscii]
  exact (hlower s).eq_iff (locationWords_plain word hword)

/-! ### What the location does not see -/

/-- The name of a locale file can be told from its lower case. -/
theorem isLocaleFileName_iff {name : String} :
    IsLocaleFileName name ↔ ∃ stem, stem ≠ "" ∧ lowerAscii name = stem ++ localeExtension := by
  constructor
  · rintro ⟨stem, ext, hstem, rfl, hext⟩
    refine ⟨lowerAscii stem, fun hempty => hstem (lowerAscii_eq_empty_iff.mp hempty), ?_⟩
    rw [lowerAscii_append, hext]
  · rintro ⟨stem, hstem, hname⟩
    rw [← String.toList_inj, toList_lowerAscii, String.toList_append] at hname
    obtain ⟨first, last, hchars, hfirst, hlast⟩ := List.map_eq_append_iff.mp hname
    refine ⟨String.ofList first, String.ofList last, ?_, ?_, ?_⟩
    · intro hempty
      rw [← String.toList_inj, String.toList_ofList] at hempty
      rw [hempty] at hfirst
      exact hstem (String.toList_inj.mp hfirst.symm)
    · rw [← String.ofList_append, ← hchars, String.ofList_toList]
    · rw [← String.toList_inj, toList_lowerAscii, String.toList_ofList, hlast]

/-- Components that are the same in lower case have the same location. -/
theorem Located.congr {parts others : List String} {l : Location} (h : Located parts l)
    (hlower : others.map lowerAscii = parts.map lowerAscii) : Located others l := by
  cases h with
  | @rootFile before folder name isDefault hname hfolder hdefault =>
    rw [List.map_append] at hlower
    obtain ⟨before', last, rfl, -, hlast⟩ := List.map_eq_append_iff.mp hlower
    obtain ⟨folder', rest, rfl, hfolder', hrest⟩ := List.map_eq_cons_iff.mp hlast
    obtain ⟨name', rfl, hname'⟩ := List.map_eq_singleton_iff.mp hrest
    rw [isLocaleFileName_iff, ← hname', ← isLocaleFileName_iff] at hname
    exact .rootFile hname (hfolder'.trans hfolder) (hname' ▸ hdefault)
  | @localeFolder before top folder name isDefault hname hfolder htop hdefault =>
    rw [List.map_append] at hlower
    obtain ⟨before', last, rfl, -, hlast⟩ := List.map_eq_append_iff.mp hlower
    obtain ⟨top', rest, rfl, htop', hrest⟩ := List.map_eq_cons_iff.mp hlast
    obtain ⟨folder', rest, rfl, hfolder', hrest⟩ := List.map_eq_cons_iff.mp hrest
    obtain ⟨name', rfl, hname'⟩ := List.map_eq_singleton_iff.mp hrest
    rw [isLocaleFileName_iff, ← hname', ← isLocaleFileName_iff] at hname
    rw [← hfolder'] at hfolder hdefault
    exact .localeFolder hname hfolder (htop'.trans htop) hdefault

/-- Components in front change nothing. -/
theorem Located.append {parts : List String} {l : Location} (h : Located parts l)
    (more : List String) : Located (more ++ parts) l := by
  cases h with
  | rootFile hname hfolder hdefault =>
    rw [← List.append_assoc]
    exact .rootFile hname hfolder hdefault
  | localeFolder hname hfolder htop hdefault =>
    rw [← List.append_assoc]
    exact .localeFolder hname hfolder htop hdefault

/-- Characters of paths that a location does not tell apart: two separators, and the two cases of
an ASCII letter. -/
def Alike (c d : Char) : Prop :=
  c ∈ ['/', '\\'] ∧ d ∈ ['/', '\\'] ∨ c.toLower = d.toLower

instance : DecidableRel Alike :=
  fun _ _ => inferInstanceAs (Decidable (_ ∨ _))

theorem toLower_slash_of_alike {c d : Char} (h : Alike c d) :
    (if c = '\\' then '/' else c).toLower = (if d = '\\' then '/' else d).toLower := by
  have hslash : ∀ c ∈ ['/', '\\'], (if c = '\\' then '/' else c) = '/' := by simp
  have hbackslash : ∀ c : Char, c.toLower = '\\' ↔ c = '\\' := fun c => toLower_eq_iff (by decide)
  rcases h with ⟨hc, hd⟩ | hlower
  · rw [hslash c hc, hslash d hd]
  · by_cases hc : c = '\\'
    · rw [if_pos hc, if_pos ((hbackslash d).mp (hlower ▸ (hbackslash c).mpr hc))]
    · rw [if_neg hc, if_neg fun hd => hc ((hbackslash c).mp (hlower ▸ (hbackslash d).mpr hd)), hlower]

/-- **Neither the kind of a separator nor the case of an ASCII letter is seen.** -/
theorem ofPath?_of_alike {p q : String} (h : List.Forall₂ Alike p.toList q.toList) :
    Location.ofPath? p = Location.ofPath? q := by
  have hlower : lowerAscii (slashed p) = lowerAscii (slashed q) := by
    rw [lowerAscii, lowerAscii, slashed, slashed, String.toList_ofList, String.toList_ofList,
      List.map_map, List.map_map]
    congr 1
    rw [← List.forall₂_eq_eq_eq, List.forall₂_map_left_iff, List.forall₂_map_right_iff]
    exact h.imp fun _ _ => toLower_slash_of_alike
  have hcomponents : (components p).map lowerAscii = (components q).map lowerAscii := by
    rw [components, components, ← pathParts_lowerAscii, ← pathParts_lowerAscii, hlower]
  apply Option.ext
  intro l
  rw [ofPath?_eq_some_iff, ofPath?_eq_some_iff]
  exact ⟨fun hp => hp.congr hcomponents.symm, fun hq => hq.congr hcomponents⟩

/-- What a slash keeps apart has its own components on either side. -/
theorem components_append (s t : String) :
    components (s ++ "/" ++ t) = components s ++ components t := by
  have hslash : slashed "/" = "/" := by decide
  rw [components, slashed_append, slashed_append, hslash]
  exact pathParts_append _ _

theorem components_join (written : List String) :
    components (join "/" written) = written.flatMap components := by
  induction written with
  | nil => rfl
  | cons first rest ih =>
    cases rest with
    | nil => rw [join, List.flatMap_singleton]
    | cons second rest =>
      rw [List.flatMap_cons, ← ih, ← components_append]
      rfl

/-- **A component that is empty or `.` is not seen.** -/
theorem ofPath?_join {component : String} (h : component ∈ ["", "."]) (before after : List String) :
    Location.ofPath? (join "/" (before ++ component :: after)) =
      Location.ofPath? (join "/" (before ++ after)) := by
  have hnone : ∀ component ∈ ["", "."], components component = [] := by decide
  have hcomponents : components (join "/" (before ++ component :: after)) =
      components (join "/" (before ++ after)) := by
    rw [components_join, components_join, List.flatMap_append, List.flatMap_append,
      List.flatMap_cons, hnone component h, List.nil_append]
  apply Option.ext
  intro l
  rw [ofPath?_eq_some_iff, ofPath?_eq_some_iff, hcomponents]

/-- **What is in front of a path with a location is not seen.** -/
theorem ofPath?_append {p : String} (h : (Location.ofPath? p).isSome = true) (q : String) :
    Location.ofPath? (q ++ "/" ++ p) = Location.ofPath? p := by
  obtain ⟨l, hl⟩ := Option.isSome_iff_exists.mp h
  rw [hl, ofPath?_eq_some_iff, components_append]
  exact (ofPath?_eq_some_iff.mp hl).append (components q)

/-! ### Classification -/

/-- What a path is classified as: whether it has a location, whether that is the one of a root file,
and whether it is one of the default locale. -/
def classification (written : String) : Bool × Bool × Bool :=
  let l := Location.ofPath? written
  (l.isSome, l.any (·.layout == .rootFiles), l.any (·.isDefault))

theorem classification_congr {p q : String} (h : Location.ofPath? p = Location.ofPath? q) :
    classification p = classification q := by
  rw [classification, classification, h]

/-- **Paths are classified by their components.**

* It comes to the same whether the names, the stem and the suffix of the path and its parents are
  compared in a full lower case, or components with their ASCII letters in lower case.
* A path is valid exactly when its components are those of a root file or of a file in a locale
  folder, the flags say which of them and whether the locale is the default one, and both flags of
  an invalid path are false.
* Exchanging separators, changing the case of ASCII letters and adding components that are empty or
  `.` change nothing, and neither does anything in front of a valid path. -/
theorem classification_by_components :
    (∀ lower : String → String, (∀ s, LowerCase s.toList (lower s).toList) →
      ∀ written, Location.ofPathBy lower written = Location.ofPath? written) ∧
    (∀ written,
      ((classification written).1 = true ↔ ∃ l, Located (components written) l) ∧
      (∀ l, Located (components written) l →
        classification written = (true, l.layout == .rootFiles, l.isDefault)) ∧
      ((classification written).1 = false → classification written = (false, false, false))) ∧
    (∀ p q : String, List.Forall₂ Alike p.toList q.toList →
      classification p = classification q) ∧
    (∀ component ∈ ["", "."], ∀ before after : List String,
      classification (join "/" (before ++ component :: after)) =
        classification (join "/" (before ++ after))) ∧
    ∀ p q : String, (classification p).1 = true →
      classification (q ++ "/" ++ p) = classification p := by
  refine ⟨fun lower hlower written => ofPathBy_eq hlower written, fun written => ⟨?_, ?_, ?_⟩,
    fun p q h => classification_congr (ofPath?_of_alike h),
    fun component h before after => classification_congr (ofPath?_join h before after),
    fun p q h => ?_⟩
  · rw [classification, Option.isSome_iff_exists]
    exact exists_congr fun l => ofPath?_eq_some_iff
  · intro l hl
    rw [classification, ofPath?_eq_some_iff.mpr hl]
    rfl
  · intro h
    simp only [classification, Option.isSome_eq_false_iff, Option.isNone_iff_eq_none] at h
    rw [classification, h]
    rfl
  · simp only [classification] at h
    exact classification_congr (ofPath?_append h q)

/-- Folders of the same name, a name that is an extension only, other separators and letters. -/
theorem classification_by_components_mixed :
    Location.ofPathBy (fun s => String.ofList (s.toList.flatMap lowerMap.apply))
        "I18N/\u212a..json" = some ⟨.rootFiles, false⟩ ∧
      classification "i18n/i18n/DEFAULT.json" = (true, true, true) ∧
      classification "i18n/.json" = (false, false, false) ∧
      classification "i18n\\Default\\x.json" = classification "i18n/default/x.JSON" ∧
      classification "i18n/./default.json" = classification "i18n/default.json" ∧
      classification ("/i18n" ++ "/" ++ "i18n/fr.json") = classification "i18n/fr.json" := by
  obtain ⟨hlower, hlocated, halike, hcomponent, hfront⟩ := classification_by_components
  refine ⟨?_, ?_, ?_, ?_, ?_, ?_⟩
  · rw [hlower _ fun s => ?_]
    · decide +kernel
    · rw [String.toList_ofList]
      exact lowerCase_flatMap s.toList
  · refine (hlocated _).2.1 ⟨.rootFiles, true⟩ ?_
    have hcomponents : components "i18n/i18n/DEFAULT.json" = ["i18n"] ++ ["i18n", "DEFAULT.json"] := by
      decide +kernel
    rw [hcomponents]
    exact .rootFile ⟨"DEFAULT", ".json", by decide, by decide, by decide⟩ (by decide) (by decide)
  · exact (hlocated _).2.2 (by decide +kernel)
  · exact halike _ _ (by decide)
  · exact hcomponent "." (by decide) ["i18n"] ["default.json"]
  · exact hfront "i18n/fr.json" "/i18n" (by decide +kernel)

end Phrasebook
