import Phrasebook.Proofs.Locale.Offence

/-!
# What more files do to a catalog

Files of other locales do nothing to a catalog, wherever they stand among the others, and files of
the default locale at the end of the list only add to it:

* `Visit`, `visits` — the files of a list, each with what is loaded for it in its turn;
* `clean_iff_fits`, `pairsInTurn_eq_flatMap` — a reading depends on its visits alone;
* `Inserted` — a list with more elements at any places;
* `Progress.prefix_addAll` — entries and warnings stay where they are when pairs are added;
* `Catalog.readInTurn_inserted_iff`, `Catalog.readInTurn_append` — more files of either kind;
* `Catalog.readInTurn_of_more` — both together.
-/

namespace Phrasebook

/-! ### Visits -/

/-- A file of a list, with what is loaded for it when its turn comes. -/
structure Visit where
  path : String
  answer : Except LoadError String

/-- The files of a list, each with what is loaded for it in its turn. -/
def visits (load : Nat → Loader) (files : List String) : List Visit :=
  files.zipIdx.map fun place => ⟨place.1, load place.2 place.1⟩

namespace Visit

/-- The pairs that a visit gives to the default locale. -/
def pairs (v : Visit) : List (String × Text × Text) :=
  (pairsAt (fun _ => v.answer) v.path).map fun pair => (v.path, pair)

/-- Nothing is wrong with a visit among files of this layout. -/
def Fits (layout : Layout) (v : Visit) : Prop :=
  ∃ isDefault, Location.ofPath? v.path = some ⟨layout, isDefault⟩ ∧
    (isDefault = true → ∃ pairs, loadPairs (fun _ => v.answer) v.path = .ok (.ok pairs))

theorem Fits.layoutAt {layout : Layout} {v : Visit} (h : v.Fits layout) :
    layoutAt v.path = some layout := by
  obtain ⟨isDefault, hlocation, -⟩ := h
  rw [Phrasebook.layoutAt, hlocation]
  rfl

end Visit

variable {load other : Nat → Loader} {files others : List String}

theorem mem_visits_iff {v : Visit} :
    v ∈ visits load files ↔ ∃ turn, files[turn]? = some v.path ∧ load turn v.path = v.answer := by
  rw [visits, List.mem_map]
  constructor
  · rintro ⟨⟨path, turn⟩, hplace, rfl⟩
    exact ⟨turn, List.mem_zipIdx_iff_getElem?.mp hplace, rfl⟩
  · rintro ⟨turn, hpath, hanswer⟩
    refine ⟨(v.path, turn), List.mem_zipIdx_iff_getElem?.mpr hpath, ?_⟩
    rw [hanswer]

/-- Every file of a list is visited. -/
theorem exists_visit {path : String} (h : path ∈ files) : ∃ v ∈ visits load files, v.path = path := by
  obtain ⟨turn, hturn⟩ := List.mem_iff_getElem?.mp h
  exact ⟨⟨path, load turn path⟩, mem_visits_iff.mpr ⟨turn, hturn, rfl⟩, rfl⟩

/-- **What is wrong with files shows in their visits.** -/
theorem clean_iff_fits :
    Clean load files ↔ ∃ layout, ∀ v ∈ visits load files, v.Fits layout := by
  constructor
  · intro h
    cases hfirst : files.head? with
    | none =>
      rw [List.head?_eq_none_iff] at hfirst
      subst hfirst
      exact ⟨.rootFiles, fun v hv => absurd hv List.not_mem_nil⟩
    | some first =>
      have hmem : first ∈ files := List.mem_of_head? hfirst
      obtain ⟨there, hthere⟩ := Option.isSome_iff_exists.mp (h.located first hmem)
      refine ⟨there.layout, fun v hv => ?_⟩
      obtain ⟨turn, hturn, hanswer⟩ := mem_visits_iff.mp hv
      have hpath : v.path ∈ files := List.mem_of_getElem? hturn
      obtain ⟨location, hlocation⟩ := Option.isSome_iff_exists.mp (h.located v.path hpath)
      have hlayout := h.uniform v.path hpath first hmem
      rw [layoutAt, layoutAt, hlocation, hthere, Option.map_some, Option.map_some,
        Option.some.injEq] at hlayout
      refine ⟨location.isDefault, hlayout ▸ hlocation, fun hdefault => ?_⟩
      rw [← hanswer]
      exact h.loads turn v.path location hturn hlocation hdefault
  · rintro ⟨layout, hfits⟩
    have hall : ∀ path ∈ files, layoutAt path = some layout := by
      intro path hpath
      obtain ⟨v, hv, rfl⟩ := exists_visit hpath
      exact (hfits v hv).layoutAt
    refine ⟨fun path hpath => ?_, fun path hpath one hone => ?_, fun turn path location hturn => ?_⟩
    · have hsome := hall path hpath
      rw [layoutAt, Option.map_eq_some_iff] at hsome
      obtain ⟨location, hlocation, -⟩ := hsome
      rw [hlocation]
      rfl
    · rw [hall path hpath, hall one hone]
    · intro hlocation hdefault
      obtain ⟨isDefault, hthere, hpairs⟩ :=
        hfits ⟨path, load turn path⟩ (mem_visits_iff.mpr ⟨turn, hturn, rfl⟩)
      rw [hlocation, Option.some.injEq] at hthere
      subst hthere
      exact hpairs hdefault

/-- **The pairs of a reading are those of its visits.** -/
theorem pairsInTurn_eq_flatMap (load : Nat → Loader) (files : List String) :
    pairsInTurn load 0 files = (visits load files).flatMap Visit.pairs := by
  suffices h : ∀ turn, pairsInTurn load turn files =
      ((files.zipIdx turn).map fun place => (⟨place.1, load place.2 place.1⟩ : Visit)).flatMap
        Visit.pairs from h 0
  induction files with
  | nil => intro turn; rfl
  | cons path rest ih =>
    intro turn
    have hloaded : pairsAt (load turn) path = pairsAt (fun _ => load turn path) path :=
      pairsAt_congr rfl
    rw [pairsInTurn, ih, List.zipIdx_cons, List.map_cons, List.flatMap_cons, Visit.pairs, hloaded]

/-! ### Insertions -/

/-- The second list is the first one with more elements at any places, each of the kind `extra`. -/
inductive Inserted {α : Type} (extra : α → Prop) : List α → List α → Prop
  | nil : Inserted extra [] []
  | keep (a : α) {shorter longer : List α} :
      Inserted extra shorter longer → Inserted extra (a :: shorter) (a :: longer)
  | insert {a : α} {shorter longer : List α} :
      extra a → Inserted extra shorter longer → Inserted extra shorter (a :: longer)

namespace Inserted

variable {α : Type} {extra : α → Prop} {shorter longer : List α}

theorem subset (h : Inserted extra shorter longer) : shorter ⊆ longer := by
  induction h with
  | nil => exact List.Subset.refl _
  | keep a _ ih => exact List.cons_subset_cons a ih
  | insert _ _ ih => exact List.subset_cons_of_subset _ ih

theorem forall_mem {holds : α → Prop} (h : Inserted extra shorter longer)
    (hshorter : ∀ a ∈ shorter, holds a) (hextra : ∀ a, extra a → holds a) :
    ∀ a ∈ longer, holds a := by
  induction h with
  | nil => exact hshorter
  | keep a _ ih =>
    rw [List.forall_mem_cons] at hshorter ⊢
    exact ⟨hshorter.1, ih hshorter.2⟩
  | insert ha _ ih => exact List.forall_mem_cons.mpr ⟨hextra _ ha, ih hshorter⟩

/-- What is inserted gives nothing where nothing comes of it. -/
theorem flatMap_eq {β : Type} {f : α → List β} (h : Inserted extra shorter longer)
    (hextra : ∀ a, extra a → f a = []) : longer.flatMap f = shorter.flatMap f := by
  induction h with
  | nil => rfl
  | keep a _ ih => rw [List.flatMap_cons, List.flatMap_cons, ih]
  | insert ha _ ih => rw [List.flatMap_cons, ih, hextra _ ha, List.nil_append]

end Inserted

/-! ### Pairs that are added -/

namespace Progress

/-- One pair more changes nothing of what there is. -/
theorem prefix_addPair (reserved : List String) (path : String) (p : Progress)
    (pair : Text × Text) :
    p.entries <+: (p.addPair reserved path pair).entries ∧
      p.warnings <+: (p.addPair reserved path pair).warnings := by
  unfold addPair
  split
  · exact ⟨List.prefix_rfl, List.prefix_append _ _⟩
  · exact ⟨List.prefix_append _ _, List.prefix_rfl⟩

/-- **Pairs that are added change nothing of what there is.** -/
theorem prefix_addAll (reserved : List String) (triples : List (String × Text × Text)) :
    ∀ p : Progress, p.entries <+: (p.addAll reserved triples).entries ∧
      p.warnings <+: (p.addAll reserved triples).warnings := by
  induction triples with
  | nil => exact fun p => ⟨List.prefix_rfl, List.prefix_rfl⟩
  | cons triple rest ih =>
    intro p
    obtain ⟨hentries, hwarnings⟩ := prefix_addPair reserved triple.1 p triple.2
    obtain ⟨hmore, hfurther⟩ := ih (p.addPair reserved triple.1 triple.2)
    exact ⟨hentries.trans hmore, hwarnings.trans hfurther⟩

end Progress

/-! ### More files -/

/-- A path for a file that lies where these files lie, of another locale than the default one. -/
def OtherLocale (files : List String) (path : String) : Prop :=
  ∃ location, Location.ofPath? path = some location ∧ location.isDefault = false ∧
    ∀ file ∈ files, layoutAt file = some location.layout

/-- A path for a file that lies where these files lie, of the default locale, and that gives keys
and texts when it is loaded. -/
def DefaultLocale (load : Loader) (files : List String) (path : String) : Prop :=
  ∃ location, Location.ofPath? path = some location ∧ location.isDefault = true ∧
    (∀ file ∈ files, layoutAt file = some location.layout) ∧
    ∃ pairs, loadPairs load path = .ok (.ok pairs)

namespace Catalog

variable {reserved : List String} {catalog : Catalog}

/-- Among files that all have a layout, a file that lies where they lie has this layout, too. -/
theorem layout_eq_of_pairs {layout layout' : Layout} (hpairs : pairsInTurn load 0 files ≠ [])
    (hfits : ∀ v ∈ visits load files, v.Fits layout)
    (hall : ∀ file ∈ files, layoutAt file = some layout') : layout' = layout := by
  obtain ⟨triple, htriple⟩ := List.exists_mem_of_ne_nil _ hpairs
  rw [pairsInTurn_eq_flatMap, List.mem_flatMap] at htriple
  obtain ⟨v, hv, -⟩ := htriple
  obtain ⟨turn, hturn, -⟩ := mem_visits_iff.mp hv
  have hlayout := hall v.path (List.mem_of_getElem? hturn)
  rw [(hfits v hv).layoutAt, Option.some.injEq] at hlayout
  exact hlayout.symm

/-- A reading that gives a catalog, in terms of its visits. -/
theorem readInTurn_eq_ok_iff_fits :
    (readInTurn reserved load files).ending = .ok (.ok catalog) ↔
      (∃ layout, ∀ v ∈ visits load files, v.Fits layout) ∧ pairsInTurn load 0 files ≠ [] ∧
        catalog = ⟨(Progress.initial.addAll reserved (pairsInTurn load 0 files)).entries,
          (Progress.initial.addAll reserved (pairsInTurn load 0 files)).warnings⟩ := by
  rw [readInTurn_eq_ok_iff, clean_iff_fits, ne_eq, after_entries_eq_nil_iff]
  exact Iff.rfl

/-- **Files of other locales do nothing**, wherever they are inserted and whatever is loaded for
them. -/
theorem readInTurn_inserted_iff
    (h : Inserted (fun v => OtherLocale files v.path) (visits load files) (visits other others)) :
    (readInTurn reserved other others).ending = .ok (.ok catalog) ↔
      (readInTurn reserved load files).ending = .ok (.ok catalog) := by
  have hpairs : pairsInTurn other 0 others = pairsInTurn load 0 files := by
    rw [pairsInTurn_eq_flatMap, pairsInTurn_eq_flatMap]
    refine h.flatMap_eq fun v hv => ?_
    obtain ⟨location, hlocation, hdefault, -⟩ := hv
    rw [Visit.pairs, pairsAt_of_other_locale hlocation hdefault, List.map_nil]
  rw [readInTurn_eq_ok_iff_fits, readInTurn_eq_ok_iff_fits, hpairs]
  constructor
  · rintro ⟨⟨layout, hfits⟩, hcatalog⟩
    exact ⟨⟨layout, fun v hv => hfits v (h.subset hv)⟩, hcatalog⟩
  · rintro ⟨⟨layout, hfits⟩, hne, hcatalog⟩
    refine ⟨⟨layout, h.forall_mem hfits fun v hv => ?_⟩, hne, hcatalog⟩
    obtain ⟨location, hlocation, hdefault, hall⟩ := hv
    have hlayout := layout_eq_of_pairs hne hfits hall
    refine ⟨false, ?_, fun htrue => absurd htrue Bool.false_ne_true⟩
    rw [hlocation, ← hlayout, ← hdefault]

/-- **Files at the end of the list only add to a catalog.** -/
theorem readInTurn_append {more : List String}
    (h : (readInTurn reserved load files).ending = .ok (.ok catalog))
    (hmore : ∀ i path, more[i]? = some path → DefaultLocale (load (files.length + i)) files path) :
    ∃ again, (readInTurn reserved load (files ++ more)).ending = .ok (.ok again) ∧
      catalog.entries <+: again.entries ∧ catalog.warnings <+: again.warnings := by
  obtain ⟨⟨layout, hfits⟩, hne, rfl⟩ := readInTurn_eq_ok_iff_fits.mp h
  have hall : ∀ v ∈ visits load (files ++ more), v.Fits layout := by
    intro v hv
    obtain ⟨turn, hturn, hanswer⟩ := mem_visits_iff.mp hv
    rcases Nat.lt_or_ge turn files.length with hlt | hge
    · rw [List.getElem?_append_left hlt] at hturn
      exact hfits v (mem_visits_iff.mpr ⟨turn, hturn, hanswer⟩)
    · rw [List.getElem?_append_right hge] at hturn
      obtain ⟨location, hlocation, hdefault, hlayout, hpairs⟩ := hmore _ _ hturn
      rw [Nat.add_sub_of_le hge] at hpairs
      rw [← layout_eq_of_pairs hne hfits hlayout]
      refine ⟨true, ?_, fun _ => ?_⟩
      · rw [hlocation, ← hdefault]
      · rw [← hanswer]
        exact hpairs
  have hpairs := pairsInTurn_append load files more 0
  rw [Nat.zero_add] at hpairs
  refine ⟨_, readInTurn_eq_ok_iff_fits.mpr ⟨⟨layout, hall⟩, ?_, rfl⟩, ?_⟩
  · rw [hpairs]
    exact List.append_ne_nil_of_left_ne_nil hne _
  · rw [hpairs, Progress.addAll_append]
    exact Progress.prefix_addAll reserved _ _

/-- An entry of a catalog that only adds to another one is that of the same key there. -/
theorem entry_eq_of_prefix {again : Catalog}
    (h : (readInTurn reserved load files).ending = .ok (.ok again))
    (hadds : catalog.entries <+: again.entries) :
    ∀ e ∈ catalog.entries, ∀ f ∈ again.entries, f.key = e.key → f = e :=
  fun _ he _ hf hkey =>
    List.inj_on_of_nodup_map (readInTurn_records h).nodup hf (hadds.subset he) hkey

/-- **More files.**  Let a reading give a catalog.

* Insert files of other locales at any places, which lie where the files lie.  Whatever is loaded
  for them, the reading gives the same catalog, if the files that there were give what they gave.
* Append files of the default locale, which lie where the files lie and give keys and texts.  The
  reading gives a catalog whose entries and warnings go on where those of the first one end.  So
  each key keeps its entry: its method, its text and the placeholders with their parameters. -/
theorem readInTurn_of_more {reserved : List String} {load : Nat → Loader} {files : List String}
    {catalog : Catalog} (h : (readInTurn reserved load files).ending = .ok (.ok catalog)) :
    (∀ (other : Nat → Loader) (others : List String),
      Inserted (fun v => OtherLocale files v.path) (visits load files) (visits other others) →
        (readInTurn reserved other others).ending = .ok (.ok catalog)) ∧
    (∀ more : List String,
      (∀ i path, more[i]? = some path → DefaultLocale (load (files.length + i)) files path) →
        ∃ again, (readInTurn reserved load (files ++ more)).ending = .ok (.ok again) ∧
          catalog.entries <+: again.entries ∧ catalog.warnings <+: again.warnings ∧
          ∀ e ∈ catalog.entries, ∀ f ∈ again.entries, f.key = e.key → f = e) := by
  refine ⟨fun other others hinserted => (readInTurn_inserted_iff hinserted).mpr h, ?_⟩
  intro more hmore
  obtain ⟨again, hagain, hentries, hwarnings⟩ := readInTurn_append h hmore
  exact ⟨again, hagain, hentries, hwarnings, entry_eq_of_prefix hagain hentries⟩

/-- Two files of the default locale, of which the second one repeats a key and has another key with
the same base; all other files cannot be opened. -/
def secondLoader : Loader := fun path =>
  if path = "i18n/default/1.json" then .ok "\x7b'a': 'one'\x7d"
  else if path = "i18n/default/2.json" then .ok "\x7b'a': 'two', 'A': 'three'\x7d"
  else .error (.unavailable path)

/-- The first of these files lies in a locale folder, as a file that cannot be opened does, and it
gives an entry, to which the second one adds another entry and a warning. -/
theorem readings_secondLoader :
    (Location.ofPath? "i18n/fr/x.json" = some ⟨.localeFolders, false⟩ ∧
      Location.ofPath? "i18n/default/2.json" = some ⟨.localeFolders, true⟩ ∧
      layoutAt "i18n/default/1.json" = some .localeFolders) ∧
    loadPairs secondLoader "i18n/default/2.json" = .ok (.ok [("a", "two"), ("A", "three")]) ∧
    (readInTurn [] (fun _ => secondLoader) ["i18n/default/1.json"]).ending =
      .ok (.ok ⟨[⟨"a", "A", "one", []⟩], []⟩) ∧
    (readInTurn [] (fun _ => secondLoader) ["i18n/default/1.json", "i18n/default/2.json"]).ending =
      .ok (.ok ⟨[⟨"a", "A", "one", []⟩, ⟨"A", "_A", "three", []⟩],
        [⟨.duplicateKey, [some "a", some "i18n/default/2.json"]⟩]⟩) := by
  decide +kernel

/-- Files that cannot be opened change nothing in front and behind, and a key of the same base at
the end gets another method. -/
theorem readInTurn_of_more_second :
    ∃ catalog again,
      (readInTurn [] (fun _ => secondLoader) ["i18n/default/1.json"]).ending = .ok (.ok catalog) ∧
      (readInTurn [] (fun _ => secondLoader)
        ["i18n/fr/x.json", "i18n/default/1.json", "i18n/fr/x.json"]).ending = .ok (.ok catalog) ∧
      (readInTurn [] (fun _ => secondLoader)
        ["i18n/default/1.json", "i18n/default/2.json"]).ending = .ok (.ok again) ∧
      catalog.entries <+: again.entries ∧ catalog.warnings <+: again.warnings ∧
      again.entries.map (·.method) = ["A", "_A"] ∧ again.warnings.length = 1 := by
  obtain ⟨⟨hother, hdefault, hlayout⟩, hpairs, hfirst, hboth⟩ := readings_secondLoader
  have hall : ∀ file ∈ ["i18n/default/1.json"], layoutAt file = some .localeFolders :=
    List.forall_mem_singleton.mpr hlayout
  have hextra : OtherLocale ["i18n/default/1.json"] "i18n/fr/x.json" := ⟨_, hother, rfl, hall⟩
  have hinserted : Inserted (fun v => OtherLocale ["i18n/default/1.json"] v.path)
      (visits (fun _ => secondLoader) ["i18n/default/1.json"])
      (visits (fun _ => secondLoader)
        ["i18n/fr/x.json", "i18n/default/1.json", "i18n/fr/x.json"]) :=
    .insert hextra (.keep _ (.insert hextra .nil))
  obtain ⟨hinsert, happend⟩ := readInTurn_of_more hfirst
  obtain ⟨again, hagain, hentries, hwarnings, -⟩ := happend ["i18n/default/2.json"] (by
    intro i path hpath
    obtain rfl := List.mem_singleton.mp (List.mem_of_getElem? hpath)
    exact ⟨_, hdefault, rfl, hall, _, hpairs⟩)
  refine ⟨_, again, hfirst, hinsert _ _ hinserted, hagain, hentries, hwarnings, ?_⟩
  obtain rfl := Except.ok.inj (Except.ok.inj (hagain.symm.trans hboth))
  exact ⟨rfl, rfl⟩

end Catalog

end Phrasebook
