import Mathlib.Data.List.Induction
import Phrasebook.Locale.Catalog
import Phrasebook.Proofs.Pass.Step

/-!
# How a reading goes

A reading goes through the files in turn.  What it does with one of them depends on the progress
so far, and the progress so far depends on the files before in a simple way as long as nothing is
wrong with them.  So the reading is cut at the first file with which something is wrong:

* `pairsAt`, `defaultPairs`, `pairsInTurn` — the keys and texts of the default locale, file by file;
* `Progress.addAll` — both loops of a reading, over files and over keys, as one fold over pairs;
* `Clean` — nothing is wrong with the files, and `exists_first_unclean`, the cut;
* `Catalog.readFrom_of_foreign` and the lemmas after it, `Catalog.fileStep` — what a reading does
  with one file, and that there is no other way;
* `Catalog.readFrom_of_clean` — a reading goes through clean files and adds up their pairs;
* `Catalog.readInTurn_eq_ok_iff` — a reading gives a catalog exactly when all files are clean and
  there is an entry;
* `Catalog.readFrom_congr` — only what is loaded for the files counts.
-/

namespace Phrasebook

/-- The keys and texts that the file at a path gives to the default locale. -/
def pairsAt (load : Loader) (path : String) : List (Text × Text) :=
  match Location.ofPath? path with
  | none => []
  | some location =>
    if location.isDefault then
      match loadPairs load path with
      | .ok (.ok pairs) => pairs
      | _ => []
    else []

/-- Only what is loaded for a file counts for its pairs. -/
theorem loadPairs_congr {load other : Loader} {path : String} (h : load path = other path) :
    loadPairs load path = loadPairs other path := by
  rw [loadPairs, loadPairs, h]

theorem pairsAt_congr {load other : Loader} {path : String} (h : load path = other path) :
    pairsAt load path = pairsAt other path := by
  rw [pairsAt, pairsAt, loadPairs_congr h]

section

variable {load : Loader} {path : String} {location : Location}
  (hlocation : Location.ofPath? path = some location)

include hlocation

theorem pairsAt_of_other_locale (hdefault : location.isDefault = false) :
    pairsAt load path = [] := by
  rw [pairsAt, hlocation]
  simp only [hdefault, Bool.false_eq_true, if_false]

theorem pairsAt_of_default {pairs : List (Text × Text)} (hdefault : location.isDefault = true)
    (hload : loadPairs load path = .ok (.ok pairs)) : pairsAt load path = pairs := by
  rw [pairsAt, hlocation]
  simp only [hdefault, if_true, hload]

end

/-- The keys and texts of the default locale, each with the file it comes from. -/
def defaultPairs (load : Loader) (files : List String) : List (String × Text × Text) :=
  files.flatMap fun path => (pairsAt load path).map fun pair => (path, pair)

/-- The keys and texts of the default locale, when each file is loaded as it is in its turn. -/
def pairsInTurn (load : Nat → Loader) : Nat → List String → List (String × Text × Text)
  | _, [] => []
  | turn, path :: rest =>
    (pairsAt (load turn) path).map (fun pair => (path, pair)) ++ pairsInTurn load (turn + 1) rest

theorem pairsInTurn_append (load : Nat → Loader) (files rest : List String) :
    ∀ turn, pairsInTurn load turn (files ++ rest) =
      pairsInTurn load turn files ++ pairsInTurn load (turn + files.length) rest := by
  induction files with
  | nil => intro turn; rfl
  | cons path files ih =>
    intro turn
    show _ ++ pairsInTurn load (turn + 1) (files ++ rest) = _
    rw [ih (turn + 1), List.length_cons, Nat.add_right_comm, Nat.add_assoc turn, ← List.append_assoc]
    rfl

/-- Files that are the same whenever they are loaded. -/
theorem pairsInTurn_const (load : Loader) (files : List String) :
    ∀ turn, pairsInTurn (fun _ => load) turn files = defaultPairs load files := by
  induction files with
  | nil => intro turn; rfl
  | cons path files ih =>
    intro turn
    rw [pairsInTurn, ih, defaultPairs, defaultPairs, List.flatMap_cons]

/-! ### Reading is a fold over pairs -/

namespace Progress

/-- Adds pairs with their files. -/
def addAll (reserved : List String) (p : Progress) (triples : List (String × Text × Text)) :
    Progress :=
  triples.foldl (fun p triple => p.addPair reserved triple.1 triple.2) p

theorem addAll_append (reserved : List String) (p : Progress)
    (before after : List (String × Text × Text)) :
    p.addAll reserved (before ++ after) = (p.addAll reserved before).addAll reserved after :=
  List.foldl_append

/-- The pairs of one file are added one by one. -/
theorem addPairs_eq_addAll (reserved : List String) (path : String) (p : Progress)
    (pairs : List (Text × Text)) :
    p.addPairs reserved path pairs = p.addAll reserved (pairs.map fun pair => (path, pair)) := by
  rw [addAll, List.foldl_map]
  rfl

/-- The layout plays no part in adding a pair. -/
theorem addPair_layout (reserved : List String) (path : String) (p : Progress)
    (pair : Text × Text) (layout : Option Layout) :
    ({ p with layout := layout } : Progress).addPair reserved path pair =
      { p.addPair reserved path pair with layout := layout } := by
  unfold addPair hasKey
  split <;> rfl

theorem addAll_layout (reserved : List String) (triples : List (String × Text × Text)) :
    ∀ (p : Progress) (layout : Option Layout),
      ({ p with layout := layout } : Progress).addAll reserved triples =
        { p.addAll reserved triples with layout := layout } := by
  induction triples with
  | nil => intro p layout; rfl
  | cons triple rest ih =>
    intro p layout
    show Progress.addAll reserved (addPair reserved triple.1 { p with layout := layout } triple.2) rest
      = { (p.addPair reserved triple.1 triple.2).addAll reserved rest with layout := layout }
    rw [addPair_layout, ih]

end Progress

/-! ### Files with which nothing is wrong -/

/-- The layout that the place of a file fits. -/
def layoutAt (path : String) : Option Layout :=
  (Location.ofPath? path).map (·.layout)

/-- Nothing is wrong with the files: each of them fits a layout, all of them the same one, and
those of the default locale give keys and texts in their turn. -/
structure Clean (load : Nat → Loader) (files : List String) : Prop where
  located : ∀ path ∈ files, (Location.ofPath? path).isSome = true
  uniform : ∀ path ∈ files, ∀ other ∈ files, layoutAt path = layoutAt other
  loads : ∀ turn path location, files[turn]? = some path → Location.ofPath? path = some location →
    location.isDefault = true → ∃ pairs, loadPairs (load turn) path = .ok (.ok pairs)

theorem clean_nil (load : Nat → Loader) : Clean load [] where
  located := fun _ h => absurd h List.not_mem_nil
  uniform := fun _ h => absurd h List.not_mem_nil
  loads := fun _ _ _ h => absurd h (by simp)

/-- What one file more needs so that nothing is wrong. -/
theorem clean_concat_iff {load : Nat → Loader} {files : List String} {path : String} :
    Clean load (files ++ [path]) ↔ Clean load files ∧ ∃ location,
      Location.ofPath? path = some location ∧
      (∀ other ∈ files, layoutAt other = some location.layout) ∧
      (location.isDefault = true → ∃ pairs, loadPairs (load files.length) path = .ok (.ok pairs)) := by
  constructor
  · intro h
    refine ⟨⟨fun other hother => h.located other (List.mem_append_left _ hother),
      fun one hone other hother => h.uniform one (List.mem_append_left _ hone) other
        (List.mem_append_left _ hother), fun turn other location hturn => ?_⟩, ?_⟩
    · refine h.loads turn other location ?_
      rw [List.getElem?_append_left (List.getElem?_eq_some_iff.mp hturn).1]
      exact hturn
    · have hmem : path ∈ files ++ [path] := List.mem_append_right _ (List.mem_singleton_self path)
      obtain ⟨location, hlocation⟩ := Option.isSome_iff_exists.mp (h.located path hmem)
      refine ⟨location, hlocation, fun other hother => ?_, ?_⟩
      · rw [h.uniform other (List.mem_append_left _ hother) path hmem, layoutAt, hlocation]
        rfl
      · exact h.loads files.length path location List.getElem?_concat_length hlocation
  · rintro ⟨h, location, hlocation, hlayout, hpairs⟩
    have hpath : layoutAt path = some location.layout := by
      rw [layoutAt, hlocation]
      rfl
    have hall : ∀ other ∈ files ++ [path], layoutAt other = some location.layout := by
      intro other hother
      rcases List.mem_append.mp hother with hother | hother
      · exact hlayout other hother
      · rw [List.mem_singleton.mp hother, hpath]
    refine ⟨fun other hother => ?_, fun one hone other hother => ?_, fun turn other there hturn => ?_⟩
    · have hsome := hall other hother
      rw [layoutAt, Option.map_eq_some_iff] at hsome
      obtain ⟨there, hthere, -⟩ := hsome
      rw [hthere]
      rfl
    · rw [hall one hone, hall other hother]
    · rcases Nat.lt_or_ge turn files.length with hlt | hge
      · rw [List.getElem?_append_left hlt] at hturn
        exact h.loads turn other there hturn
      · obtain ⟨hlt, -⟩ := List.getElem?_eq_some_iff.mp hturn
        have hlast : turn = files.length := by
          rw [List.length_append, List.length_singleton] at hlt
          omega
        rw [hlast, List.getElem?_concat_length, Option.some.injEq] at hturn
        intro hthere hdefault
        rw [← hturn, hlocation, Option.some.injEq] at hthere
        rw [hlast, ← hturn]
        exact hpairs (hthere ▸ hdefault)

/-- If something is wrong with the files, there is a first one with which something is wrong. -/
theorem exists_first_unclean {load : Nat → Loader} {files : List String}
    (h : ¬ Clean load files) :
    ∃ before path rest, files = before ++ path :: rest ∧ Clean load before ∧
      ¬ Clean load (before ++ [path]) := by
  induction files using List.reverseRecOn with
  | nil => exact absurd (clean_nil load) h
  | append_singleton files path ih =>
    by_cases hfiles : Clean load files
    · exact ⟨files, path, [], rfl, hfiles, h⟩
    · obtain ⟨before, first, rest, rfl, hbefore, hfirst⟩ := ih hfiles
      exact ⟨before, first, rest ++ [path], by rw [List.append_assoc, List.cons_append], hbefore, hfirst⟩

/-! ### What is asked -/

/-- What is asked about a file: those of the default locale are loaded. -/
def questionsAt (turn : Nat) (path : String) : List Question :=
  if (Location.ofPath? path).any (·.isDefault) then [.file turn path] else []

theorem questionsAt_of_location {turn : Nat} {path : String} {location : Location}
    (hlocation : Location.ofPath? path = some location) :
    questionsAt turn path = if location.isDefault then [.file turn path] else [] := by
  rw [questionsAt, hlocation, Option.any_some]

/-- What is asked about several files, from a turn on. -/
def questionsFrom : Nat → List String → List Question
  | _, [] => []
  | turn, path :: rest => questionsAt turn path ++ questionsFrom (turn + 1) rest

theorem questionsFrom_append (files rest : List String) :
    ∀ turn, questionsFrom turn (files ++ rest) =
      questionsFrom turn files ++ questionsFrom (turn + files.length) rest := by
  induction files with
  | nil => intro turn; rfl
  | cons path files ih =>
    intro turn
    show questionsAt turn path ++ questionsFrom (turn + 1) (files ++ rest) = _
    rw [ih (turn + 1), List.length_cons, Nat.add_right_comm, Nat.add_assoc turn, ← List.append_assoc]
    rfl

/-! ### One file -/

namespace Catalog

variable {reserved : List String} {load : Nat → Loader} {p : Progress} {turn : Nat} {path : String}
  {location : Location} {rest : List String}

/-- A file that fits no layout ends the reading. -/
theorem readFrom_of_foreign (hlocation : Location.ofPath? path = none) :
    (readFrom reserved load p turn (path :: rest)).Continues []
      (pure (.error ⟨.invalidLocation, [some path]⟩)) := by
  rw [readFrom, hlocation]
  exact ⟨rfl, rfl, rfl⟩

/-- A file of another layout ends the reading. -/
theorem readFrom_of_other_layout (hlocation : Location.ofPath? path = some location)
    (haccepts : p.accepts location.layout = false) :
    (readFrom reserved load p turn (path :: rest)).Continues []
      (pure (.error ⟨.mixedLayouts, []⟩)) := by
  rw [readFrom, hlocation]
  simp only [haccepts]
  exact ⟨rfl, rfl, rfl⟩

/-- A file of another locale is passed over. -/
theorem readFrom_of_other_locale (hlocation : Location.ofPath? path = some location)
    (haccepts : p.accepts location.layout = true) (hdefault : location.isDefault = false) :
    (readFrom reserved load p turn (path :: rest)).Continues []
      (readFrom reserved load { p with layout := some location.layout } (turn + 1) rest) := by
  rw [readFrom, hlocation]
  simp only [haccepts, hdefault]
  exact .refl _

/-- A fault ends the reading. -/
theorem readFrom_of_fault {fault : Fault} (hlocation : Location.ofPath? path = some location)
    (haccepts : p.accepts location.layout = true) (hdefault : location.isDefault = true)
    (hload : loadPairs (load turn) path = .error fault) :
    (readFrom reserved load p turn (path :: rest)).Continues []
      (Step.ask (.file turn path) (.error fault)) := by
  rw [readFrom, hlocation]
  simp only [haccepts, hdefault]
  have hask : (Step.ask (.file turn path) (loadPairs (load turn) path)).ending
      = .error fault := hload
  exact ⟨by rw [Step.bind_of_error hask]; rfl, by rw [Step.bind_of_error hask]; rfl,
    by rw [Step.bind_of_error hask]; rfl⟩

/-- A file of the default locale that does not give keys and texts ends the reading. -/
theorem readFrom_of_defect {defect : Defect} (hlocation : Location.ofPath? path = some location)
    (haccepts : p.accepts location.layout = true) (hdefault : location.isDefault = true)
    (hload : loadPairs (load turn) path = .ok (.error defect)) :
    (readFrom reserved load p turn (path :: rest)).Continues [.file turn path]
      (pure (.error ⟨.unreadableFile, [some (defect.pathOf path), some defect.reason]⟩)) := by
  rw [readFrom, hlocation]
  simp only [haccepts, hdefault]
  have hask : (Step.ask (.file turn path) (loadPairs (load turn) path)).ending
      = .ok (.error defect) := hload
  exact ⟨by rw [Step.bind_of_ok hask]; rfl, by rw [Step.bind_of_ok hask]; rfl,
    by rw [Step.bind_of_ok hask]; rfl⟩

/-- The pairs of a file of the default locale are added, and the reading goes on. -/
theorem readFrom_of_pairs {pairs : List (Text × Text)}
    (hlocation : Location.ofPath? path = some location)
    (haccepts : p.accepts location.layout = true) (hdefault : location.isDefault = true)
    (hload : loadPairs (load turn) path = .ok (.ok pairs)) :
    (readFrom reserved load p turn (path :: rest)).Continues [.file turn path]
      (readFrom reserved load
        (({ p with layout := some location.layout } : Progress).addPairs reserved path pairs)
        (turn + 1) rest) := by
  rw [readFrom, hlocation]
  simp only [haccepts, hdefault]
  have hask : (Step.ask (.file turn path) (loadPairs (load turn) path)).ending
      = .ok (.ok pairs) := hload
  exact ⟨by rw [Step.bind_of_ok hask]; rfl, by rw [Step.bind_of_ok hask]; rfl,
    by rw [Step.bind_of_ok hask]; rfl⟩

/-- What a reading does with a file: the six ways in which it goes on, or ends. -/
inductive FileStep (reserved : List String) (load : Nat → Loader) (p : Progress) (turn : Nat)
    (path : String) (rest : List String) (s : Step (Except Diagnostic Catalog)) : Prop
  /-- The file fits no layout. -/
  | foreign (hlocation : Location.ofPath? path = none)
      (hstep : s.Continues [] (pure (.error ⟨.invalidLocation, [some path]⟩)))
  /-- The file has another layout than those before. -/
  | otherLayout {location : Location} (hlocation : Location.ofPath? path = some location)
      (haccepts : p.accepts location.layout = false)
      (hstep : s.Continues [] (pure (.error ⟨.mixedLayouts, []⟩)))
  /-- The file is of another locale. -/
  | otherLocale {location : Location} (hlocation : Location.ofPath? path = some location)
      (haccepts : p.accepts location.layout = true) (hdefault : location.isDefault = false)
      (hstep : s.Continues []
        (readFrom reserved load { p with layout := some location.layout } (turn + 1) rest))
  /-- Loading the file ends with a fault. -/
  | fault {location : Location} {fault : Fault} (hlocation : Location.ofPath? path = some location)
      (haccepts : p.accepts location.layout = true) (hdefault : location.isDefault = true)
      (hload : loadPairs (load turn) path = .error fault)
      (hstep : s.Continues [] (Step.ask (.file turn path) (.error fault)))
  /-- The file does not give keys and texts. -/
  | defect {location : Location} {defect : Defect}
      (hlocation : Location.ofPath? path = some location)
      (haccepts : p.accepts location.layout = true) (hdefault : location.isDefault = true)
      (hload : loadPairs (load turn) path = .ok (.error defect))
      (hstep : s.Continues [.file turn path]
        (pure (.error ⟨.unreadableFile, [some (defect.pathOf path), some defect.reason]⟩)))
  /-- The file gives keys and texts. -/
  | pairs {location : Location} {pairs : List (Text × Text)}
      (hlocation : Location.ofPath? path = some location)
      (haccepts : p.accepts location.layout = true) (hdefault : location.isDefault = true)
      (hload : loadPairs (load turn) path = .ok (.ok pairs))
      (hstep : s.Continues [.file turn path]
        (readFrom reserved load
          (({ p with layout := some location.layout } : Progress).addPairs reserved path pairs)
          (turn + 1) rest))

/-- **One file**: there is no other way. -/
theorem fileStep (reserved : List String) (load : Nat → Loader) (p : Progress) (turn : Nat)
    (path : String) (rest : List String) :
    FileStep reserved load p turn path rest (readFrom reserved load p turn (path :: rest)) := by
  cases hlocation : Location.ofPath? path with
  | none => exact .foreign hlocation (readFrom_of_foreign hlocation)
  | some location =>
    cases haccepts : p.accepts location.layout with
    | false => exact .otherLayout hlocation haccepts (readFrom_of_other_layout hlocation haccepts)
    | true =>
      cases hdefault : location.isDefault with
      | false =>
        exact .otherLocale hlocation haccepts hdefault
          (readFrom_of_other_locale hlocation haccepts hdefault)
      | true =>
        cases hload : loadPairs (load turn) path with
        | error fault =>
          exact .fault hlocation haccepts hdefault hload
            (readFrom_of_fault hlocation haccepts hdefault hload)
        | ok answer =>
          cases answer with
          | error defect =>
            exact .defect hlocation haccepts hdefault hload
              (readFrom_of_defect hlocation haccepts hdefault hload)
          | ok pairs =>
            exact .pairs hlocation haccepts hdefault hload
              (readFrom_of_pairs hlocation haccepts hdefault hload)

end Catalog

/-! ### Several files -/

/-- What has been read after files with which nothing is wrong. -/
def Progress.after (reserved : List String) (load : Nat → Loader) (files : List String) : Progress :=
  { Progress.initial.addAll reserved (pairsInTurn load 0 files) with
    layout := files.getLast?.bind layoutAt }

theorem Progress.after_concat {reserved : List String} {load : Nat → Loader} {files : List String}
    {path : String} {location : Location} (hlocation : Location.ofPath? path = some location) :
    Progress.after reserved load (files ++ [path]) =
      ({ Progress.after reserved load files with
        layout := some location.layout } : Progress).addPairs reserved path
          (pairsAt (load files.length) path) := by
  have hpairs : pairsInTurn load 0 (files ++ [path]) = pairsInTurn load 0 files ++
      (pairsAt (load files.length) path).map fun pair => (path, pair) := by
    rw [pairsInTurn_append, Nat.zero_add, pairsInTurn, pairsInTurn, List.append_nil]
  have hlayout : (files ++ [path]).getLast?.bind layoutAt = some location.layout := by
    rw [List.getLast?_concat, Option.bind_some, layoutAt, hlocation, Option.map_some]
  rw [Progress.addPairs_eq_addAll, Progress.after, hpairs, hlayout, Progress.addAll_append]
  exact (Progress.addAll_layout reserved _ (Progress.initial.addAll reserved _) _).symm

/-- The layout so far lets another file follow exactly when all files before have its layout. -/
theorem accepts_after {reserved : List String} {load : Nat → Loader} {files : List String}
    (h : Clean load files) (layout : Layout) :
    (Progress.after reserved load files).accepts layout = true ↔
      ∀ other ∈ files, layoutAt other = some layout := by
  show (files.getLast?.bind layoutAt).all (· == layout) = true ↔ _
  cases hlast : files.getLast? with
  | none =>
    rw [List.getLast?_eq_none_iff] at hlast
    rw [hlast]
    exact ⟨fun _ other hother => absurd hother List.not_mem_nil, fun _ => rfl⟩
  | some last =>
    have hmem : last ∈ files := List.mem_of_getLast? hlast
    obtain ⟨location, hlocation⟩ := Option.isSome_iff_exists.mp (h.located last hmem)
    have hlayout : layoutAt last = some location.layout := by
      rw [layoutAt, hlocation]
      rfl
    rw [Option.bind_some, hlayout, Option.all_some, beq_iff_eq]
    constructor
    · intro heq other hother
      rw [h.uniform other hother last hmem, hlayout, heq]
    · intro hall
      rw [hall last hmem, Option.some.injEq] at hlayout
      exact hlayout.symm

namespace Catalog

variable {reserved : List String} {load : Nat → Loader} {files : List String} {path : String}
  {rest : List String}

/-- One file more that is not to blame takes the reading one turn further. -/
theorem readFrom_after_concat (h : Clean load (files ++ [path])) :
    (readFrom reserved load (Progress.after reserved load files) files.length (path :: rest)).Continues
      (questionsAt files.length path)
      (readFrom reserved load (Progress.after reserved load (files ++ [path])) (files.length + 1)
        rest) := by
  obtain ⟨hfiles, location, hlocation, hlayout, hpairs⟩ := clean_concat_iff.mp h
  have haccepts : (Progress.after reserved load files).accepts location.layout = true :=
    (accepts_after hfiles location.layout).mpr hlayout
  cases hdefault : location.isDefault with
  | false =>
    rw [Progress.after_concat hlocation, pairsAt_of_other_locale hlocation hdefault,
      questionsAt_of_location hlocation, hdefault]
    exact readFrom_of_other_locale hlocation haccepts hdefault
  | true =>
    obtain ⟨pairs, hload⟩ := hpairs hdefault
    rw [Progress.after_concat hlocation, pairsAt_of_default hlocation hdefault hload,
      questionsAt_of_location hlocation, hdefault]
    exact readFrom_of_pairs hlocation haccepts hdefault hload

/-- **A reading goes through clean files**, asks for those of the default locale one after the
other, and has added up their pairs when it goes on behind them. -/
theorem readFrom_of_clean (h : Clean load files) :
    ∀ rest, (readInTurn reserved load (files ++ rest)).Continues (questionsFrom 0 files)
      (readFrom reserved load (Progress.after reserved load files) files.length rest) := by
  induction files using List.reverseRecOn with
  | nil => intro rest; exact .refl _
  | append_singleton files path ih =>
    intro rest
    have hasked : questionsFrom 0 (files ++ [path]) =
        questionsFrom 0 files ++ questionsAt files.length path := by
      rw [questionsFrom_append, Nat.zero_add]
      show _ ++ (questionsAt files.length path ++ []) = _
      rw [List.append_nil]
    rw [hasked, List.append_assoc, List.length_append, List.length_singleton]
    exact (ih (clean_concat_iff.mp h).1 (path :: rest)).trans (readFrom_after_concat h)

/-- With one file more that is to blame there is no catalog. -/
theorem readFrom_of_unclean (h : Clean load files) (hpath : ¬ Clean load (files ++ [path]))
    (catalog : Catalog) :
    (readFrom reserved load (Progress.after reserved load files) files.length (path :: rest)).ending
      ≠ .ok (.ok catalog) := by
  intro hok
  apply hpath
  cases fileStep reserved load (Progress.after reserved load files) files.length path rest with
  | foreign _ hstep =>
    rw [hstep.ending, Step.ending_pure] at hok
    exact absurd hok (by simp)
  | otherLayout _ _ hstep =>
    rw [hstep.ending, Step.ending_pure] at hok
    exact absurd hok (by simp)
  | otherLocale hlocation haccepts hdefault _ =>
    refine clean_concat_iff.mpr ⟨h, _, hlocation, (accepts_after h _).mp haccepts, fun htrue => ?_⟩
    exact absurd (hdefault.symm.trans htrue) Bool.false_ne_true
  | fault _ _ _ _ hstep =>
    rw [hstep.ending, Step.ending_ask] at hok
    exact absurd hok (by simp)
  | defect _ _ _ _ hstep =>
    rw [hstep.ending, Step.ending_pure] at hok
    exact absurd hok (by simp)
  | pairs hlocation haccepts _ hload _ =>
    exact clean_concat_iff.mpr
      ⟨h, _, hlocation, (accepts_after h _).mp haccepts, fun _ => ⟨_, hload⟩⟩

/-! ### The end of the files -/

/-- Without an entry there is no catalog. -/
theorem finish_of_nil {p : Progress} (h : p.entries = []) :
    (finish p).Continues [] (pure (.error
      ⟨if p.layout.isSome = true then .noEntries else .noFiles, []⟩)) := by
  rw [finish, h]
  exact ⟨rfl, rfl, rfl⟩

theorem finish_of_ne_nil {p : Progress} (h : p.entries ≠ []) :
    (finish p).Continues [] (pure (.ok ⟨p.entries, p.warnings⟩)) := by
  rw [finish, if_neg fun hempty => h (List.isEmpty_iff.mp hempty)]
  exact .refl _

/-- At the end of the files nothing more is asked. -/
theorem asked_finish (p : Progress) : (finish p).asked = [] := by
  by_cases hentries : p.entries = []
  · rw [(finish_of_nil hentries).asked, Step.asked_pure, List.append_nil]
  · rw [(finish_of_ne_nil hentries).asked, Step.asked_pure, List.append_nil]

/-- Behind clean files the reading is at its end. -/
theorem readInTurn_of_clean (h : Clean load files) :
    (readInTurn reserved load files).Continues (questionsFrom 0 files)
      (finish (Progress.after reserved load files)) := by
  have hrest : (readInTurn reserved load (files ++ [])).Continues (questionsFrom 0 files)
      (finish (Progress.after reserved load files)) := readFrom_of_clean h []
  rwa [List.append_nil] at hrest

/-- **When a reading gives a catalog.**  It does exactly when nothing is wrong with the files and
there is an entry, and then the catalog is what has been added up. -/
theorem readInTurn_eq_ok_iff {catalog : Catalog} :
    (readInTurn reserved load files).ending = .ok (.ok catalog) ↔
      Clean load files ∧ (Progress.after reserved load files).entries ≠ [] ∧
        catalog = ⟨(Progress.after reserved load files).entries,
          (Progress.after reserved load files).warnings⟩ := by
  constructor
  · intro hok
    have hclean : Clean load files := by
      by_contra hnot
      obtain ⟨before, path, rest, rfl, hbefore, hpath⟩ := exists_first_unclean hnot
      rw [(readFrom_of_clean hbefore (path :: rest)).ending] at hok
      exact readFrom_of_unclean hbefore hpath catalog hok
    rw [(readInTurn_of_clean hclean).ending] at hok
    by_cases hentries : (Progress.after reserved load files).entries = []
    · rw [(finish_of_nil hentries).ending, Step.ending_pure] at hok
      exact absurd hok (by simp)
    · rw [(finish_of_ne_nil hentries).ending, Step.ending_pure, Except.ok.injEq, Except.ok.injEq] at hok
      exact ⟨hclean, hentries, hok.symm⟩
  · rintro ⟨hclean, hentries, rfl⟩
    rw [(readInTurn_of_clean hclean).ending, (finish_of_ne_nil hentries).ending, Step.ending_pure]

/-- **A successful reading is a fold** over the pairs of the default locale. -/
theorem readInTurn_ok {catalog : Catalog}
    (h : (readInTurn reserved load files).ending = .ok (.ok catalog)) :
    catalog.entries = (Progress.initial.addAll reserved (pairsInTurn load 0 files)).entries ∧
      catalog.warnings = (Progress.initial.addAll reserved (pairsInTurn load 0 files)).warnings ∧
      catalog.entries ≠ [] := by
  obtain ⟨-, hentries, rfl⟩ := readInTurn_eq_ok_iff.mp h
  exact ⟨rfl, rfl, hentries⟩

/-- The same for files that are the same whenever they are loaded. -/
theorem read_ok {load : Loader} {catalog : Catalog}
    (h : (read reserved load files).ending = .ok (.ok catalog)) :
    catalog.entries = (Progress.initial.addAll reserved (defaultPairs load files)).entries ∧
      catalog.warnings = (Progress.initial.addAll reserved (defaultPairs load files)).warnings ∧
      catalog.entries ≠ [] := by
  rw [← pairsInTurn_const load files 0]
  exact readInTurn_ok h

/-- **Only what is loaded for the files counts** for a reading of them. -/
theorem readFrom_congr {other : Nat → Loader}
    (h : ∀ turn, ∀ path ∈ files, load turn path = other turn path) :
    ∀ p turn, readFrom reserved load p turn files = readFrom reserved other p turn files := by
  induction files with
  | nil => exact fun _ _ => rfl
  | cons path rest ih =>
    intro p turn
    have hrest := ih fun turn path hpath => h turn path (List.mem_cons_of_mem _ hpath)
    have hpairs : loadPairs (load turn) path = loadPairs (other turn) path :=
      loadPairs_congr (h turn path List.mem_cons_self)
    rw [readFrom, readFrom, hpairs]
    simp only [hrest]

end Catalog

end Phrasebook
