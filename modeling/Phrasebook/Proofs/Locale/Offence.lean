import Mathlib.Data.Nat.Find
import Phrasebook.Proofs.Locale.Catalog

/-!
# What keeps a reading from giving a catalog

A reading ends at the first file that offends, and reports this file and no other:

* `Answering` — files that give a text or cannot be opened, so that a reading always ends;
* `OffenceAt` — the offences, each with its diagnostic;
* `clean_take`, `not_offenceAt` — nothing is wrong with files of which none offends;
* `Catalog.readInTurn_of_offenceAt` — a reading up to the first offence;
* `Catalog.readInTurn_outcome` — the outcome of a reading, in all cases.
-/

namespace Phrasebook

/-- Every file gives a text when its turn comes, or cannot be opened, and no text nests values
more deeply than is read. -/
def Answering (load : Nat → Loader) : Prop :=
  ∀ turn path, (∃ message, load turn path = .error (.unavailable message)) ∨
    ∃ text, load turn path = .ok text ∧ Json5.parse text ≠ .error .tooDeep

/-- Members that are not all texts are to blame for a key. -/
theorem textMembers_error {members : List (Text × Json5.Value)} {defect : Defect}
    (h : textMembers members = .error defect) : ∃ key, defect = .notText key := by
  fun_induction textMembers members with
  | case1 => exact absurd h (by simp)
  | case2 key text rest ih =>
    cases hrest : textMembers rest with
    | ok pairs => exact absurd h (by simp [hrest, Except.map])
    | error other =>
      rw [hrest, Except.map, Except.error.injEq] at h
      exact ih (h ▸ hrest)
  | case3 key =>
    rw [Except.error.injEq] at h
    exact ⟨key, h.symm⟩

/-- What is wrong with a text is the fault of the file that the text is from. -/
theorem pathOf_of_pairsOf {text : String} {defect : Defect}
    (h : pairsOf text = .ok (.error defect)) (path : String) : defect.pathOf path = path := by
  unfold pairsOf at h
  split at h
  · rename_i v _
    rw [Except.ok.injEq] at h
    unfold Json5.Value.pairs at h
    split at h
    · exact absurd h (by simp)
    · obtain ⟨key, rfl⟩ := textMembers_error h
      rfl
    · rw [Except.error.injEq] at h
      rw [← h]
      rfl
  · rw [Except.ok.injEq, Except.error.injEq] at h
    rw [← h]
    rfl
  · exact absurd h (by simp)

namespace Answering

variable {load : Nat → Loader} (h : Answering load)

include h

/-- A file that answers gives pairs or has a defect. -/
theorem loadPairs_ok (turn : Nat) (path : String) :
    ∃ result, loadPairs (load turn) path = .ok result := by
  rw [loadPairs]
  obtain ⟨message, hload⟩ | ⟨text, hload, hparse⟩ := h turn path
  · rw [hload]
    exact ⟨_, rfl⟩
  · rw [hload]
    show ∃ result, pairsOf text = .ok result
    unfold pairsOf
    split
    · exact ⟨_, rfl⟩
    · exact ⟨_, rfl⟩
    · rename_i hdeep
      exact absurd hdeep hparse

/-- The defect of a file that answers is its own. -/
theorem pathOf_of_defect {turn : Nat} {path : String} {defect : Defect}
    (hdefect : loadPairs (load turn) path = .ok (.error defect)) : defect.pathOf path = path := by
  rw [loadPairs] at hdefect
  obtain ⟨message, hload⟩ | ⟨text, hload, -⟩ := h turn path
  · rw [hload] at hdefect
    rw [← show Defect.cannotOpen message = defect by simpa using hdefect]
    rfl
  · rw [hload] at hdefect
    exact pathOf_of_pairsOf hdefect path

end Answering

/-! ### Offences -/

/-- The offences of the file at a place of a list, each with the diagnostic that reports it.  A
file that lies in no place for locale files does not offend otherwise, and the content of a file
does not count where its layout is not that of the files before. -/
inductive OffenceAt (load : Nat → Loader) (files : List String) (i : Nat) : Diagnostic → Prop
  /-- The file lies in no place for locale files. -/
  | location {path : String} (hpath : files[i]? = some path)
      (hlocation : Location.ofPath? path = none) :
      OffenceAt load files i ⟨.invalidLocation, [some path]⟩
  /-- The file has another layout than some file before. -/
  | layout {path : String} {location : Location} {other : String} {there : Location}
      (hpath : files[i]? = some path) (hlocation : Location.ofPath? path = some location)
      (hother : other ∈ files.take i) (hthere : Location.ofPath? other = some there)
      (hlayout : there.layout ≠ location.layout) :
      OffenceAt load files i ⟨.mixedLayouts, []⟩
  /-- The file is of the default locale and does not give keys and texts. -/
  | content {path : String} {location : Location} {defect : Defect}
      (hpath : files[i]? = some path) (hlocation : Location.ofPath? path = some location)
      (hlayout : ∀ other ∈ files.take i, ∀ there, Location.ofPath? other = some there →
        there.layout = location.layout)
      (hdefault : location.isDefault = true)
      (hload : loadPairs (load i) path = .ok (.error defect)) :
      OffenceAt load files i ⟨.unreadableFile, [some path, some defect.reason]⟩

/-- The first file that offends, with its offence. -/
structure FirstOffence (load : Nat → Loader) (files : List String) (i : Nat) (d : Diagnostic) :
    Prop where
  offends : OffenceAt load files i d
  first : ∀ j < i, ∀ e, ¬ OffenceAt load files j e

variable {load : Nat → Loader} {files : List String} {i : Nat} {d : Diagnostic}

/-- No file offends when nothing is wrong with the files. -/
theorem not_offenceAt (h : Clean load files) : ¬ OffenceAt load files i d := by
  intro hoffence
  cases hoffence with
  | location hpath hlocation =>
    have hlocated := h.located _ (List.mem_of_getElem? hpath)
    rw [hlocation] at hlocated
    exact absurd hlocated (by decide)
  | layout hpath hlocation hother hthere hlayout =>
    have huniform := h.uniform _ (List.mem_of_mem_take hother) _ (List.mem_of_getElem? hpath)
    rw [layoutAt, layoutAt, hthere, hlocation, Option.map_some, Option.map_some,
      Option.some.injEq] at huniform
    exact hlayout huniform
  | content hpath hlocation _ hdefault hload =>
    obtain ⟨pairs, hpairs⟩ := h.loads i _ _ hpath hlocation hdefault
    rw [hload] at hpairs
    exact absurd hpairs (by simp)

/-- Whether a file offends is settled by the files up to it. -/
theorem OffenceAt.take {k : Nat} (h : OffenceAt load files i d) (hk : i < k) :
    OffenceAt load (files.take k) i d := by
  have hget : (files.take k)[i]? = files[i]? := List.getElem?_take_of_lt hk
  have htake : (files.take k).take i = files.take i := by
    rw [List.take_take, Nat.min_eq_left hk.le]
  cases h with
  | location hpath hlocation => exact .location (hget.trans hpath) hlocation
  | layout hpath hlocation hother hthere hlayout =>
    exact .layout (hget.trans hpath) hlocation (htake ▸ hother) hthere hlayout
  | content hpath hlocation hlayout hdefault hload =>
    exact .content (hget.trans hpath) hlocation (htake ▸ hlayout) hdefault hload

/-- Nothing is wrong with the files up to a place when none of them offends. -/
theorem clean_take (hload : Answering load) :
    ∀ i, (∀ j < i, ∀ e, ¬ OffenceAt load files j e) → Clean load (files.take i) := by
  intro i
  induction i with
  | zero => exact fun _ => clean_nil load
  | succ i ih =>
    intro hnone
    have hclean := ih fun j hj => hnone j (Nat.lt_succ_of_lt hj)
    rw [List.take_add_one]
    cases hpath : files[i]? with
    | none =>
      rw [Option.toList_none, List.append_nil]
      exact hclean
    | some path =>
      have hlength : (files.take i).length = i :=
        List.length_take_of_le (List.getElem?_eq_some_iff.mp hpath).1.le
      -- one more file: each condition of `clean_concat_iff` fails only where there is an offence
      cases hlocation : Location.ofPath? path with
      | none => exact absurd (.location hpath hlocation) (hnone i (Nat.lt_succ_self i) _)
      | some location =>
        have hlayout : ∀ other ∈ files.take i, ∀ there, Location.ofPath? other = some there →
            there.layout = location.layout := by
          intro other hother there hthere
          by_contra hne
          exact hnone i (Nat.lt_succ_self i) _ (.layout hpath hlocation hother hthere hne)
        refine clean_concat_iff.mpr ⟨hclean, location, hlocation, fun other hother => ?_, ?_⟩
        · obtain ⟨there, hthere⟩ := Option.isSome_iff_exists.mp (hclean.located other hother)
          rw [layoutAt, hthere, Option.map_some, hlayout other hother there hthere]
        · intro hdefault
          rw [hlength]
          obtain ⟨pairs | defect, hresult⟩ := hload.loadPairs_ok i path
          · exact absurd (.content hpath hlocation hlayout hdefault hresult)
              (hnone i (Nat.lt_succ_self i) _)
          · exact ⟨_, hresult⟩

/-- Nothing is wrong with files of which none offends. -/
theorem clean_iff (hload : Answering load) :
    Clean load files ↔ ∀ i d, ¬ OffenceAt load files i d := by
  constructor
  · exact fun h i d => not_offenceAt h
  · intro hnone
    have hclean := clean_take hload files.length fun j _ => hnone j
    rwa [List.take_length] at hclean

/-- If some file offends, there is a first one that does. -/
theorem exists_firstOffence (h : ∃ i d, OffenceAt load files i d) :
    ∃ i d, FirstOffence load files i d := by
  classical
  obtain ⟨d, hd⟩ := Nat.find_spec h
  exact ⟨Nat.find h, d, hd, fun j hj e he => Nat.find_min h hj ⟨e, he⟩⟩

/-! ### The outcome -/

namespace Catalog

variable {reserved : List String}

/-- Behind clean files a reading is at the next one. -/
theorem readInTurn_at {path : String} (hclean : Clean load (files.take i))
    (hpath : files[i]? = some path) :
    (readInTurn reserved load files).Continues (questionsFrom 0 (files.take i))
      (readFrom reserved load (Progress.after reserved load (files.take i)) i
        (path :: files.drop (i + 1))) := by
  obtain ⟨hlt, hget⟩ := List.getElem?_eq_some_iff.mp hpath
  have hsplit : files.take i ++ path :: files.drop (i + 1) = files := by
    rw [← hget, ← List.drop_eq_getElem_cons hlt, List.take_append_drop]
  have hbefore : (readInTurn reserved load (files.take i ++ path :: files.drop (i + 1))).Continues
      _ _ := readFrom_of_clean hclean _
  rwa [hsplit, List.length_take_of_le hlt.le] at hbefore

/-- **A reading ends at the first file that offends.**  It reports the offence; until then it has
loaded the files of the default locale one after the other, and it loads the file that offends
only for its content. -/
theorem readInTurn_of_firstOffence (hload : Answering load) (h : FirstOffence load files i d) :
    (readInTurn reserved load files).Continues
      (questionsFrom 0 (files.take (if d.kind = .unreadableFile then i + 1 else i)))
      (pure (.error d)) := by
  have hclean := clean_take hload i h.first
  cases h.offends with
  | location hpath hlocation =>
    have hstop : (readInTurn reserved load files).Continues _ _ :=
      (readInTurn_at hclean hpath).trans (readFrom_of_foreign hlocation)
    rw [List.append_nil] at hstop
    exact hstop
  | @layout path location other there hpath hlocation hother hthere hlayout =>
    have hrefuses :
        (Progress.after reserved load (files.take i)).accepts location.layout = false := by
      rw [← Bool.not_eq_true, accepts_after hclean]
      intro hall
      have hlayoutAt := hall _ hother
      rw [layoutAt, hthere, Option.map_some, Option.some.injEq] at hlayoutAt
      exact hlayout hlayoutAt
    have hstop := (readInTurn_at hclean hpath).trans (readFrom_of_other_layout hlocation hrefuses)
    rw [List.append_nil] at hstop
    exact hstop
  | @content path location defect hpath hlocation hlayout hdefault hdefect =>
    have hfollows : (Progress.after reserved load (files.take i)).accepts location.layout = true :=
      (accepts_after hclean _).mpr fun other hother => by
        obtain ⟨there, hthere⟩ := Option.isSome_iff_exists.mp (hclean.located other hother)
        rw [layoutAt, hthere, Option.map_some, hlayout other hother there hthere]
    have hstop := (readInTurn_at hclean hpath).trans
      (readFrom_of_defect hlocation hfollows hdefault hdefect)
    have hasked : questionsFrom 0 (files.take (i + 1)) =
        questionsFrom 0 (files.take i) ++ [.file i path] := by
      rw [List.take_add_one, hpath, questionsFrom_append, Nat.zero_add,
        List.length_take_of_le (List.getElem?_eq_some_iff.mp hpath).1.le]
      show _ ++ (questionsAt i path ++ []) = _
      rw [questionsAt_of_location hlocation, hdefault, if_pos rfl, List.append_nil]
    rw [hload.pathOf_of_defect hdefect] at hstop
    rw [if_pos rfl, hasked]
    exact hstop

/-- There are entries exactly when there are pairs. -/
theorem after_entries_eq_nil_iff :
    (Progress.after reserved load files).entries = [] ↔ pairsInTurn load 0 files = [] := by
  have hkeys := (Progress.records_addAll reserved (pairsInTurn load 0 files)).keys
  constructor
  · intro hentries
    have hnone : (Progress.initial.addAll reserved (pairsInTurn load 0 files)).entries = [] :=
      hentries
    rw [hnone, List.map_nil] at hkeys
    refine List.eq_nil_iff_forall_not_mem.mpr fun triple htriple => ?_
    have hmem : triple.2.1 ∈ ((pairsInTurn load 0 files).map (·.2.1)).eraseDups :=
      List.mem_eraseDups.mpr (List.mem_map_of_mem htriple)
    rw [← hkeys] at hmem
    exact absurd hmem List.not_mem_nil
  · intro hpairs
    rw [Progress.after, hpairs]
    rfl

/-- Files with which nothing is wrong have a layout, unless there are none. -/
theorem after_layout_isSome (h : Clean load files) :
    (Progress.after reserved load files).layout.isSome = true ↔ files ≠ [] := by
  show (files.getLast?.bind layoutAt).isSome = true ↔ _
  cases hlast : files.getLast? with
  | none => exact ⟨fun hsome => absurd hsome (by simp), fun hne =>
      absurd (List.getLast?_eq_none_iff.mp hlast) hne⟩
  | some last =>
    have hmem := List.mem_of_getLast? hlast
    refine ⟨fun _ hnil => absurd (hnil ▸ hmem) List.not_mem_nil, fun _ => ?_⟩
    rw [Option.bind_some, layoutAt, Option.isSome_map]
    exact h.located last hmem

/-- Without a pair there is no catalog, and it counts whether there are files. -/
theorem readInTurn_of_no_pairs (h : Clean load files) (hpairs : pairsInTurn load 0 files = []) :
    (readInTurn reserved load files).ending =
      .ok (.error ⟨if files = [] then .noFiles else .noEntries, []⟩) := by
  rw [(readInTurn_of_clean h).ending, (finish_of_nil (after_entries_eq_nil_iff.mpr hpairs)).ending,
    Step.ending_pure]
  by_cases hfiles : files = []
  · rw [if_neg fun hsome => (after_layout_isSome h).mp hsome hfiles, if_pos hfiles]
  · rw [if_pos ((after_layout_isSome h).mpr hfiles), if_neg hfiles]

/-- **The outcome of a reading.**  Let every file answer when its turn comes.

* There is a catalog exactly when all files lie in places for locale files, have one layout, give
  keys and texts where they are of the default locale, and there is a pair in them.
* Otherwise the first file that offends is reported, and if none does, that there are no entries
  or no files at all.
* The files of the default locale are loaded one after the other, up to the first file that
  offends; this one is loaded only when its content is to blame. -/
theorem readInTurn_outcome (reserved : List String) {load : Nat → Loader} (hload : Answering load)
    (files : List String) :
    ((∃ catalog, (readInTurn reserved load files).ending = .ok (.ok catalog)) ↔
      Clean load files ∧ pairsInTurn load 0 files ≠ []) ∧
    (∀ i d, FirstOffence load files i d →
      (readInTurn reserved load files).ending = .ok (.error d) ∧
      (readInTurn reserved load files).asked =
        questionsFrom 0 (files.take (if d.kind = .unreadableFile then i + 1 else i))) ∧
    ((∀ i d, ¬ OffenceAt load files i d) →
      (readInTurn reserved load files).asked = questionsFrom 0 files ∧
      (pairsInTurn load 0 files = [] → (readInTurn reserved load files).ending =
        .ok (.error ⟨if files = [] then .noFiles else .noEntries, []⟩))) ∧
    ∃ result, (readInTurn reserved load files).ending = .ok result := by
  refine ⟨?_, ?_, ?_, ?_⟩
  · constructor
    · rintro ⟨catalog, h⟩
      obtain ⟨hclean, hentries, -⟩ := readInTurn_eq_ok_iff.mp h
      exact ⟨hclean, fun hpairs => hentries (after_entries_eq_nil_iff.mpr hpairs)⟩
    · rintro ⟨hclean, hpairs⟩
      exact ⟨_, readInTurn_eq_ok_iff.mpr
        ⟨hclean, fun hentries => hpairs (after_entries_eq_nil_iff.mp hentries), rfl⟩⟩
  · intro i d h
    have hstop : (readInTurn reserved load files).Continues _ _ :=
      readInTurn_of_firstOffence hload h
    exact ⟨hstop.ending, hstop.asked.trans (List.append_nil _)⟩
  · intro hnone
    have hclean := (clean_iff hload).mpr hnone
    refine ⟨?_, readInTurn_of_no_pairs hclean⟩
    rw [(readInTurn_of_clean hclean).asked, asked_finish, List.append_nil]
  · by_cases hoffence : ∃ i d, OffenceAt load files i d
    · obtain ⟨i, d, hfirst⟩ := exists_firstOffence hoffence
      exact ⟨_, (readInTurn_of_firstOffence hload hfirst).ending⟩
    · have hclean := (clean_iff hload).mpr fun i d h => hoffence ⟨i, d, h⟩
      by_cases hpairs : pairsInTurn load 0 files = []
      · exact ⟨_, readInTurn_of_no_pairs hclean hpairs⟩
      · exact ⟨_, readInTurn_eq_ok_iff.mpr
          ⟨hclean, fun hentries => hpairs (after_entries_eq_nil_iff.mp hentries), rfl⟩⟩

/-- Two files, the second of which offends by its layout and would offend by its content too. -/
def offendingFiles : List String := ["i18n/default.json", "i18n/default/more.json", "elsewhere.txt"]

/-- A file that is loaded gives a text, and the next one gives none. -/
def halfLoader : Nat → Loader
  | 0 => fun _ => .ok "\x7b'a': 'b'\x7d"
  | _ => fun path => .error (.unavailable path)

theorem answering_halfLoader : Answering halfLoader := by
  intro turn path
  cases turn with
  | zero =>
    have hparse : (Json5.parse "\x7b'a': 'b'\x7d").isOk = true := by decide +kernel
    refine .inr ⟨_, rfl, fun hdeep => ?_⟩
    rw [hdeep] at hparse
    exact absurd hparse (by decide)
  | succ turn => exact .inl ⟨path, rfl⟩

/-- The second file is the first one that offends. -/
theorem firstOffence_offendingFiles :
    FirstOffence halfLoader offendingFiles 1 ⟨.mixedLayouts, []⟩ where
  offends := @OffenceAt.layout _ _ _ "i18n/default/more.json" ⟨.localeFolders, true⟩
    "i18n/default.json" ⟨.rootFiles, true⟩ rfl (by decide +kernel)
    (List.mem_singleton_self "i18n/default.json") (by decide +kernel) (by decide)
  first := by
    intro j hj d
    obtain rfl : j = 0 := by omega
    refine fun h => not_offenceAt ?_ (h.take Nat.zero_lt_one)
    exact clean_concat_iff.mpr ⟨clean_nil _, ⟨.rootFiles, true⟩, by decide +kernel,
      fun other hother => absurd hother List.not_mem_nil,
      fun _ => ⟨[("a", "b")], by decide +kernel⟩⟩

/-- The layout of the second file is reported; its content, and the third file, are not looked
at. -/
theorem readInTurn_outcome_offending :
    Answering halfLoader ∧ FirstOffence halfLoader offendingFiles 1 ⟨.mixedLayouts, []⟩ ∧
      (readInTurn [] halfLoader offendingFiles).ending = .ok (.error ⟨.mixedLayouts, []⟩) ∧
      (readInTurn [] halfLoader offendingFiles).asked =
        questionsFrom 0 ["i18n/default.json"] :=
  ⟨answering_halfLoader, firstOffence_offendingFiles,
    (readInTurn_outcome [] answering_halfLoader offendingFiles).2.1 1 _ firstOffence_offendingFiles⟩

end Catalog

end Phrasebook
