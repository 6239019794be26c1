import Mathlib.Data.List.Basic
import Phrasebook.Proofs.Locale.Catalog

/-!
# No text is lost or doubled

Of the pairs that the files of the default locale give, a catalog has an entry for each one whose
key is new, and a warning for each other one:

* `occurring`, `firsts`, `repeats` — the pairs whose key is new, and the others, which together are
  all of them (`perm_firsts_append_repeats`);
* `Tally`, `Progress.tally_addPair`, `Progress.tally_addAll` — the invariant of a reading;
* `Progress.Alike` — what of a reading does not depend on where the pairs come from;
* `Catalog.readInTurn_accounts` — what becomes of each pair.
-/

namespace Phrasebook

/-! ### Pairs whose key is new -/

/-- Whether the key of the pair at a place occurs before that place. -/
def occursBefore (triples : List (String × Text × Text)) (place : (String × Text × Text) × Nat) :
    Bool :=
  ((triples.take place.2).map (·.2.1)).contains place.1.2.1

/-- The pairs whose keys occur before, or those whose keys do not. -/
def occurring (before : Bool) (triples : List (String × Text × Text)) :
    List (String × Text × Text) :=
  (triples.zipIdx.filter fun place => occursBefore triples place == before).map (·.1)

/-- The pairs whose keys do not occur before. -/
def firsts (triples : List (String × Text × Text)) : List (String × Text × Text) :=
  occurring false triples

/-- The pairs whose keys occur before. -/
def repeats (triples : List (String × Text × Text)) : List (String × Text × Text) :=
  occurring true triples

/-- One pair more is the last one of its kind. -/
theorem occurring_concat (before : Bool) (triples : List (String × Text × Text))
    (triple : String × Text × Text) :
    occurring before (triples ++ [triple]) = occurring before triples ++
      if (triples.map (·.2.1)).contains triple.2.1 = before then [triple] else [] := by
  have hold : ∀ place ∈ triples.zipIdx,
      occursBefore (triples ++ [triple]) place = occursBefore triples place := by
    intro place hplace
    have hlt : place.2 < triples.length := (List.mem_zipIdx' hplace).1
    rw [occursBefore, List.take_append_of_le_length hlt.le]
    rfl
  have hlast : occursBefore (triples ++ [triple]) (triple, triples.length) =
      (triples.map (·.2.1)).contains triple.2.1 := by
    rw [occursBefore, List.take_left]
  rw [occurring, List.zipIdx_append, List.filter_append, List.map_append,
    List.filter_congr fun place hplace => by rw [hold place hplace], Nat.zero_add,
    List.zipIdx_singleton, List.filter_cons, List.filter_nil, hlast]
  congr 1
  by_cases hkind : (triples.map (·.2.1)).contains triple.2.1 = before
  · rw [if_pos (beq_iff_eq.mpr hkind), if_pos hkind]
    rfl
  · rw [if_neg (fun h => hkind (beq_iff_eq.mp h)), if_neg hkind]
    rfl

/-- Each pair is the first one of its key or a repeated one. -/
theorem perm_firsts_append_repeats (triples : List (String × Text × Text)) :
    (firsts triples ++ repeats triples).Perm triples := by
  have hsplit := (List.filter_append_perm (fun place => occursBefore triples place == false)
    triples.zipIdx).map Prod.fst
  rw [List.map_append, List.zipIdx_map_fst] at hsplit
  have hrepeats : repeats triples =
      (triples.zipIdx.filter fun place => !(occursBefore triples place == false)).map (·.1) := by
    rw [repeats, occurring]
    congr 1
    exact List.filter_congr fun place _ => by cases occursBefore triples place <;> rfl
  rw [hrepeats]
  exact hsplit

theorem length_firsts_add_length_repeats (triples : List (String × Text × Text)) :
    (firsts triples).length + (repeats triples).length = triples.length := by
  rw [← List.length_append]
  exact (perm_firsts_append_repeats triples).length_eq

theorem firsts_concat_of_new {triples : List (String × Text × Text)}
    {triple : String × Text × Text} (h : triple.2.1 ∉ triples.map (·.2.1)) :
    firsts (triples ++ [triple]) = firsts triples ++ [triple] ∧
      repeats (triples ++ [triple]) = repeats triples := by
  have hcontains : (triples.map (·.2.1)).contains triple.2.1 = false := by
    rwa [← Bool.not_eq_true, List.contains_iff_mem]
  rw [firsts, repeats, occurring_concat, occurring_concat, hcontains, if_pos rfl,
    if_neg Bool.false_ne_true, List.append_nil]
  exact ⟨rfl, rfl⟩

theorem firsts_concat_of_known {triples : List (String × Text × Text)}
    {triple : String × Text × Text} (h : triple.2.1 ∈ triples.map (·.2.1)) :
    firsts (triples ++ [triple]) = firsts triples ∧
      repeats (triples ++ [triple]) = repeats triples ++ [triple] := by
  have hcontains : (triples.map (·.2.1)).contains triple.2.1 = true := List.contains_iff_mem.mpr h
  rw [firsts, repeats, occurring_concat, occurring_concat, hcontains, if_pos rfl,
    if_neg (Ne.symm Bool.false_ne_true), List.append_nil]
  exact ⟨rfl, rfl⟩

/-! ### The invariant of a reading -/

/-- What an entry says about the pair that it is for: its key, its text and the placeholders of
the text, whose parameters keep clear of the reserved names alone. -/
def Entry.content (e : Entry) : Text × Text × List Placeholder :=
  (e.key, e.text, e.placeholders)

/-- What the entry for a pair has to say. -/
def contentOf (reserved : List String) (triple : String × Text × Text) :
    Text × Text × List Placeholder :=
  (triple.2.1, triple.2.2, placeholdersOf reserved triple.2.2.legible)

/-- The warning about a pair whose key is known. -/
def repeatWarning (triple : String × Text × Text) : Diagnostic :=
  ⟨.duplicateKey, [some triple.2.1, some triple.1]⟩

/-- The invariant of a reading, after some pairs: the first pair of each key has an entry, and each
other pair has a warning. -/
structure Tally (reserved : List String) (triples : List (String × Text × Text)) (p : Progress) :
    Prop where
  entries : p.entries.map (·.content) = (firsts triples).map (contentOf reserved)
  warnings : p.warnings = (repeats triples).map repeatWarning

namespace Progress

/-- **One pair more keeps the tally.** -/
theorem tally_addPair {reserved : List String} {triples : List (String × Text × Text)}
    {p : Progress} (h : Tally reserved triples p) (hrecords : Records reserved triples p.entries)
    (triple : String × Text × Text) :
    Tally reserved (triples ++ [triple]) (p.addPair reserved triple.1 triple.2) := by
  have hknown : p.hasKey triple.2.1 = true ↔ triple.2.1 ∈ triples.map (·.2.1) := by
    rw [hasKey_iff, hrecords.keys, List.mem_eraseDups]
  unfold addPair
  split
  · rename_i hkey
    obtain ⟨hfirsts, hrepeats⟩ := firsts_concat_of_known (hknown.mp hkey)
    refine ⟨?_, ?_⟩
    · rw [hfirsts]
      exact h.entries
    · rw [hrepeats, List.map_append, ← h.warnings]
      rfl
  · rename_i hkey
    obtain ⟨hfirsts, hrepeats⟩ := firsts_concat_of_new fun hmem => hkey (hknown.mpr hmem)
    refine ⟨?_, ?_⟩
    · rw [hfirsts, List.map_append, List.map_append, h.entries]
      rfl
    · rw [hrepeats]
      exact h.warnings

/-- **A whole reading keeps the tally.** -/
theorem tally_addAll (reserved : List String) (triples : List (String × Text × Text)) :
    Tally reserved triples (initial.addAll reserved triples) := by
  induction triples using List.reverseRecOn with
  | nil => exact ⟨rfl, rfl⟩
  | append_singleton triples triple ih =>
    rw [addAll_append]
    exact tally_addPair ih (records_addAll reserved triples) triple

/-! ### Where pairs come from -/

/-- The same entries, and warnings about the same keys. -/
structure Alike (p q : Progress) : Prop where
  entries : p.entries = q.entries
  keys : p.warnings.map (·.arguments.head?) = q.warnings.map (·.arguments.head?)

/-- The same pair from another file. -/
theorem Alike.addPair {p q : Progress} (h : Alike p q) (reserved : List String)
    (path other : String) (pair : Text × Text) :
    Alike (p.addPair reserved path pair) (q.addPair reserved other pair) := by
  have hkey : p.hasKey pair.1 = q.hasKey pair.1 := by rw [hasKey, hasKey, h.entries]
  unfold Progress.addPair
  rw [hkey]
  split
  · refine ⟨h.entries, ?_⟩
    rw [List.map_append, List.map_append, h.keys]
    rfl
  · refine ⟨?_, h.keys⟩
    rw [h.entries]

/-- The same pairs from other files. -/
theorem Alike.addAll {p q : Progress} (h : Alike p q) (reserved : List String)
    {triples others : List (String × Text × Text)} (hpairs : others.map (·.2) = triples.map (·.2)) :
    Alike (p.addAll reserved triples) (q.addAll reserved others) := by
  induction triples generalizing p q others with
  | nil =>
    rw [List.map_nil, List.map_eq_nil_iff] at hpairs
    rw [hpairs]
    exact h
  | cons triple rest ih =>
    rw [List.map_cons, List.map_eq_cons_iff] at hpairs
    obtain ⟨other, others, rfl, hpair, hrest⟩ := hpairs
    have hstep : Alike (p.addPair reserved triple.1 triple.2)
        (q.addPair reserved other.1 other.2) := by
      rw [hpair]
      exact h.addPair reserved triple.1 other.1 triple.2
    exact ih hstep hrest

end Progress

/-! ### The accounts -/

/-- Files that are the same whenever they are loaded are judged one by one. -/
theorem clean_const_iff {load : Loader} {files : List String} :
    Clean (fun _ => load) files ↔
      (∀ path ∈ files, (Location.ofPath? path).isSome = true) ∧
      (∀ path ∈ files, ∀ other ∈ files, layoutAt path = layoutAt other) ∧
      ∀ path ∈ files, ∀ location, Location.ofPath? path = some location →
        location.isDefault = true → ∃ pairs, loadPairs load path = .ok (.ok pairs) := by
  constructor
  · intro h
    refine ⟨h.located, h.uniform, fun path hpath location => ?_⟩
    obtain ⟨turn, hturn⟩ := List.mem_iff_getElem?.mp hpath
    exact h.loads turn path location hturn
  · rintro ⟨hlocated, huniform, hloads⟩
    exact ⟨hlocated, huniform, fun turn path location hturn =>
      hloads path (List.mem_of_getElem? hturn) location⟩

/-- Parts that lie where a file lies, and are loaded, may stand for it. -/
theorem Clean.replace {load : Loader} {before after parts : List String} {path : String}
    (h : Clean (fun _ => load) (before ++ path :: after))
    (hparts : ∀ part ∈ parts, Location.ofPath? part = Location.ofPath? path ∧
      ∃ pairs, loadPairs load part = .ok (.ok pairs)) :
    Clean (fun _ => load) (before ++ (parts ++ after)) := by
  obtain ⟨hlocated, huniform, hloads⟩ := clean_const_iff.mp h
  -- a part has the location of `path`, and each other file is one of the files there were
  have hold : ∀ file ∈ before ++ (parts ++ after), ∃ old ∈ before ++ path :: after,
      Location.ofPath? file = Location.ofPath? old ∧
      (file = old ∨ ∃ pairs, loadPairs load file = .ok (.ok pairs)) := by
    intro file hfile
    rw [List.mem_append, List.mem_append] at hfile
    obtain hfile | hfile | hfile := hfile
    · exact ⟨file, List.mem_append_left _ hfile, rfl, .inl rfl⟩
    · exact ⟨path, List.mem_append_right _ List.mem_cons_self, (hparts file hfile).1,
        .inr (hparts file hfile).2⟩
    · exact ⟨file, List.mem_append_right _ (List.mem_cons_of_mem _ hfile), rfl, .inl rfl⟩
  refine clean_const_iff.mpr ⟨fun file hfile => ?_, fun one hone other hother => ?_,
    fun file hfile location hlocation hdefault => ?_⟩
  · obtain ⟨old, hmem, hsame, -⟩ := hold file hfile
    rw [hsame]
    exact hlocated old hmem
  · obtain ⟨old, hmem, hsame, -⟩ := hold one hone
    obtain ⟨old', hmem', hsame', -⟩ := hold other hother
    rw [layoutAt, layoutAt, hsame, hsame']
    exact huniform old hmem old' hmem'
  · obtain ⟨old, hmem, hsame, rfl | hpairs⟩ := hold file hfile
    · exact hloads file hmem location hlocation hdefault
    · exact hpairs

namespace Catalog

/-- What a catalog has for the pairs that it is made from. -/
theorem readInTurn_contents {reserved : List String} {load : Nat → Loader} {files : List String}
    {catalog : Catalog} (h : (readInTurn reserved load files).ending = .ok (.ok catalog)) :
    catalog.entries.map (·.content) =
        (firsts (pairsInTurn load 0 files)).map (contentOf reserved) ∧
      catalog.warnings = (repeats (pairsInTurn load 0 files)).map repeatWarning := by
  obtain ⟨hentries, hwarnings, -⟩ := readInTurn_ok h
  obtain ⟨hcontents, hrepeats⟩ := Progress.tally_addAll reserved (pairsInTurn load 0 files)
  rw [hentries, hwarnings]
  exact ⟨hcontents, hrepeats⟩

/-- The catalog of other files that give the same pairs. -/
theorem readInTurn_of_same_pairs {reserved : List String} {load other : Nat → Loader}
    {files others : List String} {catalog : Catalog}
    (h : (readInTurn reserved load files).ending = .ok (.ok catalog)) (hclean : Clean other others)
    (hpairs : (pairsInTurn other 0 others).map (·.2) = (pairsInTurn load 0 files).map (·.2)) :
    ∃ again, (readInTurn reserved other others).ending = .ok (.ok again) ∧
      again.entries = catalog.entries ∧
      again.warnings.map (·.arguments.head?) = catalog.warnings.map (·.arguments.head?) := by
  obtain ⟨-, hne, rfl⟩ := readInTurn_eq_ok_iff.mp h
  have halike : Progress.Alike (Progress.initial.addAll reserved (pairsInTurn load 0 files))
      (Progress.initial.addAll reserved (pairsInTurn other 0 others)) :=
    Progress.Alike.addAll ⟨rfl, rfl⟩ reserved hpairs
  refine ⟨_, readInTurn_eq_ok_iff.mpr ⟨hclean, ?_, rfl⟩, halike.entries.symm, halike.keys.symm⟩
  intro hnil
  exact hne (halike.entries.trans hnil)

/-- The pairs of a list of files, without the files. -/
theorem pairsInTurn_map_snd (load : Loader) (files : List String) :
    (pairsInTurn (fun _ => load) 0 files).map (·.2) = files.flatMap (pairsAt load) := by
  rw [pairsInTurn_const, defaultPairs, List.map_flatMap]
  refine List.flatMap_congr fun path _ => ?_
  rw [List.map_map]
  exact List.map_id _

/-- **What becomes of each pair.**  Let a reading give a catalog, and take the pairs that the files
of the default locale give in their turns.

* The entries are, in order, those of the pairs whose key does not occur before, each with its own
  text and the placeholders of this text, whose parameters keep clear of the reserved names alone.
* The warnings are, in order, one for each other pair, with its key and its file.
* So there are as many entries and warnings as there are pairs.
* Any other files with which nothing is wrong, and which give the same pairs, have a catalog with
  the same entries and with warnings about the same keys.

In particular a file may be split into several ones in its place that together give its pairs. -/
theorem readInTurn_accounts (reserved : List String) :
    (∀ (load : Nat → Loader) (files : List String) (catalog : Catalog),
      (readInTurn reserved load files).ending = .ok (.ok catalog) →
        catalog.entries.map (·.content) =
          (firsts (pairsInTurn load 0 files)).map (contentOf reserved) ∧
        catalog.warnings = (repeats (pairsInTurn load 0 files)).map repeatWarning ∧
        catalog.entries.length + catalog.warnings.length = (pairsInTurn load 0 files).length ∧
        ∀ (other : Nat → Loader) (others : List String), Clean other others →
          (pairsInTurn other 0 others).map (·.2) = (pairsInTurn load 0 files).map (·.2) →
          ∃ again, (readInTurn reserved other others).ending = .ok (.ok again) ∧
            again.entries = catalog.entries ∧
            again.warnings.map (·.arguments.head?) = catalog.warnings.map (·.arguments.head?)) ∧
    (∀ (load : Loader) (before after parts : List String) (path : String) (catalog : Catalog),
      (read reserved load (before ++ path :: after)).ending = .ok (.ok catalog) →
      (∀ part ∈ parts, Location.ofPath? part = Location.ofPath? path ∧
        ∃ pairs, loadPairs load part = .ok (.ok pairs)) →
      parts.flatMap (pairsAt load) = pairsAt load path →
      ∃ again, (read reserved load (before ++ (parts ++ after))).ending = .ok (.ok again) ∧
        again.entries = catalog.entries ∧
        again.warnings.map (·.arguments.head?) = catalog.warnings.map (·.arguments.head?)) := by
  constructor
  · intro load files catalog h
    obtain ⟨hcontents, hrepeats⟩ := readInTurn_contents h
    refine ⟨hcontents, hrepeats, ?_, fun other others => readInTurn_of_same_pairs h⟩
    have hnumber : catalog.entries.length = (firsts (pairsInTurn load 0 files)).length := by
      rw [← List.length_map (f := Entry.content), hcontents, List.length_map]
    rw [hnumber, hrepeats, List.length_map, length_firsts_add_length_repeats]
  · intro load before after parts path catalog h hparts hpairs
    have hclean := (readInTurn_eq_ok_iff.mp h).1
    refine readInTurn_of_same_pairs h (hclean.replace hparts) ?_
    rw [pairsInTurn_map_snd, pairsInTurn_map_snd, List.flatMap_append, List.flatMap_append, hpairs,
      List.flatMap_append, List.flatMap_cons]

/-- Two files of the default locale that share a key. -/
def sharingLoader : Loader := fun path =>
  if path = "i18n/default/1.json" then .ok "\x7b'a': 'first', 'b': '\x7b\x7bx\x7d\x7d'\x7d"
  else .ok "\x7b'b': 'second', 'c': 'third'\x7d"

/-- The files of the default locale that share a key. -/
def sharingFiles : List String := ["i18n/default/1.json", "i18n/default/2.json"]

/-- Of the shared key, the first text has the entry, and the second one a warning. -/
theorem readInTurn_accounts_sharing :
    ∃ catalog, (readInTurn [] (fun _ => sharingLoader) sharingFiles).ending = .ok (.ok catalog) ∧
      catalog.entries.map (·.content) =
        ([("a", "first", []), ("b", "\x7b\x7bx\x7d\x7d", [⟨"x", "x"⟩]), ("c", "third", [])] :
          List (Text × Text × List Placeholder)) ∧
      catalog.warnings = [⟨.duplicateKey, [some "b", some "i18n/default/2.json"]⟩] ∧
      catalog.entries.length + catalog.warnings.length = 4 := by
  obtain ⟨catalog, hread⟩ : ∃ catalog,
      (readInTurn [] (fun _ => sharingLoader) sharingFiles).ending = .ok (.ok catalog) :=
    ⟨⟨[⟨"a", "A", "first", []⟩, ⟨"b", "B", "\x7b\x7bx\x7d\x7d", [⟨"x", "x"⟩]⟩,
        ⟨"c", "C", "third", []⟩],
      [⟨.duplicateKey, [some "b", some "i18n/default/2.json"]⟩]⟩, by decide +kernel⟩
  have hpairs : pairsInTurn (fun _ => sharingLoader) 0 sharingFiles =
      ([("i18n/default/1.json", "a", "first"), ("i18n/default/1.json", "b", "\x7b\x7bx\x7d\x7d"),
        ("i18n/default/2.json", "b", "second"), ("i18n/default/2.json", "c", "third")] :
          List (String × Text × Text)) := by
    decide +kernel
  obtain ⟨hentries, hwarnings, hnumber, -⟩ :=
    (readInTurn_accounts []).1 (fun _ => sharingLoader) sharingFiles catalog hread
  rw [hpairs] at hentries hwarnings hnumber
  refine ⟨catalog, hread, ?_, ?_, hnumber⟩
  · rw [hentries]
    decide +kernel
  · rw [hwarnings]
    decide

end Catalog

end Phrasebook
