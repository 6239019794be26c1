import Phrasebook.Proofs.Locale.Offence
import Phrasebook.Proofs.Locale.Occurrence

/-!
# The order of the files

A reading takes the files in turn and the first text of a key, and it names each method in its
turn.  Whether it gives a catalog does not depend on the order all the same, and neither do the
keys of the catalog:

* `clean_perm`, `defaultPairs_perm` — what files in another order are and give;
* `Catalog.exists_read_perm` — whether there is a catalog;
* `Catalog.firsts_of_read`, `Catalog.repeats_of_read` — entries and warnings as pairs of the files;
* `Catalog.keys_perm`, `Catalog.repeats_perm`, `Catalog.content_eq` — what two catalogs share;
* `Catalog.read_perm` — all of this together.
-/

namespace Phrasebook

open Phrasebook.Naming

variable {load : Loader} {files others : List String}

/-! ### Files in another order -/

/-- Nothing is wrong with files in another order when nothing is wrong with them in this one. -/
theorem clean_perm (h : files.Perm others) :
    Clean (fun _ => load) files ↔ Clean (fun _ => load) others := by
  have hmem : ∀ path, path ∈ files ↔ path ∈ others := fun _ => h.mem_iff
  rw [clean_const_iff, clean_const_iff]
  simp only [hmem]

/-- Files in another order give the same pairs in another order. -/
theorem defaultPairs_perm (h : files.Perm others) :
    (defaultPairs load files).Perm (defaultPairs load others) :=
  h.flatMap_right _

namespace Catalog

variable {reserved : List String} {catalog again : Catalog}

/-- A reading of files that are the same whenever they are loaded gives a catalog exactly when
nothing is wrong with them and there is a pair in them. -/
theorem exists_read_iff :
    (∃ catalog, (read reserved load files).ending = .ok (.ok catalog)) ↔
      Clean (fun _ => load) files ∧ defaultPairs load files ≠ [] := by
  rw [← pairsInTurn_const load files 0]
  constructor
  · rintro ⟨catalog, h⟩
    obtain ⟨hclean, hentries, -⟩ := readInTurn_eq_ok_iff.mp h
    exact ⟨hclean, fun hnil => hentries (after_entries_eq_nil_iff.mpr hnil)⟩
  · rintro ⟨hclean, hne⟩
    exact ⟨_, readInTurn_eq_ok_iff.mpr
      ⟨hclean, fun hnil => hne (after_entries_eq_nil_iff.mp hnil), rfl⟩⟩

/-- **Whether there is a catalog does not depend on the order of the files.** -/
theorem exists_read_perm (h : files.Perm others) :
    (∃ catalog, (read reserved load files).ending = .ok (.ok catalog)) ↔
      ∃ catalog, (read reserved load others).ending = .ok (.ok catalog) := by
  have hpairs : defaultPairs load files = [] ↔ defaultPairs load others = [] := by
    constructor
    · intro hnil
      exact List.perm_nil.mp (hnil ▸ (defaultPairs_perm h).symm)
    · intro hnil
      exact List.perm_nil.mp (hnil ▸ defaultPairs_perm h)
  rw [exists_read_iff, exists_read_iff, clean_perm h, ne_eq, ne_eq, hpairs]

/-! ### What two catalogs share -/

/-- The entries are those of the first pairs. -/
theorem firsts_of_read (h : (read reserved load files).ending = .ok (.ok catalog)) :
    catalog.entries.map (·.content) = (firsts (defaultPairs load files)).map (contentOf reserved) := by
  rw [← pairsInTurn_const load files 0]
  exact (readInTurn_contents h).1

/-- The keys of the entries are those of the first pairs. -/
theorem keys_of_read (h : (read reserved load files).ending = .ok (.ok catalog)) :
    catalog.entries.map (·.key) = (firsts (defaultPairs load files)).map (·.2.1) := by
  have hkeys := congrArg (List.map Prod.fst) (firsts_of_read h)
  rw [List.map_map, List.map_map] at hkeys
  exact hkeys

/-- The warnings are about the keys of the repeated pairs. -/
theorem repeats_of_read (h : (read reserved load files).ending = .ok (.ok catalog)) :
    catalog.warnings.map (·.arguments.head?) =
      ((repeats (defaultPairs load files)).map (·.2.1)).map fun key => some (some key) := by
  rw [← pairsInTurn_const load files 0, (readInTurn_contents h).2, List.map_map, List.map_map]
  rfl

section

variable (hfiles : (read reserved load files).ending = .ok (.ok catalog))
  (hothers : (read reserved load others).ending = .ok (.ok again)) (h : files.Perm others)

include hfiles hothers h

/-- **The keys of the entries are the same.** -/
theorem keys_perm : (catalog.entries.map (·.key)).Perm (again.entries.map (·.key)) := by
  have hrecords := read_records hfiles
  have hagain := read_records hothers
  refine (List.perm_ext_iff_of_nodup hrecords.nodup hagain.nodup).mpr fun key => ?_
  rw [hrecords.keys, hagain.keys, List.mem_eraseDups, List.mem_eraseDups]
  exact ((defaultPairs_perm h).map (·.2.1)).mem_iff

/-- The keys of the repeated pairs are the same, each as often. -/
theorem repeatedKeys_perm :
    ((repeats (defaultPairs load files)).map (·.2.1)).Perm
      ((repeats (defaultPairs load others)).map (·.2.1)) := by
  have hfirsts := keys_perm hfiles hothers h
  rw [keys_of_read hfiles, keys_of_read hothers] at hfirsts
  have hall := ((perm_firsts_append_repeats (defaultPairs load files)).trans
    ((defaultPairs_perm h).trans (perm_firsts_append_repeats (defaultPairs load others)).symm)).map
      (·.2.1)
  rw [List.map_append, List.map_append] at hall
  exact (List.perm_append_left_iff _).mp ((hfirsts.symm.append_right _).trans hall)

/-- **The warnings are about the same keys**, each as often. -/
theorem repeats_perm : (catalog.warnings.map (·.arguments.head?)).Perm
    (again.warnings.map (·.arguments.head?)) := by
  rw [repeats_of_read hfiles, repeats_of_read hothers]
  exact (repeatedKeys_perm hfiles hothers h).map _

/-- **A key without a warning has the same text**, and the same placeholders. -/
theorem content_eq {e f : Entry} (he : e ∈ catalog.entries) (hf : f ∈ again.entries)
    (hkey : f.key = e.key) (hsingle : some (some e.key) ∉ catalog.warnings.map (·.arguments.head?)) :
    f.content = e.content := by
  have hcontent : e.content ∈ catalog.entries.map (·.content) := List.mem_map_of_mem he
  have hother : f.content ∈ again.entries.map (·.content) := List.mem_map_of_mem hf
  rw [firsts_of_read hfiles, List.mem_map] at hcontent
  rw [firsts_of_read hothers, List.mem_map] at hother
  obtain ⟨triple, htriple, heq⟩ := hcontent
  obtain ⟨other, hmem, hothereq⟩ := hother
  have htriplekey : triple.2.1 = e.key := congrArg Prod.fst heq
  have hotherkey : other.2.1 = e.key := (congrArg Prod.fst hothereq).trans hkey
  -- the pair in the other order is among the pairs in this one, and no repeated one
  have hpair : other ∈ firsts (defaultPairs load files) := by
    have hthere := (perm_firsts_append_repeats (defaultPairs load others)).mem_iff.mp
      (List.mem_append_left _ hmem)
    have hhere := (perm_firsts_append_repeats (defaultPairs load files)).mem_iff.mpr
      ((defaultPairs_perm h).mem_iff.mpr hthere)
    refine (List.mem_append.mp hhere).resolve_right fun hrepeated => hsingle ?_
    rw [repeats_of_read hfiles, List.map_map, ← hotherkey]
    exact List.mem_map_of_mem hrepeated
  have hnodup : ((firsts (defaultPairs load files)).map (·.2.1)).Nodup := by
    rw [← keys_of_read hfiles]
    exact (read_records hfiles).nodup
  have hsame : other = triple :=
    List.inj_on_of_nodup_map hnodup hpair htriple (hotherkey.trans htriplekey.symm)
  rw [← heq, ← hothereq, hsame]

end

/-- A method is the base of its key after some underscores. -/
theorem exists_underscored (h : (read reserved load files).ending = .ok (.ok catalog)) {e : Entry}
    (he : e ∈ catalog.entries) : ∃ n, e.method = underscored n (methodBase e.key.legible) := by
  obtain ⟨used, hmade⟩ := (read_records h).made e he
  exact ⟨_, congrArg Entry.method hmade⟩

/-- **The order of the files.**  Take files that are the same whenever they are loaded, in two
orders.  A reading gives a catalog in both orders or in neither.  If it gives one,

* the keys of the entries are the same;
* the warnings are about the same keys, each as often, so there are as many of them;
* the method of a key differs in the number of its underscores at most, and its text and
  placeholders differ at most if there are warnings about the key. -/
theorem read_perm (reserved : List String) (load : Loader) {files others : List String}
    (h : files.Perm others) :
    ((∃ catalog, (read reserved load files).ending = .ok (.ok catalog)) ↔
      ∃ catalog, (read reserved load others).ending = .ok (.ok catalog)) ∧
    ∀ catalog again, (read reserved load files).ending = .ok (.ok catalog) →
      (read reserved load others).ending = .ok (.ok again) →
        (catalog.entries.map (·.key)).Perm (again.entries.map (·.key)) ∧
        (catalog.warnings.map (·.arguments.head?)).Perm (again.warnings.map (·.arguments.head?)) ∧
        catalog.warnings.length = again.warnings.length ∧
        ∀ e ∈ catalog.entries, ∀ f ∈ again.entries, f.key = e.key →
          (∃ m n, e.method = underscored m (methodBase e.key.legible) ∧
            f.method = underscored n (methodBase e.key.legible)) ∧
          (some (some e.key) ∉ catalog.warnings.map (·.arguments.head?) →
            f.text = e.text ∧ f.placeholders = e.placeholders) := by
  refine ⟨exists_read_perm h, fun catalog again hfiles hothers => ?_⟩
  have hwarnings := repeats_perm hfiles hothers h
  refine ⟨keys_perm hfiles hothers h, hwarnings, ?_, fun e he f hf hkey => ⟨?_, fun hsingle => ?_⟩⟩
  · have hlength := hwarnings.length_eq
    rwa [List.length_map, List.length_map] at hlength
  · obtain ⟨m, hm⟩ := exists_underscored hfiles he
    obtain ⟨n, hn⟩ := exists_underscored hothers hf
    rw [hkey] at hn
    exact ⟨m, n, hm, hn⟩
  · have hcontent := congrArg Prod.snd (content_eq hfiles hothers h he hf hkey hsingle)
    exact ⟨congrArg Prod.fst hcontent, congrArg Prod.snd hcontent⟩

/-- Two files that share a key, in both orders: the key takes its text from the first one. -/
theorem read_perm_sharing :
    ∃ catalog again, (read [] sharingLoader sharingFiles).ending = .ok (.ok catalog) ∧
      (read [] sharingLoader sharingFiles.reverse).ending = .ok (.ok again) ∧
      catalog.entries.map (·.key) = (["a", "b", "c"] : List String).map Text.ofString ∧
      again.entries.map (·.key) = (["b", "c", "a"] : List String).map Text.ofString ∧
      (catalog.entries.map (·.key)).Perm (again.entries.map (·.key)) ∧
      (catalog.warnings.map (·.arguments.head?)).Perm (again.warnings.map (·.arguments.head?)) ∧
      catalog.warnings.length = again.warnings.length := by
  have hboth : (read [] sharingLoader sharingFiles).ending =
        .ok (.ok ⟨[⟨"a", "A", "first", []⟩, ⟨"b", "B", "\x7b\x7bx\x7d\x7d", [⟨"x", "x"⟩]⟩,
            ⟨"c", "C", "third", []⟩],
          [⟨.duplicateKey, [some "b", some "i18n/default/2.json"]⟩]⟩) ∧
      (read [] sharingLoader sharingFiles.reverse).ending =
        .ok (.ok ⟨[⟨"b", "B", "second", []⟩, ⟨"c", "C", "third", []⟩, ⟨"a", "A", "first", []⟩],
          [⟨.duplicateKey, [some "b", some "i18n/default/1.json"]⟩]⟩) := by
    decide +kernel
  obtain ⟨hfiles, hothers⟩ := hboth
  obtain ⟨hkeys, hwarnings, hlength, -⟩ :=
    (read_perm [] sharingLoader sharingFiles.reverse_perm.symm).2 _ _ hfiles hothers
  exact ⟨_, _, hfiles, hothers, rfl, rfl, hkeys, hwarnings, hlength⟩

end Catalog

end Phrasebook
