import Phrasebook.Proofs.Locale.Reading
import Phrasebook.Proofs.Naming.Method

/-!
# What a successful reading has read

Reading goes through files and, in each file of the default locale, through keys.  Both loops
together are one fold over the pairs of all files, so the invariant of a reading is stated once,
for a list of pairs with the files they come from:

* `inputKeys` — the different keys of the default locale;
* `Records` — the invariant: an entry for the first pair of each key, with the name of its turn;
* `Progress.records_addPair`, `Progress.records_addAll` — one step keeps it, and so does a run.
-/

namespace Phrasebook

open Phrasebook.Naming

/-- The different keys of the default locale, in the order in which they first occur. -/
def inputKeys (load : Loader) (files : List String) : List Text :=
  ((defaultPairs load files).map (·.2.1)).eraseDups

/-! ### The first occurrences of keys -/

/-- One more element is kept exactly when it has not occurred. -/
theorem eraseDups_concat {α : Type} [BEq α] [LawfulBEq α] (l : List α) (a : α) :
    (l ++ [a]).eraseDups = l.eraseDups ++ (if l.contains a then [] else [a]) := by
  rw [List.eraseDups_append, List.removeAll, List.filter_cons, List.filter_nil]
  show l.eraseDups ++ (if (!l.contains a) = true then [a] else []).eraseDups = _
  cases l.contains a with
  | false => rfl
  | true => rfl

/-- The invariant of a reading, after some pairs: each key has the entry of its first pair, its
method is named in its turn, and all else of the entry comes from the pair. -/
structure Records (reserved : List String) (triples : List (String × Text × Text))
    (entries : List Entry) : Prop where
  keys : entries.map (·.key) = (triples.map (·.2.1)).eraseDups
  nodup : (entries.map (·.key)).Nodup
  methods : entries.map (·.method) = methodNames reserved (entries.map (·.key.legible))
  made : ∀ e ∈ entries, ∃ used, e = Entry.ofText reserved used e.key e.text

theorem records_nil (reserved : List String) : Records reserved [] [] where
  keys := rfl
  nodup := List.nodup_nil
  methods := rfl
  made := by
    intro e he
    exact absurd he List.not_mem_nil

namespace Progress

theorem hasKey_iff (p : Progress) (key : Text) :
    p.hasKey key = true ↔ key ∈ p.entries.map (·.key) := by
  rw [hasKey, List.any_eq_true, List.mem_map]
  constructor
  · rintro ⟨e, he, hkey⟩
    exact ⟨e, he, beq_iff_eq.mp hkey⟩
  · rintro ⟨e, he, hkey⟩
    exact ⟨e, he, beq_iff_eq.mpr hkey⟩

/-- **One pair more keeps the invariant.** -/
theorem records_addPair {reserved : List String} {triples : List (String × Text × Text)}
    {p : Progress} (h : Records reserved triples p.entries) (path : String) (pair : Text × Text) :
    Records reserved (triples ++ [(path, pair)]) (p.addPair reserved path pair).entries := by
  have hseen : p.hasKey pair.1 = true ↔ (triples.map (·.2.1)).contains pair.1 = true := by
    rw [hasKey_iff, h.keys, List.mem_eraseDups, List.contains_iff_mem]
  unfold addPair
  split
  · -- the key is known: only the warnings change
    rename_i hkey
    refine ⟨?_, h.nodup, h.methods, h.made⟩
    rw [List.map_append, List.map_singleton, eraseDups_concat, if_pos (hseen.mp hkey),
      List.append_nil]
    exact h.keys
  · rename_i hkey
    have hnew : pair.1 ∉ p.entries.map (·.key) := fun hmem => hkey ((hasKey_iff p pair.1).mpr hmem)
    refine ⟨?_, ?_, ?_, ?_⟩
    · rw [List.map_append, List.map_append, List.map_singleton, List.map_singleton,
        eraseDups_concat, if_neg (fun hc => hkey (hseen.mpr hc)), h.keys]
      rfl
    · rw [List.map_append, List.map_singleton]
      refine List.nodup_append.mpr ⟨h.nodup, List.pairwise_singleton _ _, ?_⟩
      intro key hmem last hlast heq
      apply hnew
      rw [heq, List.mem_singleton.mp hlast] at hmem
      exact hmem
    · rw [List.map_append, List.map_append, List.map_singleton, List.map_singleton]
      show p.entries.map (·.method) ++ [methodName (reserved ++ p.entries.map (·.method)) pair.1.legible]
        = methodNames reserved (p.entries.map (·.key.legible) ++ [pair.1.legible])
      rw [methodNames_concat, ← h.methods]
    · intro e he
      rcases List.mem_append.mp he with he | he
      · exact h.made e he
      · rw [List.mem_singleton.mp he]
        exact ⟨_, rfl⟩

/-- **A whole reading keeps the invariant.** -/
theorem records_addAll (reserved : List String) (triples : List (String × Text × Text)) :
    Records reserved triples (initial.addAll reserved triples).entries := by
  induction triples using List.reverseRecOn with
  | nil => exact records_nil reserved
  | append_singleton triples triple ih =>
    rw [addAll_append]
    exact records_addPair ih triple.1 triple.2

end Progress

/-- The invariant for the catalog that a successful reading gives. -/
theorem Catalog.readInTurn_records {reserved : List String} {load : Nat → Loader}
    {files : List String} {catalog : Catalog}
    (h : (Catalog.readInTurn reserved load files).ending = .ok (.ok catalog)) :
    Records reserved (pairsInTurn load 0 files) catalog.entries := by
  rw [(Catalog.readInTurn_ok h).1]
  exact Progress.records_addAll reserved (pairsInTurn load 0 files)

/-- The same for files that are the same whenever they are loaded. -/
theorem Catalog.read_records {reserved : List String} {load : Loader} {files : List String}
    {catalog : Catalog} (h : (Catalog.read reserved load files).ending = .ok (.ok catalog)) :
    Records reserved (defaultPairs load files) catalog.entries := by
  rw [← pairsInTurn_const load files 0]
  exact Catalog.readInTurn_records h

end Phrasebook
