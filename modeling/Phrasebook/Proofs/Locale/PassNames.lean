import Phrasebook.Proofs.Locale.Catalog

/-!
# Names over a whole pass

`names_over_pass` puts the parts together: what a reading names is what `methodNames` names, no
name occurs twice or is reserved, and every name is the base of its key after the least number of
underscores that leaves the reserved names and the names before.
-/

namespace Phrasebook

open Phrasebook.Naming

/-- The number of underscores in a name of a pass is the least one that is free in its turn, and
it is the one with which the escape loop ends. -/
theorem methodNames_least {reserved keys : List String} {i : Nat} {key : String}
    (h : keys[i]? = some key) :
    ∃ c, (methodNames reserved keys)[i]? = some (underscored c (methodName [] key)) ∧
      IsLeast {n | underscored n (methodName [] key) ∉ reserved ∧
        underscored n (methodName [] key) ∉ (methodNames reserved keys).take i} c ∧
      Escaped (reserved ++ (methodNames reserved keys).take i) (methodName [] key)
        (underscored c (methodName [] key)) := by
  have hbase : (keys.map methodBase)[i]? = some (methodName [] key) := by
    rw [List.getElem?_map, h, methodName_nil]
    rfl
  rw [methodNames_eq_freshNames]
  exact freshNames_least hbase

/-- **Names over a whole pass.**  The entries of a reading have different keys and different
methods, none of them reserved, and their methods are the names of the keys in turn.  In any
sequence of keys, a name is its base after the fewest underscores that make it neither reserved
nor the name of an earlier key, and the loop that adds underscores ends for every set of names. -/
theorem names_over_pass (reserved : List String) :
    (∀ (load : Loader) (files : List String) (catalog : Catalog),
      (Catalog.read reserved load files).ending = .ok (.ok catalog) →
        (catalog.entries.map (·.key)).Nodup ∧
        (catalog.entries.map (·.method)).Nodup ∧
        (∀ e ∈ catalog.entries, e.method ∉ reserved) ∧
        catalog.entries.map (·.method) =
          methodNames reserved (catalog.entries.map (·.key.legible))) ∧
    (∀ (keys : List String) (i : Nat) (key : String), keys[i]? = some key →
      ∃ c, (methodNames reserved keys)[i]? = some (underscored c (methodName [] key)) ∧
        IsLeast {n | underscored n (methodName [] key) ∉ reserved ∧
          underscored n (methodName [] key) ∉ (methodNames reserved keys).take i} c ∧
        Escaped (reserved ++ (methodNames reserved keys).take i) (methodName [] key)
          (underscored c (methodName [] key))) ∧
    (∀ (used : List String) (name : String), ∃! result, Escaped used name result) := by
  refine ⟨?_, ?_, ?_⟩
  · intro load files catalog h
    have hrecords := Catalog.read_records h
    refine ⟨hrecords.nodup, ?_, ?_, hrecords.methods⟩
    · rw [hrecords.methods]
      exact methodNames_nodup _ reserved
    · intro e he
      have hmem : e.method ∈ catalog.entries.map (·.method) := List.mem_map_of_mem he
      rw [hrecords.methods] at hmem
      exact methodNames_not_mem hmem
  · intro keys i key h
    exact methodNames_least h
  · intro used name
    exact ⟨fresh used name, escaped_iff.mpr rfl, fun other h => escaped_iff.mp h⟩

/-- A file in which an escaped name is the base of another key. -/
def collidingLoader : Loader := fun _ => .ok "\x7b'a': '', 'A': '', '.a': '', 'Keys': ''\x7d"

/-- The colliding keys of a file are kept apart, next to the reserved names. -/
theorem names_over_pass_collision :
    ∃ catalog, (Catalog.read ["Keys"] collidingLoader ["i18n/default.json"]).ending
        = .ok (.ok catalog) ∧
      catalog.entries.map (·.method) = ["A", "_A", "__A", "_Keys"] ∧
      (catalog.entries.map (·.method)).Nodup ∧ (∀ e ∈ catalog.entries, e.method ∉ ["Keys"]) ∧
      ∃ c, (methodNames ["Keys"] ["a", "A", ".a", "Keys"])[2]? =
        some (underscored c (methodName [] ".a")) := by
  obtain ⟨catalog, hread, hmethods⟩ : ∃ catalog,
      (Catalog.read ["Keys"] collidingLoader ["i18n/default.json"]).ending = .ok (.ok catalog) ∧
      catalog.entries.map (·.method) = ["A", "_A", "__A", "_Keys"] :=
    ⟨⟨[⟨"a", "A", "", []⟩, ⟨"A", "_A", "", []⟩, ⟨".a", "__A", "", []⟩, ⟨"Keys", "_Keys", "", []⟩], []⟩,
      by decide +kernel, rfl⟩
  obtain ⟨hreads, hleast, -⟩ := names_over_pass ["Keys"]
  obtain ⟨-, hnodup, hfree, -⟩ := hreads collidingLoader ["i18n/default.json"] catalog hread
  obtain ⟨c, hc, -⟩ := hleast ["a", "A", ".a", "Keys"] 2 ".a" rfl
  exact ⟨catalog, hread, hmethods, hnodup, hfree, c, hc⟩

end Phrasebook
