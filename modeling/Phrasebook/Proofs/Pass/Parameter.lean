import Phrasebook.Proofs.ClassSource.Depth
import Phrasebook.Proofs.Pass.Generation

/-!
# The parameters of a class

The body of a method names the class, its nested class of keys and its lookup method.  A parameter
of the same name would be meant instead of them:

* `called` — the names in the body of a method;
* `Entry.parameters_ofText`, `parameters_of_records` — the parameters of the methods in a class;
* `parameters_capture_nothing` — parameters are legal, fresh and hide none of these names.
-/

namespace Phrasebook

open Phrasebook.CSharp Phrasebook.Naming Phrasebook.Text
open Phrasebook.ClassSource

/-- The names that the body of every method of a class uses. -/
def called (o : ClassOptions) : List String :=
  [o.className, "Keys", "GetByKey"]

theorem called_subset (o : ClassOptions) : called o ⊆ reservedNames o.className :=
  List.cons_subset_cons o.className (by decide)

/-- The parameters of a method are those for the names of the placeholders. -/
theorem Entry.parameters_ofText (reserved used : List String) (key text : Text) :
    (methodOf (Entry.ofText reserved used key text)).parameters =
      parameterNames reserved (placeholderNames text.legible) :=
  placeholdersOf_parameters reserved text.legible

/-- **The parameters in a class are legal**, beside the names that it keeps for itself. -/
theorem parameters_of_records {reserved : List String} {triples : List (String × Text × Text)}
    {entries : List Entry} (h : Records reserved triples entries) :
    ∀ e ∈ entries, LegalParameters reserved (placeholderNames e.text.legible)
      (methodOf e).parameters := by
  intro e he
  obtain ⟨used, hmade⟩ := h.made e he
  have hparameters : (methodOf e).parameters =
      parameterNames reserved (placeholderNames e.text.legible) :=
    (congrArg (fun e => (methodOf e).parameters) hmade).trans
      (Entry.parameters_ofText reserved used e.key e.text)
  rw [hparameters]
  exact legalParameters fun key hkey => (placeholderNames_mem hkey).1

/-- **Parameters are legal, fresh and capture nothing.**

* For any names that are not empty and any names that are reserved, there is one parameter for each
  name, in order.  Without its `@` it begins with an underscore or a letter and goes on with
  letters, decimal digits and underscores, it is not reserved and no two are the same; it has the
  `@` exactly when the rest is a keyword; and it is the base of its name after the least number of
  underscores that makes it neither reserved nor one of those before it, with which the escape loop
  ends.
* Let a pass give a source.  Its lines declare one method for each entry, with such parameters for
  the placeholders of the entry, and no parameter is the name of the class, of the class of keys or
  of the lookup method. -/
theorem parameters_capture_nothing :
    (∀ reserved keys : List String, (∀ key ∈ keys, key ≠ "") →
      LegalParameters reserved keys (parameterNames reserved keys)) ∧
    ∀ {s : Surroundings} {files : List String} {out : Text},
      (generateIn s files).output = some out →
      ∃ o catalog tail, (resolveWith s.property).ending = .ok o ∧
        (Catalog.readInTurn (reservedNames o.className) s.file files).ending =
          .ok (.ok catalog) ∧
        out = unlines (plain (headerLines catalog.entries)) ++ namespaceLine o.namespaceName
          ++ .char '\n' :: tail ∧
        methodsOf o (tail.splitOn (.char '\n')) =
          catalog.entries.map (fun e => some (methodOf e)) ∧
        ∀ e ∈ catalog.entries,
          LegalParameters (reservedNames o.className) (placeholderNames e.text.legible)
            (methodOf e).parameters ∧
          ∀ p ∈ (methodOf e).parameters, unescaped p ∉ called o := by
  constructor
  · intro reserved keys h
    exact legalParameters fun key hkey hnil => h key hkey (String.toList_eq_nil_iff.mp hnil)
  · intro s files out hout
    obtain ⟨o, catalog, ho, hread, rfl⟩ := generateIn_output hout
    have hsound := Catalog.readInTurn_sound hread
    have hlegal := parameters_of_records (Catalog.readInTurn_records hread)
    refine ⟨o, catalog, unlines (bodyLines o catalog.entries), ho, hread,
      source_eq o catalog.entries, ?_, fun e he => ⟨hlegal e he, fun p hp hcalled => ?_⟩⟩
    · rw [splitOn_bodyLines (resolveWith_ok ho) hsound]
      exact methodsOf_bodyLines (resolveWith_ok ho) hsound
    · exact (hlegal e he).free p hp (called_subset o hcalled)

/-- A file with a text that has placeholders named like members of the class. -/
def capturingLoader : Loader := fun _ =>
  .ok "\x7b'k': '\x7b\x7bKeys\x7d\x7d \x7b\x7bclass\x7d\x7d \x7b\x7b_Keys\x7d\x7d'\x7d"

/-- Names that get in each other's way, and placeholders named like members. -/
theorem parameters_capture_nothing_colliding :
    parameterNames ["Keys"] ["2x", "_2x", "a.b", "_a_b", "class", "Keys", "2x"] =
        ["_2x", "__2x", "a_b", "_a_b", "@class", "_Keys", "___2x"] ∧
      LegalParameters ["Keys"] ["2x", "_2x", "a.b", "_a_b", "class", "Keys", "2x"]
        ["_2x", "__2x", "a_b", "_a_b", "@class", "_Keys", "___2x"] ∧
      ∃ catalog tail before,
        (generate noProperties capturingLoader ["i18n/default.json"]).output =
          some (before ++ .char '\n' :: tail) ∧
        (methodsOf plainOptions (tail.splitOn (.char '\n'))).map (·.map (·.parameters)) =
          [some ["_Keys", "@class", "__Keys"]] ∧
        ∀ e ∈ Catalog.entries catalog, ∀ p ∈ (methodOf e).parameters,
          unescaped p ∉ [defaultClassName, "Keys", "GetByKey"] := by
  have hnames : parameterNames ["Keys"] ["2x", "_2x", "a.b", "_a_b", "class", "Keys", "2x"] =
      ["_2x", "__2x", "a_b", "_a_b", "@class", "_Keys", "___2x"] := by decide +kernel
  have hoptions : (resolveOptions noProperties).ending = .ok plainOptions := rfl
  have hsome :
      (generate noProperties capturingLoader ["i18n/default.json"]).output.isSome = true := by
    decide +kernel
  have hparameters : (Catalog.read (reservedNames plainOptions.className) capturingLoader
      ["i18n/default.json"]).ending.toOption.bind (·.toOption.map fun catalog =>
        catalog.entries.map fun e => (methodOf e).parameters) =
      some [["_Keys", "@class", "__Keys"]] := by decide +kernel
  obtain ⟨out, hout⟩ := Option.isSome_iff_exists.mp hsome
  refine ⟨hnames, ?_, ?_⟩
  · rw [← hnames]
    exact parameters_capture_nothing.1 ["Keys"] _ (by decide)
  · obtain ⟨o, catalog, tail, ho, hread, heq, hmethods, hfree⟩ :=
      parameters_capture_nothing.2 (s := .steady noProperties capturingLoader) hout
    obtain rfl := Except.ok.inj (ho.symm.trans hoptions)
    refine ⟨catalog, tail, _, hout.trans (congrArg some heq), ?_, fun e he => (hfree e he).2⟩
    have hcatalog : (Catalog.read (reservedNames plainOptions.className) capturingLoader
        ["i18n/default.json"]).ending = .ok (.ok catalog) := hread
    rw [hcatalog] at hparameters
    have hentries : catalog.entries.map (fun e => (methodOf e).parameters) =
        [["_Keys", "@class", "__Keys"]] := Option.some.inj hparameters
    have hread := congrArg (List.map some) hentries
    rw [List.map_map] at hread
    rw [hmethods, List.map_map]
    exact hread

end Phrasebook
