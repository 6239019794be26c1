import Phrasebook.Naming.Parameter
import Phrasebook.Proofs.CSharp.Word
import Phrasebook.Proofs.Naming.Fresh

/-!
# The names of parameters

A parameter is a fresh name for the base of its placeholder, written as C# wants a keyword to be
written.  The `@` is not part of the name:

* `isBareName_parameterBase` — the base of a name that is not empty is a bare name;
* `parameterNames_eq_freshNames` — the parameters are the fresh names of the bases, as written;
* `parameterNames_bare` — they are bare names, written with `@` when they are keywords;
* `map_unescaped_parameterNames` — without the `@` they are the fresh names again;
* `head_verbatim` — the `@` is there exactly when the name is a keyword;
* `parameterNames_mem`, `length_parameterNames` — every parameter is a word, and there is one for
  each name;
* `LegalParameters`, `legalParameters` — all of this, and that no two of them clash.
-/

namespace Phrasebook.Naming

open Phrasebook.CSharp Phrasebook.Text

/-- **The base of a name that is not empty is a bare name.** -/
theorem isBareName_parameterBase {key : String} (h : key.toList ≠ []) :
    isBareName (parameterBase key) = true := by
  rw [parameterBase]
  apply isBareName_guardDigitChars
  · intro hnil
    exact h (List.map_eq_nil_iff.mp hnil)
  · intro c hc
    obtain ⟨d, -, rfl⟩ := List.mem_map.mp hc
    split
    · assumption
    · rfl

/-- **The parameters are the fresh names of the bases**, with `@` before the keywords.  What is
taken is the name without the `@`. -/
theorem parameterNames_eq_freshNames (keys : List String) :
    ∀ used : List String, parameterNames used keys =
      (freshNames used (keys.map parameterBase)).map verbatim := by
  induction keys with
  | nil => intro used; rfl
  | cons key rest ih =>
    intro used
    rw [parameterNames, List.map_cons, freshNames, List.map_cons, ih]

theorem length_parameterNames (keys : List String) (used : List String) :
    (parameterNames used keys).length = keys.length := by
  rw [parameterNames_eq_freshNames, List.length_map, length_freshNames, List.length_map]

/-- Fresh names of bases are bare names. -/
theorem isBareName_of_mem_freshNames {used keys : List String} {name : String}
    (h : ∀ key ∈ keys, key.toList ≠ [])
    (hname : name ∈ freshNames used (keys.map parameterBase)) : isBareName name = true := by
  obtain ⟨base, hbase, n, rfl⟩ := exists_of_mem_freshNames hname
  obtain ⟨key, hkey, rfl⟩ := List.mem_map.mp hbase
  exact isBareName_underscored (isBareName_parameterBase (h key hkey)) n

/-- **Every parameter is a bare name that is not used**, written with `@` when it is a keyword. -/
theorem parameterNames_bare {used keys : List String} (h : ∀ key ∈ keys, key.toList ≠ []) :
    ∀ p ∈ parameterNames used keys,
      ∃ name : String, isBareName name = true ∧ name ∉ used ∧ p = verbatim name := by
  intro p hp
  rw [parameterNames_eq_freshNames] at hp
  obtain ⟨name, hname, rfl⟩ := List.mem_map.mp hp
  exact ⟨name, isBareName_of_mem_freshNames h hname, freshNames_not_mem hname, rfl⟩

/-- **Every parameter is a word**, written with `@` when it is a keyword. -/
theorem parameterNames_mem {keys : List String} (h : ∀ key ∈ keys, key.toList ≠ []) :
    ∀ {used : List String}, ∀ p ∈ parameterNames used keys,
      ∃ name : String, isWord name.toList = true ∧ p = verbatim name := by
  intro used p hp
  obtain ⟨name, hname, -, rfl⟩ := parameterNames_bare h p hp
  exact ⟨name, isWord_of_isBareName hname, rfl⟩

/-- **Without the `@` the parameters are the fresh names again.** -/
theorem map_unescaped_parameterNames {used keys : List String}
    (h : ∀ key ∈ keys, key.toList ≠ []) :
    (parameterNames used keys).map unescaped = freshNames used (keys.map parameterBase) := by
  rw [parameterNames_eq_freshNames, List.map_map]
  refine (List.map_congr_left fun name hname => ?_).trans (List.map_id _)
  exact unescaped_verbatim (isWord_of_isBareName (isBareName_of_mem_freshNames h hname))

/-- **The `@` is there exactly when the name is a keyword.** -/
theorem head_verbatim {name : String} (h : isBareName name = true) :
    (verbatim name).toList.head? = some '@' ↔ isKeyword name = true := by
  rw [verbatim]
  split
  · rename_i hkeyword
    rw [String.toList_append]
    exact iff_of_true rfl hkeyword
  · rename_i hkeyword
    refine iff_of_false (fun hat => ?_) hkeyword
    have hpart := isWordPart_of_mem (isWord_of_isBareName h) '@' (List.mem_of_head? hat)
    rw [isWordPart_delimiter '@' (by decide)] at hpart
    exact absurd hpart Bool.false_ne_true

/-! ### Parameters for any names -/

/-- What the parameters for some names satisfy, beside names that they must not have.  What is
compared is the name without the `@`. -/
structure LegalParameters (reserved keys parameters : List String) : Prop where
  length : parameters.length = keys.length
  legal : ∀ p ∈ parameters, ∃ first rest, (unescaped p).toList = first :: rest ∧
    (first = '_' ∨ isLetter first = true) ∧
    ∀ c ∈ rest, c = '_' ∨ isLetter c = true ∨ isDecimalDigit c = true
  free : ∀ p ∈ parameters, unescaped p ∉ reserved
  escaped : ∀ p ∈ parameters, p = verbatim (unescaped p) ∧
    (p.toList.head? = some '@' ↔ isKeyword (unescaped p) = true)
  nodup : (parameters.map unescaped).Nodup
  /-- Each has as few underscores in front of its base as the names that are taken in its turn
  allow, and the escape loop ends with it. -/
  least : ∀ (i : Nat) (key : String), keys[i]? = some key →
    ∃ n, (parameters.map unescaped)[i]? = some (underscored n (parameterBase key)) ∧
      IsLeast {n | underscored n (parameterBase key) ∉ reserved ∧
        underscored n (parameterBase key) ∉ (parameters.map unescaped).take i} n ∧
      Escaped (reserved ++ (parameters.map unescaped).take i) (parameterBase key)
        (underscored n (parameterBase key))

/-- The characters of a bare name. -/
theorem exists_of_isBareName {name : String} (h : isBareName name = true) :
    ∃ first rest, name.toList = first :: rest ∧ (first = '_' ∨ isLetter first = true) ∧
      ∀ c ∈ rest, c = '_' ∨ isLetter c = true ∨ isDecimalDigit c = true := by
  obtain ⟨first, rest, hname, hfirst, -, hrest⟩ := isBareName_iff.mp h
  refine ⟨first, rest, hname, hfirst, fun c hc => ?_⟩
  have hchar := hrest c hc
  rwa [isIdentifierChar, isLetterOrDigit, Bool.or_eq_true, Bool.or_eq_true, beq_iff_eq] at hchar

/-- **The parameters are legal**, for any names that are not empty, repeated or not. -/
theorem legalParameters {reserved keys : List String} (h : ∀ key ∈ keys, key.toList ≠ []) :
    LegalParameters reserved keys (parameterNames reserved keys) := by
  have hname : ∀ p ∈ parameterNames reserved keys, ∃ name : String,
      isBareName name = true ∧ name ∉ reserved ∧ p = verbatim name ∧ unescaped p = name := by
    intro p hp
    obtain ⟨name, hbare, hfree, rfl⟩ := parameterNames_bare h p hp
    exact ⟨name, hbare, hfree, rfl, unescaped_verbatim (isWord_of_isBareName hbare)⟩
  refine ⟨length_parameterNames keys reserved, ?_, ?_, ?_, ?_, ?_⟩
  · intro p hp
    obtain ⟨name, hbare, -, -, hp⟩ := hname p hp
    rw [hp]
    exact exists_of_isBareName hbare
  · intro p hp
    obtain ⟨name, -, hfree, -, hp⟩ := hname p hp
    rwa [hp]
  · intro p hp
    obtain ⟨name, hbare, -, hwritten, hp⟩ := hname p hp
    rw [hp]
    refine ⟨hwritten, ?_⟩
    rw [hwritten]
    exact head_verbatim hbare
  · rw [map_unescaped_parameterNames h]
    exact freshNames_nodup _ reserved
  · intro i key hkey
    rw [map_unescaped_parameterNames h]
    apply freshNames_least
    rw [List.getElem?_map, hkey, Option.map_some]

end Phrasebook.Naming
