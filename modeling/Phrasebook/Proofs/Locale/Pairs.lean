import Mathlib.Data.List.Nodup
import Phrasebook.Locale.Pairs
import Phrasebook.Proofs.Json5.Document

/-!
# Loading undoes writing

A locale file is an object of strings.  There are many ways to write one, and loading gives the same
keys and texts for all of them:

* `WritesPairs` — the texts that write keys and texts as one object, in order;
* `textMembers_stringMember` — members whose values are strings are keys and texts;
* `pairsOf_of_writesPairs` — **different keys and their texts come back** from every such text;
* `loadPairs_undoes_writing` — so they do from a file, and every list can be written.
-/

namespace Phrasebook

open Phrasebook.Json5 Phrasebook.Text

/-- Keys and texts that have no halves. -/
def plainPairs (pairs : List (String × String)) : List (Text × Text) :=
  pairs.map fun p => (ofString p.1, ofString p.2)

/-- The texts that write keys and texts as one object, in this order.  Each key and each text stands
between quotes of one kind, its characters raw or escaped; blanks and comments are around the
tokens; and there may be a comma behind the last text. -/
def WritesPairs (pairs : List (String × String)) (text : String) : Prop :=
  ∃ trailing : Bool, (trailing = true → pairs ≠ []) ∧
    Written (objectTokens trailing (plainPairs pairs)) text.toList

/-- Members whose values are strings are keys and texts. -/
theorem textMembers_stringMember (members : List (Text × Text)) :
    textMembers (members.map stringMember) = .ok members := by
  induction members with
  | nil => rfl
  | cons member rest ih =>
    rw [List.map_cons, stringMember, textMembers, ih]
    rfl

/-- Different keys stay different as texts. -/
theorem nodup_plainPairs {pairs : List (String × String)} (h : (pairs.map Prod.fst).Nodup) :
    ((plainPairs pairs).map Prod.fst).Nodup := by
  have hkeys : (plainPairs pairs).map Prod.fst = (pairs.map Prod.fst).map ofString := by
    rw [plainPairs, List.map_map, List.map_map]
    rfl
  rw [hkeys]
  exact h.map fun _ _ => ofString_injective

/-- **Different keys and their texts come back** from every text that writes them. -/
theorem pairsOf_of_writesPairs {pairs : List (String × String)} {text : String}
    (hdistinct : (pairs.map Prod.fst).Nodup) (h : WritesPairs pairs text) :
    pairsOf text = .ok (.ok (plainPairs pairs)) := by
  obtain ⟨trailing, htrailing, hwritten⟩ := h
  have hne : trailing = true → plainPairs pairs ≠ [] :=
    fun ht hnil => htrailing ht (List.map_eq_nil_iff.mp hnil)
  have hkeys : (((plainPairs pairs).map stringMember).map Prod.fst).Nodup := by
    rw [List.map_map]
    exact nodup_plainPairs hdistinct
  rw [pairsOf, parse_of_written hne hwritten]
  show Except.ok (textMembers (Bindings.ofList _).toList) = _
  rw [Bindings.toList_ofList hkeys, textMembers_stringMember]

/-- **Loading undoes writing.**  Any list of keys and texts, with different keys, can be written as
one object, and however it is written, with either kind of quotes, raw or escaped characters, blanks
and comments and a comma at the end, a file with this text gives exactly this list. -/
theorem loadPairs_undoes_writing {pairs : List (String × String)}
    (hdistinct : (pairs.map Prod.fst).Nodup) :
    (∃ text, WritesPairs pairs text) ∧
      ∀ (text : String), WritesPairs pairs text → ∀ (load : Loader) (path : String),
        load path = .ok text →
          loadPairs load path =
            .ok (.ok (pairs.map fun p => (ofString p.1, ofString p.2))) := by
  constructor
  · obtain ⟨text, htext⟩ := exists_written_objectTokens false pairs
    refine ⟨String.ofList text, false, fun h => absurd h Bool.false_ne_true, ?_⟩
    rw [String.toList_ofList]
    exact htext
  · intro text htext load path hload
    rw [loadPairs, hload]
    exact pairsOf_of_writesPairs hdistinct htext

/-- Two members in both kinds of quotes, with an escape, comments and a comma at the end. -/
theorem writesPairs_commented :
    WritesPairs [("a", "A"), ("b", "/*'*/")]
      "// keys\n\x7b\"a\": '\\u0041' /***/, 'b': \"/*'*/\",\x7d//" := by
  have hdouble : '"' ∈ quotes := by decide
  have hsingle : '\x27' ∈ quotes := by decide
  have hspace : Gap [' '] := .blank (by decide) .nil
  have hline : Gap ('/' :: '/' :: [' ', 'k', 'e', 'y', 's'] ++ '\n' :: []) :=
    .line (forall_mem_of_all (by decide)) (by decide) .nil
  have hblock : Gap (' ' :: ('/' :: '*' :: ['*'] ++ '*' :: '/' :: [])) :=
    .blank (by decide) (.block (by decide) .nil)
  have hlast : LastGap ([] ++ '/' :: '/' :: []) := .line .nil (List.forall_mem_nil _)
  have hescaped : Spelling '\x27' ('\\' :: ['u', '0', '0', '4', '1'] ++ []) ['A'] :=
    .escape (.unit (by decide)) .nil
  have hfirst : Spelling '"' ['a'] ['a'] := spelling_of_raw (by decide)
  have hsecond : Spelling '\x27' ['b'] ['b'] := spelling_of_raw (by decide)
  have hcomment : Spelling '"' ['/', '*', '\x27', '*', '/'] ['/', '*', '\x27', '*', '/'] :=
    spelling_of_raw (by decide)
  -- what follows the first member, and then all of it
  have hrest := Written.cons hspace (.string hsingle hsecond) (.cons .nil .colon
    (.cons hspace (.string hdouble hcomment) (.cons .nil .comma (.cons .nil .closeBrace
      (.nil hlast)))))
  have hall := Written.cons hline .openBrace (.cons .nil (.string hdouble hfirst)
    (.cons .nil .colon (.cons hspace (.string hsingle hescaped) (.cons hblock .comma hrest))))
  exact ⟨true, fun _ => List.cons_ne_nil _ _, hall⟩

/-- The file with this text gives its two keys and texts. -/
theorem loadPairs_undoes_writing_commented :
    (∃ text, WritesPairs [("a", "A"), ("b", "/*'*/")] text) ∧
      loadPairs
          (fun _ => .ok "// keys\n\x7b\"a\": '\\u0041' /***/, 'b': \"/*'*/\",\x7d//")
          "i18n/default.json" =
        .ok (.ok [("a", "A"), ("b", "/*'*/")]) := by
  have hdistinct : ([("a", "A"), ("b", "/*'*/")].map Prod.fst).Nodup := by decide
  obtain ⟨hexists, hloads⟩ := loadPairs_undoes_writing hdistinct
  exact ⟨hexists, hloads _ writesPairs_commented _ _ rfl⟩

end Phrasebook
