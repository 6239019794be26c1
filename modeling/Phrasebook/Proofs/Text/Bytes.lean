import Phrasebook.Text.Bytes

/-!
# Bytes that are no text

The text of a file is read from bytes that are UTF-8.  The byte order mark is the UTF-8 of a
character itself, so it makes no difference whether it is dropped before or after the bytes are
looked at:

* `Undecodable` — the bytes are the UTF-8 of no text, and no beginning of the mark either;
* `isValidUTF8_iff` — bytes that are UTF-8 are those of a string;
* `readText_eq_none_iff` — the bytes that no text is read from are the undecodable ones.
-/

namespace Phrasebook.Text

/-- Bytes that are no text.  A file may end within the byte order mark: what there is of the mark
counts as an empty text. -/
def Undecodable (bytes : ByteArray) : Prop :=
  (∀ s : String, s.toUTF8 ≠ bytes) ∧ ¬ bytes.data.toList <+: byteOrderMark

theorem isValidUTF8_iff {bytes : ByteArray} :
    bytes.IsValidUTF8 ↔ ∃ s : String, s.toUTF8 = bytes := by
  constructor
  · intro h
    exact ⟨String.fromUTF8 bytes h, rfl⟩
  · rintro ⟨s, rfl⟩
    exact s.isValidUTF8

theorem fromUTF8?_eq_none_iff {bytes : ByteArray} :
    String.fromUTF8? bytes = none ↔ ¬ bytes.IsValidUTF8 := by
  unfold String.fromUTF8?
  split
  · rename_i h
    exact ⟨fun hnone => absurd hnone (by simp), fun hnot => absurd h hnot⟩
  · rename_i h
    exact ⟨fun _ => h, fun _ => rfl⟩

/-- The mark is the UTF-8 of one character. -/
theorem utf8Encode_mark : ['\ufeff'].utf8Encode = ⟨byteOrderMark.toArray⟩ := by
  decide +kernel

/-- Bytes behind the mark are UTF-8 exactly when they are with the mark in front. -/
theorem isValidUTF8_drop {bytes : ByteArray} (h : byteOrderMark <+: bytes.data.toList) :
    (⟨(bytes.data.toList.drop 3).toArray⟩ : ByteArray).IsValidUTF8 ↔ bytes.IsValidUTF8 := by
  obtain ⟨rest, hrest⟩ := h
  have hdrop : bytes.data.toList.drop 3 = rest := by
    rw [← hrest]
    rfl
  have hbytes : bytes = ['\ufeff'].utf8Encode ++ ⟨rest.toArray⟩ := by
    rw [utf8Encode_mark]
    apply ByteArray.ext
    rw [ByteArray.data_append]
    apply Array.toList_inj.mp
    rw [Array.toList_append, ← hrest]
  rw [hdrop, hbytes, ByteArray.isValidUTF8_utf8Encode_singleton_append_iff]

/-- **What no text is read from** are the undecodable bytes. -/
theorem readText_eq_none_iff {bytes : ByteArray} : readText bytes = none ↔ Undecodable bytes := by
  have hvalid : (∀ s : String, s.toUTF8 ≠ bytes) ↔ ¬ bytes.IsValidUTF8 := by
    rw [isValidUTF8_iff]
    exact not_exists.symm
  rw [readText, Option.map_eq_none_iff, fromUTF8?_eq_none_iff, Undecodable, hvalid, dropMark]
  split
  · rename_i hmark
    rw [List.isPrefixOf_iff_prefix] at hmark
    rw [isValidUTF8_drop hmark]
    refine ⟨fun h => ⟨h, fun hpart => ?_⟩, fun h => h.1⟩
    -- only the mark itself both begins with the mark and is a beginning of it
    have hbytes : bytes = ['\ufeff'].utf8Encode := by
      rw [utf8Encode_mark]
      apply ByteArray.ext
      apply Array.toList_inj.mp
      exact hpart.eq_of_length_le hmark.length_le
    exact h (.intro ['\ufeff'] hbytes)
  · split
    · rename_i hpart
      rw [List.isPrefixOf_iff_prefix] at hpart
      have hempty : (⟨([] : List UInt8).toArray⟩ : ByteArray).IsValidUTF8 := .intro [] rfl
      exact ⟨fun h => absurd hempty h, fun h => absurd hpart h.2⟩
    · rename_i hpart
      rw [List.isPrefixOf_iff_prefix] at hpart
      exact ⟨fun h => ⟨h, hpart⟩, fun h => h.1⟩

end Phrasebook.Text
