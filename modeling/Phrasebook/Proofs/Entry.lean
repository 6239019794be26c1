import Phrasebook.Entry
import Phrasebook.Proofs.Locale.Catalog
import Phrasebook.Proofs.Placeholder

/-!
# What every entry satisfies

The key and the text of an entry are free, but what is made from them is not:

* `Entry.Sound` — the method is a member name, and the placeholders are sound;
* `Entry.sound_ofText`, `Catalog.read_sound` — for the entry of any key and text, and hence for
  all entries of a reading;
* `Entry.style_eq_none_iff`, `Entry.style_eq_dictionary_iff` — when each style is taken.
-/

namespace Phrasebook

open Phrasebook.CSharp Phrasebook.Naming Phrasebook.Text

namespace Entry

/-- What every entry satisfies, whatever its key and text. -/
structure Sound (e : Entry) : Prop where
  method : isMemberName e.method.toList = true
  placeholders : ∀ p ∈ e.placeholders, p.Sound

/-- **The entry of any key and text is sound.** -/
theorem sound_ofText (reserved used : List String) (key text : Text) :
    (ofText reserved used key text).Sound where
  method := isMemberName_methodName used key.legible
  placeholders := placeholdersOf_sound reserved text.legible

variable {e : Entry}

theorem Sound.unbroken_method (h : e.Sound) : Unbroken (ofString e.method) :=
  unbroken_of_isWord (isWord_of_isMemberName h.method)

/-! ### Styles -/

/-- Nothing is handed on exactly when there are no placeholders. -/
theorem style_eq_none_iff : e.style = .none ↔ e.placeholders = [] := by
  unfold style
  rw [← List.isEmpty_iff]
  split
  · rename_i hempty
    exact ⟨fun _ => hempty, fun _ => rfl⟩
  · rename_i hempty
    refine ⟨fun h => ?_, fun h => absurd h hempty⟩
    split at h <;> exact absurd h (by decide)

/-- **A dictionary is taken** exactly when the name of some placeholder can name no member. -/
theorem style_eq_dictionary_iff :
    e.style = .dictionary ↔ ∃ p ∈ e.placeholders, isBareName p.key = false := by
  unfold style
  split
  · rename_i hempty
    rw [List.isEmpty_iff.mp hempty]
    exact ⟨fun h => absurd h (by decide), fun ⟨p, hp, _⟩ => absurd hp List.not_mem_nil⟩
  · split
    · rename_i hall
      refine ⟨fun h => absurd h (by decide), fun ⟨p, hp, hbare⟩ => ?_⟩
      rw [List.all_eq_true.mp hall p hp] at hbare
      exact absurd hbare (by decide)
    · rename_i hall
      refine ⟨fun _ => ?_, fun _ => rfl⟩
      rw [Bool.not_eq_true, List.all_eq_false] at hall
      obtain ⟨p, hp, hbare⟩ := hall
      exact ⟨p, hp, by rw [← Bool.not_eq_true]; exact hbare⟩

end Entry

/-- **The entries of a successful reading are sound.** -/
theorem Catalog.readInTurn_sound {reserved : List String} {load : Nat → Loader}
    {files : List String} {catalog : Catalog}
    (h : (Catalog.readInTurn reserved load files).ending = .ok (.ok catalog)) :
    ∀ e ∈ catalog.entries, e.Sound := by
  intro e he
  obtain ⟨used, hmade⟩ := (Catalog.readInTurn_records h).made e he
  rw [hmade]
  exact Entry.sound_ofText reserved used e.key e.text

theorem Catalog.read_sound {reserved : List String} {load : Loader} {files : List String}
    {catalog : Catalog} (h : (Catalog.read reserved load files).ending = .ok (.ok catalog)) :
    ∀ e ∈ catalog.entries, e.Sound :=
  Catalog.readInTurn_sound h

end Phrasebook
