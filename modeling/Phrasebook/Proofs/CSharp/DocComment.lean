import Phrasebook.CSharp.DocComment
import Phrasebook.Proofs.Text.Lines

/-!
# Documentation comments stay on their line

A character is written as itself only when it ends no line, and the entities have no line end in
them, so that no text leaves the line of its comment:

* `unbroken_encodePoint` — for one code point;
* `unbroken_encode` — for a text, in which CR LF counts as one character.
-/

namespace Phrasebook.CSharp

open Phrasebook.Text

namespace DocComment

theorem unbroken_encodePoint (p : Point) : Unbroken (encodePoint p) := by
  cases p with
  | half h => exact unbroken_cons.mpr ⟨rfl, unbroken_nil⟩
  | char c =>
    rw [encodePoint, unbroken_ofChars, encodeChar]
    split
    · exact forall_mem_of_all (by decide)
    · split
      · exact forall_mem_of_all (by decide)
      · split
        · exact forall_mem_of_all (by decide)
        · split
          · exact forall_mem_of_all (by decide)
          · rename_i hends
            intro d hd
            rw [List.mem_singleton.mp hd, ← Bool.not_eq_true]
            exact hends

/-- **No text leaves the line of its comment.** -/
theorem unbroken_encode (t : Text) : Unbroken (encode t) := by
  fun_induction encode t with
  | case1 => exact unbroken_nil
  | case2 rest ih => exact unbroken_cons.mpr ⟨rfl, ih⟩
  | case3 p rest _ ih => exact unbroken_append.mpr ⟨unbroken_encodePoint p, ih⟩

end DocComment

end Phrasebook.CSharp
