import Phrasebook.Json5.Document
import Phrasebook.Proofs.Json5.Token
import Phrasebook.Proofs.Text.Lines

/-!
# Reading an object of strings

The members of an object are read one after the other, and what has been read is kept in reverse:

* `memberTokens`, `objectTokens` — the tokens of a member and of an object, perhaps with a comma
  behind its last member;
* `run_memberTokens`, `run_members` — one member more, and all members;
* `run_objectTokens`, `ofTokens_objectTokens` — the whole object, at any place and as a document;
* `parse_of_written` — every way to write an object of strings is read as this object;
* `exists_written_objectTokens` — every object of strings can be written.
-/

namespace Phrasebook.Json5

open Phrasebook.Text

/-- The tokens of a member whose value is a string. -/
def memberTokens (member : Text × Text) : List Token :=
  [.string member.1, .colon, .string member.2]

/-- The tokens of an object of strings, perhaps with a comma behind the last member. -/
def objectTokens (trailing : Bool) (members : List (Text × Text)) : List Token :=
  .openBrace :: ([Token.comma].intercalate (members.map memberTokens)
    ++ (if trailing then [.comma] else []) ++ [.closeBrace])

/-- A member whose value is a string. -/
def stringMember (member : Text × Text) : Text × Value :=
  (member.1, .string member.2)

/-! ### Members -/

/-- **One member more.** -/
theorem run_memberTokens {outer : Hole} (hdepth : outer.depth + objectDepth + 4 ≤ maxDepth)
    (before : List (Text × Value)) (member : Text × Text) :
    (memberTokens member).foldlM State.step (.key before outer) =
      .ok (.afterMember (stringMember member :: before) outer) := by
  have hlater : laterDepth before ≤ 4 := by
    unfold laterDepth
    split <;> omega
  have hmember : (Hole.member before member.1 outer).depth ≤ maxDepth := by
    rw [Hole.depth]
    omega
  have hcolon : State.step (.colon before member.1 outer) .colon =
      .ok (.value (.member before member.1 outer)) := by
    rw [State.step, Hole.reach, if_pos hmember]
  rw [memberTokens, List.foldlM_cons]
  show List.foldlM State.step (.colon before member.1 outer) [.colon, .string member.2] = _
  rw [List.foldlM_cons, hcolon]
  rfl

/-- **All members**, one after the other. -/
theorem run_members {outer : Hole} (hdepth : outer.depth + objectDepth + 4 ≤ maxDepth)
    {members : List (Text × Text)} (hne : members ≠ []) :
    ∀ before : List (Text × Value),
      ([Token.comma].intercalate (members.map memberTokens)).foldlM State.step
          (.key before outer) =
        .ok (.afterMember ((members.map stringMember).reverse ++ before) outer) := by
  induction members with
  | nil => exact absurd rfl hne
  | cons member rest ih =>
    intro before
    cases rest with
    | nil =>
      rw [List.map_singleton, List.intercalate_singleton]
      exact run_memberTokens hdepth before member
    | cons other rest =>
      have hreverse : ((member :: other :: rest).map stringMember).reverse ++ before =
          ((other :: rest).map stringMember).reverse ++ stringMember member :: before := by
        rw [List.map_cons, List.reverse_cons, List.append_assoc, List.singleton_append]
      rw [List.map_cons, List.map_cons, List.intercalate_cons_cons, ← List.map_cons,
        List.foldlM_append, List.foldlM_append, run_memberTokens hdepth]
      show List.foldlM State.step (.key (stringMember member :: before) outer) _ = _
      rw [ih (List.cons_ne_nil other rest), ← hreverse]

/-! ### Objects -/

/-- **A whole object**, at any place that is not too deep. -/
theorem run_objectTokens {hole : Hole} (hdepth : hole.depth + objectDepth + 4 ≤ maxDepth)
    {trailing : Bool} {members : List (Text × Text)} (hne : trailing = true → members ≠ []) :
    (objectTokens trailing members).foldlM State.step (.value hole) =
      .ok (hole.fill (.object (members.map stringMember))) := by
  rw [objectTokens, List.foldlM_cons]
  show List.foldlM State.step (.key [] hole) _ = _
  by_cases hnil : members = []
  · have htrailing : trailing = false := by
      rw [← Bool.not_eq_true]
      exact fun h => hne h hnil
    rw [hnil, htrailing]
    rfl
  · have hfill : ∀ before : List (Text × Value),
        ((if trailing then [Token.comma] else []) ++ [Token.closeBrace]).foldlM State.step
            (.afterMember before hole) = .ok (hole.fill (.object before.reverse)) := by
      cases trailing <;> exact fun before => rfl
    rw [List.append_assoc, List.foldlM_append, run_members hdepth hnil]
    show List.foldlM State.step (.afterMember _ hole) _ = _
    rw [hfill, List.append_nil, List.reverse_reverse]

theorem ofTokens_objectTokens {trailing : Bool} {members : List (Text × Text)}
    (hne : trailing = true → members ≠ []) :
    Value.ofTokens (objectTokens trailing members) = .ok (.object (members.map stringMember)) := by
  have hdepth : Hole.document.depth + objectDepth + 4 ≤ maxDepth := by decide
  rw [Value.ofTokens, run_objectTokens hdepth hne]
  rfl

/-- What is true of all tokens that an object of strings may have. -/
theorem forall_mem_objectTokens {trailing : Bool} {members : List (Text × Text)}
    {P : Token → Prop} (hfixed : ∀ t ∈ [Token.openBrace, .closeBrace, .colon, .comma], P t)
    (hmembers : ∀ member ∈ members, P (.string member.1) ∧ P (.string member.2)) :
    ∀ t ∈ objectTokens trailing members, P t := by
  simp only [List.forall_mem_cons] at hfixed
  obtain ⟨hopen, hclose, hcolon, hcomma, -⟩ := hfixed
  have hmember : ∀ tokens ∈ members.map memberTokens, ∀ t ∈ tokens, P t := by
    rw [List.forall_mem_map]
    intro member hmem
    obtain ⟨hkey, htext⟩ := hmembers member hmem
    simp only [memberTokens, List.forall_mem_cons]
    exact ⟨hkey, hcolon, htext, List.forall_mem_nil _⟩
  rw [objectTokens, List.forall_mem_cons, List.forall_mem_append, List.forall_mem_append]
  refine ⟨hopen, ⟨forall_mem_intercalate (List.forall_mem_singleton.mpr hcomma) hmember, ?_⟩,
    List.forall_mem_singleton.mpr hclose⟩
  split
  · exact List.forall_mem_singleton.mpr hcomma
  · exact List.forall_mem_nil _

/-- **Every way to write an object of strings is read as this object.** -/
theorem parse_of_written {trailing : Bool} {members : List (Text × Text)} {text : String}
    (hne : trailing = true → members ≠ [])
    (h : Written (objectTokens trailing members) text.toList) :
    parse text = .ok (.object (members.map stringMember)) := by
  have hnumber : (objectTokens trailing members).contains (.number true) = false := by
    rw [← Bool.not_eq_true, List.contains_iff_mem]
    intro hmem
    exact forall_mem_objectTokens (P := (· ≠ .number true)) (by decide)
      (fun _ _ => ⟨by simp, by simp⟩) _ hmem rfl
  simp only [parse, h.tokens_eq, ofTokens_objectTokens hne, hnumber, if_neg Bool.false_ne_true]

/-- **Every object of strings can be written**, if there are no halves in it. -/
theorem exists_written_objectTokens (trailing : Bool) (members : List (String × String)) :
    ∃ text, Written
      (objectTokens trailing (members.map fun p => (ofString p.1, ofString p.2))) text := by
  have hstring : ∀ s : String, ∃ writing, Writes (.string (ofString s)) writing := by
    intro s
    have hquote : '"' ∈ quotes := List.mem_cons_self
    obtain ⟨body, hbody⟩ := exists_spelling hquote s.toList
    exact ⟨_, .string hquote hbody⟩
  refine exists_written (forall_mem_objectTokens ?_ ?_)
  · simp only [List.forall_mem_cons]
    exact ⟨⟨_, .openBrace⟩, ⟨_, .closeBrace⟩, ⟨_, .colon⟩, ⟨_, .comma⟩, List.forall_mem_nil _⟩
  · exact List.forall_mem_map.mpr fun p _ => ⟨hstring p.1, hstring p.2⟩

end Phrasebook.Json5
