import Phrasebook.Pass.Step

/-!
# What a step comes to

Two equations take a step after another apart, one for a first step that ends with a value and one
for a first step that ends with a fault.  No later proof opens the definition of `Step.bind`:

* `Step.bind_of_ok`, `Step.bind_of_error` — a step after another, in all its parts;
* `Step.ending_bind_eq_ok` — the two values behind a step that went on;
* `Step.asked_bind_sublist` — what two steps ask, in terms of what each of them may ask;
* `Step.Continues` — a step that asks some questions and then goes on as another one;
* `Step.ending_log`, `Step.asked_log`, `Step.diagnostics_log` and so on — the elementary steps.
-/

namespace Phrasebook

open Phrasebook.Log

namespace Step

variable {α β : Type}

/-- A step that went on with a value reports, logs and asks what both parts do. -/
theorem bind_of_ok {s : Step α} {a : α} (h : s.ending = .ok a) (f : α → Step β) :
    s >>= f = ⟨s.diagnostics ++ (f a).diagnostics, s.records ++ (f a).records,
      s.asked ++ (f a).asked, (f a).ending⟩ := by
  show Step.bind s f = _
  unfold Step.bind
  rw [h]

/-- After a fault nothing more happens. -/
theorem bind_of_error {s : Step α} {fault : Fault} (h : s.ending = .error fault)
    (f : α → Step β) : s >>= f = ⟨s.diagnostics, s.records, s.asked, .error fault⟩ := by
  show Step.bind s f = _
  unfold Step.bind
  rw [h]

/-- A step that went on with a value ends as what it went on with. -/
theorem ending_bind_of_ok {s : Step α} {a : α} (h : s.ending = .ok a) (f : α → Step β) :
    (s >>= f).ending = (f a).ending := by
  rw [bind_of_ok h]

/-- A fault ends both steps. -/
theorem ending_bind_of_error {s : Step α} {fault : Fault} (h : s.ending = .error fault)
    (f : α → Step β) : (s >>= f).ending = .error fault := by
  rw [bind_of_error h]

/-- **Taking a step apart.**  Two steps end with a value exactly when the first one ends with some
value and the second one, started from it, ends with that value. -/
theorem ending_bind_eq_ok {s : Step α} {f : α → Step β} {b : β} :
    (s >>= f).ending = .ok b ↔ ∃ a, s.ending = .ok a ∧ (f a).ending = .ok b := by
  cases hs : s.ending with
  | error fault =>
    rw [ending_bind_of_error hs]
    constructor
    · intro h
      exact absurd h (by simp)
    · rintro ⟨a, ha, -⟩
      exact absurd ha (by simp)
  | ok a =>
    rw [ending_bind_of_ok hs]
    constructor
    · intro h
      exact ⟨a, rfl, h⟩
    · rintro ⟨a', ha, h⟩
      rw [Except.ok.injEq] at ha
      rw [ha]
      exact h

/-- **What two steps ask.**  If the first step asks some of `first` and the second one, from
whatever value, some of `second`, then both ask some of the two lists together. -/
theorem asked_bind_sublist {s : Step α} {f : α → Step β} {first second : List Question}
    (hs : s.asked.Sublist first) (hf : ∀ a, s.ending = .ok a → (f a).asked.Sublist second) :
    (s >>= f).asked.Sublist (first ++ second) := by
  cases hending : s.ending with
  | error fault =>
    rw [bind_of_error hending]
    exact hs.trans (List.sublist_append_left first second)
  | ok a =>
    rw [bind_of_ok hending]
    exact hs.append (hf a hending)

/-- If the second step asks nothing, both ask no more than the first one. -/
theorem asked_bind_sublist_left {s : Step α} {f : α → Step β} (hf : ∀ a, (f a).asked = []) :
    (s >>= f).asked.Sublist s.asked := by
  have hboth : (s >>= f).asked.Sublist (s.asked ++ []) :=
    asked_bind_sublist (List.Sublist.refl _) fun a _ => (hf a) ▸ List.Sublist.refl _
  rwa [List.append_nil] at hboth

/-- A step asks some questions, reports nothing meanwhile, and then goes on as another step. -/
structure Continues (s : Step α) (questions : List Question) (t : Step α) : Prop where
  ending : s.ending = t.ending
  asked : s.asked = questions ++ t.asked
  diagnostics : s.diagnostics = t.diagnostics

theorem Continues.refl (s : Step α) : s.Continues [] s := ⟨rfl, rfl, rfl⟩

theorem Continues.trans {s t u : Step α} {first second : List Question}
    (h : s.Continues first t) (h' : t.Continues second u) : s.Continues (first ++ second) u where
  ending := h.ending.trans h'.ending
  asked := by rw [h.asked, h'.asked, List.append_assoc]
  diagnostics := h.diagnostics.trans h'.diagnostics

/-! ### The elementary steps -/

@[simp] theorem ending_pure (a : α) : (Pure.pure a : Step α).ending = .ok a := rfl

@[simp] theorem asked_pure (a : α) : (Pure.pure a : Step α).asked = [] := rfl

@[simp] theorem diagnostics_pure (a : α) : (Pure.pure a : Step α).diagnostics = [] := rfl

@[simp] theorem ending_log (e : Event) : (Step.log e).ending = .ok () := rfl

@[simp] theorem ending_report (d : Diagnostic) : (Step.report d).ending = .ok () := rfl

@[simp] theorem asked_report (d : Diagnostic) : (Step.report d).asked = [] := rfl

@[simp] theorem diagnostics_report (d : Diagnostic) : (Step.report d).diagnostics = [d] := rfl

@[simp] theorem ending_ask (q : Question) (answer : Except Fault α) :
    (Step.ask q answer).ending = answer := rfl

@[simp] theorem asked_ask (q : Question) (answer : Except Fault α) :
    (Step.ask q answer).asked = [q] := rfl

@[simp] theorem diagnostics_ask (q : Question) (answer : Except Fault α) :
    (Step.ask q answer).diagnostics = [] := rfl

@[simp] theorem ending_within (b : Block) (s : Step α) : (s.within b).ending = s.ending := rfl

@[simp] theorem asked_within (b : Block) (s : Step α) : (s.within b).asked = s.asked := rfl

@[simp] theorem diagnostics_within (b : Block) (s : Step α) :
    (s.within b).diagnostics = s.diagnostics := rfl

@[simp] theorem ending_reportAll (ds : List Diagnostic) : (Step.reportAll ds).ending = .ok () := by
  induction ds with
  | nil => rfl
  | cons d rest ih => exact (ending_bind_of_ok (ending_report d) fun _ => reportAll rest).trans ih

@[simp] theorem asked_reportAll (ds : List Diagnostic) : (Step.reportAll ds).asked = [] := by
  induction ds with
  | nil => rfl
  | cons d rest ih => exact ih

@[simp] theorem diagnostics_reportAll (ds : List Diagnostic) :
    (Step.reportAll ds).diagnostics = ds := by
  induction ds with
  | nil => rfl
  | cons d rest ih =>
    show d :: (reportAll rest).diagnostics = d :: rest
    rw [ih]

/-- Logging does not change how a step ends. -/
@[simp] theorem ending_log_bind (e : Event) (f : Unit → Step β) :
    (Step.log e >>= f).ending = (f ()).ending :=
  ending_bind_of_ok (ending_log e) f

/-- Logging asks nothing. -/
@[simp] theorem asked_log_bind (e : Event) (f : Unit → Step β) :
    (Step.log e >>= f).asked = (f ()).asked := rfl

/-- Logging reports nothing. -/
@[simp] theorem diagnostics_log_bind (e : Event) (f : Unit → Step β) :
    (Step.log e >>= f).diagnostics = (f ()).diagnostics := rfl

end Step

end Phrasebook
