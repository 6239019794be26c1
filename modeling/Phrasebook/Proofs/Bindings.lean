import Phrasebook.Bindings

/-!
# Many names at once

What is put in over other values, and what is left when names are taken out:

* `Bindings.get?_override` — the last value that was put in for a name, or the one that it had;
* `Bindings.get?_override_of_mem`, `Bindings.get?_override_of_not_mem` — the value of a name that was
  put in once, and of one that was not;
* `Bindings.get?_override_toList` — bindings over other ones, name by name;
* `Bindings.without`, `Bindings.get?_without` — the values of all other names, at their places;
* `Bindings.without_override` — taking names out takes out what was put in for them.
-/

namespace Phrasebook

namespace Bindings

variable {κ α : Type}

/-- Named values are known by their list. -/
theorem toList_injective {b c : Bindings κ α} (h : b.toList = c.toList) : b = c := by
  cases b
  cases c
  cases h
  rfl

variable [DecidableEq κ]

/-- **A value after many were put in**: the last one for the name, or the one it had before. -/
theorem get?_override (b : Bindings κ α) (l : List (κ × α)) (name : κ) :
    (b.override l).get? name = (l.reverse.lookup name).or (b.get? name) := by
  induction l generalizing b with
  | nil => rfl
  | cons p rest ih =>
    show ((b.set p.1 p.2).override rest).get? name = _
    rw [ih, get?_set, List.reverse_cons, List.lookup_append, Option.or_assoc]
    by_cases hname : name = p.1
    · have hb : (name == p.1) = true := beq_iff_eq.mpr hname
      rw [if_pos hname, List.lookup_cons, hb]
      rfl
    · have hb : (name == p.1) = false := beq_false_of_ne hname
      rw [if_neg hname, List.lookup_cons, hb]
      rfl

/-- What is put in under other names leaves a name alone. -/
theorem get?_override_of_not_mem {l : List (κ × α)} {name : κ} (h : name ∉ l.map Prod.fst)
    (b : Bindings κ α) : (b.override l).get? name = b.get? name := by
  have hnone : l.reverse.lookup name = none := by
    rw [List.lookup_eq_none_iff]
    intro p hp
    refine bne_iff_ne.mpr fun heq => h ?_
    rw [heq]
    exact List.mem_map_of_mem (List.mem_reverse.mp hp)
  rw [get?_override, hnone, Option.none_or]

/-- Where names are distinct, their order does not count. -/
theorem lookup_reverse {l : List (κ × α)} (h : (l.map Prod.fst).Nodup) (name : κ) :
    l.reverse.lookup name = l.lookup name := by
  have hreversed : (l.reverse.map Prod.fst).Nodup := by
    rw [List.map_reverse]
    exact (List.reverse_perm _).nodup_iff.mpr h
  refine Option.ext fun value => ?_
  rw [lookup_eq_some_iff_mem name value hreversed, lookup_eq_some_iff_mem name value h,
    List.mem_reverse]

/-- What is put in under different names is there afterwards. -/
theorem get?_override_of_mem {l : List (κ × α)} {name : κ} {value : α}
    (hnodup : (l.map Prod.fst).Nodup) (h : (name, value) ∈ l) (b : Bindings κ α) :
    (b.override l).get? name = some value := by
  rw [get?_override, lookup_reverse hnodup, (lookup_eq_some_iff_mem name value hnodup).mpr h,
    Option.some_or]

/-- **Bindings over other ones**: a name has the value of the upper ones, if they have it. -/
theorem get?_override_toList (b c : Bindings κ α) (name : κ) :
    (b.override c.toList).get? name = (c.get? name).or (b.get? name) := by
  rw [get?_override, lookup_reverse c.nodup]
  rfl

/-! ### Names taken out -/

/-- The values of all but some names, each at its place. -/
def without (b : Bindings κ α) (names : List κ) : Bindings κ α where
  toList := b.toList.filter (·.1 ∉ names)
  nodup := b.nodup.sublist (List.filter_sublist.map Prod.fst)

theorem without_nil (b : Bindings κ α) : b.without [] = b :=
  toList_injective (List.filter_eq_self.mpr fun p _ => by simp)

theorem erase_eq_without (b : Bindings κ α) (name : κ) : b.erase name = b.without [name] :=
  toList_injective (List.filter_congr fun p _ => by simp)

theorem without_without (b : Bindings κ α) (names others : List κ) :
    (b.without names).without others = b.without (names ++ others) := by
  refine toList_injective ?_
  show List.filter _ (List.filter _ b.toList) = _
  rw [List.filter_filter]
  refine List.filter_congr fun p _ => ?_
  by_cases hnames : p.1 ∈ names <;> simp [hnames]

/-- Only which names are taken out counts, not their order. -/
theorem without_congr (b : Bindings κ α) {names others : List κ}
    (h : ∀ name, name ∈ names ↔ name ∈ others) : b.without names = b.without others :=
  toList_injective (List.filter_congr fun p _ => by simp only [h])

/-- A name that is taken out has no value, and all others keep theirs. -/
theorem get?_without (b : Bindings κ α) (names : List κ) (name : κ) :
    (b.without names).get? name = if name ∈ names then none else b.get? name := by
  induction names generalizing b with
  | nil => rw [without_nil, if_neg List.not_mem_nil]
  | cons first rest ih =>
    have hfirst : b.without (first :: rest) = (b.erase first).without rest := by
      rw [erase_eq_without, without_without, List.singleton_append]
    rw [hfirst, ih, get?_erase]
    by_cases hrest : name ∈ rest
    · rw [if_pos hrest, if_pos (List.mem_cons_of_mem _ hrest)]
    · by_cases hname : name = first
      · rw [if_neg hrest, if_pos hname, if_pos (hname ▸ List.mem_cons_self)]
      · rw [if_neg hrest, if_neg hname, if_neg (by simp [hname, hrest])]

/-- Taking names out takes out what was put in for one of them. -/
theorem without_set {b : Bindings κ α} {names : List κ} {name : κ} (value : α)
    (h : name ∈ names) : (b.set name value).without names = b.without names := by
  refine toList_injective ?_
  show (setList name value b.toList).filter _ = b.toList.filter _
  induction b.toList with
  | nil => simp [setList, h]
  | cons p rest ih =>
    obtain ⟨other, v⟩ := p
    by_cases hother : other = name
    · subst hother
      simp [setList, h]
    · rw [setList, if_neg hother, List.filter_cons, List.filter_cons, ih]

/-- **Taking names out takes out all that was put in for them**, and what they had before. -/
theorem without_override {b : Bindings κ α} {l : List (κ × α)} {names : List κ}
    (h : ∀ p ∈ l, p.1 ∈ names) : (b.override l).without names = b.without names := by
  induction l generalizing b with
  | nil => rfl
  | cons p rest ih =>
    rw [List.forall_mem_cons] at h
    show ((b.set p.1 p.2).override rest).without names = _
    rw [ih h.2, without_set p.2 h.1]

end Bindings

end Phrasebook
