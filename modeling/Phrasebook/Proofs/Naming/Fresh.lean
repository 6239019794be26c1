import Mathlib.Data.List.Nodup
import Mathlib.Order.Bounds.Basic
import Phrasebook.Naming.Fresh

/-!
# The fewest underscores that make a name fresh

`fresh` looks for a number of underscores among finitely many candidates.  This file shows that
the search always succeeds and that its answer is the one of the escape loop, which puts one
underscore in front as long as the name is taken:

* `underscored_injective` — different numbers of underscores give different names;
* `freshCount_isLeast` — the number found is the least one that leaves the used names;
* `fresh_congr` — only the set of used names counts, not their order or repetitions;
* `Escaped`, `escaped_iff` — every run of the escape loop ends, and it ends with `fresh`;
* `freshNames` — fresh names for a whole list, in turn; `freshNames_not_mem`, `freshNames_nodup`,
  `freshNames_least` — none of them is a used one, none occurs twice, and each has as few
  underscores as those before it allow.
-/

namespace Phrasebook.Naming

/-! ### Names after underscores -/

theorem toList_underscored (n : Nat) (name : String) :
    (underscored n name).toList = List.replicate n '_' ++ name.toList := by
  rw [underscored, String.toList_ofList]

theorem underscored_zero (name : String) : underscored 0 name = name := by
  rw [← String.toList_inj, toList_underscored, List.replicate_zero, List.nil_append]

/-- One more underscore may as well be put in front of the name first. -/
theorem underscored_succ (n : Nat) (name : String) :
    underscored (n + 1) name = underscored n ("_" ++ name) := by
  rw [← String.toList_inj, toList_underscored, toList_underscored, String.toList_append]
  rw [List.replicate_succ', List.append_assoc]
  rfl

/-- **Different numbers of underscores give different names.** -/
theorem underscored_injective (name : String) :
    Function.Injective fun n => underscored n name := by
  intro m n h
  have hl := congrArg (fun s => s.toList.length) h
  simp only [toList_underscored, List.length_append, List.length_replicate] at hl
  omega

/-! ### The search succeeds -/

/-- **Pigeonhole.**  Among one more candidate than there are used names, one is unused. -/
theorem exists_unused (used : List String) (name : String) :
    ∃ n, n < used.length + 1 ∧ underscored n name ∉ used := by
  by_contra hall
  have hmem : ∀ n, n < used.length + 1 → underscored n name ∈ used := by
    intro n hn
    by_contra hu
    exact hall ⟨n, hn, hu⟩
  have hnodup : ((List.range (used.length + 1)).map fun n => underscored n name).Nodup :=
    List.nodup_range.map (underscored_injective name)
  have hsub : ((List.range (used.length + 1)).map fun n => underscored n name) ⊆ used := by
    intro s hs
    obtain ⟨n, hn, rfl⟩ := List.mem_map.mp hs
    exact hmem n (List.mem_range.mp hn)
  have hle := hnodup.length_le_of_subset hsub
  rw [List.length_map, List.length_range] at hle
  omega

/-- **The number found is the least one.** -/
theorem freshCount_isLeast (used : List String) (name : String) :
    IsLeast {n | underscored n name ∉ used} (freshCount used name) := by
  have hfound : ∃ n, (List.range (used.length + 1)).find?
      (fun n => !used.contains (underscored n name)) = some n := by
    obtain ⟨n, hn, hu⟩ := exists_unused used name
    rw [← Option.isSome_iff_exists, List.find?_isSome]
    exact ⟨n, List.mem_range.mpr hn, by simpa using hu⟩
  obtain ⟨n, hn⟩ := hfound
  have hcount : freshCount used name = n := by
    rw [freshCount, hn]
    rfl
  rw [List.find?_range_eq_some] at hn
  obtain ⟨hfree, -, hbefore⟩ := hn
  rw [hcount]
  refine ⟨by simpa using hfree, ?_⟩
  intro m hm
  by_contra hlt
  exact hm (by simpa using hbefore m (by omega))

theorem fresh_not_mem (used : List String) (name : String) : fresh used name ∉ used :=
  (freshCount_isLeast used name).1

/-- Every smaller number of underscores gives a used name. -/
theorem underscored_mem_of_lt {used : List String} {name : String} {n : Nat}
    (h : n < freshCount used name) : underscored n name ∈ used := by
  by_contra hn
  have hle := (freshCount_isLeast used name).2 hn
  omega

/-- A number with the least property is the one found. -/
theorem freshCount_eq {used : List String} {name : String} {n : Nat}
    (h : IsLeast {n | underscored n name ∉ used} n) : freshCount used name = n :=
  (freshCount_isLeast used name).unique h

/-- **Only the set of used names counts.** -/
theorem fresh_congr {used others : List String} (name : String)
    (h : ∀ s, s ∈ used ↔ s ∈ others) : fresh used name = fresh others name := by
  have hset : {n | underscored n name ∉ used} = {n | underscored n name ∉ others} := by
    ext n
    simp only [Set.mem_ofPred_eq, h]
  have hcount : freshCount used name = freshCount others name := by
    apply freshCount_eq
    rw [hset]
    exact freshCount_isLeast others name
  rw [fresh, fresh, hcount]

/-- A name that is not used stays as it is. -/
theorem fresh_eq_self {used : List String} {name : String} (h : name ∉ used) :
    fresh used name = name := by
  have hleast : IsLeast {n | underscored n name ∉ used} 0 := by
    refine ⟨?_, fun m _ => Nat.zero_le m⟩
    rw [Set.mem_ofPred_eq, underscored_zero]
    exact h
  rw [fresh, freshCount_eq hleast, underscored_zero]

/-! ### The escape loop -/

/-- The runs of the escape loop: a name that is free is kept, and a name that is taken goes on
with one more underscore in front. -/
inductive Escaped (used : List String) : String → String → Prop
  | free {name : String} : name ∉ used → Escaped used name name
  | taken {name result : String} :
      name ∈ used → Escaped used ("_" ++ name) result → Escaped used name result

/-- A run from a name leads through the smaller numbers of underscores to the first free one. -/
theorem escaped_underscored {used : List String} (n : Nat) :
    ∀ name, (∀ m, m < n → underscored m name ∈ used) → underscored n name ∉ used →
      Escaped used name (underscored n name) := by
  induction n with
  | zero =>
    intro name _ hfree
    rw [underscored_zero] at hfree ⊢
    exact .free hfree
  | succ n ih =>
    intro name hbefore hfree
    have h0 := hbefore 0 (by omega)
    rw [underscored_zero] at h0
    rw [underscored_succ] at hfree ⊢
    refine .taken h0 (ih ("_" ++ name) ?_ hfree)
    intro m hm
    rw [← underscored_succ]
    exact hbefore (m + 1) (by omega)

/-- The loop does not choose: it has one result. -/
theorem Escaped.unique {used : List String} {name a b : String} (ha : Escaped used name a)
    (hb : Escaped used name b) : a = b := by
  induction ha with
  | free hfree =>
    cases hb with
    | free => rfl
    | taken hmem => exact absurd hmem hfree
  | taken hmem _ ih =>
    cases hb with
    | free hfree => exact absurd hmem hfree
    | taken _ hrest => exact ih hrest

/-- **The escape loop ends, and its result is `fresh`.** -/
theorem escaped_iff {used : List String} {name result : String} :
    Escaped used name result ↔ result = fresh used name := by
  have hrun : Escaped used name (fresh used name) :=
    escaped_underscored (freshCount used name) name (fun _ hm => underscored_mem_of_lt hm)
      (fresh_not_mem used name)
  constructor
  · intro h
    exact h.unique hrun
  · rintro rfl
    exact hrun

/-! ### The names of a list -/

/-- A fresh name for each name of a list, in turn: those before it are taken as well. -/
def freshNames (used : List String) : List String → List String
  | [] => []
  | name :: rest => fresh used name :: freshNames (fresh used name :: used) rest

theorem length_freshNames (names : List String) :
    ∀ used : List String, (freshNames used names).length = names.length := by
  induction names with
  | nil => intro used; rfl
  | cons name rest ih =>
    intro used
    rw [freshNames, List.length_cons, List.length_cons, ih]

/-- **Each name is the fresh one for the used names and the names before it.** -/
theorem freshNames_getElem? (names : List String) :
    ∀ (used : List String) (i : Nat), (freshNames used names)[i]? =
      names[i]?.map (fresh (used ++ (freshNames used names).take i)) := by
  induction names with
  | nil => intro used i; rfl
  | cons name rest ih =>
    intro used i
    rw [freshNames]
    cases i with
    | zero => simp only [List.getElem?_cons_zero, List.take_zero, List.append_nil, Option.map_some]
    | succ i =>
      rw [List.getElem?_cons_succ, List.getElem?_cons_succ, List.take_succ_cons, ih]
      congr 1
      funext other
      exact fresh_congr other fun s => List.perm_middle.symm.mem_iff

/-- One more name at the end gives one more fresh name, and changes none before it. -/
theorem freshNames_concat (names : List String) (name : String) :
    ∀ used : List String, freshNames used (names ++ [name]) =
      freshNames used names ++ [fresh (used ++ freshNames used names) name] := by
  induction names with
  | nil =>
    intro used
    rw [List.nil_append, freshNames, freshNames, freshNames, List.append_nil]
    rfl
  | cons first rest ih =>
    intro used
    rw [List.cons_append, freshNames, freshNames, ih, List.cons_append]
    congr 3
    exact fresh_congr name fun s => List.perm_middle.symm.mem_iff

/-- A fresh name of a list is one of its names after some underscores. -/
theorem exists_of_mem_freshNames {names : List String} {result : String} :
    ∀ {used : List String}, result ∈ freshNames used names →
      ∃ name ∈ names, ∃ n, result = underscored n name := by
  induction names with
  | nil => intro used h; exact absurd h List.not_mem_nil
  | cons first rest ih =>
    intro used h
    rw [freshNames] at h
    rcases List.mem_cons.mp h with rfl | h
    · exact ⟨first, List.mem_cons_self, _, rfl⟩
    · obtain ⟨name, hname, n, rfl⟩ := ih h
      exact ⟨name, List.mem_cons_of_mem first hname, n, rfl⟩

/-- No fresh name is a used one. -/
theorem freshNames_not_mem {names : List String} {name : String} :
    ∀ {used : List String}, name ∈ freshNames used names → name ∉ used := by
  induction names with
  | nil => intro used h; exact absurd h List.not_mem_nil
  | cons first rest ih =>
    intro used h
    rw [freshNames] at h
    rcases List.mem_cons.mp h with rfl | h
    · exact fresh_not_mem used first
    · intro hused
      exact ih h (List.mem_cons_of_mem _ hused)

/-- **The fresh names of a list are pairwise different.** -/
theorem freshNames_nodup (names : List String) :
    ∀ used : List String, (freshNames used names).Nodup := by
  induction names with
  | nil => intro used; exact List.nodup_nil
  | cons name rest ih =>
    intro used
    rw [freshNames]
    refine List.nodup_cons.mpr ⟨?_, ih _⟩
    intro hmem
    exact freshNames_not_mem hmem List.mem_cons_self

/-- **The number of underscores is the least one** that is free in its turn, and it is the one with
which the escape loop ends. -/
theorem freshNames_least {used names : List String} {i : Nat} {name : String}
    (h : names[i]? = some name) :
    ∃ n, (freshNames used names)[i]? = some (underscored n name) ∧
      IsLeast {n | underscored n name ∉ used ∧
        underscored n name ∉ (freshNames used names).take i} n ∧
      Escaped (used ++ (freshNames used names).take i) name (underscored n name) := by
  have hget := freshNames_getElem? names used i
  rw [h, Option.map_some] at hget
  have hleast := freshCount_isLeast (used ++ (freshNames used names).take i) name
  refine ⟨freshCount (used ++ (freshNames used names).take i) name, hget, ?_, escaped_iff.mpr rfl⟩
  simpa only [List.mem_append, not_or] using hleast

end Phrasebook.Naming
