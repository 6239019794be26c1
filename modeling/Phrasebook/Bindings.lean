/-!
# Named values in order

`Bindings κ α` is a list of values with pairwise distinct names, in the order in which the names
were first given.  Members of an object, build properties, the fields of a log record and the
files of a tree are kept this way.

* `get?`, `set`, `erase`, `names` — the operations on one name.
* `ofList`, `override` — many values at once, of which the last one for a name wins.
* `names_set`, `names_erase` — the names afterwards: a new name comes last, a known one keeps its
  place.
* `get?_set`, `get?_erase` — the value of a name afterwards.
* `mem_names_of_get?`, `get?_eq_some_iff` — what has a value is a name, and stands in the list.
* `toList_override`, `toList_ofList` — new names come at the end, and different ones stay in order.
-/

namespace Phrasebook

/-- Values with pairwise distinct names, in the order of the names' first appearance. -/
structure Bindings (κ α : Type) where
  toList : List (κ × α)
  nodup : (toList.map Prod.fst).Nodup := by simp

namespace Bindings

variable {κ α : Type}

/-- No names at all. -/
def empty : Bindings κ α := { toList := [] }

instance : EmptyCollection (Bindings κ α) := ⟨empty⟩

instance : Inhabited (Bindings κ α) := ⟨empty⟩

/-- The names, in order. -/
def names (b : Bindings κ α) : List κ :=
  b.toList.map Prod.fst

/-- The same names with other values. -/
def map {β : Type} (f : α → β) (b : Bindings κ α) : Bindings κ β where
  toList := b.toList.map fun p => (p.1, f p.2)
  nodup := by
    have h : (b.toList.map fun p => (p.1, f p.2)).map Prod.fst = b.toList.map Prod.fst := by
      simp [List.map_map, Function.comp_def]
    rw [h]
    exact b.nodup

variable [DecidableEq κ]

/-- The value of a name, if it has one. -/
def get? (b : Bindings κ α) (name : κ) : Option α :=
  b.toList.lookup name

/-- Puts a value at the place of its name, or at the end if the name is new. -/
def setList (name : κ) (value : α) : List (κ × α) → List (κ × α)
  | [] => [(name, value)]
  | (n, v) :: rest => if n = name then (name, value) :: rest else (n, v) :: setList name value rest

/-- A new name comes last, a known one keeps its place. -/
theorem map_fst_setList (name : κ) (value : α) (l : List (κ × α)) :
    (setList name value l).map Prod.fst
      = if name ∈ l.map Prod.fst then l.map Prod.fst else l.map Prod.fst ++ [name] := by
  induction l with
  | nil => simp [setList]
  | cons p rest ih =>
    obtain ⟨n, v⟩ := p
    by_cases h : n = name
    · simp [setList, h]
    · simp only [setList, h, if_false, List.map_cons, List.mem_cons]
      rw [ih]
      have h' : ¬ name = n := fun e => h e.symm
      by_cases hm : name ∈ rest.map Prod.fst <;> simp [hm, h']

/-- A new name comes with its value at the end. -/
theorem setList_of_not_mem (name : κ) (value : α) {l : List (κ × α)}
    (h : name ∉ l.map Prod.fst) : setList name value l = l ++ [(name, value)] := by
  induction l with
  | nil => rfl
  | cons p rest ih =>
    rw [List.map_cons, List.mem_cons, not_or] at h
    rw [setList, if_neg fun heq => h.1 heq.symm, ih h.2, List.cons_append]

theorem nodup_setList (name : κ) (value : α) {l : List (κ × α)}
    (h : (l.map Prod.fst).Nodup) : ((setList name value l).map Prod.fst).Nodup := by
  rw [map_fst_setList]
  split
  · exact h
  · rename_i hm
    rw [List.nodup_append]
    refine ⟨h, by simp, ?_⟩
    intro a ha b hb
    simp only [List.mem_singleton] at hb
    subst hb
    exact fun e => hm (e ▸ ha)

theorem lookup_setList (name other : κ) (value : α) (l : List (κ × α)) :
    (setList name value l).lookup other
      = if other = name then some value else l.lookup other := by
  induction l with
  | nil =>
    by_cases h : other = name
    · simp [setList, h]
    · have hb : (other == name) = false := beq_false_of_ne h
      simp [setList, List.lookup_cons, h, hb]
  | cons p rest ih =>
    obtain ⟨n, v⟩ := p
    by_cases hn : n = name
    · subst hn
      by_cases h : other = n
      · simp [setList, h]
      · have hb : (other == n) = false := beq_false_of_ne h
        simp [setList, List.lookup_cons, h, hb]
    · by_cases h : other = n
      · subst h
        simp [setList, hn]
      · have hb : (other == n) = false := beq_false_of_ne h
        simp [setList, List.lookup_cons, hn, hb, ih]

theorem lookup_filter (name other : κ) (l : List (κ × α)) :
    (l.filter (·.1 ≠ name)).lookup other
      = if other = name then none else l.lookup other := by
  induction l with
  | nil => simp
  | cons p rest ih =>
    obtain ⟨n, v⟩ := p
    by_cases hn : n = name
    · subst hn
      rw [List.filter_cons_of_neg (by simp), ih]
      by_cases h : other = n
      · simp [h]
      · have hb : (other == n) = false := beq_false_of_ne h
        simp [List.lookup_cons, h, hb]
    · rw [List.filter_cons_of_pos (by simpa using hn)]
      by_cases h : other = n
      · subst h
        simp [hn]
      · have hb : (other == n) = false := beq_false_of_ne h
        simp only [List.lookup_cons, hb]
        exact ih

/-- Where names are distinct, a value that is found is one that is there. -/
theorem lookup_eq_some_iff_mem (name : κ) (value : α) {l : List (κ × α)}
    (h : (l.map Prod.fst).Nodup) : l.lookup name = some value ↔ (name, value) ∈ l := by
  induction l with
  | nil => simp
  | cons p rest ih =>
    obtain ⟨n, v⟩ := p
    obtain ⟨hnew, hrest⟩ := List.nodup_cons.mp h
    by_cases hn : name = n
    · subst hn
      have hgone : (name, value) ∉ rest := fun hmem => hnew (List.mem_map.mpr ⟨_, hmem, rfl⟩)
      simp [hgone, eq_comm]
    · have hb : (name == n) = false := beq_false_of_ne hn
      simp [List.lookup_cons, hb, hn, ih hrest]

/-- Gives a name a value, in place of the one it had. -/
def set (b : Bindings κ α) (name : κ) (value : α) : Bindings κ α :=
  ⟨setList name value b.toList, nodup_setList name value b.nodup⟩

/-- Takes a name and its value out. -/
def erase (b : Bindings κ α) (name : κ) : Bindings κ α where
  toList := b.toList.filter (·.1 ≠ name)
  nodup := b.nodup.sublist (List.filter_sublist.map Prod.fst)

/-- Gives the names of `l` their values, one after the other. -/
def override (b : Bindings κ α) (l : List (κ × α)) : Bindings κ α :=
  l.foldl (fun b p => b.set p.1 p.2) b

/-- The named values of a list: the first place and the last value of each name. -/
def ofList (l : List (κ × α)) : Bindings κ α :=
  empty.override l

/-! ### Names and values afterwards -/

theorem names_set (b : Bindings κ α) (name : κ) (value : α) :
    (b.set name value).names
      = if name ∈ b.names then b.names else b.names ++ [name] :=
  map_fst_setList name value b.toList

theorem names_erase (b : Bindings κ α) (name : κ) :
    (b.erase name).names = b.names.filter (· ≠ name) := by
  simp only [names, erase, List.filter_map]
  rfl

theorem get?_empty (name : κ) : (empty : Bindings κ α).get? name = none := rfl

theorem get?_set (b : Bindings κ α) (name other : κ) (value : α) :
    (b.set name value).get? other = if other = name then some value else b.get? other :=
  lookup_setList name other value b.toList

theorem get?_erase (b : Bindings κ α) (name other : κ) :
    (b.erase name).get? other = if other = name then none else b.get? other :=
  lookup_filter name other b.toList

theorem mem_names_of_get? {b : Bindings κ α} {name : κ} {value : α} (h : b.get? name = some value) :
    name ∈ b.names := by
  have hsome : (b.toList.lookup name).isSome = true := by
    rw [show b.toList.lookup name = some value from h]
    rfl
  obtain ⟨p, hp, heq⟩ := List.lookup_isSome_iff.mp hsome
  rw [beq_iff_eq] at heq
  rw [heq]
  exact List.mem_map_of_mem hp

theorem get?_eq_some_iff {b : Bindings κ α} {name : κ} {value : α} :
    b.get? name = some value ↔ (name, value) ∈ b.toList :=
  lookup_eq_some_iff_mem name value b.nodup

/-- **Many new names** come with their values at the end, in their order. -/
theorem toList_override {b : Bindings κ α} {l : List (κ × α)}
    (h : ((b.toList ++ l).map Prod.fst).Nodup) : (b.override l).toList = b.toList ++ l := by
  induction l generalizing b with
  | nil => exact (List.append_nil _).symm
  | cons p rest ih =>
    have hname : p.1 ∉ b.toList.map Prod.fst := by
      intro hmem
      rw [List.map_append, List.nodup_append] at h
      exact h.2.2 p.1 hmem p.1 List.mem_cons_self rfl
    have hset : (b.set p.1 p.2).toList = b.toList ++ [p] :=
      setList_of_not_mem p.1 p.2 hname
    rw [List.append_cons, ← hset] at h
    rw [override, List.foldl_cons]
    exact (ih h).trans (by rw [hset, ← List.append_cons])

/-- Different names stay as they are. -/
theorem toList_ofList {l : List (κ × α)} (h : (l.map Prod.fst).Nodup) : (ofList l).toList = l :=
  toList_override h

theorem exists_get?_of_mem_names {b : Bindings κ α} {name : κ} (h : name ∈ b.names) :
    ∃ value, b.get? name = some value := by
  obtain ⟨⟨other, value⟩, hmem, rfl⟩ := List.mem_map.mp h
  exact ⟨value, get?_eq_some_iff.mpr hmem⟩

end Bindings

end Phrasebook
