import Mathlib.Data.List.Induction
import Phrasebook.Files.Tree

/-!
# What changes of a tree change

* `FileTree.find?_put`, `FileTree.find?_remove`, `FileTree.find?_makeFolders` — what is at a place
  after a change, and what stays as it was;
* `FileTree.mem_files_iff`, `FileTree.nodup_files`, `FileTree.mem_names_iff` — the files of a tree,
  and all places that something is at;
* `FileTree.resolve?_eq_placeFrom` — the place that a path leads to depends on the path alone;
* `FileTree.missingFolders_down` — what the search for missing folders does with a part of a path;
* `FileTree.mem_missingFolders` — folders that have to be made lie on the path;
* `FileTree.Rooted` — all folders that lead to a place are there;
* `FileTree.resolve?_of_missingFolders` — with the missing folders a path leads where it should;
* `FileTree.resolve?_mono`, `FileTree.missingFolders_again` — where a path leads once more folders
  are there.
-/

namespace Phrasebook

namespace FileTree

variable {t : FileTree} {p q start : Place}

theorem isFolder_iff : t.isFolder p = true ↔ t.find? p = some .folder := by
  unfold isFolder
  cases t.find? p with
  | none => simp
  | some node => cases node <;> simp

theorem isFile_iff : t.isFile p = true ↔ ∃ content, t.find? p = some (.file content) := by
  unfold isFile
  cases t.find? p with
  | none => simp
  | some node => cases node <;> simp

theorem isFile_iff_content? : t.isFile p = true ↔ (t.content? p).isSome = true := by
  unfold isFile content?
  cases t.find? p with
  | none => simp
  | some node => cases node <;> simp

/-! ### What is at a place -/

theorem find?_root : t.find? [] = some .folder := rfl

/-- What is at a place after something was put somewhere. -/
theorem find?_put (hp : p ≠ []) (n : Node) :
    (t.put p n).find? q = if q = p then some n else t.find? q := by
  unfold find? put
  by_cases hq : q = []
  · rw [if_pos hq, if_pos hq, if_neg fun h => hp (h.symm.trans hq)]
  · rw [if_neg hq, if_neg hq]
    exact Bindings.get?_set t.nodes p q n

/-- What is at a place after something was removed somewhere. -/
theorem find?_remove (hp : p ≠ []) :
    (t.apply (.remove p)).find? q = if q = p then none else t.find? q := by
  unfold find? apply
  by_cases hq : q = []
  · rw [if_pos hq, if_pos hq, if_neg fun h => hp (h.symm.trans hq)]
  · rw [if_neg hq, if_neg hq]
    exact Bindings.get?_erase t.nodes p q

theorem find?_makeFolder :
    (t.apply (.makeFolder p)).find? q =
      if q = p ∧ t.find? q = none then some .folder else t.find? q := by
  show (if (t.find? p).isSome then t else t.put p .folder).find? q = _
  by_cases hp : (t.find? p).isSome = true
  · rw [if_pos hp, if_neg]
    rintro ⟨rfl, hnone⟩
    rw [hnone] at hp
    exact absurd hp (by decide)
  · have hnone : t.find? p = none := by simpa using hp
    have hroot : p ≠ [] := by
      rintro rfl
      exact absurd hnone (by simp [find?_root])
    rw [if_neg hp, find?_put hroot]
    by_cases hq : q = p
    · rw [if_pos hq, if_pos ⟨hq, hq ▸ hnone⟩]
    · rw [if_neg hq, if_neg fun h => hq h.1]

/-- **What is at a place after folders were made**: a folder, if nothing was there and the place
is among theirs, and otherwise what was there. -/
theorem find?_makeFolders (made : List Place) :
    ∀ t : FileTree, (t.applyAll (made.map .makeFolder)).find? q =
      if q ∈ made ∧ t.find? q = none then some .folder else t.find? q := by
  induction made with
  | nil => intro t; simp [applyAll]
  | cons p rest ih =>
    intro t
    show ((t.apply (.makeFolder p)).applyAll (rest.map .makeFolder)).find? q = _
    rw [ih, find?_makeFolder]
    by_cases hnone : t.find? q = none
    · by_cases hq : q = p
      · subst hq
        simp [hnone]
      · simp [hnone, hq]
    · simp [hnone]

/-! ### The files of a tree -/

theorem mem_files_iff {content : ByteArray} :
    (p, content) ∈ t.files ↔ t.nodes.get? p = some (.file content) := by
  rw [Bindings.get?_eq_some_iff, files, List.mem_filterMap]
  constructor
  · rintro ⟨⟨q, node⟩, hmem, hfile⟩
    cases node with
    | folder => exact absurd hfile (by simp)
    | file other =>
      rw [Option.some.injEq, Prod.mk.injEq] at hfile
      rw [← hfile.1, ← hfile.2]
      exact hmem
  · exact fun hmem => ⟨_, hmem, rfl⟩

/-- No two files of a tree are at one place. -/
theorem nodup_files (t : FileTree) : (t.files.map Prod.fst).Nodup := by
  have hsub : ∀ {f : Place × Node → Option (Place × ByteArray)},
      (∀ place file, f place = some file → file.1 = place.1) →
        ∀ nodes : List (Place × Node),
          ((nodes.filterMap f).map Prod.fst).Sublist (nodes.map Prod.fst) := by
    intro f hf nodes
    induction nodes with
    | nil => exact List.Sublist.refl _
    | cons place rest ih =>
      cases hfile : f place with
      | none =>
        rw [List.filterMap_cons_none hfile]
        exact ih.cons place.1
      | some file =>
        rw [List.filterMap_cons_some hfile, List.map_cons, List.map_cons, hf place file hfile]
        exact ih.cons_cons place.1
  refine t.nodes.nodup.sublist (hsub ?_ t.nodes.toList)
  intro place file hfile
  obtain ⟨p, node⟩ := place
  cases node with
  | folder => exact absurd hfile (by simp)
  | file content => exact congrArg Prod.fst (Option.some.inj hfile).symm

/-- What is at a place other than the root is what is bound to it. -/
theorem isFile_iff_get? (hp : p ≠ []) :
    t.isFile p = true ↔ ∃ content, t.nodes.get? p = some (.file content) := by
  rw [isFile_iff, find?, if_neg hp]

/-- Something is at a place other than the root exactly when it is bound to it. -/
theorem mem_names_iff (hp : p ≠ []) : p ∈ t.nodes.names ↔ t.find? p ≠ none := by
  rw [find?, if_neg hp]
  constructor
  · intro hmem
    obtain ⟨node, hnode⟩ := Bindings.exists_get?_of_mem_names hmem
    rw [hnode]
    simp
  · intro hsome
    obtain ⟨node, hnode⟩ := Option.ne_none_iff_exists'.mp hsome
    exact Bindings.mem_names_of_get? hnode

/-! ### Where a path leads -/

/-- The place of a path, from its first part on. -/
theorem placeFrom_cons (start : Place) (part : String) (rest : List String) :
    placeFrom start (part :: rest) =
      placeFrom (if part = ".." then start.dropLast else start ++ [part]) rest :=
  rfl

/-- A path leads to the place that its parts say, if it leads anywhere. -/
theorem resolve?_eq_placeFrom {parts : List String} :
    ∀ {start}, t.resolve? start parts = some p → p = placeFrom start parts := by
  induction parts with
  | nil =>
    intro start h
    exact (Option.some.inj h).symm
  | cons part rest ih =>
    intro start h
    rw [placeFrom_cons]
    unfold resolve? at h
    split at h
    · exact absurd h (by simp)
    · split at h
      · rename_i hup
        rw [if_pos hup]
        exact ih h
      · rename_i hdown
        rw [if_neg hdown]
        exact ih h

theorem missingFolders_up (start : Place) (rest : List String) :
    t.missingFolders start (".." :: rest) = t.missingFolders start.dropLast rest := by
  rw [missingFolders, if_pos rfl]

/-- **One part of a path**, other than `..`: something is in the way, or the folder is there, or
it has to be made. -/
theorem missingFolders_down {part : String} (hpart : part ≠ "..") (start : Place)
    (rest : List String) :
    (∃ obstacle, t.missingFolders start (part :: rest) = ([], .error obstacle)) ∨
      (t.find? (start ++ [part]) = some .folder ∧
        t.missingFolders start (part :: rest) = t.missingFolders (start ++ [part]) rest) ∨
      (t.find? (start ++ [part]) = none ∧
        t.missingFolders start (part :: rest) =
          ((start ++ [part]) :: (t.missingFolders (start ++ [part]) rest).1,
            (t.missingFolders (start ++ [part]) rest).2)) := by
  rw [missingFolders, if_neg hpart]
  split
  · exact .inl ⟨.longName, rfl⟩
  · simp only
    split
    · rename_i hfolder
      exact .inr (.inl ⟨hfolder, rfl⟩)
    · exact .inl ⟨.file, rfl⟩
    · rename_i hnone
      split
      · exact .inr (.inr ⟨hnone, rfl⟩)
      · exact .inl ⟨.manyMissing, rfl⟩

/-- **Folders that have to be made lie on the path**, and nothing is there yet. -/
theorem mem_missingFolders {parts : List String} :
    ∀ {start}, q ∈ (t.missingFolders start parts).1 →
      t.find? q = none ∧ ∃ n ≤ parts.length, q = placeFrom start (parts.take n) := by
  induction parts with
  | nil => exact fun h => absurd h List.not_mem_nil
  | cons part rest ih =>
    intro start h
    have hfurther : ∀ {further},
        (if part = ".." then start.dropLast else start ++ [part]) = further →
        q ∈ (t.missingFolders further rest).1 → t.find? q = none ∧
          ∃ n ≤ (part :: rest).length, q = placeFrom start ((part :: rest).take n) := by
      rintro _ rfl hmem
      obtain ⟨hnone, n, hn, hq⟩ := ih hmem
      exact ⟨hnone, n + 1, Nat.succ_le_succ hn, hq.trans (placeFrom_cons start part _).symm⟩
    by_cases hpart : part = ".."
    · rw [hpart, missingFolders_up] at h
      exact hfurther (if_pos hpart) h
    · obtain ⟨obstacle, heq⟩ | ⟨-, heq⟩ | ⟨hnone, heq⟩ :=
        missingFolders_down (t := t) hpart start rest
      · rw [heq] at h
        exact absurd h List.not_mem_nil
      · rw [heq] at h
        exact hfurther (if_neg hpart) h
      · rw [heq] at h
        rcases List.mem_cons.mp h with rfl | h
        · refine ⟨hnone, 1, Nat.succ_le_succ (Nat.zero_le _), ?_⟩
          rw [List.take_succ_cons, placeFrom_cons, if_neg hpart]
          rfl
        · exact hfurther (if_neg hpart) h

/-! ### Folders all the way -/

/-- All folders that lead to a place are there, and so is the place itself, as a folder. -/
def Rooted (t : FileTree) (p : Place) : Prop :=
  ∀ n, t.isFolder (p.take n) = true

theorem Rooted.isFolder (h : t.Rooted p) : t.isFolder p = true := by
  have hall := h p.length
  rwa [List.take_length] at hall

theorem Rooted.dropLast (h : t.Rooted p) : t.Rooted p.dropLast := by
  intro n
  rw [List.dropLast_eq_take, List.take_take]
  exact h _

theorem Rooted.concat {part : String} (h : t.Rooted p) (hp : t.isFolder (p ++ [part]) = true) :
    t.Rooted (p ++ [part]) := by
  intro n
  rcases Nat.lt_or_ge p.length n with hn | hn
  · rw [List.take_of_length_le (by rw [List.length_append, List.length_singleton]; omega)]
    exact hp
  · rw [List.take_append_of_le_length hn]
    exact h n

/-- Folders stay on the way to a place when all folders stay. -/
theorem Rooted.mono {after : FileTree} (h : t.Rooted p)
    (hkept : ∀ q, t.isFolder q = true → after.isFolder q = true) : after.Rooted p :=
  fun n => hkept _ (h n)

/-- In the tree of a file system every folder lies in folders. -/
theorem WellFormed.rooted (h : t.WellFormed) (hp : t.isFolder p = true) : t.Rooted p := by
  induction p using List.reverseRecOn with
  | nil =>
    intro n
    rw [List.take_nil]
    rfl
  | append_singleton p part ih =>
    refine Rooted.concat (ih ?_) hp
    have hfind := isFolder_iff.mp hp
    rw [find?, if_neg (List.append_ne_nil_of_right_ne_nil p (List.cons_ne_nil part []))] at hfind
    have hfolder := h.inFolder _ (Bindings.mem_names_of_get? hfind)
    rwa [List.dropLast_concat] at hfolder

/-- **With the missing folders a path leads where it should**, in any tree that has them and has
all folders that were there, and a name in the last folder leads to a place in this folder. -/
theorem resolve?_of_missingFolders {after : FileTree} {folder : Place} {name : String}
    (hname : name ≠ "..") (hkept : ∀ q, t.isFolder q = true → after.isFolder q = true)
    {parts : List String} :
    ∀ {start}, after.Rooted start → (t.missingFolders start parts).2 = .ok folder →
      (∀ q ∈ (t.missingFolders start parts).1, after.isFolder q = true) →
      after.resolve? start (parts ++ [name]) = some (folder ++ [name]) := by
  induction parts with
  | nil =>
    intro start hstart hreached _
    rw [show start = folder from Except.ok.inj hreached] at hstart ⊢
    rw [List.nil_append, resolve?, hstart.isFolder, if_neg (by decide), if_neg hname]
    rfl
  | cons part rest ih =>
    intro start hstart hreached hmade
    rw [List.cons_append, resolve?, hstart.isFolder, if_neg (by decide)]
    by_cases hpart : part = ".."
    · rw [hpart, missingFolders_up] at hreached hmade
      rw [if_pos hpart]
      exact ih hstart.dropLast hreached hmade
    · rw [if_neg hpart]
      obtain ⟨obstacle, heq⟩ | ⟨hfolder, heq⟩ | ⟨-, heq⟩ :=
        missingFolders_down (t := t) hpart start rest
      · rw [heq] at hreached
        exact absurd hreached (by simp)
      · rw [heq] at hreached hmade
        exact ih (hstart.concat (hkept _ (isFolder_iff.mpr hfolder))) hreached hmade
      · rw [heq] at hreached hmade
        exact ih (hstart.concat (hmade _ List.mem_cons_self)) hreached
          fun q hq => hmade q (List.mem_cons_of_mem _ hq)

/-! ### Trees that have the folders of another tree -/

section

variable {after : FileTree} {parts : List String}

/-- A path leads where it led when all folders stay. -/
theorem resolve?_mono (hkept : ∀ q, t.isFolder q = true → after.isFolder q = true) :
    ∀ {start}, t.resolve? start parts = some p → after.resolve? start parts = some p := by
  induction parts with
  | nil => exact id
  | cons part rest ih =>
    intro start h
    unfold resolve? at h ⊢
    cases hstart : t.isFolder start with
    | false =>
      rw [hstart] at h
      exact absurd h (by simp)
    | true =>
      rw [hstart, if_neg (by decide)] at h
      rw [hkept start hstart, if_neg (by decide)]
      by_cases hpart : part = ".."
      · rw [if_pos hpart] at h ⊢
        exact ih h
      · rw [if_neg hpart] at h ⊢
        exact ih h

/-- The same names are met on a path when the same folders are there. -/
theorem meetsLongName_congr (hsame : ∀ q, after.isFolder q = t.isFolder q) :
    ∀ start, after.meetsLongName start parts = t.meetsLongName start parts := by
  induction parts with
  | nil => exact fun _ => rfl
  | cons part rest ih =>
    intro start
    rw [meetsLongName, meetsLongName, hsame, ih, ih]

/-- A path to a folder leads through folders. -/
theorem isFolder_of_resolve? (hp : t.isFolder p = true) :
    ∀ {start}, t.resolve? start parts = some p →
      ∀ n, t.isFolder (placeFrom start (parts.take n)) = true := by
  induction parts with
  | nil =>
    intro start h n
    rw [List.take_nil, show start = p from Option.some.inj h]
    exact hp
  | cons part rest ih =>
    intro start h n
    unfold resolve? at h
    cases hstart : t.isFolder start with
    | false =>
      rw [hstart] at h
      exact absurd h (by simp)
    | true =>
      rw [hstart, if_neg (by decide)] at h
      cases n with
      | zero => exact hstart
      | succ n =>
        rw [List.take_succ_cons, placeFrom_cons]
        by_cases hpart : part = ".."
        · rw [if_pos hpart] at h ⊢
          exact ih h n
        · rw [if_neg hpart] at h ⊢
          exact ih h n

/-- No folder has to be made on a path that leads to one. -/
theorem missingFolders_of_resolve? (hp : t.isFolder p = true)
    (hresolve : t.resolve? start parts = some p) : (t.missingFolders start parts).1 = [] := by
  refine List.eq_nil_iff_forall_not_mem.mpr fun q hq => ?_
  obtain ⟨hnone, n, -, rfl⟩ := mem_missingFolders hq
  have hthere := isFolder_iff.mp (isFolder_of_resolve? hp hresolve n)
  rw [hnone] at hthere
  exact absurd hthere (by simp)

/-- The folder that is reached is the one that the path says. -/
theorem missingFolders_eq_placeFrom {folder : Place} :
    ∀ {start}, (t.missingFolders start parts).2 = .ok folder → folder = placeFrom start parts := by
  induction parts with
  | nil => exact fun h => (Except.ok.inj h).symm
  | cons part rest ih =>
    intro start h
    rw [placeFrom_cons]
    by_cases hpart : part = ".."
    · rw [hpart, missingFolders_up] at h
      rw [if_pos hpart]
      exact ih h
    · rw [if_neg hpart]
      obtain ⟨obstacle, heq⟩ | ⟨-, heq⟩ | ⟨-, heq⟩ :=
        missingFolders_down (t := t) hpart start rest
      · rw [heq] at h
        exact absurd h (by simp)
      · rw [heq] at h
        exact ih h
      · rw [heq] at h
        exact ih h

/-- **Once the missing folders are there, none is missing**, and the same folder is reached. -/
theorem missingFolders_again (hkept : ∀ q, t.isFolder q = true → after.isFolder q = true)
    {folder : Place} :
    ∀ {start}, after.Rooted start → (t.missingFolders start parts).2 = .ok folder →
      (∀ q ∈ (t.missingFolders start parts).1, after.isFolder q = true) →
      after.missingFolders start parts = ([], .ok folder) ∧ after.isFolder folder = true := by
  induction parts with
  | nil =>
    intro start hstart hreached _
    rw [show start = folder from Except.ok.inj hreached] at hstart ⊢
    exact ⟨rfl, hstart.isFolder⟩
  | cons part rest ih =>
    intro start hstart hreached hmade
    by_cases hpart : part = ".."
    · rw [hpart, missingFolders_up] at hreached hmade ⊢
      exact ih hstart.dropLast hreached hmade
    · by_cases hlong : isLongName part = true
      · rw [missingFolders, if_neg hpart, if_pos hlong] at hreached
        exact absurd hreached (by simp)
      · -- the folder of this part was there or was made, and the rest of the path is as before
        have hnext : after.isFolder (start ++ [part]) = true →
            after.missingFolders start (part :: rest) =
              after.missingFolders (start ++ [part]) rest := by
          intro hthere
          rw [missingFolders, if_neg hpart, if_neg hlong]
          simp only [isFolder_iff.mp hthere]
        obtain ⟨obstacle, heq⟩ | ⟨hfolder, heq⟩ | ⟨-, heq⟩ :=
          missingFolders_down (t := t) hpart start rest
        · rw [heq] at hreached
          exact absurd hreached (by simp)
        · have hthere := hkept _ (isFolder_iff.mpr hfolder)
          rw [heq] at hreached hmade
          rw [hnext hthere]
          exact ih (hstart.concat hthere) hreached hmade
        · rw [heq] at hreached hmade
          have hthere := hmade _ List.mem_cons_self
          rw [hnext hthere]
          exact ih (hstart.concat hthere) hreached fun q hq => hmade q (List.mem_cons_of_mem _ hq)

end

end FileTree

end Phrasebook
