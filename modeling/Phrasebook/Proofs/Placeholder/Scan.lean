import Phrasebook.Proofs.Placeholder

/-!
# The places of placeholders

Where a placeholder stands is stated here without a search: the text continues with two opening
braces, spaces, a name, spaces and two closing braces.  The search is the one of a pattern that is
tried at every place from the left, with the ways in which it matches in the order in which they are
tried:

* `writtenPlaceholder`, `BeginsWith` — how a placeholder is written, and texts that begin with one;
* `matchesAt`, `head?_matchesAt` — all ways in which the pattern matches, of which there is at most
  one, so that it does not matter which way is tried first;
* `scanFrom`, `map_name_scanFrom` — the search, with the places of what it finds;
* `mem_scanFrom_iff` — it finds all placeholders, since none begins inside another one;
* `distinctNames_map_name` — the names that are kept are those that no earlier one is equal to;
* `placeholderNames_of_occurrences` — the names of a text in terms of its occurrences.
-/

namespace Phrasebook

open Phrasebook.Text

/-! ### How a placeholder is written -/

/-- A placeholder with so many spaces before and after its name. -/
def writtenPlaceholder (before : Nat) (name : List Char) (after : Nat) : List Char :=
  '\x7b' :: '\x7b' :: (List.replicate before ' ' ++ (name ++
    (List.replicate after ' ' ++ ['\x7d', '\x7d'])))

/-- What can be the name of a placeholder. -/
def IsPlaceholderName (name : List Char) : Prop :=
  name ≠ [] ∧ ∀ c ∈ name, isPlaceholderChar c = true

/-- The characters begin with a placeholder of this name, and go on with the rest behind it. -/
def BeginsWith (s name rest : List Char) : Prop :=
  IsPlaceholderName name ∧ ∃ before after, s = writtenPlaceholder before name after ++ rest

/-- The characters around a name are none of its own. -/
theorem isPlaceholderChar_around :
    ∀ c ∈ [' ', '\x7b', '\x7d', '\ufffd'], isPlaceholderChar c = false :=
  forall_mem_of_all (by decide +kernel)

theorem IsPlaceholderName.not_mem {name : List Char} (h : IsPlaceholderName name) :
    ∀ c ∈ [' ', '\x7b', '\x7d', '\ufffd'], c ∉ name := by
  intro c hc hmem
  exact absurd ((isPlaceholderChar_around c hc).symm.trans (h.2 c hmem)) Bool.false_ne_true

theorem afterOpening?_eq_some_iff {s rest : List Char} :
    afterOpening? s = some rest ↔ s = '\x7b' :: '\x7b' :: rest := by
  unfold afterOpening?
  split
  · simp
  · rename_i hne
    exact ⟨fun h => absurd h (by simp), fun h => absurd h (hne rest)⟩

theorem afterClosing?_eq_some_iff {s rest : List Char} :
    afterClosing? s = some rest ↔ s = '\x7d' :: '\x7d' :: rest := by
  unfold afterClosing?
  split
  · simp
  · rename_i hne
    exact ⟨fun h => absurd h (by simp), fun h => absurd h (hne rest)⟩

/-- Spaces in front of something else are skipped. -/
theorem skipSpaces_replicate_append (n : Nat) {s : List Char} (hs : ∀ c ∈ s.head?, c ≠ ' ') :
    skipSpaces (List.replicate n ' ' ++ s) = s := by
  rw [skipSpaces, List.dropWhile_append_of_pos (by simp)]
  cases s with
  | nil => rfl
  | cons c rest => exact List.dropWhile_cons_of_neg (by simpa using hs c rfl)

/-- What is skipped are spaces. -/
theorem exists_replicate_skipSpaces (s : List Char) :
    ∃ n, s = List.replicate n ' ' ++ skipSpaces s := by
  refine ⟨(s.takeWhile (· == ' ')).length, ?_⟩
  have hspaces : s.takeWhile (· == ' ') = List.replicate (s.takeWhile (· == ' ')).length ' ' := by
    refine List.eq_replicate_iff.mpr ⟨rfl, fun c hc => ?_⟩
    exact beq_iff_eq.mp (List.all_eq_true.mp List.all_takeWhile c hc)
  rw [← hspaces]
  exact (List.takeWhile_append_dropWhile).symm

/-- Behind a name come spaces or a closing brace, so the name ends there. -/
theorem span_name {name : List Char} (h : IsPlaceholderName name) (n : Nat) (rest : List Char) :
    (name ++ (List.replicate n ' ' ++ '\x7d' :: rest)).takeWhile isPlaceholderChar = name ∧
      (name ++ (List.replicate n ' ' ++ '\x7d' :: rest)).dropWhile isPlaceholderChar =
        List.replicate n ' ' ++ '\x7d' :: rest := by
  have hends : ∃ c others, List.replicate n ' ' ++ '\x7d' :: rest = c :: others ∧
      isPlaceholderChar c = false := by
    cases n with
    | zero => exact ⟨_, _, rfl, isPlaceholderChar_around _ (by simp)⟩
    | succ n => exact ⟨_, _, rfl, isPlaceholderChar_around _ (by simp)⟩
  obtain ⟨c, others, hsplit, hc⟩ := hends
  have hne : ¬ isPlaceholderChar c = true := by simp [hc]
  rw [hsplit]
  constructor
  · rw [List.takeWhile_append_of_pos h.2, List.takeWhile_cons_of_neg hne, List.append_nil]
  · rw [List.dropWhile_append_of_pos h.2, List.dropWhile_cons_of_neg hne]

/-- Where a name is found, a placeholder is written. -/
theorem beginsWith_of_nameAt? {s name rest : List Char} (h : nameAt? s = some (name, rest)) :
    BeginsWith s name rest := by
  refine ⟨nameAt?_name h, ?_⟩
  simp only [nameAt?, Option.bind_eq_bind, Option.bind_eq_some_iff, Option.pure_def] at h
  obtain ⟨inner, hopening, h⟩ := h
  split at h
  · exact absurd h (by simp)
  · simp only [Option.bind_eq_some_iff, Option.some.injEq, Prod.mk.injEq] at h
    obtain ⟨after, hclosing, rfl, rfl⟩ := h
    rw [afterOpening?_eq_some_iff] at hopening
    rw [afterClosing?_eq_some_iff] at hclosing
    obtain ⟨m, hm⟩ := exists_replicate_skipSpaces inner
    obtain ⟨n, hn⟩ := exists_replicate_skipSpaces ((skipSpaces inner).dropWhile isPlaceholderChar)
    refine ⟨m, n, ?_⟩
    rw [hclosing] at hn
    have hname : skipSpaces inner = (skipSpaces inner).takeWhile isPlaceholderChar ++
        (List.replicate n ' ' ++ '\x7d' :: '\x7d' :: after) := by
      rw [← hn]
      exact List.takeWhile_append_dropWhile.symm
    rw [hopening, writtenPlaceholder]
    simp only [List.cons_append, List.append_assoc, List.nil_append]
    rw [← hname, ← hm]

/-- In front of a name all spaces are skipped. -/
theorem skipSpaces_replicate_name {name : List Char} (h : IsPlaceholderName name) (n : Nat)
    (rest : List Char) : skipSpaces (List.replicate n ' ' ++ (name ++ rest)) = name ++ rest := by
  refine skipSpaces_replicate_append n fun c hc => ?_
  obtain ⟨first, others, rfl⟩ := List.exists_cons_of_ne_nil h.1
  rw [List.cons_append, List.head?_cons, Option.mem_def, Option.some.injEq] at hc
  rintro rfl
  exact h.not_mem ' ' (by simp) (hc ▸ List.mem_cons_self)

/-- And so are those in front of a closing brace. -/
theorem skipSpaces_replicate_closing (n : Nat) (rest : List Char) :
    skipSpaces (List.replicate n ' ' ++ '\x7d' :: rest) = '\x7d' :: rest := by
  refine skipSpaces_replicate_append n fun c hc => ?_
  rw [List.head?_cons, Option.mem_def, Option.some.injEq] at hc
  rw [← hc]
  decide

/-- Where a placeholder is written, its name is found. -/
theorem nameAt?_of_beginsWith {s name rest : List Char} (h : BeginsWith s name rest) :
    nameAt? s = some (name, rest) := by
  obtain ⟨hname, m, n, rfl⟩ := h
  have hs : writtenPlaceholder m name n ++ rest = '\x7b' :: '\x7b' :: (List.replicate m ' ' ++
      (name ++ (List.replicate n ' ' ++ '\x7d' :: '\x7d' :: rest))) := by
    simp only [writtenPlaceholder, List.cons_append, List.append_assoc, List.nil_append]
  obtain ⟨htake, hdrop⟩ := span_name hname n ('\x7d' :: rest)
  have hne : name.isEmpty = false := by
    rw [← Bool.not_eq_true, List.isEmpty_iff]
    exact hname.1
  rw [hs, nameAt?, afterOpening?, Option.bind_eq_bind, Option.bind_some]
  simp only [skipSpaces_replicate_name hname, htake, hdrop, skipSpaces_replicate_closing, hne,
    afterClosing?]
  rfl

/-- **The name at the start of some characters** is that of the placeholder they begin with. -/
theorem nameAt?_eq_some_iff {s name rest : List Char} :
    nameAt? s = some (name, rest) ↔ BeginsWith s name rest :=
  ⟨beginsWith_of_nameAt?, nameAt?_of_beginsWith⟩

/-! ### The pattern -/

/-- The ways to take characters of a class off the front, each with what is left, in the order of a
repetition that takes all it can get first and then gives back one after the other. -/
def greedily (p : Char → Bool) : List Char → List (List Char × List Char)
  | [] => [([], [])]
  | c :: rest =>
    if p c then (greedily p rest).map (fun way => (c :: way.1, way.2)) ++ [([], c :: rest)]
    else [([], c :: rest)]

/-- The ways to take at least one character of a class off the front, in the order of a repetition
that takes a single one first and then one more after the other. -/
def reluctantly (p : Char → Bool) : List Char → List (List Char × List Char)
  | [] => []
  | c :: rest =>
    if p c then ([c], rest) :: (reluctantly p rest).map (fun way => (c :: way.1, way.2)) else []

/-- The ways in which the pattern of a placeholder matches at the start of some characters, in the
order in which they are tried: each with the name and with what is left. -/
def matchesAt (s : List Char) : List (List Char × List Char) :=
  (afterOpening? s).toList.flatMap fun inner =>
    (greedily (· == ' ') inner).flatMap fun before =>
      (reluctantly isPlaceholderChar before.2).flatMap fun name =>
        (greedily (· == ' ') name.2).flatMap fun after =>
          (afterClosing? after.2).toList.map fun rest => (name.1, rest)

/-- One character more in front of what is taken. -/
theorem cons_mem_map_iff {c d : Char} {taken left : List Char}
    {ways : List (List Char × List Char)} :
    (d :: taken, left) ∈ ways.map (fun way => (c :: way.1, way.2)) ↔
      c = d ∧ (taken, left) ∈ ways := by
  constructor
  · intro h
    obtain ⟨⟨front, back⟩, hway, heq⟩ := List.mem_map.mp h
    rw [Prod.mk.injEq, List.cons.injEq] at heq
    obtain ⟨⟨rfl, rfl⟩, rfl⟩ := heq
    exact ⟨rfl, hway⟩
  · rintro ⟨rfl, hway⟩
    exact List.mem_map.mpr ⟨_, hway, rfl⟩

theorem nil_not_mem_map {c : Char} {left : List Char} {ways : List (List Char × List Char)} :
    ([], left) ∉ ways.map (fun way => (c :: way.1, way.2)) := by
  intro h
  obtain ⟨way, -, heq⟩ := List.mem_map.mp h
  exact absurd (Prod.mk.inj heq).1 (List.cons_ne_nil _ _)

/-- A greedy repetition can take any characters of the class. -/
theorem mem_greedily_iff {p : Char → Bool} {s : List Char} :
    ∀ {taken left : List Char},
      (taken, left) ∈ greedily p s ↔ s = taken ++ left ∧ ∀ c ∈ taken, p c = true := by
  induction s with
  | nil =>
    intro taken left
    rw [greedily, List.mem_singleton, Prod.mk.injEq, eq_comm (a := []), List.append_eq_nil_iff]
    constructor
    · rintro ⟨rfl, rfl⟩
      exact ⟨⟨rfl, rfl⟩, List.forall_mem_nil _⟩
    · exact And.left
  | cons c rest ih =>
    intro taken left
    rw [greedily]
    cases taken with
    | nil =>
      have hrest : ([], left) = (([], c :: rest) : List Char × List Char) ↔
          c :: rest = [] ++ left ∧ ∀ d ∈ ([] : List Char), p d = true :=
        ⟨fun h => ⟨(Prod.mk.inj h).2.symm, List.forall_mem_nil _⟩, fun h => h.1 ▸ rfl⟩
      split
      · rw [List.mem_append, or_iff_right nil_not_mem_map, List.mem_singleton, hrest]
      · rw [List.mem_singleton, hrest]
    | cons d taken =>
      rw [List.cons_append, List.cons.injEq, List.forall_mem_cons]
      split
      · rename_i hc
        rw [List.mem_append, cons_mem_map_iff, ih, List.mem_singleton, Prod.mk.injEq]
        constructor
        · rintro (⟨rfl, hsplit, hall⟩ | ⟨hnil, -⟩)
          · exact ⟨⟨rfl, hsplit⟩, hc, hall⟩
          · exact absurd hnil (List.cons_ne_nil _ _)
        · rintro ⟨⟨rfl, hsplit⟩, -, hall⟩
          exact .inl ⟨rfl, hsplit, hall⟩
      · rename_i hc
        rw [List.mem_singleton, Prod.mk.injEq]
        constructor
        · exact fun h => absurd h.1 (List.cons_ne_nil _ _)
        · rintro ⟨⟨rfl, -⟩, hd, -⟩
          exact absurd hd hc

/-- A reluctant repetition can take any characters of the class, but not none. -/
theorem mem_reluctantly_iff {p : Char → Bool} {s : List Char} :
    ∀ {taken left : List Char}, (taken, left) ∈ reluctantly p s ↔
      s = taken ++ left ∧ taken ≠ [] ∧ ∀ c ∈ taken, p c = true := by
  induction s with
  | nil =>
    intro taken left
    rw [reluctantly]
    refine ⟨fun h => absurd h List.not_mem_nil, fun ⟨hnil, hne, _⟩ => ?_⟩
    exact absurd (List.append_eq_nil_iff.mp hnil.symm).1 hne
  | cons c rest ih =>
    intro taken left
    rw [reluctantly]
    cases taken with
    | nil =>
      split
      · simp [nil_not_mem_map]
      · simp
    | cons d taken =>
      rw [List.cons_append, List.cons.injEq, List.forall_mem_cons]
      split
      · rename_i hc
        rw [List.mem_cons, cons_mem_map_iff, ih, Prod.mk.injEq, List.cons.injEq]
        constructor
        · rintro (⟨⟨rfl, rfl⟩, rfl⟩ | ⟨rfl, hsplit, -, hall⟩)
          · exact ⟨⟨rfl, rfl⟩, List.cons_ne_nil _ _, hc, List.forall_mem_nil _⟩
          · exact ⟨⟨rfl, hsplit⟩, List.cons_ne_nil _ _, hc, hall⟩
        · rintro ⟨⟨rfl, hsplit⟩, -, -, hall⟩
          by_cases hnil : taken = []
          · subst hnil
            exact .inl ⟨⟨rfl, rfl⟩, hsplit.symm⟩
          · exact .inr ⟨rfl, hsplit, hnil, hall⟩
      · rename_i hc
        refine ⟨fun h => absurd h List.not_mem_nil, ?_⟩
        rintro ⟨⟨rfl, -⟩, -, hd, -⟩
        exact absurd hd hc

/-- **The pattern matches in all the ways in which the characters begin with a placeholder.** -/
theorem mem_matchesAt_iff {s name rest : List Char} :
    (name, rest) ∈ matchesAt s ↔ BeginsWith s name rest := by
  simp only [matchesAt, List.mem_flatMap, List.mem_map, Option.mem_toList,
    afterOpening?_eq_some_iff, afterClosing?_eq_some_iff, Prod.exists, Prod.mk.injEq,
    mem_greedily_iff, mem_reluctantly_iff]
  constructor
  · rintro ⟨inner, rfl, spaces, inner', ⟨rfl, hspaces⟩, name', tail, ⟨rfl, hne, hname⟩, spaces',
      tail', ⟨rfl, hspaces'⟩, rest', rfl, rfl, rfl⟩
    have hall : ∀ {l : List Char}, (∀ c ∈ l, (c == ' ') = true) → l = List.replicate l.length ' ' :=
      fun h => List.eq_replicate_iff.mpr ⟨rfl, fun c hc => beq_iff_eq.mp (h c hc)⟩
    refine ⟨⟨hne, hname⟩, spaces.length, spaces'.length, ?_⟩
    rw [writtenPlaceholder, ← hall hspaces, ← hall hspaces']
    simp only [List.cons_append, List.append_assoc, List.nil_append]
  · rintro ⟨⟨hne, hname⟩, m, n, rfl⟩
    have hspaces : ∀ k, ∀ c ∈ List.replicate k ' ', (c == ' ') = true :=
      fun k c hc => beq_iff_eq.mpr (List.eq_of_mem_replicate hc)
    refine ⟨_, ?_, List.replicate m ' ', _, ⟨rfl, hspaces m⟩, name, _, ⟨rfl, hne, hname⟩,
      List.replicate n ' ', _, ⟨rfl, hspaces n⟩, rest, rfl, rfl, rfl⟩
    simp only [writtenPlaceholder, List.cons_append, List.append_assoc, List.nil_append]

/-- **Whichever way is tried first**, it is the one that the name at the start is taken from: there
is no other one. -/
theorem head?_matchesAt (s : List Char) : (matchesAt s).head? = nameAt? s := by
  cases hname : nameAt? s with
  | none =>
    rw [List.head?_eq_none_iff, List.eq_nil_iff_forall_not_mem]
    rintro ⟨name, rest⟩ hmem
    rw [nameAt?_eq_some_iff.mpr (mem_matchesAt_iff.mp hmem)] at hname
    exact absurd hname (by simp)
  | some found =>
    have hmem : found ∈ matchesAt s := mem_matchesAt_iff.mpr (nameAt?_eq_some_iff.mp hname)
    obtain ⟨⟨name, rest⟩, others, hways⟩ := List.exists_cons_of_ne_nil (List.ne_nil_of_mem hmem)
    have hfirst : (name, rest) ∈ matchesAt s := hways ▸ List.mem_cons_self
    rw [nameAt?_eq_some_iff.mpr (mem_matchesAt_iff.mp hfirst)] at hname
    rw [hways, List.head?_cons, hname]

/-! ### The search -/

/-- Where a placeholder stands: the place of its first brace, its name and the place behind it. -/
@[ext]
structure Occurrence where
  start : Nat
  name : String
  stop : Nat
  deriving DecidableEq, Repr

/-- The search from a place on.  What has matched is passed over, and where nothing matches the
search goes on one character further. -/
def scanFrom (place : Nat) : List Char → List Occurrence
  | [] => []
  | c :: rest =>
    match _h : (matchesAt (c :: rest)).head? with
    | some (name, after) =>
      let stop := place + ((c :: rest).length - after.length)
      ⟨place, String.ofList name, stop⟩ :: scanFrom stop after
    | none => scanFrom (place + 1) rest
termination_by s => s.length
decreasing_by
  · exact nameAt?_length ((head?_matchesAt _).symm.trans (by assumption))
  · simp

theorem occurrences_of_some {c : Char} {rest name after : List Char}
    (h : nameAt? (c :: rest) = some (name, after)) :
    occurrences (c :: rest) = name :: occurrences after := by
  rw [occurrences]
  split
  · rename_i name' after' h'
    rw [h, Option.some.injEq, Prod.mk.injEq] at h'
    rw [h'.1, h'.2]
  · rename_i h'
    rw [h] at h'
    exact absurd h' (by simp)

theorem occurrences_of_none {c : Char} {rest : List Char} (h : nameAt? (c :: rest) = none) :
    occurrences (c :: rest) = occurrences rest := by
  rw [occurrences]
  split
  · rename_i h'
    rw [h] at h'
    exact absurd h' (by simp)
  · rfl

/-- **The names that the search finds** are those that the placeholders of a text are made of. -/
theorem map_name_scanFrom (place : Nat) (s : List Char) :
    (scanFrom place s).map (·.name) = (occurrences s).map String.ofList := by
  fun_induction scanFrom place s with
  | case1 => rw [occurrences]; rfl
  | case2 place c rest name after hmatch stop ih =>
    rw [head?_matchesAt] at hmatch
    rw [occurrences_of_some hmatch, List.map_cons, List.map_cons, ih]
  | case3 place c rest hmatch ih =>
    rw [head?_matchesAt] at hmatch
    rw [occurrences_of_none hmatch, ih]

/-! ### Placeholders do not overlap -/

/-- A placeholder stands in the characters at a place. -/
def OccursIn (s : List Char) (o : Occurrence) : Prop :=
  ∃ front tail rest, s = front ++ tail ∧ BeginsWith tail o.name.toList rest ∧
    front.length = o.start ∧ o.stop + rest.length = s.length

/-- Behind its opening braces a placeholder has spaces, its name and the closing braces. -/
theorem not_mem_written {c : Char} (hspace : c ≠ ' ') (hclosing : c ≠ '\x7d')
    (hc : isPlaceholderChar c = false) {name : List Char} (h : IsPlaceholderName name)
    (before after : Nat) :
    c ∉ List.replicate before ' ' ++ (name ++ (List.replicate after ' ' ++ ['\x7d', '\x7d'])) := by
  have hspaces : ∀ n, c ∉ List.replicate n ' ' := fun n hn => hspace (List.eq_of_mem_replicate hn)
  have hname : c ∉ name := fun hmem => absurd (hc.symm.trans (h.2 c hmem)) Bool.false_ne_true
  have hbraces : c ∉ ['\x7d', '\x7d'] := by simp [hclosing]
  simp only [List.mem_append, hspaces, hname, hbraces, or_self, not_false_eq_true]

/-- Two opening braces begin a placeholder. -/
theorem BeginsWith.opening {s name rest : List Char} (h : BeginsWith s name rest) :
    ∃ others, s = '\x7b' :: '\x7b' :: others := by
  obtain ⟨-, before, after, rfl⟩ := h
  exact ⟨_, rfl⟩

/-- The characters begin with one placeholder only. -/
theorem BeginsWith.unique {s name rest name' rest' : List Char} (h : BeginsWith s name rest)
    (h' : BeginsWith s name' rest') : name = name' ∧ rest = rest' := by
  rw [← nameAt?_eq_some_iff] at h h'
  rw [h, Option.some.injEq, Prod.mk.injEq] at h'
  exact h'

/-- **No placeholder begins inside another one**: an opening brace is followed by a second one only
where a placeholder begins. -/
theorem BeginsWith.length_le {front tail name rest name' rest' : List Char}
    (h : BeginsWith (front ++ tail) name rest) (h' : BeginsWith tail name' rest')
    (hfront : front ≠ []) : tail.length ≤ rest.length := by
  obtain ⟨hname, before, after, hsplit⟩ := h
  have hbrace := not_mem_written (c := '\x7b') (by decide) (by decide)
    (isPlaceholderChar_around _ (by simp)) hname before after
  obtain ⟨others, htail⟩ := h'.opening
  obtain ⟨mid, hwritten, hmid⟩ | ⟨mid, -, hrest⟩ := List.append_eq_append_iff.mp hsplit
  · obtain ⟨first, front, rfl⟩ := List.exists_cons_of_ne_nil hfront
    rw [writtenPlaceholder, List.cons_append, List.cons.injEq] at hwritten
    cases mid with
    | nil => exact Nat.le_of_eq (congrArg List.length hmid)
    | cons second mid =>
      -- the second placeholder would begin with the second brace of the first one, or behind it
      exfalso
      rw [htail, List.cons_append, List.cons.injEq] at hmid
      obtain ⟨rfl, hmid⟩ := hmid
      cases front with
      | nil =>
        rw [List.nil_append, List.cons.injEq] at hwritten
        obtain ⟨-, -, hbody⟩ := hwritten
        cases mid with
        | nil => simp at hbody
        | cons third mid =>
          rw [List.cons_append, List.cons.injEq] at hmid
          exact hbrace (by rw [hbody, ← hmid.1]; exact List.mem_cons_self)
      | cons second front =>
        rw [List.cons_append, List.cons.injEq] at hwritten
        exact hbrace (hwritten.2.2 ▸ List.mem_append_right front List.mem_cons_self)
  · rw [hrest, List.length_append]
    omega

theorem OccursIn.unique {s : List Char} {o o' : Occurrence} (h : OccursIn s o)
    (h' : OccursIn s o') (hstart : o.start = o'.start) : o = o' := by
  obtain ⟨front, tail, rest, hs, hbegins, hfront, hstop⟩ := h
  obtain ⟨front', tail', rest', hs', hbegins', hfront', hstop'⟩ := h'
  have hlength : front.length = front'.length := by rw [hfront, hfront', hstart]
  obtain ⟨-, rfl⟩ := List.append_inj (hs.symm.trans hs') hlength
  obtain ⟨hname, rfl⟩ := hbegins.unique hbegins'
  exact Occurrence.ext hstart (String.toList_inj.mp hname) (by omega)

/-- **A placeholder ends before the next one begins.** -/
theorem OccursIn.stop_le {s : List Char} {o o' : Occurrence} (h : OccursIn s o)
    (h' : OccursIn s o') (hlt : o.start < o'.start) : o.stop ≤ o'.start := by
  obtain ⟨front, tail, rest, hs, hbegins, hfront, hstop⟩ := h
  obtain ⟨front', tail', rest', hs', hbegins', hfront', hstop'⟩ := h'
  obtain ⟨between, hfronts, htail⟩ | ⟨between, hfronts, -⟩ :=
    List.append_eq_append_iff.mp (hs.symm.trans hs')
  · have hne : between ≠ [] := by
      rintro rfl
      rw [List.append_nil] at hfronts
      rw [hfronts] at hfront'
      omega
    rw [htail] at hbegins
    have hle := hbegins.length_le hbegins' hne
    have hsum := congrArg List.length hs'
    rw [List.length_append] at hsum
    omega
  · have hsum := congrArg List.length hfronts
    rw [List.length_append] at hsum
    omega

/-! ### The search finds all placeholders -/

/-- What stands at a place that is searched from has no place in front of it. -/
theorem scanFrom_bounds (place : Nat) (s : List Char) :
    ∀ o ∈ scanFrom place s, place ≤ o.start ∧ o.start < o.stop := by
  fun_induction scanFrom place s with
  | case1 => exact List.forall_mem_nil _
  | case2 place c rest name after hmatch stop ih =>
    rw [head?_matchesAt] at hmatch
    have hlength := nameAt?_length hmatch
    have hstop : stop = place + ((c :: rest).length - after.length) := rfl
    refine List.forall_mem_cons.mpr ⟨⟨Nat.le_refl _, ?_⟩, fun o ho => ?_⟩
    · show place < stop
      omega
    · have hbounds := ih o ho
      omega
  | case3 place c rest hmatch ih =>
    intro o ho
    have hbounds := ih o ho
    omega

/-- **The search goes from left to right** and begins each time behind what it has found. -/
theorem pairwise_scanFrom (place : Nat) (s : List Char) :
    (scanFrom place s).Pairwise fun o o' => o.stop ≤ o'.start := by
  fun_induction scanFrom place s with
  | case1 => exact .nil
  | case2 place c rest name after hmatch stop ih =>
    exact List.pairwise_cons.mpr ⟨fun o ho => (scanFrom_bounds stop after o ho).1, ih⟩
  | case3 place c rest hmatch ih => exact ih

/-- One step at a match: behind the place there is the placeholder that begins there, and what is
behind its end. -/
theorem occursIn_iff_of_match {front s name rest : List Char} (h : BeginsWith s name rest)
    {stop : Nat} (hstop : stop = front.length + (s.length - rest.length)) (o : Occurrence) :
    OccursIn (front ++ s) o ∧ front.length ≤ o.start ↔
      o = ⟨front.length, String.ofList name, stop⟩ ∨
        OccursIn (front ++ s) o ∧ stop ≤ o.start := by
  have hlength := nameAt?_length (nameAt?_of_beginsWith h)
  have hfirst : OccursIn (front ++ s) ⟨front.length, String.ofList name, stop⟩ := by
    refine ⟨front, s, rest, rfl, ?_, rfl, ?_⟩
    · rw [String.toList_ofList]
      exact h
    · show stop + rest.length = (front ++ s).length
      rw [List.length_append]
      omega
  constructor
  · rintro ⟨hoccurs, hle⟩
    rcases Nat.eq_or_lt_of_le hle with heq | hlt
    · exact .inl (hoccurs.unique hfirst heq.symm)
    · exact .inr ⟨hoccurs, hfirst.stop_le hoccurs hlt⟩
  · rintro (rfl | ⟨hoccurs, hle⟩)
    · exact ⟨hfirst, Nat.le_refl _⟩
    · exact ⟨hoccurs, by omega⟩

/-- One step where nothing matches: no placeholder begins at the place. -/
theorem occursIn_iff_of_no_match {front s : List Char} (h : nameAt? s = none) (o : Occurrence) :
    OccursIn (front ++ s) o ∧ front.length ≤ o.start ↔
      OccursIn (front ++ s) o ∧ front.length + 1 ≤ o.start := by
  refine and_congr_right fun hoccurs => ⟨fun hle => ?_, fun hle => by omega⟩
  rcases Nat.eq_or_lt_of_le hle with heq | hlt
  · obtain ⟨front', tail, rest, hs, hbegins, hfront, -⟩ := hoccurs
    obtain ⟨-, rfl⟩ := List.append_inj hs (heq.trans hfront.symm)
    rw [nameAt?_of_beginsWith hbegins] at h
    exact absurd h (by simp)
  · exact hlt

/-- **The search finds all placeholders** from its place on. -/
theorem mem_scanFrom_iff {o : Occurrence} (place : Nat) (s : List Char) :
    ∀ front : List Char, front.length = place →
      (o ∈ scanFrom place s ↔ OccursIn (front ++ s) o ∧ place ≤ o.start) := by
  fun_induction scanFrom place s with
  | case1 place =>
    rintro front rfl
    rw [occursIn_iff_of_no_match rfl]
    refine ⟨fun h => absurd h List.not_mem_nil, ?_⟩
    rintro ⟨⟨front', tail, rest, hs, -, hfront, -⟩, hplace⟩
    have hsum := congrArg List.length hs
    rw [List.append_nil, List.length_append] at hsum
    omega
  | case2 place c rest name after hmatch stop ih =>
    rintro front rfl
    rw [head?_matchesAt] at hmatch
    have hbegins := beginsWith_of_nameAt? hmatch
    obtain ⟨m, n, hsplit⟩ := hbegins.2
    -- what is passed over is the placeholder that was found
    have hpassed : (front ++ writtenPlaceholder m name n).length = stop := by
      show _ = front.length + ((c :: rest).length - after.length)
      rw [hsplit, List.length_append, List.length_append]
      omega
    have hrest := ih _ hpassed
    rw [List.append_assoc, ← hsplit] at hrest
    rw [List.mem_cons, hrest, occursIn_iff_of_match hbegins rfl]
  | case3 place c rest hmatch ih =>
    rintro front rfl
    rw [head?_matchesAt] at hmatch
    have hrest := ih (front ++ [c]) (by rw [List.length_append, List.length_singleton])
    rw [List.append_assoc, List.singleton_append] at hrest
    rw [hrest, occursIn_iff_of_no_match hmatch]

/-! ### Names that count once -/

/-- Whether an occurrence further left has the same name, but for its case. -/
def namedBefore (found : List Occurrence) (o : Occurrence) : Bool :=
  found.any fun other => decide (other.start < o.start) && fold other.name == fold o.name

section

variable {first : Occurrence} {rest : List Occurrence}
  (hfirst : ∀ o ∈ rest, first.start < o.start)

include hfirst

/-- Nothing is further left than the first occurrence. -/
theorem namedBefore_first : namedBefore (first :: rest) first = false := by
  rw [namedBefore, List.any_eq_false]
  intro other hother
  rcases List.mem_cons.mp hother with rfl | hother
  · simp
  · have hlt := hfirst other hother
    simp only [Bool.and_eq_true, decide_eq_true_eq, not_and]
    omega

/-- The first occurrence is further left than the others. -/
theorem namedBefore_cons {o : Occurrence} (ho : o ∈ rest) :
    namedBefore (first :: rest) o = (fold first.name == fold o.name || namedBefore rest o) := by
  rw [namedBefore, List.any_cons, decide_eq_true (hfirst o ho), Bool.true_and]
  rfl

end

/-- **The names that are kept** are those of the occurrences that have no name from further left,
and none that was seen before them all. -/
theorem distinctNames_map_name {found : List Occurrence}
    (hsorted : found.Pairwise fun o o' => o.start < o'.start) :
    ∀ seen, distinctNames seen (found.map (·.name)) =
      (found.filter fun o => !seen.contains (fold o.name) && !namedBefore found o).map (·.name) := by
  induction found with
  | nil => intro seen; rfl
  | cons first rest ih =>
    intro seen
    obtain ⟨hfirst, hrest⟩ := List.pairwise_cons.mp hsorted
    rw [List.map_cons, distinctNames, List.filter_cons, namedBefore_first hfirst]
    cases hseen : seen.contains (fold first.name) with
    | true =>
      -- what has the name of the first occurrence was seen as well
      rw [if_pos rfl, ih hrest, Bool.not_true, Bool.false_and, if_neg Bool.false_ne_true]
      congr 1
      refine List.filter_congr fun o ho => ?_
      rw [namedBefore_cons hfirst ho]
      by_cases hsame : fold first.name = fold o.name
      · rw [← hsame, hseen]
        rfl
      · rw [beq_false_of_ne hsame, Bool.false_or]
    | false =>
      -- what has its name has it from further left
      rw [if_neg Bool.false_ne_true, ih hrest, Bool.not_false, Bool.and_self, if_pos rfl,
        List.map_cons]
      congr 2
      refine List.filter_congr fun o ho => ?_
      rw [namedBefore_cons hfirst ho, List.contains_cons, BEq.comm]
      cases fold first.name == fold o.name <;> simp

/-- No two names that are kept are equal but for their case. -/
theorem nodup_fold_distinctNames (names : List String) :
    ∀ seen : List String, ((distinctNames seen names).map fold).Nodup ∧
      ∀ name ∈ distinctNames seen names, fold name ∉ seen := by
  induction names with
  | nil => intro seen; exact ⟨List.nodup_nil, List.forall_mem_nil _⟩
  | cons first rest ih =>
    intro seen
    rw [distinctNames]
    split
    · exact ih seen
    · rename_i hnew
      obtain ⟨hnodup, hfree⟩ := ih (fold first :: seen)
      refine ⟨List.nodup_cons.mpr ⟨?_, hnodup⟩, List.forall_mem_cons.mpr ⟨?_, fun name hname => ?_⟩⟩
      · intro hmem
        obtain ⟨name, hname, heq⟩ := List.mem_map.mp hmem
        exact hfree name hname (heq ▸ List.mem_cons_self)
      · rwa [List.contains_iff_mem] at hnew
      · exact fun hmem => hfree name hname (List.mem_cons_of_mem _ hmem)

/-- Each name is kept, or one that is equal to it but for its case. -/
theorem exists_fold_eq_of_mem {names : List String} {name : String} (h : name ∈ names) :
    ∀ seen : List String, fold name ∈ seen ∨
      ∃ kept ∈ distinctNames seen names, fold kept = fold name := by
  induction names with
  | nil => exact absurd h List.not_mem_nil
  | cons first rest ih =>
    intro seen
    rw [distinctNames]
    split
    · rename_i hseen
      rcases List.mem_cons.mp h with rfl | h
      · exact .inl (List.contains_iff_mem.mp hseen)
      · exact ih h seen
    · rcases List.mem_cons.mp h with rfl | h
      · exact .inr ⟨name, List.mem_cons_self, rfl⟩
      · obtain hmem | ⟨kept, hkept, heq⟩ := ih h (fold first :: seen)
        · rcases List.mem_cons.mp hmem with heq | hmem
          · exact .inr ⟨first, List.mem_cons_self, heq.symm⟩
          · exact .inl hmem
        · exact .inr ⟨kept, List.mem_cons_of_mem first hkept, heq⟩

/-! ### The placeholders of a text -/

/-- A placeholder stands in the text: in front of its start and behind its end the text has anything
at all. -/
def IsOccurrence (t : Text) (o : Occurrence) : Prop :=
  IsPlaceholderName o.name.toList ∧ ∃ before after front rest,
    t = front ++ (ofChars (writtenPlaceholder before o.name.toList after) ++ rest) ∧
    front.length = o.start ∧ o.stop + rest.length = t.length

/-- The search through a whole text. -/
def scan (t : Text) : List Occurrence :=
  scanFrom 0 t.legible.toList

/-- Characters that are legible in a text are characters of the text, unless a half is shown by one
of them. -/
theorem eq_ofChars_of_legible {t : Text} {s : List Char} (h : t.map Point.legible = s)
    (hs : '\ufffd' ∉ s) : t = ofChars s := by
  subst h
  induction t with
  | nil => rfl
  | cons p rest ih =>
    rw [List.map_cons, List.mem_cons, not_or] at hs
    cases p with
    | char c =>
      show Point.char c :: rest = Point.char c :: ofChars (rest.map Point.legible)
      rw [← ih hs.2]
    | half q => exact absurd rfl hs.1

theorem map_legible_ofChars (s : List Char) : (ofChars s).map Point.legible = s := by
  rw [ofChars, List.map_map]
  exact List.map_id _

/-- Nothing of a placeholder is lost or made up where halves are shown by a character. -/
theorem isOccurrence_iff {t : Text} {o : Occurrence} :
    IsOccurrence t o ↔ OccursIn t.legible.toList o := by
  rw [legible, String.toList_ofList]
  constructor
  · rintro ⟨hname, before, after, front, rest, ht, hfront, hstop⟩
    refine ⟨front.map Point.legible, writtenPlaceholder before o.name.toList after ++
      rest.map Point.legible, rest.map Point.legible, ?_, ⟨hname, before, after, rfl⟩, ?_, ?_⟩
    · rw [ht, List.map_append, List.map_append, map_legible_ofChars]
    · rw [List.length_map, hfront]
    · rw [List.length_map, List.length_map, hstop]
  · rintro ⟨front, tail, rest, hsplit, ⟨hname, before, after, rfl⟩, hfront, hstop⟩
    obtain ⟨front', tail', rfl, rfl, htail⟩ := List.map_eq_append_iff.mp hsplit
    obtain ⟨written, rest', rfl, hwritten, rfl⟩ := List.map_eq_append_iff.mp htail
    have hhalf : '\ufffd' ∉ writtenPlaceholder before o.name.toList after := by
      rw [writtenPlaceholder, List.mem_cons, List.mem_cons, not_or, not_or]
      exact ⟨by decide, by decide, not_mem_written (by decide) (by decide)
        (isPlaceholderChar_around _ (by simp)) hname before after⟩
    rw [List.length_map] at hfront
    rw [List.length_map, List.length_map] at hstop
    refine ⟨hname, before, after, front', rest', ?_, hfront, hstop⟩
    rw [eq_ofChars_of_legible hwritten hhalf]

theorem mem_scan_iff {t : Text} {o : Occurrence} : o ∈ scan t ↔ IsOccurrence t o := by
  rw [isOccurrence_iff, scan, mem_scanFrom_iff 0 t.legible.toList [] rfl, List.nil_append]
  exact and_iff_left (Nat.zero_le _)

/-- **The names of a text in terms of its occurrences.**  An occurrence is a place at which the text
continues with two opening braces, spaces, a name, spaces and two closing braces.

* It has one name and one end, and none overlaps another one.
* The search for the pattern finds all of them and nothing else, from left to right.
* The names of the text are, in this order and as they are spelled there, those of the occurrences
  whose name no occurrence further left has, where case does not count.
* So no two of these names are equal but for their case, and each occurrence has one of them. -/
theorem placeholderNames_of_occurrences (t : Text) :
    (∀ o o', IsOccurrence t o → IsOccurrence t o' → o.start = o'.start → o = o') ∧
    (∀ o o', IsOccurrence t o → IsOccurrence t o' → o.start < o'.start → o.stop ≤ o'.start) ∧
    (∀ o, o ∈ scan t ↔ IsOccurrence t o) ∧
    (scan t).Pairwise (fun o o' => o.start < o'.start ∧ o.stop ≤ o'.start) ∧
    placeholderNames t.legible =
      ((scan t).filter fun o => !(scan t).any fun other =>
        decide (other.start < o.start) && fold other.name == fold o.name).map (·.name) ∧
    ((placeholderNames t.legible).map fold).Nodup ∧
    ∀ o, IsOccurrence t o → ∃ name ∈ placeholderNames t.legible, fold name = fold o.name := by
  have hsorted : (scan t).Pairwise fun o o' => o.start < o'.start ∧ o.stop ≤ o'.start := by
    refine (pairwise_scanFrom 0 t.legible.toList).imp_of_mem fun ho _ hle => ?_
    exact ⟨Nat.lt_of_lt_of_le (scanFrom_bounds _ _ _ ho).2 hle, hle⟩
  have hnames : placeholderNames t.legible = distinctNames [] ((scan t).map (·.name)) := by
    rw [scan, map_name_scanFrom]
    rfl
  refine ⟨fun o o' h h' => ?_, fun o o' h h' => ?_, fun o => mem_scan_iff, hsorted, ?_, ?_,
    fun o h => ?_⟩
  · exact (isOccurrence_iff.mp h).unique (isOccurrence_iff.mp h')
  · exact (isOccurrence_iff.mp h).stop_le (isOccurrence_iff.mp h')
  · rw [hnames, distinctNames_map_name (hsorted.imp And.left)]
    rfl
  · rw [hnames]
    exact (nodup_fold_distinctNames _ []).1
  · rw [hnames]
    exact (exists_fold_eq_of_mem (List.mem_map_of_mem (mem_scan_iff.mpr h)) []).resolve_left
      List.not_mem_nil

/-- Placeholders among braces that belong to none of them. -/
def crowdedText : Text :=
  ofString "\x7b\x7b\x7ba\x7d\x7d\x7d \x7b\x7b \x7b\x7b A \x7d\x7d \x7b\x7bb\x7d\x7b\x7bc-1\x7d\x7d"

/-- The first placeholder begins with the second of three braces, the next one has its name in
capitals, and the last one follows on a name that is not closed. -/
theorem placeholderNames_of_occurrences_crowded :
    scan crowdedText = [⟨1, "a", 6⟩, ⟨11, "A", 18⟩, ⟨23, "c-1", 30⟩] ∧
      (∀ o, IsOccurrence crowdedText o → o.start = 1 → o = ⟨1, "a", 6⟩) ∧
      (∀ o, IsOccurrence crowdedText o → 1 < o.start → 6 ≤ o.start) ∧
      placeholderNames crowdedText.legible = ["a", "c-1"] ∧
      ∃ name ∈ placeholderNames crowdedText.legible, fold name = fold "A" := by
  obtain ⟨hunique, happart, hscan, -, hnames, -, hcover⟩ :=
    placeholderNames_of_occurrences crowdedText
  have hplaces : scan crowdedText = [⟨1, "a", 6⟩, ⟨11, "A", 18⟩, ⟨23, "c-1", 30⟩] := by
    decide +kernel
  have hfirst : IsOccurrence crowdedText ⟨1, "a", 6⟩ :=
    (hscan _).mp (hplaces ▸ List.mem_cons_self)
  have hsecond : IsOccurrence crowdedText ⟨11, "A", 18⟩ :=
    (hscan _).mp (hplaces ▸ List.mem_cons_of_mem _ List.mem_cons_self)
  refine ⟨hplaces, fun o h hstart => hunique o _ h hfirst hstart,
    fun o h hstart => happart _ o hfirst h hstart, ?_, hcover _ hsecond⟩
  rw [hnames, hplaces]
  decide +kernel

end Phrasebook
