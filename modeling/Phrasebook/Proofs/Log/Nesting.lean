import Phrasebook.Proofs.Log.Record

/-!
# Blocks inside blocks

Blocks of work are entered and left in any nesting, and each of them is left normally or by a
failure.  What such a run leaves of a context are the names that none of its blocks has bound:

* `WellNested`, `boundNames` — the runs, and the names that their blocks bind;
* `run_append`, `run_enter` — a run in two parts, and the context inside a block;
* `run_of_wellNested` — the scope after a run, by induction on the nesting;
* `run_congr` — how blocks are left makes no difference;
* `blocks_clean_up` — all of it.
-/

namespace Phrasebook

namespace Log

/-- The scope after several actions. -/
def Scope.run (s : Scope) (actions : List Action) : Scope :=
  actions.foldl Scope.step s

theorem run_append (s : Scope) (actions others : List Action) :
    s.run (actions ++ others) = (s.run actions).run others :=
  List.foldl_append

/-- A run of blocks: each block that is entered is left, after a run of the blocks inside it, and a
further run may follow. -/
inductive WellNested : List Action → Prop
  | nil : WellNested []
  | block (b : Block) (how : Exit) {inner rest : List Action} :
      WellNested inner → WellNested rest → WellNested (.enter b :: (inner ++ .exit how :: rest))

/-! ### The names that blocks bind -/

/-- The names that a block binds: those of the class and of the number of files only if they are
given. -/
def Block.Binds (b : Block) (name : String) : Prop :=
  name = "class_name" ∧ b.className.isSome ∨ name = "file_count" ∧ b.fileCount.isSome ∨
    name ∈ b.extra.map Prod.fst

theorem mem_bindings_iff {b : Block} {name : String} :
    name ∈ b.bindings.map Prod.fst ↔ b.Binds name := by
  obtain ⟨className, fileCount, extra⟩ := b
  cases className <;> cases fileCount <;> simp [Block.bindings, Block.Binds]

/-- The names that the blocks of a run bind, in the order in which the blocks are entered. -/
def boundNames (actions : List Action) : List String :=
  actions.flatMap fun
    | .enter b => b.bindings.map Prod.fst
    | _ => []

theorem mem_boundNames_iff {actions : List Action} {name : String} :
    name ∈ boundNames actions ↔ ∃ b, .enter b ∈ actions ∧ b.Binds name := by
  rw [boundNames, List.mem_flatMap]
  constructor
  · rintro ⟨action, haction, hname⟩
    cases action with
    | enter b => exact ⟨b, haction, mem_bindings_iff.mp hname⟩
    | exit how => exact absurd hname List.not_mem_nil
    | bind fields => exact absurd hname List.not_mem_nil
    | clear => exact absurd hname List.not_mem_nil
  · rintro ⟨b, hb, hname⟩
    exact ⟨.enter b, hb, mem_bindings_iff.mpr hname⟩

/-! ### Runs of blocks -/

/-- **What a run of blocks leaves**: the context without the names that its blocks have bound, and
the blocks that were open before. -/
theorem run_of_wellNested {actions : List Action} (h : WellNested actions) (s : Scope) :
    s.run actions = ⟨s.context.without (boundNames actions), s.blocks⟩ := by
  -- the induction is on the nesting, for all scopes: an inner run starts inside of its block
  induction h generalizing s with
  | nil =>
    rw [boundNames, List.flatMap_nil, Bindings.without_nil]
    rfl
  | @block b how inner rest _ _ ihinner ihrest =>
    have hinside : s.run (.enter b :: inner) =
        ⟨(enter s.context b).without (boundNames inner), b :: s.blocks⟩ := ihinner _
    have hleft : s.run (.enter b :: inner ++ [.exit how]) =
        ⟨s.context.without (b.bindings.map Prod.fst ++ boundNames inner), s.blocks⟩ := by
      rw [run_append, hinside, ← leave_enter_without]
      rfl
    have hsplit : Action.enter b :: (inner ++ .exit how :: rest) =
        .enter b :: inner ++ [.exit how] ++ rest := by simp
    have hnames : boundNames (.enter b :: inner ++ [.exit how] ++ rest) =
        b.bindings.map Prod.fst ++ boundNames inner ++ boundNames rest := by
      simp [boundNames]
    rw [hsplit, run_append, hleft, ihrest, Bindings.without_without, hnames]

/-- **Inside a block** the names that it binds have its values, and all others those that they had
before. -/
theorem run_enter (s : Scope) (b : Block) :
    (s.run [.enter b]).blocks = b :: s.blocks ∧
      ∀ name, (s.run [.enter b]).context.get? name =
        ((Bindings.ofList b.bindings).get? name).or (s.context.get? name) := by
  refine ⟨rfl, fun name => ?_⟩
  show (s.context.override b.bindings).get? name = _
  rw [Bindings.ofList, Bindings.get?_override, Bindings.get?_override, Bindings.get?_empty,
    Option.or_none]

/-! ### How blocks are left -/

/-- The action without how a block is left. -/
def Action.regardless : Action → Action
  | .exit _ => .exit .normal
  | action => action

theorem step_regardless (s : Scope) (action : Action) :
    s.step action.regardless = s.step action := by
  cases action <;> rfl

/-- **How blocks are left makes no difference**: runs that differ in nothing else end alike. -/
theorem run_congr {actions others : List Action}
    (h : others.map Action.regardless = actions.map Action.regardless) (s : Scope) :
    s.run others = s.run actions := by
  have hrun : ∀ actions : List Action, s.run (actions.map Action.regardless) = s.run actions := by
    intro actions
    have hstep : (fun s action => Scope.step s action.regardless) = Scope.step :=
      funext fun s => funext fun action => step_regardless s action
    rw [Scope.run, List.foldl_map, hstep]
    rfl
  rw [← hrun others, h, hrun actions]

/-! ### All together -/

/-- **Blocks clean up exactly what they bound.**  For every run of blocks, in any scope:

* After the run the context is the one before it without the names that its blocks have bound: these
  have no value any more, and all others have the one that they had.  A class or a number of files
  that is not given is none of these names.
* A run of the same blocks that are left in other ways ends in the same scope.
* Just inside of each block of the run, the names that it binds have its values, and all others those
  that they had before it. -/
theorem blocks_clean_up {actions : List Action} (h : WellNested actions) (s : Scope) :
    (s.run actions = ⟨s.context.without (boundNames actions), s.blocks⟩ ∧
      ∀ name,
        ((∃ b, .enter b ∈ actions ∧ b.Binds name) → (s.run actions).context.get? name = none) ∧
        ((∀ b, .enter b ∈ actions → ¬ b.Binds name) →
          (s.run actions).context.get? name = s.context.get? name)) ∧
    (∀ others, others.map Action.regardless = actions.map Action.regardless →
      s.run others = s.run actions) ∧
    ∀ before b after, actions = before ++ .enter b :: after →
      (s.run (before ++ [.enter b])).blocks = b :: (s.run before).blocks ∧
      ∀ name, (s.run (before ++ [.enter b])).context.get? name =
        ((Bindings.ofList b.bindings).get? name).or ((s.run before).context.get? name) := by
  have hrun := run_of_wellNested h s
  refine ⟨⟨hrun, fun name => ?_⟩, fun others hothers => run_congr hothers s, ?_⟩
  · rw [hrun, Bindings.get?_without]
    refine ⟨fun hbound => if_pos (mem_boundNames_iff.mpr hbound), fun hfree => if_neg ?_⟩
    rw [mem_boundNames_iff]
    rintro ⟨b, hb, hname⟩
    exact hfree b hb hname
  · rintro before b after -
    rw [run_append]
    exact run_enter (s.run before) b

/-- The work of a class, and inside of it that of another one. -/
def outerBlock : Block := ⟨some "Texts", some 2, [("turn", .number 1)]⟩

/-- The work of a class in the middle of that of another one, without a number of files. -/
def innerBlock : Block := ⟨some "Names", none, [("turn", .number 2), ("retry", .flag true)]⟩

/-- A context in which some of these names are bound already. -/
def busyScope : Scope :=
  ⟨Bindings.ofList [("class_name", .text "Old"), ("request", .number 7), ("retry", .flag false)], []⟩

/-- A block inside another one that binds the same names, left by a failure: afterwards only what no
block has bound is there. -/
theorem blocks_clean_up_failing :
    (busyScope.run [.enter outerBlock, .enter innerBlock, .exit .failure,
        .exit .normal]).context.get? "request" = some (.number 7) ∧
      (busyScope.run [.enter outerBlock, .enter innerBlock, .exit .failure,
        .exit .normal]).context.get? "retry" = none ∧
      (busyScope.run [.enter outerBlock, .enter innerBlock]).context.get? "file_count" =
        some (.number 2) := by
  have hnested : WellNested [.enter outerBlock, .enter innerBlock, .exit .failure, .exit .normal] :=
    .block outerBlock .normal (.block innerBlock .failure .nil .nil) .nil
  obtain ⟨⟨-, hafter⟩, -, hinside⟩ := blocks_clean_up hnested busyScope
  refine ⟨?_, (hafter "retry").1 ⟨innerBlock, by simp, .inr (.inr (by decide))⟩, ?_⟩
  · refine (hafter "request").2 ?_
    intro b hb
    rw [← mem_bindings_iff]
    simp only [List.mem_cons, Action.enter.injEq, reduceCtorEq, List.not_mem_nil, or_false] at hb
    rcases hb with rfl | rfl <;> decide
  · exact (hinside [.enter outerBlock] innerBlock [.exit .failure, .exit .normal] rfl).2 _

end Log

end Phrasebook
