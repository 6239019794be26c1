import Phrasebook.Log.Value

/-!
# The context of a log record

While a block of work is going on, the names that it binds are part of every record.  Leaving
the block takes these names out of the context, however it is left; what they were bound to
before does not come back.

* `Block`, `Block.bindings` — the names that a block binds.
* `enter`, `leave` — the context inside and after a block.
* `Action`, `Scope`, `Scope.step` — a context with the blocks that are open.
-/

namespace Phrasebook.Log

/-- A block of work: the class it generates, the number of its files and anything else. -/
structure Block where
  className : Option String
  fileCount : Option Int
  extra : List (String × Value)

/-- The names that a block binds.  A class or a number that is not given is not bound. -/
def Block.bindings (b : Block) : List (String × Value) :=
  (b.className.map fun s => ("class_name", Value.text s)).toList
    ++ (b.fileCount.map fun n => ("file_count", Value.number n)).toList
    ++ b.extra

/-- The context inside a block. -/
def enter (context : Fields) (b : Block) : Fields :=
  context.override b.bindings

/-- The context after a block: without the names that it bound. -/
def leave (context : Fields) (b : Block) : Fields :=
  b.bindings.foldl (fun c p => c.erase p.1) context

/-- How a block is left. -/
inductive Exit where
  | normal
  | failure
  deriving DecidableEq, Repr

/-- What happens to a context. -/
inductive Action where
  /-- A block begins. -/
  | enter (b : Block)
  /-- The innermost block ends. -/
  | exit (how : Exit)
  /-- Names are bound outside of any block. -/
  | bind (fields : List (String × Value))
  /-- All names are taken out. -/
  | clear

/-- A context with the blocks that are open, the innermost first. -/
structure Scope where
  context : Fields
  blocks : List Block

/-- No name is bound and no block is open. -/
def Scope.initial : Scope := ⟨∅, []⟩

/-- The scope after an action.  How a block is left makes no difference. -/
def Scope.step (s : Scope) : Action → Scope
  | .enter b => ⟨Log.enter s.context b, b :: s.blocks⟩
  | .exit _ =>
    match s.blocks with
    | [] => s
    | b :: rest => ⟨leave s.context b, rest⟩
  | .bind fields => ⟨s.context.override fields, s.blocks⟩
  | .clear => ⟨∅, s.blocks⟩

end Phrasebook.Log
