import Phrasebook.Log.Record
import Phrasebook.Proofs.Bindings

/-!
# What a record carries

A record has the names of its context and those of its event, and where both have a name the event
wins.

* `Record.fields`, `Record.get?_fields_of_mem` — the fields of a record and those of its event;
* `leave_eq_without` — leaving a block takes out the names that it binds;
* `leave_enter` — a block that is entered with no names leaves none, whatever it binds.
-/

namespace Phrasebook

namespace Log

/-! ### The fields of a record -/

/-- The fields of a record before anything is added to them or cut: those of the context, overridden
by those of the event. -/
def Record.fields (r : Record) : Fields :=
  r.context.override r.event.fields

/-- The fields of an event have different names. -/
theorem Event.nodup_fields (e : Event) : (e.fields.map Prod.fst).Nodup := by
  cases e <;> simp [Event.fields]

/-- Whatever the context has, an event keeps its own fields. -/
theorem Record.get?_fields_of_mem {r : Record} {name : String} {value : Value}
    (h : (name, value) ∈ r.event.fields) : r.fields.get? name = some value :=
  Bindings.get?_override_of_mem r.event.nodup_fields h r.context

/-- Other names are those of the context. -/
theorem Record.get?_fields_of_not_mem {r : Record} {name : String}
    (h : name ∉ r.event.fields.map Prod.fst) : r.fields.get? name = r.context.get? name :=
  Bindings.get?_override_of_not_mem h r.context

/-! ### Blocks -/

/-- **Leaving a block takes out the names that it binds.** -/
theorem leave_eq_without (context : Fields) (b : Block) :
    leave context b = context.without (b.bindings.map Prod.fst) := by
  unfold leave
  induction b.bindings generalizing context with
  | nil => exact (Bindings.without_nil context).symm
  | cons p rest ih =>
    rw [List.foldl_cons, ih, Bindings.erase_eq_without, Bindings.without_without]
    rfl

/-- What a block puts in it takes out again, with what was bound to its names before and whatever
else was taken out inside of it. -/
theorem leave_enter_without (context : Fields) (b : Block) (names : List String) :
    leave ((enter context b).without names) b =
      context.without (b.bindings.map Prod.fst ++ names) := by
  have hput : ∀ p ∈ b.bindings, p.1 ∈ b.bindings.map Prod.fst ++ names :=
    fun p hp => List.mem_append_left _ (List.mem_map_of_mem hp)
  rw [leave_eq_without, Bindings.without_without, enter, ← Bindings.without_override hput]
  refine Bindings.without_congr _ fun name => ?_
  rw [List.mem_append, List.mem_append, or_comm]

/-- **A block takes away what it has bound**: if there was nothing before it, there is nothing after
it. -/
theorem leave_enter (b : Block) : leave (enter ∅ b) b = ∅ := by
  have hblock := leave_enter_without ∅ b []
  rw [Bindings.without_nil] at hblock
  rw [hblock]
  rfl

end Log

end Phrasebook
