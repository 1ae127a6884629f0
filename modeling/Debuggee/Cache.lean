import Debuggee.Assoc
import Debuggee.Event

namespace Debuggee

/-- A table in the order in which its keys were first stored. -/
structure Cache (κ α : Type) : Type where
  entries : List (κ × α) := []
  deriving Repr

namespace Cache

variable {κ α : Type} [DecidableEq κ]

def empty : Cache κ α := {}

def get? (c : Cache κ α) (k : κ) : Option α := c.entries.lookup k

def insert (c : Cache κ α) (k : κ) (v : α) : Cache κ α := ⟨Assoc.store k v c.entries⟩

omit [DecidableEq κ] in
def clear (_ : Cache κ α) : Cache κ α := empty

omit [DecidableEq κ] in
def size (c : Cache κ α) : Nat := c.entries.length

omit [DecidableEq κ] in
/-- What is left after an event, given the events that end the table's life. -/
def after (c : Cache κ α) (ends : List Event) (e : Event) : Cache κ α :=
  if ends.contains e then c.clear else c

@[simp] theorem get?_insert (c : Cache κ α) (k k' : κ) (v : α) :
    (c.insert k v).get? k' = if k' = k then some v else c.get? k' :=
  Assoc.lookup_store k k' v c.entries

@[simp] theorem get?_clear (c : Cache κ α) (k : κ) : c.clear.get? k = none := rfl

omit [DecidableEq κ] in
theorem after_eq_or (c : Cache κ α) (ends : List Event) (e : Event) :
    c.after ends e = c ∨ c.after ends e = empty := by
  unfold after
  split
  · exact .inr rfl
  · exact .inl rfl

end Cache

end Debuggee
