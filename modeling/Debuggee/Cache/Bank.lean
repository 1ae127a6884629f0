import Debuggee.Cache

namespace Debuggee

structure Bank (κ α : Type) : Type where
  tables : List (String × Cache κ α) := []
  listed : List (List Event × Nat) := []

namespace Bank

variable {κ α : Type} [DecidableEq κ]

def add (b : Bank κ α) (name : String) : Bank κ α :=
  { b with tables := b.tables ++ [(name, {})] }

def register (b : Bank κ α) (name : String) (events : List Event) : Bank κ α :=
  { tables := b.tables ++ [(name, {})], listed := b.listed ++ [(events, b.tables.length)] }

def modify (b : Bank κ α) (i : Nat) (f : Cache κ α → Cache κ α) : Bank κ α :=
  { b with tables := b.tables.modify i fun (name, table) => (name, f table) }

def get? (b : Bank κ α) (i : Nat) (k : κ) : Option α := b.tables[i]?.bind (·.2.get? k)

def insert (b : Bank κ α) (i : Nat) (k : κ) (v : α) : Bank κ α := b.modify i (·.insert k v)

/--
The value under a key, computed and stored if there is none. The computation sees the bank and may
change it; its value is stored last.
-/
def getOrInsert (b : Bank κ α) (i : Nat) (k : κ) (compute : Bank κ α → α × Bank κ α) :
    α × Bank κ α :=
  match b.get? i k with
  | some v => (v, b)
  | none =>
    let (v, b) := compute b
    (v, b.insert i k v)

def clear (b : Bank κ α) (i : Nat) : Bank κ α := b.modify i (·.clear)

def clearWhere (b : Bank κ α) (due : List Event → Bool) : Bank κ α :=
  b.listed.foldl (fun b (events, i) => if due events then b.clear i else b) b

def onEvent (b : Bank κ α) (e : Event) : Bank κ α := b.clearWhere (·.contains e)

def clearAll (b : Bank κ α) : Bank κ α := b.clearWhere fun _ => true

end Bank

end Debuggee
