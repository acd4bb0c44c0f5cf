import StackSampler.Frame.Basic

/-!
# Symbol tables

Sampling sees identities only. A symbol table hands out the identities 1, 2, 3, … to names in the
order in which they are first seen, and gives the names back when a profile is exported. It keeps both
directions: the names by their places, and a map from names to identities.
-/

namespace StackSampler

/-- The names interned so far; the name at position `i` has identity `i + 1`. -/
structure SymbolTable where
  names : Array String := #[]
  /-- The identity of every name, the newest name first. -/
  ids : List (String × FrameId) := []
  deriving Repr, Inhabited

namespace SymbolTable

def size (t : SymbolTable) : Nat := t.names.size

def isEmpty (t : SymbolTable) : Bool := t.names.isEmpty

/-- The identity of `name`, and the table that knows it: a name seen before keeps its identity. -/
def intern (t : SymbolTable) (name : String) : FrameId × SymbolTable :=
  match t.ids.lookup name with
  | some f => (f, t)
  | none =>
    let names := t.names.push name
    let f := FrameId.ofNat names.size
    (f, { names, ids := (name, f) :: t.ids })

/-- The table of `names`, interned in order. -/
def ofList (names : List String) : SymbolTable :=
  names.foldl (fun t name => (t.intern name).2) {}

/-- The name behind an identity. The absent frame has none. -/
def resolve (t : SymbolTable) (f : FrameId) : Option String :=
  match f.toNat with
  | 0 => none
  | i + 1 => t.names[i]?

/-- The name to show for an identity: its own, or its label. -/
def display (t : SymbolTable) (f : FrameId) : String :=
  (t.resolve f).getD f.label

end SymbolTable

end StackSampler
