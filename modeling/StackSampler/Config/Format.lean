import StackSampler.Config
import StackSampler.Json.Decode
import StackSampler.Json.Value

/-!
# The configuration format

Configurations as JSON objects. Both sizes have to be given; whether they can back a pool is
another question.
-/

namespace StackSampler.Config

open Json Json.Reader

def toValue (c : Config) : Value :=
  .object [("max_stack_depth", .number c.depth), ("slot_heap_size", .number c.slots)]

/-- A configuration while it is read. -/
structure Draft where
  depth : Option Nat := none
  slots : Option Nat := none

def Draft.finish (d : Draft) : Except ValueFault Config := do
  return ⟨← need "max_stack_depth" d.depth, ← need "slot_heap_size" d.slots⟩

def reader : Reader Config :=
  record
    { title := "struct ProfilerConfig"
      arity := "struct ProfilerConfig with 2 elements"
      fields :=
        [.of "max_stack_depth" Draft.depth (fun d n => { d with depth := some n })
          (natural Decimal.largestWord "usize"),
         .of "slot_heap_size" Draft.slots (fun d n => { d with slots := some n })
          (natural Decimal.largestWord "usize")]
      strict := false
      start := {}
      finish := Draft.finish }

def text (c : Config) : String := c.toValue.compact

def ofText (t : String) : Except Fault Config := ((document reader).run (cells t)).map Prod.fst

end StackSampler.Config
