import BlobDispatch.FoldedMap.Basic

/-! Operations on a folded map as data, so that a run is a list and can be compared. Each of them
answers; none is refused. -/

namespace BlobDispatch.FoldedMap

universe u

variable {fold : String → String} {α : Type u}

inductive Operation (α : Type u) where
  | insert (key : String) (value : α)
  | erase (key : String)
  | get (key : String)
  | stored (key : String)
  | contains (key : String)
  | size
  | isEmpty
  | keys
  | values
  | entries

/-- Answers of operations, by the kind of value they hold. -/
inductive Reply (α : Type u) where
  | value (found : Option α)
  | entry (found : Option (String × α))
  | flag (value : Bool)
  | count (value : Nat)
  | keys (value : List String)
  | values (value : List α)
  | entries (value : List (String × α))
  deriving DecidableEq

/-- One operation: its answer and the map after it. An insertion and a removal answer with the
value that was there before. -/
def step (m : FoldedMap fold α) : Operation α → Reply α × FoldedMap fold α
  | .insert key value => (.value (m.get? key), m.insert key value)
  | .erase key => (.value (m.get? key), m.erase key)
  | .get key => (.value (m.get? key), m)
  | .stored key => (.entry (m.stored? key), m)
  | .contains key => (.flag (m.contains key), m)
  | .size => (.count m.size, m)
  | .isEmpty => (.flag m.isEmpty, m)
  | .keys => (.keys m.keys, m)
  | .values => (.values m.values, m)
  | .entries => (.entries m.entries, m)

/-- A run: the answer of every operation in order, and the map at the end. -/
def run (m : FoldedMap fold α) : List (Operation α) → List (Reply α) × FoldedMap fold α
  | [] => ([], m)
  | operation :: rest =>
    let (reply, next) := m.step operation
    let (replies, last) := next.run rest
    (reply :: replies, last)

end BlobDispatch.FoldedMap
