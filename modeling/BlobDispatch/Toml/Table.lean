import BlobDispatch.Toml.Value

/-! The tree of tables that a document makes, and what a line may do to it. A key is never given a
second value, and a table that a header or braces have settled is not added to from elsewhere. -/

namespace BlobDispatch.Toml

/-- Replaces the value of a key that is there. -/
def setEntry (key : String) (value : Value) (entries : Entries) : Entries :=
  entries.map fun entry => if entry.1 = key then (key, value) else entry

/-- Changes the table that a path leads to, through tables of a kind that `enters` and through the
last row of a list of tables. Tables that are not there are made, of the kind `made`. The change
learns the kind of its table. -/
def changeAt (made : TableKind) (enters : TableKind → Bool)
    (change : TableKind → Entries → Option Entries) :
    List String → TableKind → Entries → Option Entries
  | [], kind, entries => change kind entries
  | key :: path, _, entries =>
    match entries.lookup key with
    | none => do
      let inner ← changeAt made enters change path made []
      return entries ++ [(key, .table made inner)]
    | some (.table kind inner) => do
      if enters kind then
        let inner ← changeAt made enters change path kind inner
        return setEntry key (.table kind inner) entries
      else none
    | some (.tables rows) =>
      match rows.getLast? with
      | none => none
      | some row => do
        let row ← changeAt made enters change path .header row
        return setEntry key (.tables (rows.dropLast ++ [row])) entries
    | some _ => none

/-- Adds a value under a dotted path, which may pass only through tables that no header has
settled and must end in one that dotted keys made. -/
def addDotted (path : List String) (value : Value) (kind : TableKind) (entries : Entries) :
    Option Entries := do
  let key ← path.getLast?
  let leading := path.dropLast
  changeAt .dotted (fun kind => kind == .dotted || kind == .implied)
    (fun reached inner =>
      if (leading.isEmpty || reached == .dotted) && (inner.lookup key).isNone then
        some (inner ++ [(key, value)])
      else none)
    leading kind entries

/-- Whether a header may pass through a table on its way: all but those in braces. -/
def headerEnters (kind : TableKind) : Bool := kind != .inline

/-- Opens the table of a header, which only headers of tables below it may have implied so far. -/
def openTable (path : List String) (root : Entries) : Option Entries := do
  let key ← path.getLast?
  changeAt .implied headerEnters (fun _ entries =>
    match entries.lookup key with
    | none => some (entries ++ [(key, .table .header [])])
    | some (.table .implied inner) => some (setEntry key (.table .header inner) entries)
    | some _ => none) path.dropLast .header root

/-- Adds an empty row to the list of tables of a header in double brackets. -/
def openRow (path : List String) (root : Entries) : Option Entries := do
  let key ← path.getLast?
  changeAt .implied headerEnters (fun _ entries =>
    match entries.lookup key with
    | none => some (entries ++ [(key, .tables [[]])])
    | some (.tables rows) => some (setEntry key (.tables (rows ++ [[]])) entries)
    | some _ => none) path.dropLast .header root

end BlobDispatch.Toml
