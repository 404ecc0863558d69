import BlobDispatch.FoldedMap.Basic
import BlobDispatch.Template.Error

/-! Contracts: the names that a handler may bind to, each with the type of its value. Values come
from the text of addresses and metadata, so there is one type. -/

namespace BlobDispatch

inductive BindingType where
  | string
  deriving DecidableEq

def BindingType.text : BindingType → String
  | .string => "string"

abbrev Contract := CaseMap BindingType

namespace Contract

/-- Adds names to a contract in order and stops at the first that is there already, case aside. -/
def extend (contract : Contract) : List String → Except Template.Error Contract
  | [] => .ok contract
  | name :: rest =>
    if contract.contains name then .error (.duplicateParameter name)
    else extend (contract.insert name .string) rest

/-- The contract with exactly the given names. -/
def ofNames (names : List String) : Except Template.Error Contract :=
  extend FoldedMap.empty names

/-- The diagnostic form of a contract. -/
def inspect (contract : Contract) : String :=
  "BindingContract(" ++ Text.inspectPairs (contract.entries.map fun (name, _) => (name, "String"))
    ++ ")"

end Contract

end BlobDispatch
