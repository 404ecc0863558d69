import BlobDispatch.Blob
import BlobDispatch.Json.Value
import BlobDispatch.Template.Basic

/-! JSON forms of what larger values are made of: tags, addresses, maps and templates. A map is the
list of its entries, and a list that names a key twice is read as inserting it twice. A template is
its pattern, compiled again on reading. An address is read without a check of its parts. -/

namespace BlobDispatch

instance : JsonForm Tag where
  encode tag := encode tag.sequence
  decode? j := (decode? j).map Tag.mk

instance : JsonForm Address where
  encode a := .object [("container", encode a.container), ("name", encode a.name)]
  decode? j := do
    let [container, name] ← j.fields? ["container", "name"] false | none
    return { container := ← Json.required container, name := ← Json.required name }

instance {fold : String → String} {α : Type} [JsonForm α] : JsonForm (FoldedMap fold α) where
  encode m := encode m.entries
  decode? j := (decode? j).map FoldedMap.ofList

/-- The only type has its name as its form, with or without a null beside it. -/
instance : JsonForm BindingType where
  encode t := .string t.text
  decode?
    | .string "string" | .object [("string", .null)] => some .string
    | _ => none

instance : JsonForm Template where
  encode t := .string t.pattern
  decode? j := do
    let pattern : String ← decode? j
    (Template.compile pattern).toOption

end BlobDispatch
