import BlobDispatch.Json.Elements
import BlobDispatch.Listing.Page
import BlobDispatch.Timestamp.Rfc3339

/-! JSON forms of blobs, queries, cursors and pages. Alternatives are written as an object whose
one member is named for the alternative, or as that name alone where it holds no value. -/

namespace BlobDispatch

instance : JsonForm Timestamp where
  encode t := .string t.text
  decode? j := do
    let text : String ← decode? j
    Timestamp.parse? text

instance : JsonForm Blob.Properties where
  encode p := .object [("content_length", encode p.contentLength), ("etag", encode p.tag),
    ("last_modified", encode p.lastModified)]
  decode? j := do
    let [length, tag, modified] ←
      j.fields? ["content_length", "etag", "last_modified"] false | none
    return {
      contentLength := ← Json.required length
      tag := ← Json.required tag
      lastModified := ← Json.required modified }

/-- Content from the list of its bytes, or from a text that stands for its encoding in UTF-8. -/
def Blob.content? : Json → Option (List UInt8)
  | .string text => some text.toUTF8.data.toList
  | j => decode? j

instance : JsonForm Blob where
  encode b := .object [("container", encode b.container), ("name", encode b.name),
    ("content", encode b.content), ("properties", encode b.properties),
    ("metadata", encode b.metadata)]
  decode? j := do
    let [container, name, content, properties, metadata] ←
      j.fields? ["container", "name", "content", "properties", "metadata"] false | none
    return {
      container := ← Json.required container
      name := ← Json.required name
      content := ← content.bind Blob.content?
      properties := ← Json.required properties
      metadata := ← Json.required metadata }

namespace Listing

instance : JsonForm Scope where
  encode
    | .account => .string "Account"
    | .container name => .object [("Container", encode name)]
  decode?
    | .string "Account" | .object [("Account", .null)] => some .account
    | .object [("Container", name)] => (decode? name).map .container
    | _ => none

instance : JsonForm Query where
  encode q := .object [("scope", encode q.scope), ("prefix", encode q.namePrefix),
    ("flat", encode q.flat), ("max_results", encode q.maxResults)]
  decode? j := do
    let [scope, namePrefix, flat, maxResults] ←
      j.fields? ["scope", "prefix", "flat", "max_results"] false | none
    return {
      scope := ← Json.required scope
      namePrefix := ← Json.required namePrefix
      flat := ← Json.required flat
      maxResults := ← Json.withDefault none maxResults }

instance : JsonForm Cursor where
  encode c := .object [("query", encode c.query), ("last_key", encode c.lastKey)]
  decode? j := do
    let [query, lastKey] ← j.fields? ["query", "last_key"] false | none
    return { query := ← Json.required query, lastKey := ← Json.required lastKey }

/-- A directory must be an object; unlike other groups of fields it is not read from an array. -/
def Item.directory? : Json → Option Item
  | .object members => do
    let container ← Json.required (members.lookup "container")
    let namePrefix ← Json.required (members.lookup "prefix")
    return .directory container namePrefix
  | _ => none

instance : JsonForm Item where
  encode
    | .blob stored => .object [("Blob", encode stored)]
    | .directory container namePrefix => .object [("Directory",
        .object [("container", encode container), ("prefix", encode namePrefix)])]
  decode?
    | .object [("Blob", stored)] => (decode? stored).map .blob
    | .object [("Directory", fields)] => Item.directory? fields
    | _ => none

instance : JsonForm Page where
  encode p := .object [("items", encode p.items), ("next_cursor", encode p.next)]
  decode? j := do
    let [items, next] ← j.fields? ["items", "next_cursor"] false | none
    return { items := ← Json.required items, next := ← Json.withDefault none next }

end Listing

end BlobDispatch
