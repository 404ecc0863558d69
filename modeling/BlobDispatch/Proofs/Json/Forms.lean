import BlobDispatch.FoldedMap.Lemmas
import BlobDispatch.Json.Settings
import BlobDispatch.Proofs.Json.RoundTrip
import BlobDispatch.Proofs.Template.Compile
import BlobDispatch.Proofs.Timestamp

/-! Every value that is stored or sent is read back from its JSON form, with the order and the
spelling of the keys of its maps. So whatever is read is in its final form after being written
once. -/

namespace BlobDispatch

open LawfulJsonForm NonNullJsonForm

section Elements

instance : LawfulJsonForm Tag where
  decode_encode tag := by
    change (decode? (encode tag.sequence)).map Tag.mk = some tag
    simp

instance : LawfulJsonForm Address where
  decode_encode a := by
    change (do return {
      container := ← Json.required (some (encode a.container))
      name := ← Json.required (some (encode a.name)) }) = some a
    simp

instance {fold : String → String} {α : Type} [JsonForm α] [LawfulJsonForm α] :
    LawfulJsonForm (FoldedMap fold α) where
  decode_encode m := by
    change (decode? (encode m.entries)).map FoldedMap.ofList = some m
    simp

instance : LawfulJsonForm BindingType where
  decode_encode
    | .string => rfl

instance : LawfulJsonForm Template where
  decode_encode t := by
    change (Template.compile t.pattern).toOption = some t
    rw [Template.compile_eq_ok_iff.2 rfl]
    rfl

instance : LawfulJsonForm Timestamp where
  decode_encode t := by
    change (decode? (encode t.text)).bind Timestamp.parse? = some t
    rw [decode_encode, Option.bind_some, Timestamp.parse?_text]

end Elements

section Listings

instance : LawfulJsonForm Blob.Properties where
  decode_encode p := by
    change (do return {
      contentLength := ← Json.required (some (encode p.contentLength))
      tag := ← Json.required (some (encode p.tag))
      lastModified := ← Json.required (some (encode p.lastModified)) }) = some p
    simp

instance : LawfulJsonForm Blob where
  decode_encode b := by
    change (do return {
      container := ← Json.required (some (encode b.container))
      name := ← Json.required (some (encode b.name))
      content := ← decode? (encode b.content)
      properties := ← Json.required (some (encode b.properties))
      metadata := ← Json.required (some (encode b.metadata)) }) = some b
    simp

namespace Listing

instance : NonNullJsonForm Cursor := ⟨nofun⟩

instance : LawfulJsonForm Item where
  decode_encode
    | .blob stored => by
      change (decode? (encode stored)).map Item.blob = some (.blob stored)
      simp
    | .directory container namePrefix => by
      change (do
        let container ← Json.required (some (encode container))
        let namePrefix ← Json.required (some (encode namePrefix))
        return .directory container namePrefix) = some (Item.directory container namePrefix)
      simp

instance : LawfulJsonForm Page where
  decode_encode p := by
    change (do return {
      items := ← Json.required (some (encode p.items))
      next := ← Json.withDefault none (some (encode p.next)) }) = some p
    simp

end Listing

end Listings

section Settings

instance : LawfulJsonForm Store.Config where
  decode_encode c := by
    change (do return {
      maxPageSize := ← Json.withDefault _ (some (encode c.maxPageSize)) }) = some c
    simp

instance : LawfulJsonForm Host.Settings where
  decode_encode s := by
    change (do return {
      scanPageSize := ← Json.withDefault _ (some (encode s.scanPageSize))
      systemContainers := ← Json.withDefault _ (some (encode s.systemContainers)) }) = some s
    simp

instance : LawfulJsonForm RetentionPolicy where
  decode_encode p := by
    change (do return {
      enabled := ← Json.required (some (encode p.enabled))
      days := ← Json.withDefault none (some (encode p.days)) }) = some p
    simp

instance : LawfulJsonForm LoggingProperties where
  decode_encode p := by
    change (do return {
      version := ← Json.required (some (encode p.version))
      delete := ← Json.required (some (encode p.delete))
      read := ← Json.required (some (encode p.read))
      write := ← Json.required (some (encode p.write))
      retention := ← Json.required (some (encode p.retention)) }) = some p
    simp

instance : NonNullJsonForm LoggingProperties := ⟨nofun⟩

instance : LawfulJsonForm MetricsProperties where
  decode_encode p := by
    change (do return {
      version := ← Json.required (some (encode p.version))
      enabled := ← Json.required (some (encode p.enabled))
      includeApis := ← Json.withDefault none (some (encode p.includeApis))
      retention := ← Json.required (some (encode p.retention)) }) = some p
    simp

instance : NonNullJsonForm MetricsProperties := ⟨nofun⟩

instance : LawfulJsonForm CorsRule where
  decode_encode r := by
    change (do return {
      allowedOrigins := ← Json.required (some (encode r.allowedOrigins))
      allowedMethods := ← Json.required (some (encode r.allowedMethods))
      allowedHeaders := ← Json.required (some (encode r.allowedHeaders))
      exposedHeaders := ← Json.required (some (encode r.exposedHeaders))
      maxAgeSeconds := ← Json.required (some (encode r.maxAgeSeconds)) }) = some r
    simp

instance : LawfulJsonForm ServiceProperties where
  decode_encode p := by
    change (do return {
      logging := ← Json.withDefault none (some (encode p.logging))
      hourMetrics := ← Json.withDefault none (some (encode p.hourMetrics))
      minuteMetrics := ← Json.withDefault none (some (encode p.minuteMetrics))
      cors := ← Json.withDefault [] (some (encode p.cors))
      defaultServiceVersion :=
        ← Json.withDefault none (some (encode p.defaultServiceVersion)) }) = some p
    simp

end Settings

/-- Nothing of a value is lost in its form, and a value that was read, in whatever spelling of it,
has a form that reading and writing no longer change. -/
structure RoundTrips (α : Type) [JsonForm α] : Prop where
  recovers : ∀ value : α, decode? (encode value) = some value
  settles : ∀ (j : Json) (value : α), decode? j = some value →
    ∃ again : α, decode? (encode value) = some again ∧ again = value ∧ encode again = encode value

theorem roundTrips_of_lawful (α : Type) [JsonForm α] [LawfulJsonForm α] : RoundTrips α where
  recovers := decode_encode
  settles _ value _ := ⟨value, decode_encode value, rfl, rfl⟩

/-- The forms of everything that is stored or sent. Equal maps here are maps with the same entries
in the same order, keys spelled alike. -/
theorem forms_round_trip :
    RoundTrips Tag ∧ RoundTrips Address ∧ RoundTrips Metadata ∧ RoundTrips Binding ∧
      RoundTrips Contract ∧ RoundTrips Template ∧ RoundTrips Store.Config ∧
      RoundTrips Host.Settings ∧ RoundTrips ServiceProperties ∧ RoundTrips Listing.Query ∧
      RoundTrips Listing.Cursor ∧ RoundTrips Blob ∧ RoundTrips Listing.Item ∧
      RoundTrips Listing.Page :=
  ⟨roundTrips_of_lawful _, roundTrips_of_lawful _, roundTrips_of_lawful _, roundTrips_of_lawful _,
    roundTrips_of_lawful _, roundTrips_of_lawful _, roundTrips_of_lawful _, roundTrips_of_lawful _,
    roundTrips_of_lawful _, roundTrips_of_lawful _, roundTrips_of_lawful _, roundTrips_of_lawful _,
    roundTrips_of_lawful _, roundTrips_of_lawful _⟩

/-- A query with the scope spelled as a member, no limit and a field of no meaning. -/
def lenientQuery : Json :=
  .object [("prefix", .string "c/x"), ("scope", .object [("Account", .null)]),
    ("flat", .bool false), ("note", .integer 1)]

/-- Metadata that names a key twice. -/
def repeatedKeys : Json :=
  .array [.array [.string "Key", .string "1"], .array [.string "other", .string ""],
    .array [.string "KEY", .string "2"]]

/-- Both are read, and what they are read as has one form from then on. -/
theorem forms_round_trip_lenient :
    (∃ query : Listing.Query, decode? lenientQuery = some query ∧
      decode? (encode query) = some query ∧
      encode query = .object [("scope", .string "Account"), ("prefix", .string "c/x"),
        ("flat", .bool false), ("max_results", .null)]) ∧
    ∃ metadata : Metadata, decode? repeatedKeys = some metadata ∧
      decode? (encode metadata) = some metadata ∧
      encode metadata = .array [.array [.string "Key", .string "2"],
        .array [.string "other", .string ""]] := by
  obtain ⟨_, _, maps, _, _, _, _, _, _, queries, _⟩ := forms_round_trip
  obtain ⟨query, read⟩ : ∃ query : Listing.Query, decode? lenientQuery = some query := ⟨_, rfl⟩
  obtain ⟨metadata, reread⟩ : ∃ metadata : Metadata, decode? repeatedKeys = some metadata :=
    ⟨_, rfl⟩
  obtain ⟨_, again, rfl, _⟩ := queries.settles lenientQuery query read
  obtain ⟨_, anew, rfl, _⟩ := maps.settles repeatedKeys metadata reread
  refine ⟨⟨_, read, again, ?_⟩, _, reread, anew, ?_⟩
  · cases read
    rfl
  · cases reread
    rfl

end BlobDispatch
