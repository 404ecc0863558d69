import BlobDispatch.Host.Settings
import BlobDispatch.Json.Value
import BlobDispatch.Store.Basic

/-! JSON forms of settings. Those of a store, of a host and of a service take defaults for what
is missing; in the parts of service properties only what may be null may be missing. -/

namespace BlobDispatch

instance : JsonForm Store.Config where
  encode c := .object [("max_page_size", encode c.maxPageSize)]
  decode? j := do
    let defaults : Store.Config := {}
    let [size] ← j.fields? ["max_page_size"] true | none
    return { maxPageSize := ← Json.withDefault defaults.maxPageSize size }

instance : JsonForm Host.Settings where
  encode s := .object [("scan_page_size", encode s.scanPageSize),
    ("system_containers", encode s.systemContainers)]
  decode? j := do
    let defaults : Host.Settings := {}
    let [size, containers] ← j.fields? ["scan_page_size", "system_containers"] true | none
    return {
      scanPageSize := ← Json.withDefault defaults.scanPageSize size
      systemContainers := ← Json.withDefault defaults.systemContainers containers }

instance : JsonForm RetentionPolicy where
  encode p := .object [("enabled", encode p.enabled), ("days", encode p.days)]
  decode? j := do
    let [enabled, days] ← j.fields? ["enabled", "days"] false | none
    return { enabled := ← Json.required enabled, days := ← Json.withDefault none days }

instance : JsonForm LoggingProperties where
  encode p := .object [("version", encode p.version), ("delete", encode p.delete),
    ("read", encode p.read), ("write", encode p.write), ("retention", encode p.retention)]
  decode? j := do
    let [version, delete, read, write, retention] ←
      j.fields? ["version", "delete", "read", "write", "retention"] false | none
    return {
      version := ← Json.required version
      delete := ← Json.required delete
      read := ← Json.required read
      write := ← Json.required write
      retention := ← Json.required retention }

instance : JsonForm MetricsProperties where
  encode p := .object [("version", encode p.version), ("enabled", encode p.enabled),
    ("include_apis", encode p.includeApis), ("retention", encode p.retention)]
  decode? j := do
    let [version, enabled, includeApis, retention] ←
      j.fields? ["version", "enabled", "include_apis", "retention"] false | none
    return {
      version := ← Json.required version
      enabled := ← Json.required enabled
      includeApis := ← Json.withDefault none includeApis
      retention := ← Json.required retention }

instance : JsonForm CorsRule where
  encode r := .object [("allowed_origins", encode r.allowedOrigins),
    ("allowed_methods", encode r.allowedMethods), ("allowed_headers", encode r.allowedHeaders),
    ("exposed_headers", encode r.exposedHeaders), ("max_age_seconds", encode r.maxAgeSeconds)]
  decode? j := do
    let [origins, methods, allowed, exposed, age] ← j.fields? ["allowed_origins",
      "allowed_methods", "allowed_headers", "exposed_headers", "max_age_seconds"] false | none
    return {
      allowedOrigins := ← Json.required origins
      allowedMethods := ← Json.required methods
      allowedHeaders := ← Json.required allowed
      exposedHeaders := ← Json.required exposed
      maxAgeSeconds := ← Json.required age }

instance : JsonForm ServiceProperties where
  encode p := .object [("logging", encode p.logging), ("hour_metrics", encode p.hourMetrics),
    ("minute_metrics", encode p.minuteMetrics), ("cors", encode p.cors),
    ("default_service_version", encode p.defaultServiceVersion)]
  decode? j := do
    let [logging, hour, minute, cors, version] ← j.fields? ["logging", "hour_metrics",
      "minute_metrics", "cors", "default_service_version"] true | none
    return {
      logging := ← Json.withDefault none logging
      hourMetrics := ← Json.withDefault none hour
      minuteMetrics := ← Json.withDefault none minute
      cors := ← Json.withDefault [] cors
      defaultServiceVersion := ← Json.withDefault none version }

end BlobDispatch
