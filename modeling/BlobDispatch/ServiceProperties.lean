/-! Settings of a whole account. A store keeps them for its owner and never looks into them. -/

namespace BlobDispatch

structure RetentionPolicy where
  enabled : Bool
  days : Option UInt32
  deriving DecidableEq

structure LoggingProperties where
  version : String
  delete : Bool
  read : Bool
  write : Bool
  retention : RetentionPolicy
  deriving DecidableEq

structure MetricsProperties where
  version : String
  enabled : Bool
  includeApis : Option Bool
  retention : RetentionPolicy
  deriving DecidableEq

/-- One rule for requests from other origins. -/
structure CorsRule where
  allowedOrigins : List String
  allowedMethods : List String
  allowedHeaders : List String
  exposedHeaders : List String
  maxAgeSeconds : UInt32
  deriving DecidableEq

structure ServiceProperties where
  logging : Option LoggingProperties := none
  hourMetrics : Option MetricsProperties := none
  minuteMetrics : Option MetricsProperties := none
  cors : List CorsRule := []
  defaultServiceVersion : Option String := none
  deriving DecidableEq

end BlobDispatch
