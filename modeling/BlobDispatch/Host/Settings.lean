import BlobDispatch.Toml.Document

/-! Settings of a host: how it scans and which containers it keeps for itself. They are read from
TOML; keys that are not given take their defaults and other keys are ignored. -/

namespace BlobDispatch.Host

/-- The container that the host keeps its own books in. -/
def hostsContainer : String := "azure-webjobs-hosts"

structure Settings where
  scanPageSize : UInt64 := 1000
  systemContainers : List String := [hostsContainer]
  deriving DecidableEq

namespace Settings

/-- Why a text gives no settings. -/
inductive Fault where
  | unreadable
  | noScanPage
  deriving DecidableEq

def Fault.message : Fault → String
  | .unreadable => "the text is not a TOML document with settings of the right types"
  | .noScanPage => "scan_page_size must be at least 1"

/-- The settings in the root table of a document. -/
def ofEntries? (entries : Toml.Entries) : Option Settings := do
  let defaults : Settings := {}
  let scanPageSize ← match entries.lookup "scan_page_size" with
    | none => some defaults.scanPageSize
    | some value => value.nat?.map UInt64.ofNat
  let systemContainers ← match entries.lookup "system_containers" with
    | none => some defaults.systemContainers
    | some value => value.strings?
  return { scanPageSize, systemContainers }

/-- Reads settings from the text of a TOML document. A scan must have pages of one blob at
least. -/
def ofToml (document : String) : Except Fault Settings :=
  match (Toml.parse? document).bind ofEntries? with
  | none => .error .unreadable
  | some settings => if settings.scanPageSize = 0 then .error .noScanPage else .ok settings

end Settings

end BlobDispatch.Host
