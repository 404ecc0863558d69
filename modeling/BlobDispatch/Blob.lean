import BlobDispatch.Address
import BlobDispatch.FoldedMap.Basic
import BlobDispatch.Tag
import BlobDispatch.Timestamp.Basic

/-! Blobs: content under an address, with the properties that a store keeps for it and metadata
that its owner gives it. A blob is a value; a later write to the same address makes another. -/

namespace BlobDispatch

structure Blob.Properties where
  contentLength : UInt64
  tag : Tag
  lastModified : Timestamp

structure Blob where
  container : String
  name : String
  content : List UInt8
  properties : Blob.Properties
  metadata : Metadata

namespace Blob

/-- The address of a blob. The names in a store need not make a valid one. -/
def address (b : Blob) : Except Address.Error Address := Address.ofParts b.container b.name

def length (b : Blob) : UInt64 := b.properties.contentLength

/-- Whether the recorded length is zero. -/
def isEmpty (b : Blob) : Bool := b.properties.contentLength == 0

def tag (b : Blob) : Tag := b.properties.tag

end Blob

end BlobDispatch
