import BlobDispatch.Json.Listing
import BlobDispatch.Json.Settings
import BlobDispatch.Proofs.Host.Scan
import BlobDispatch.Proofs.Invocation.Values
import BlobDispatch.Proofs.Session.Tags
import BlobDispatch.Proofs.Store.Exhaustion
import BlobDispatch.Proofs.Store.Interleaving
import BlobDispatch.Proofs.Store.Reads
import BlobDispatch.Proofs.Store.Tree
import BlobDispatch.Proofs.Template.Compile
import BlobDispatch.Proofs.Template.RoundTrip
import BlobDispatch.Proofs.Trigger.OwnPattern
import BlobDispatch.Session
import BlobDispatch.Proofs.Template.Contract
import BlobDispatch.Proofs.Trigger.Inputs
import BlobDispatch.Proofs.Json.RoundTrip
import BlobDispatch.Proofs.Store.Cursors
import BlobDispatch.Proofs.Listing.Retag
import BlobDispatch.Proofs.Store.Mirror
import BlobDispatch.Proofs.Store.Isolation
import BlobDispatch.Proofs.InPlace
import BlobDispatch.Proofs.Store.InPlace
import BlobDispatch.Proofs.Host.InPlace
import BlobDispatch.Proofs.Session.InPlace
import BlobDispatch.Proofs.Session.Refusals
import BlobDispatch.Proofs.Store.Page
import BlobDispatch.Proofs.FoldedMap.Association
import BlobDispatch.Proofs.FoldedMap.InPlace
import BlobDispatch.Proofs.FoldedMap.Equality
import BlobDispatch.Proofs.Template.Grammar
import BlobDispatch.Proofs.Invocation.Lookup
import BlobDispatch.Proofs.Invocation.Container
import BlobDispatch.Proofs.Store.Scopes
import BlobDispatch.Proofs.Template.Names
import BlobDispatch.Proofs.Host.Registration
import BlobDispatch.Proofs.Text.Line
import BlobDispatch.Proofs.Template.Casing
import BlobDispatch.Proofs.Trigger.Status
import BlobDispatch.Proofs.Template.Recased
import BlobDispatch.Proofs.Tag
import BlobDispatch.Proofs.Timestamp
import BlobDispatch.Proofs.Json.Forms
import BlobDispatch.Proofs.Address.Routes
