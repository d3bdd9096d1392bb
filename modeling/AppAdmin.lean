import AppAdmin.Client
import AppAdmin.Command.Run
import AppAdmin.Connection
import AppAdmin.Main
import AppAdmin.Message.Redirect
import AppAdmin.Message.Wire
import AppAdmin.Settings
import AppAdmin.Proofs.Disposition.Grammar
import AppAdmin.Proofs.Disposition.Reading
import AppAdmin.Proofs.Disposition.Faults
import AppAdmin.Proofs.Disposition.Collection
import AppAdmin.Proofs.Disposition.Precedence
import AppAdmin.Proofs.Disposition.Listing
import AppAdmin.Proofs.Disposition.Filename
import AppAdmin.Proofs.Text.Utf8
import AppAdmin.Proofs.Disposition.Decoding
import AppAdmin.Proofs.Disposition.Extended
import AppAdmin.Proofs.Disposition.Rendering
import AppAdmin.Proofs.Client.Dialogue
import AppAdmin.Proofs.Client.Replies
import AppAdmin.Proofs.Client.Failures
import AppAdmin.Proofs.Client.Operations
import AppAdmin.Proofs.Client.Search
import AppAdmin.Proofs.Client.Call
import AppAdmin.Proofs.Client.Bodies
import AppAdmin.Proofs.Command.Actions
import AppAdmin.Proofs.Command.Protocol
import AppAdmin.Proofs.Url.Escapes
import AppAdmin.Proofs.Url.Hosts
import AppAdmin.Proofs.Url.Reading
import AppAdmin.Proofs.Url.Shape
import AppAdmin.Proofs.Url.Rereading
import AppAdmin.Proofs.Connection.Origin
import AppAdmin.Proofs.Connection.Target
import AppAdmin.Proofs.Query
import AppAdmin.Proofs.Connection.Addressing
import AppAdmin.Proofs.Disk
import AppAdmin.Proofs.Command.Export
import AppAdmin.Proofs.Json.Texts
import AppAdmin.Proofs.Json.Layout
import AppAdmin.Proofs.Json.Reading
import AppAdmin.Proofs.Json.Records
import AppAdmin.Proofs.Command.Find
import AppAdmin.Proofs.Json.Grammar
import AppAdmin.Proofs.Json.Tokens
import AppAdmin.Proofs.Json.Passing
import AppAdmin.Proofs.Json.Shape
import AppAdmin.Proofs.Json.Typed
import AppAdmin.Proofs.Json.Decoding
import AppAdmin.Proofs.Client.Arrival
import AppAdmin.Proofs.Client.Sending
import AppAdmin.Proofs.Client.ImportQuery
import AppAdmin.Proofs.Json.Numerals
import AppAdmin.Proofs.Json.Values
import AppAdmin.Proofs.ServiceError
import AppAdmin.Proofs.Json.Beginnings
import AppAdmin.Proofs.ServiceError.Verbatim
import AppAdmin.Proofs.Client.Handover
import AppAdmin.Proofs.Disposition.Arrangement
import AppAdmin.Proofs.Headers
import AppAdmin.Proofs.Settings.Tree
import AppAdmin.Proofs.Settings.Keys
import AppAdmin.Proofs.Settings.Files
import AppAdmin.Proofs.Settings.Layers
import AppAdmin.Proofs.Profile
import AppAdmin.Proofs.Disposition.Boundaries
import AppAdmin.Proofs.Settings.Literal
