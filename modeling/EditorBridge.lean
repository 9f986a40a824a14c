import EditorBridge.Text.Quoted
import EditorBridge.Text.Alphanumeric
import EditorBridge.Text.Blank
import EditorBridge.Number.Shortest
import EditorBridge.Json.Inspection
import EditorBridge.Json.Reader
import EditorBridge.Json.Reader.StringBody
import EditorBridge.Uri
import EditorBridge.Decode.Fields
import EditorBridge.Protocol.WorkspaceEdit
import EditorBridge.Protocol.Hover
import EditorBridge.Protocol.Handshake
import EditorBridge.Hover.Enricher
import EditorBridge.CodeActions.Grouping
import EditorBridge.Announcement
import EditorBridge.Client.Basic
import EditorBridge.Session.Basic
import EditorBridge.Proofs.Client.Calls
import EditorBridge.Proofs.Client.Outcomes
import EditorBridge.Proofs.Client.Events
import EditorBridge.Proofs.Client.Edits
import EditorBridge.Proofs.Client.Notices
import EditorBridge.Proofs.CodeActions.Layout
import EditorBridge.Proofs.CodeActions.Grouping
import EditorBridge.Proofs.Protocol.Records
import EditorBridge.Proofs.Protocol.Members
import EditorBridge.Proofs.Protocol.RoundTrip
import EditorBridge.Proofs.Client.Resolution
import EditorBridge.Proofs.CodeActions.SlotAccounts
import EditorBridge.Proofs.CodeActions.Regrouping
import EditorBridge.Proofs.Client.Dispatch
import EditorBridge.Proofs.Client.Effects
import EditorBridge.Proofs.Client.Handshake
import EditorBridge.Proofs.Client.Announcing
import EditorBridge.Proofs.Protocol.Changes
import EditorBridge.Proofs.CodeActions.Rereading
import EditorBridge.Proofs.CodeActions.Verdicts
import EditorBridge.Proofs.CodeActions.KeptEdits
import EditorBridge.Proofs.Protocol.Hover
import EditorBridge.Proofs.Json.Places
import EditorBridge.Proofs.Json.RoundTrip
import EditorBridge.Proofs.Hover.CommandUri
import EditorBridge.Proofs.Trace.Written
import EditorBridge.Proofs.Client.Trace
import EditorBridge.Proofs.Settings.Announcement
import EditorBridge.Proofs.Json.Unambiguous
import EditorBridge.Proofs.Hover.Escaping
import EditorBridge.Proofs.Settings.Switches
import EditorBridge.Proofs.Settings.Text
import EditorBridge.Proofs.Protocol.Keys
import EditorBridge.Proofs.Hover.LinkIdentity
import EditorBridge.Proofs.Hover.Rows
import EditorBridge.Proofs.Hover.Trust
import EditorBridge.Proofs.Hover.Enrichment
import EditorBridge.Proofs.Hover.ActionBar
import EditorBridge.Proofs.Hover.MarkedLists
import EditorBridge.Proofs.Settings.Keys
import EditorBridge.Proofs.Trace.Installation
