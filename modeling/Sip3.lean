import Sip3.Semantics.Program
import Sip3.Semantics.Pool
import Sip3.Semantics.Outline
import Sip3.Semantics.Schedule
import Sip3.Semantics.Table
import Sip3.Text.Utf8
import Sip3.Text.Lines
import Sip3.Message
import Sip3.Message.AuthParams
import Sip3.Message.RoundTrip
import Sip3.Message.Reply
import Sip3.Server.Replies
import Sip3.Transport.TlsPump
import Sip3.Response
import Sip3.Media.Sdp
import Sip3.Media.Offer
import Sip3.Message.Forwarding
import Sip3.Server.State
import Sip3.Server.Section
import Sip3.Server.Operation
import Sip3.Server.Action
import Sip3.Server.Mwi
import Sip3.Server.Voicemail
import Sip3.Server.VoicemailMenu
import Sip3.Server.Conference
import Sip3.Server.Presence
import Sip3.Server.Registrar
import Sip3.Server.Proxy
import Sip3.Server.Handler
import Sip3.Server.System
import Sip3.Server.Footprint
import Sip3.Server.Routing
import Sip3.Server.Scenario
import Sip3.Server.Isolation
import Sip3.Server.Frame
import Sip3.Server.ResponseHandling
import Sip3.Server.Flow.Graph
import Sip3.Server.Flow.Follows
import Sip3.Server.NoAnswer
import Sip3.Server.AnsweredCall
import Sip3.Server.FinalResponse
import Sip3.Server.Release
import Sip3.Semantics.Ensures
import Sip3.Server.Execution
import Sip3.Server.FailedInvite
import Sip3.Server.InDialog
import Sip3.Server.PinEntry
import Sip3.Server.CallRecord
import Sip3.Semantics.History
import Sip3.Server.Flow.Access
import Sip3.Server.PlaybackMedia
import Sip3.Server.PinGate
import Sip3.Server.AccessMarker
import Sip3.Api.ConferenceRooms
import Sip3.Semantics.Trace
import Sip3.Media.G711
import Sip3.Media.Relay
import Sip3.Media.Mixer
import Sip3.Media.PeerLatch
import Sip3.Storage.Wav
import Sip3.Storage.Voicemail
import Sip3.Storage.Keys
import Sip3.Storage.Chunks
import Sip3.Api.Greeting
import Sip3.Server.RecordingStorage
import Sip3.Semantics.Companion
import Sip3.Semantics.Quota
import Sip3.Semantics.Account
import Sip3.Server.ConferencePlane
import Sip3.Server.ConferenceMembers
import Sip3.Server.ConferenceRepeat
import Sip3.Server.ConferenceCapacity
import Sip3.Server.RelayTasks
import Sip3.Semantics.SlidingWindow
import Sip3.Api.RateLimit
import Sip3.Api.Webhooks
import Sip3.Semantics.Retain
import Sip3.Security.Guard
import Sip3.Server.StreamRegistry
import Sip3.Security.Acl
import Sip3.Server.Receive
import Sip3.Message.AuthHeader
import Sip3.Api.Accounts
import Sip3.Server.Nonce
import Sip3.Server.DigestClient
import Sip3.Server.Provisioning
import Sip3.Text.Tokens
import Sip3.Text.Utf8Codec
import Sip3.CaseTables
import Sip3.Message.Layout
import Sip3.Message.Entries
import Sip3.Message.ContentLength
import Sip3.Message.ViaStrip
import Sip3.Message.HeaderNames
import Sip3.Message.ForwardedInvite
import Sip3.Media.SdpRewrite
import Sip3.Transport.Framing
import Sip3.Message.ContactRewrite
import Sip3.Message.StoredContact
import Sip3.Server.CallerIdentity
import Sip3.Server.ToTag
import Sip3.Media.PortRange
import Sip3.Media.Recorder
import Sip3.Media.StarSix
import Sip3.Media.Playout
import Sip3.Media.Mixing
import Sip3.Media.Rtp
import Sip3.Media.RelayDelivery
import Sip3.Media.Negotiation
import Sip3.Media.BridgeTarget
import Sip3.Server.BridgeLabels
import Sip3.Server.RecordingCancel
import Sip3.Server.ConferenceMixers
import Sip3.Server.Admission
