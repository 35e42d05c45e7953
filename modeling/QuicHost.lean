import QuicHost.Arena
import QuicHost.Bytes
import QuicHost.Connection.Basic
import QuicHost.Connection.Calls
import QuicHost.Connection.Drive
import QuicHost.Connection.Figures
import QuicHost.Connection.Settings
import QuicHost.ConnectionId
import QuicHost.ConnectionId.Generator
import QuicHost.Credit
import QuicHost.Deadlines
import QuicHost.Dispatcher
import QuicHost.Endpoint.Basic
import QuicHost.Endpoint.Channel
import QuicHost.Endpoint.Datagram
import QuicHost.Endpoint.Drive
import QuicHost.Endpoint.Factory
import QuicHost.Endpoint.Scripted
import QuicHost.Engine.Adapter
import QuicHost.Engine.Basic
import QuicHost.Engine.Forced
import QuicHost.Engine.Frame
import QuicHost.Engine.Scripted
import QuicHost.Entropy
import QuicHost.Event
import QuicHost.Settings.Basic
import QuicHost.Settings.Document
import QuicHost.Settings.Environment
import QuicHost.Settings.Form
import QuicHost.Settings.Level
import QuicHost.Settings.Load
import QuicHost.SipHash
import QuicHost.Stream.Basic
import QuicHost.Stream.Buffer
import QuicHost.Stream.Calls
import QuicHost.Stream.Peer
import QuicHost.Stream.Figures
import QuicHost.Stream.State
import QuicHost.StreamId
import QuicHost.Table
import QuicHost.Time
import QuicHost.Toml.Document
import QuicHost.Toml.Printer
import QuicHost.Toml.Scalar
import QuicHost.Toml.Scan
import QuicHost.Toml.Value
import QuicHost.Transport.Error
import QuicHost.Transport.Parameters
import QuicHost.Word
import QuicHost.Proofs.Stream.Opening
import QuicHost.Proofs.Table
import QuicHost.Proofs.Stream.Outcome
import QuicHost.Proofs.Stream.Run
import QuicHost.Proofs.Stream.Steps
import QuicHost.Proofs.Stream.Limits
import QuicHost.Proofs.Stream.Parking
import QuicHost.Proofs.Stream.Waking
import QuicHost.Proofs.Stream.Census
import QuicHost.Proofs.Stream.Histories
import QuicHost.Proofs.Stream.Buffer
import QuicHost.Proofs.Stream.Contents
import QuicHost.Proofs.Stream.FinalSize
import QuicHost.Proofs.Connection.Course
import QuicHost.Proofs.Stream.Balance
import QuicHost.Proofs.Connection.Balance
import QuicHost.Proofs.Engine.Codec
import QuicHost.Proofs.Engine.Packing
import QuicHost.Proofs.Connection.Delivery
import QuicHost.Proofs.Link.Honesty
import QuicHost.Proofs.Link.Sending
import QuicHost.Proofs.Link.Admission
import QuicHost.Proofs.Stream.Lifetimes
import QuicHost.Proofs.Stream.Telling
import QuicHost.Proofs.Connection.Moves
import QuicHost.Proofs.Connection.Causes
import QuicHost.Proofs.Connection.Session
import QuicHost.Proofs.Connection.Standing
import QuicHost.Proofs.Connection.Timing
import QuicHost.Proofs.Dispatcher.Order
import QuicHost.Proofs.Endpoint.Owners
import QuicHost.Proofs.Connection.Wire
import QuicHost.Proofs.Connection.Closing
import QuicHost.Proofs.Dispatcher.Sealing
import QuicHost.Proofs.Endpoint.Effects
import QuicHost.Proofs.Stream.Retrying
import QuicHost.Proofs.Dispatcher.Early
import QuicHost.Proofs.Connection.Blind
import QuicHost.Proofs.Connection.Batching
import QuicHost.Proofs.Stream.Raising
import QuicHost.Proofs.Connection.Granting
import QuicHost.Proofs.Stream.Acknowledging
import QuicHost.Proofs.Connection.Reckoning
import QuicHost.Proofs.Connection.Announcing
import QuicHost.Proofs.Stream.Predicting
import QuicHost.Proofs.Endpoint.Newcomers
import QuicHost.Proofs.Engine.Reading
import QuicHost.Proofs.Connection.Refusing
import QuicHost.Proofs.Stream.Vacancy
import QuicHost.Proofs.Engine.Polling
import QuicHost.Proofs.Connection.Attending
import QuicHost.Proofs.Connection.Handing
import QuicHost.Proofs.Connection.Waiting
import QuicHost.Proofs.Endpoint.Settling
import QuicHost.Proofs.ConnectionId.Resetting
import QuicHost.Proofs.Endpoint.Starting
import QuicHost.Proofs.Connection.Hearing
import QuicHost.Proofs.Stream.Measures
import QuicHost.Proofs.Stream.Fitting
import QuicHost.Proofs.Connection.Fitting
import QuicHost.Proofs.Stream.Changes
import QuicHost.Proofs.Stream.States
import QuicHost.Proofs.Dispatcher.Feeding
import QuicHost.Proofs.Connection.Turns
import QuicHost.Proofs.Endpoint.Channel
import QuicHost.Proofs.Endpoint.Sending
import QuicHost.Proofs.Endpoint.Scenes
import QuicHost.Proofs.Endpoint.Histories
import QuicHost.Proofs.Endpoint.Bridging
