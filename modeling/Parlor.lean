import Parlor.Bus.Channel
import Parlor.Bus.Memory
import Parlor.Chat.Directory
import Parlor.Chat.Hub
import Parlor.Chat.Mention
import Parlor.Chat.Message
import Parlor.Cluster
import Parlor.Command.Help
import Parlor.Command.Level
import Parlor.Command.Line
import Parlor.Command.Run
import Parlor.Config.Document
import Parlor.Config.KeyPath
import Parlor.Config.Layer
import Parlor.Config.Load
import Parlor.Config.Node
import Parlor.Config.Places
import Parlor.Config.Section
import Parlor.Config.Settings
import Parlor.Connection
import Parlor.Decimal.Nearest
import Parlor.Decimal.Shortest
import Parlor.Decimal.Whole
import Parlor.Envelope
import Parlor.Environment
import Parlor.Event
import Parlor.Failure
import Parlor.Game.Action
import Parlor.Game.Board
import Parlor.Game.Hub
import Parlor.Game.Move
import Parlor.Game.Room
import Parlor.Game.Stats
import Parlor.Game.Status
import Parlor.Game.Storage
import Parlor.Game.Store
import Parlor.Http.MediaType
import Parlor.Http.Problem
import Parlor.Http.Query
import Parlor.Http.Request
import Parlor.Http.Router
import Parlor.Id
import Parlor.Json.Access
import Parlor.Json.Printer
import Parlor.Json.Reader
import Parlor.Json.Record
import Parlor.Json.Value
import Parlor.Main
import Parlor.Path.Basic
import Parlor.Path.Disk
import Parlor.Path.Expand
import Parlor.Program
import Parlor.Registry
import Parlor.Server
import Parlor.Shared
import Parlor.Signaling.Hub
import Parlor.Signaling.Signal
import Parlor.Socket.Pump
import Parlor.Socket.Reader
import Parlor.Socket.Timing
import Parlor.Socket.Writer
import Parlor.Table
import Parlor.Text.Blank
import Parlor.Text.Cased
import Parlor.Text.CodeRange
import Parlor.Text.Duration
import Parlor.Text.Lowercase
import Parlor.Text.NameChar
import Parlor.Text.Quoted
import Parlor.Text.Split
import Parlor.Text.Unprintable
import Parlor.Text.Utf8
import Parlor.Text.Word
import Parlor.Toml.Item
import Parlor.Toml.Printer
import Parlor.Toml.Reader
import Parlor.Toml.Scalar
import Parlor.Word
import Parlor.Yaml.Printer
import Parlor.Yaml.Scalar
import Parlor.Proofs.Game.Lines
import Parlor.Proofs.Game.BoardText
import Parlor.Proofs.Game.HubStore
import Parlor.Proofs.Game.Replay
import Parlor.Proofs.Game.Scores
import Parlor.Proofs.Game.StaleWrites
import Parlor.Proofs.Game.Instances
import Parlor.Proofs.Game.Grace
import Parlor.Proofs.Game.Leaving
import Parlor.Proofs.Game.Clock
import Parlor.Proofs.Game.Broadcasts
import Parlor.Proofs.Envelopes
import Parlor.Proofs.WiredRuns
import Parlor.Proofs.Authorship
import Parlor.Proofs.Game.ConditionalWrites
import Parlor.Proofs.Game.RequestTurns
import Parlor.Proofs.Game.Rulings
import Parlor.Proofs.Signaling.Views
import Parlor.Proofs.QueueHistory
import Parlor.Proofs.Game.SeatIndex
import Parlor.Proofs.Chat.Presence
import Parlor.Proofs.Socket.Endings
import Parlor.Proofs.Socket.ReaderLoop
import Parlor.Proofs.Signaling.Replacement
import Parlor.Proofs.Chat.Mentions
import Parlor.Proofs.Chat.Reachable
import Parlor.Proofs.Chat.Broadcasts
import Parlor.Proofs.Chat.Announcements
import Parlor.Proofs.Game.Rejections
import Parlor.Proofs.Config.DatabasePath
import Parlor.Proofs.Socket.WriterCourse
import Parlor.Proofs.Socket.PumpDesk
import Parlor.Proofs.Shutdown
import Parlor.Proofs.Addresses
import Parlor.Proofs.FlatRegistry
import Parlor.Proofs.Socket.Liveness
import Parlor.Proofs.Game.Points
