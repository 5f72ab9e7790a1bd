import Parlor.Json.Printer
import Parlor.Text.Duration

/-!
# Settings

Everything that can be configured, with its defaults, and the quantities that follow from it.
-/

namespace Parlor.Config

open Json
open Text (Nanos)

/-- What is logged. -/
structure LoggingSettings where
  level : String := "info"
  deriving DecidableEq, Repr

/-- Where the server listens. -/
structure ServerSettings where
  host : String := "127.0.0.1"
  port : UInt16 := 8080
  deriving DecidableEq, Repr

/-- Where the database is kept. -/
structure DatabaseSettings where
  path : Option String := none
  deriving DecidableEq, Repr

/-- How sockets are served. -/
structure RealtimeSettings where
  sendBuffer : UInt64 := 256
  maxMessageSize : UInt64 := 512
  writeWaitSeconds : UInt64 := 10
  pongWaitSeconds : UInt64 := 60
  pingPeriodSeconds : Option UInt64 := none
  deriving DecidableEq, Repr

/-- How games are run and counted. -/
structure GameSettings where
  forfeitGraceSeconds : UInt64 := 60
  winPoints : Int64 := 10
  deriving DecidableEq, Repr

/-- How large calls may be. -/
structure SignalingSettings where
  maxPeersPerRoom : UInt64 := 8
  deriving DecidableEq, Repr

/-- The kinds of bus. -/
inductive Backend where
  | memory
  | redis
  deriving DecidableEq, Repr

namespace Backend

/-- The name of a kind of bus. -/
def name : Backend → String
  | .memory => "memory"
  | .redis => "redis"

/-- The kind of bus of a name. -/
def ofName? (name : String) : Option Backend :=
  if name = "memory" then some .memory
  else if name = "redis" then some .redis
  else none

end Backend

/-- How servers are joined to each other. -/
structure BusSettings where
  backend : Backend := .memory
  url : String := "redis://127.0.0.1:6379"
  publishTimeoutMillis : UInt64 := 2000
  deriving DecidableEq, Repr

/-- All settings. -/
structure Settings where
  logging : LoggingSettings := {}
  server : ServerSettings := {}
  database : DatabaseSettings := {}
  realtime : RealtimeSettings := {}
  game : GameSettings := {}
  signaling : SignalingSettings := {}
  bus : BusSettings := {}
  deriving DecidableEq, Repr

/-- How long a player of an active game may stay away. -/
def GameSettings.forfeitGrace (g : GameSettings) : Nanos := Text.seconds g.forfeitGraceSeconds.toNat

/-- How long a message may take to be published. -/
def BusSettings.publishTimeout (b : BusSettings) : Nanos :=
  Text.millis (max b.publishTimeoutMillis.toNat 1)

/-- Why there is no bus of a kind. -/
def BusSettings.refusal? (b : BusSettings) : Option String :=
  match b.backend with
  | .memory => none
  | .redis => some "bus backend 'redis' requires building with the `redis` feature"

namespace Settings

/-- The address to listen at. -/
def bindAddress (s : Settings) : String := s.server.host ++ ":" ++ toString s.server.port.toNat

/-- The sections of the settings, each with its entries, in their declared order. -/
def sections (s : Settings) : List (String × List (String × Value)) :=
  [("logging", [("level", .string s.logging.level)]),
   ("server", [("host", .string s.server.host), ("port", .nat s.server.port.toNat)]),
   ("database", [("path", .ofOption .string s.database.path)]),
   ("realtime",
     [("send_buffer", .word s.realtime.sendBuffer),
      ("max_message_size", .word s.realtime.maxMessageSize),
      ("write_wait_secs", .word s.realtime.writeWaitSeconds),
      ("pong_wait_secs", .word s.realtime.pongWaitSeconds),
      ("ping_period_secs", .ofOption .word s.realtime.pingPeriodSeconds)]),
   ("game",
     [("forfeit_grace_secs", .word s.game.forfeitGraceSeconds),
      ("win_points", .int s.game.winPoints.toInt)]),
   ("signaling", [("max_peers_per_room", .word s.signaling.maxPeersPerRoom)]),
   ("bus",
     [("backend", .string s.bus.backend.name), ("url", .string s.bus.url),
      ("publish_timeout_ms", .word s.bus.publishTimeoutMillis)])]

/-- The JSON form of the settings. -/
def toJson (s : Settings) : Value :=
  .object (s.sections.map fun (name, entries) => (name, .object entries))

end Settings

end Parlor.Config
