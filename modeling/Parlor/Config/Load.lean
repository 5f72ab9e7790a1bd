import Parlor.Config.Layer
import Parlor.Config.Places
import Parlor.Config.Section
import Parlor.Config.Settings
import Parlor.Path.Disk
import Parlor.Text.Lowercase
import Parlor.Text.Utf8
import Parlor.Toml.Reader

/-!
# Loading of settings

The file of settings is laid over the defaults, and variables of the environment over the file.
-/

namespace Parlor.Config

open Json (Bytes)

/-- Why settings cannot be loaded. -/
inductive LoadFault where
  /-- The file is no document. -/
  | unreadable (path : String)
  /-- A setting has a value of the wrong kind. -/
  | unfit
  /-- A path cannot be expanded. -/
  | unexpandable
  /-- There is no place for what is called so. -/
  | unplaced (contents : String)
  /-- The file of settings is in no directory. -/
  | misplaced (path : String)
  deriving DecidableEq, Repr

/-- The message of a fault. -/
def LoadFault.message : LoadFault → String
  | .unreadable path => "loading configuration from " ++ path
  | .unfit => "deserializing configuration"
  | .unexpandable => "expanding path"
  | .unplaced contents => "unable to determine " ++ contents ++ " directory"
  | .misplaced path => "invalid config file path: " ++ Path.quoted path

/-! ## Sections -/

/-- The port that a scalar stands for. -/
def Node.toPort? (node : Node) : Option UInt16 :=
  (node.toWord?.filter (·.toNat < 65536)).map fun w => UInt16.ofNat w.toNat

/-- The kind of bus that a node names, as a text or as the only name of a group. -/
def Node.toBackend? : Node → Option Backend
  | .text s => Backend.ofName? s
  | .group [(name, _)] => Backend.ofName? name
  | _ => none

/-- The settings of logging. -/
def loggingFields : List (Setting LoggingSettings) :=
  [.of "level" Node.toText? fun v s => { s with level := v }]

/-- The settings of the server. -/
def serverFields : List (Setting ServerSettings) :=
  [.of "host" Node.toText? fun v s => { s with host := v },
   .of "port" Node.toPort? fun v s => { s with port := v }]

/-- The settings of the database. -/
def databaseFields : List (Setting DatabaseSettings) :=
  [.of "path" (Node.orOpen? Node.toText?) fun v s => { s with path := v }]

/-- The settings of sockets. -/
def realtimeFields : List (Setting RealtimeSettings) :=
  [.of "send_buffer" Node.toWord? fun v s => { s with sendBuffer := v },
   .of "max_message_size" Node.toWord? fun v s => { s with maxMessageSize := v },
   .of "write_wait_secs" Node.toWord? fun v s => { s with writeWaitSeconds := v },
   .of "pong_wait_secs" Node.toWord? fun v s => { s with pongWaitSeconds := v },
   .of "ping_period_secs" (Node.orOpen? Node.toWord?) fun v s => { s with pingPeriodSeconds := v }]

/-- The settings of games. -/
def gameFields : List (Setting GameSettings) :=
  [.of "forfeit_grace_secs" Node.toWord? fun v s => { s with forfeitGraceSeconds := v },
   .of "win_points" Node.toSigned? fun v s => { s with winPoints := v }]

/-- The settings of calls. -/
def signalingFields : List (Setting SignalingSettings) :=
  [.of "max_peers_per_room" Node.toWord? fun v s => { s with maxPeersPerRoom := v }]

/-- The settings of the bus. -/
def busFields : List (Setting BusSettings) :=
  [.of "backend" Node.toBackend? fun v s => { s with backend := v },
   .of "url" Node.toText? fun v s => { s with url := v },
   .of "publish_timeout_ms" Node.toWord? fun v s => { s with publishTimeoutMillis := v }]

/-- All sections. -/
def sectionFields : List (Setting Settings) :=
  [.of "logging" (readSection loggingFields {}) fun v s => { s with logging := v },
   .of "server" (readSection serverFields {}) fun v s => { s with server := v },
   .of "database" (readSection databaseFields {}) fun v s => { s with database := v },
   .of "realtime" (readSection realtimeFields {}) fun v s => { s with realtime := v },
   .of "game" (readSection gameFields {}) fun v s => { s with game := v },
   .of "signaling" (readSection signalingFields {}) fun v s => { s with signaling := v },
   .of "bus" (readSection busFields {}) fun v s => { s with bus := v }]

/-! ## Sources -/

/-- Replaces each pair of underscores by a point. -/
def pointed : List Char → List Char
  | '_' :: '_' :: rest => '.' :: pointed rest
  | c :: rest => c :: pointed rest
  | [] => []

/-- The setting that a variable of a name gives, by its path with points. -/
def settingPath? (name : String) : Option String :=
  let mark := (Text.lowercase variableMark).toList ++ ['_', '_']
  let name := (Text.lowercase name).toList
  if mark.isPrefixOf name then some (String.ofList (pointed (name.drop mark.length))) else none

/-- What is said before any source is read. -/
def defaultEntries : Node.Entries :=
  [("logging.level", .text ({} : LoggingSettings).level), ("server.host", .text ({} : ServerSettings).host),
   ("server.port", .integer ({} : ServerSettings).port.toNat)]

/-- What the variables say. -/
def ofEnvironment (env : Environment) : Node.Entries :=
  env.vars.foldl (fun entries (name, value) =>
    match settingPath? name with
    | some path => Node.put path (.text value) entries
    | none => entries) []

/-- What a file says, if it is a document.  A mark of the byte order in front is dropped. -/
def ofFile? (content : Bytes) : Option Node.Entries :=
  let content := match content with
    | 0xef :: 0xbb :: 0xbf :: rest => rest
    | content => content
  (Toml.read (Text.decodeLossy content)).map Node.ofEntries

/-- The settings that sources add up to, of which each is laid over those before it. -/
def ofSources? (sources : List Node.Entries) : Option Settings :=
  readSection sectionFields {} (sources.foldl Node.laySource (.group []))

/-- Expands the path of the database. -/
def expandDatabase? (env : Environment) (s : Settings) : Option Settings :=
  match s.database.path with
  | none => some s
  | some path => (Path.expand? env path).map fun path => { s with database := ⟨some path⟩ }

/-- Why the file of the database is nowhere. -/
def Settings.databaseFault (s : Settings) : LoadFault :=
  if s.database.path.isSome then .unexpandable else .unplaced "data"

/-- Loads the settings from the content of a file, which may be missing, and from the environment. -/
def load (env : Environment) (path : String) (content? : Option Bytes) : Except LoadFault Settings :=
  match content?.map ofFile? with
  | some none => .error (.unreadable path)
  | file? =>
    match ofSources? [defaultEntries, file?.join.getD [], ofEnvironment env] with
    | none => .error .unfit
    | some settings =>
      match expandDatabase? env settings with
      | none => .error .unexpandable
      | some settings => .ok settings

/-- Reads the file of settings; without it, the one whose name has the usual ending behind it. -/
def readFile {m : Type → Type} [Monad m] (files : Path.FileAccess m) (path : String) :
    m (Option Bytes) := do
  match ← files.read? path with
  | some content => return some content
  | none =>
    match Path.withEnding? ".toml" path with
    | some longer => files.read? longer
    | none => return none

end Parlor.Config
