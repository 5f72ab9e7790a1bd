/-!
# Commands and options

The commands nest: a command may have commands of its own.  Some options are taken by every command,
and each command may have options of its own.
-/

namespace Parlor.Command

/-- A command; `top` is the program itself. -/
inductive Level where
  | top
  | serve
  | config
  | show
  | path
  | init
  deriving DecidableEq, Repr

/-- An option. -/
inductive Key where
  | config
  | quiet
  | verbose
  | debug
  | trace
  | json
  | yaml
  | color
  | host
  | port
  | force
  | help
  | version
  deriving DecidableEq, Repr

namespace Key

/-- The name of an option. -/
def long : Key → String
  | .config => "config"
  | .quiet => "quiet"
  | .verbose => "verbose"
  | .debug => "debug"
  | .trace => "trace"
  | .json => "json"
  | .yaml => "yaml"
  | .color => "color"
  | .host => "host"
  | .port => "port"
  | .force => "force"
  | .help => "help"
  | .version => "version"

/-- The letter of an option. -/
def short? : Key → Option Char
  | .quiet => some 'q'
  | .verbose => some 'v'
  | .port => some 'p'
  | .help => some 'h'
  | .version => some 'V'
  | _ => none

/-- The word for the value that an option takes. -/
def value? : Key → Option String
  | .config => some "PATH"
  | .color => some "COLOR"
  | .host => some "HOST"
  | .port => some "PORT"
  | _ => none

/-- Tests for an option that may be given more than once. -/
def isStackable (key : Key) : Bool := key = .verbose

/-- What an option does. -/
def summary : Key → String
  | .config => "Override the config file path"
  | .quiet => "Reduce output to only errors"
  | .verbose => "Increase logging verbosity (stackable)"
  | .debug => "Enable debug logging (equivalent to -vv)"
  | .trace => "Enable trace logging (overrides other levels)"
  | .json => "Output machine readable JSON"
  | .yaml => "Output machine readable YAML"
  | .color =>
    "Control color output (auto, always, never) [default: auto] [possible values: auto, always, never]"
  | .host => "Host address to bind to (overrides config)"
  | .port => "Port to listen on (overrides config)"
  | .force => "Overwrite an existing file"
  | .help => "Print help"
  | .version => "Print version"

/-- The options that every command takes. -/
def common : List Key := [.config, .quiet, .verbose, .debug, .trace, .json, .yaml, .color]

end Key

namespace Level

/-- The words that lead to a command. -/
def words : Level → List String
  | .top => []
  | .serve => ["serve"]
  | .config => ["config"]
  | .show => ["config", "show"]
  | .path => ["config", "path"]
  | .init => ["config", "init"]

/-- The commands inside a command. -/
def inner : Level → List Level
  | .top => [.serve, .config]
  | .config => [.show, .path, .init]
  | _ => []

/-- The command of a word inside a command. -/
def inner? (level : Level) (word : String) : Option Level :=
  level.inner.find? fun next => next.words.getLast? = some word

/-- Tests for a command that is none without a further command. -/
def isGroup (level : Level) : Bool := !level.inner.isEmpty

/-- The options of a command itself. -/
def own : Level → List Key
  | .serve => [.host, .port]
  | .init => [.force]
  | _ => []

/-- All options that a command takes. -/
def keys (level : Level) : List Key := level.own ++ Key.common ++ [.help, .version]

/-- What a command does. -/
def summary : Level → String
  | .top => "Sanctum - realtime chat, game and signaling server."
  | .serve => "Start the realtime server"
  | .config => "Inspect and manage configuration"
  | .show => "Output the effective configuration"
  | .path => "Print the resolved config file path"
  | .init => "Write the default configuration file"

end Level

end Parlor.Command
