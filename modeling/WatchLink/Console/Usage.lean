import WatchLink.Console.Value
import WatchLink.Settings

/-!
# What can be said on the command line

The command line has two levels: the options that say which server is meant, and then a command with
its own arguments. A level is plain data; the reader of arguments and the help text both go by it.
-/

namespace WatchLink

set_option autoImplicit false

namespace Console

structure Parameter where
  long : String
  short : Option Char := none
  name : String
  about : String
  kind : ValueKind
  byDefault : Option String := none
  deriving DecidableEq, Repr

structure Positional where
  name : String
  about : String
  kind : ValueKind
  deriving DecidableEq, Repr

structure Level where
  /-- The words that lead here. -/
  path : String
  about : String
  parameters : List Parameter := []
  positionals : List Positional := []
  /-- The words that lead on from here, with what they do. -/
  commands : List (String × String) := []
  versioned : Bool := false
  deriving DecidableEq, Repr

namespace Usage

def revisionWords : List String := ["v1", "v2", "v3"]

def modeWords : List String := WatchMode.every.map WatchMode.word

def portKind : ValueKind := .integer 0 65535

def timestampKind : ValueKind := .integer (-9223372036854775808) 9223372036854775807

def idKind : ValueKind := .integer 0 65535

def tagKind : ValueKind := .natural 18446744073709551615

def host : Parameter where
  long := "host"
  name := "HOST"
  about := "Server host"
  kind := .text
  byDefault := some "127.0.0.1"

def port : Parameter where
  long := "port"
  short := some 'p'
  name := "PORT"
  about := "Server port"
  kind := portKind
  byDefault := some "3126"

def revision : Parameter where
  long := "revision"
  short := some 'r'
  name := "REVISION"
  about := "Protocol revision spoken by the server"
  kind := .word revisionWords
  byDefault := some "v2"

def tag : Parameter where
  long := "tag"
  short := some 't'
  name := "TAG"
  about := "Tag to watch (tagged mode, rev. 2)"
  kind := tagKind

def ping : Level where
  path := "radium-cli ping"
  about := "Ping the server"

def watch : Level where
  path := "radium-cli watch"
  about := "Set the watch mode and print pushed notifications until the server closes"
  parameters := [tag]
  positionals := [{ name := "MODE", about := "The watch mode to set", kind := .word modeWords }]

def add : Level where
  path := "radium-cli add"
  about := "Add an entry that expires at the given timestamp (rev. 2/3)"
  positionals :=
    [{ name := "TIMESTAMP", about := "Expiration timestamp (seconds)", kind := timestampKind },
      { name := "DATA", about := "Entry payload", kind := .text }]

def remove : Level where
  path := "radium-cli remove"
  about := "Remove a previously added entry (rev. 2/3)"
  positionals :=
    [{ name := "TIMESTAMP", about := "Timestamp the entry was added with", kind := timestampKind },
      { name := "ID", about := "Entry id returned when it was added", kind := idKind }]

def close : Level where
  path := "radium-cli close"
  about := "Connect and ask the server to close the connection"

def helpAbout : String := "Print this message or the help of the given subcommand(s)"

def commands : List (String × Level) :=
  [("ping", ping), ("watch", watch), ("add", add), ("remove", remove), ("close", close)]

def top : Level where
  path := "radium-cli"
  about := "CLI for the Radium watcher/notifier service"
  parameters := [host, port, revision]
  commands := (commands.map fun (word, level) => (word, level.about)) ++ [("help", helpAbout)]
  versioned := true

end Usage

end Console

end WatchLink
