import WatchLink.Action
import WatchLink.Console.Help

/-!
# Reading the command line

The arguments of a level are read one after the other. An option's value may be attached to it or
stand in the next argument; a value in an argument of its own, and an argument told by its place, is
kept `pending` and looked at only when the next option begins or the level ends. A word that begins
with a hyphen is never a value of its own, except the hyphen alone; after the argument `--`, nothing
is an option any more.

So a request for help wins over a bad value only where the value has not been looked at yet.
-/

namespace WatchLink

set_option autoImplicit false

namespace Console

inductive Command where
  | ping
  | watch (mode : WatchMode) (tag : Option UInt64)
  | add (timestamp : Int64) (data : Bytes)
  | remove (timestamp : Int64) (id : UInt16)
  | close
  deriving DecidableEq, Repr

structure Invocation where
  host : String
  port : UInt16
  revision : Revision
  command : Command
  deriving DecidableEq, Repr

inductive Request where
  | run (invocation : Invocation)
  | show (lines : List String)
  | reject
  deriving DecidableEq, Repr

namespace Arguments

/-- An option or argument whose value has not been looked at; an option may still have none. -/
structure Pending where
  name : String
  kind : ValueKind
  value : Option String
  deriving DecidableEq, Repr

structure Progress where
  values : List (String × String) := []
  pending : Option Pending := none
  /-- How many arguments were told by their places. -/
  placed : Nat := 0
  /-- Whether nothing is an option any more. -/
  plain : Bool := false
  deriving DecidableEq, Repr

inductive Verdict where
  | ends (progress : Progress)
  | enters (word : String) (rest : List String) (progress : Progress)
  | help
  | version
  | reject
  deriving DecidableEq, Repr

/-- Takes up a value that was looked at. An option is given once at most. -/
def take (name : String) (kind : ValueKind) (value : String) (progress : Progress) :
    Option Progress :=
  if (progress.values.lookup name).isSome || !kind.accepts value then none
  else some { progress with values := progress.values ++ [(name, value)] }

def resolve (progress : Progress) : Option Progress :=
  match progress.pending with
  | none => some progress
  | some { name, kind, value := some value } =>
      take name kind value { progress with pending := none }
  | some { value := none, .. } => none

def awaitsValue (progress : Progress) : Bool :=
  progress.pending.any fun pending => pending.value.isNone

def option (parameter : Parameter) (attached : Option String) (progress : Progress) :
    Option Progress := do
  let resolved ← resolve progress
  match attached with
  | some value => take parameter.name parameter.kind value resolved
  | none =>
      some { resolved with
        pending := some { name := parameter.name, kind := parameter.kind, value := none } }

def supply (value : String) (progress : Progress) : Progress :=
  { progress with
    pending := progress.pending.map fun pending => { pending with value := some value } }

def place (level : Level) (value : String) (progress : Progress) : Option Progress := do
  let positional ← level.positionals[progress.placed]?
  let resolved ← resolve progress
  some { resolved with
    pending := some { name := positional.name, kind := positional.kind, value := some value }
    placed := resolved.placed + 1 }

inductive Reading where
  | goOn (progress : Progress)
  | enter
  | help
  | version
  | reject
  deriving DecidableEq, Repr

def goOn : Option Progress → Reading
  | some progress => .goOn progress
  | none => .reject

/-- A request for a text, which is granted once what is pending has been looked at. -/
def ask (granted : Reading) (progress : Progress) : Reading :=
  if (resolve progress).isSome then granted else .reject

def splitAtEquals (text : List Char) : List Char × Option (List Char) :=
  (text.takeWhile (· != '='),
    match text.dropWhile (· != '=') with
    | [] => none
    | _ :: value => some value)

def long (level : Level) (text : List Char) (progress : Progress) : Reading :=
  let (spelled, attached) := splitAtEquals text
  let name := String.ofList spelled
  match level.parameters.find? fun parameter => parameter.long == name with
  | some parameter => goOn (option parameter (attached.map String.ofList) progress)
  | none =>
      if attached.isSome then .reject
      else if name = "help" then ask .help progress
      else if level.versioned ∧ name = "version" then ask .version progress
      else .reject

def short (level : Level) (letter : Char) (text : List Char) (progress : Progress) : Reading :=
  match level.parameters.find? fun parameter => parameter.short == some letter with
  | some parameter =>
      let attached := match text with
        | [] => none
        | '=' :: value => some (String.ofList value)
        | value => some (String.ofList value)
      goOn (option parameter attached progress)
  | none =>
      if letter = 'h' then ask .help progress
      else if level.versioned ∧ letter = 'V' then ask .version progress
      else .reject

def read (level : Level) (argument : String) (progress : Progress) : Reading :=
  if progress.plain then goOn (place level argument progress)
  else if !awaitsValue progress && level.commands.any (fun command => command.1 == argument) then
    .enter
  else match argument.toList with
    | ['-', '-'] => .goOn { progress with plain := true }
    | '-' :: '-' :: text => long level text progress
    | '-' :: letter :: text => short level letter text progress
    | _ =>
        if awaitsValue progress then .goOn (supply argument progress)
        else goOn (place level argument progress)

def scan (level : Level) (progress : Progress) : List String → Verdict
  | [] => .ends progress
  | argument :: rest =>
      match read level argument progress with
      | .goOn later => scan level later rest
      | .enter => .enters argument rest progress
      | .help => .help
      | .version => .version
      | .reject => .reject

/-- The values of a level once all its arguments have been read; every place has to be filled. -/
def settle (level : Level) (progress : Progress) : Option (List (String × String)) := do
  let resolved ← resolve progress
  if resolved.placed = level.positionals.length then some resolved.values else none

def revisionOf : String → Option Revision
  | "v1" => some .v1
  | "v2" => some .v2
  | "v3" => some .v3
  | _ => none

def modeOf (word : String) : Option WatchMode :=
  WatchMode.every.find? fun mode => mode.word == word

def number (values : List (String × String)) (name : String) : Option Int := do
  readInteger (← values.lookup name).toList

def valueOf (values : List (String × String)) (parameter : Parameter) : Option String :=
  (values.lookup parameter.name).or parameter.byDefault

def command (word : String) (values : List (String × String)) : Option Command :=
  match word with
  | "ping" => some .ping
  | "watch" => do
      let mode ← modeOf (← values.lookup "MODE")
      some (.watch mode ((values.lookup "TAG").bind fun text =>
        (readNatural text.toList).map UInt64.ofNat))
  | "add" => do
      let timestamp ← number values "TIMESTAMP"
      some (.add (Int64.ofInt timestamp) (← values.lookup "DATA").toUTF8.toList)
  | "remove" => do
      let timestamp ← number values "TIMESTAMP"
      some (.remove (Int64.ofInt timestamp) (UInt16.ofNat (← number values "ID").toNat))
  | "close" => some .close
  | _ => none

def invocation (word : String) (top values : List (String × String)) : Option Invocation := do
  let port ← readInteger (← valueOf top Usage.port).toList
  some {
    host := ← valueOf top Usage.host
    port := UInt16.ofNat port.toNat
    revision := ← revisionOf (← valueOf top Usage.revision)
    command := ← command word values }

def explain : List String → Request
  | [] => .show (Help.text Usage.top)
  | ["help"] => .show Help.helpText
  | [word] =>
      match Usage.commands.lookup word with
      | some level => .show (Help.text level)
      | none => .reject
  | _ => .reject

/-- The arguments of a command. What is pending before the command is looked at last. -/
def enter (word : String) (rest : List String) (outer : Progress) : Request :=
  match Usage.commands.lookup word with
  | none => .reject
  | some level =>
      match scan level {} rest with
      | .help => .show (Help.text level)
      | .ends progress =>
          let read := do
            let values ← settle level progress
            let top ← resolve outer
            invocation word top.values values
          (read.map Request.run).getD .reject
      | _ => .reject

def parse (arguments : List String) : Request :=
  match scan Usage.top {} arguments with
  | .enters "help" rest _ => explain rest
  | .enters word rest outer => enter word rest outer
  | .help => .show (Help.text Usage.top)
  | .version => .show [s!"radium-cli {version}"]
  | .ends _ | .reject => .reject

end Arguments

end Console

end WatchLink
