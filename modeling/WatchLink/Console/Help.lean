import WatchLink.Console.Usage

/-!
# Help texts

A help text is laid out from its level: what it is about, how it is called, then its commands,
arguments and options in two columns. Lines end before column 100.
-/

namespace WatchLink

set_option autoImplicit false

namespace Console

namespace Help

def lineWidth : Nat := 100

def wrapWords (width : Nat) : List String → List String
  | [] => []
  | first :: words =>
      let (finished, line) := words.foldl
        (fun (state : List String × String) word =>
          let (finished, line) := state
          if line.length + 1 + word.length ≤ width then (finished, line ++ " " ++ word)
          else (finished ++ [line], word))
        ([], first)
      finished ++ [line]

def blanks (count : Nat) : String := String.ofList (List.replicate count ' ')

def padded (width : Nat) (text : String) : String := text ++ blanks (width - text.length)

/-- Two columns: labels of one width, and texts that go on under themselves. -/
def columns (rows : List (String × String)) : List String :=
  let width := rows.foldl (fun widest row => max widest row.1.length) 0
  let indent := 2 + width + 2
  rows.flatMap fun (label, text) =>
    match wrapWords (lineWidth - indent) (text.splitOn " ") with
    | [] => ["  " ++ label]
    | first :: later =>
        ("  " ++ padded width label ++ "  " ++ first) :: later.map fun line => blanks indent ++ line

def part (heading : String) (rows : List (String × String)) : List String :=
  if rows.isEmpty then [] else ["", heading] ++ columns rows

def choices : ValueKind → String
  | .word words => " [possible values: " ++ String.intercalate ", " words ++ "]"
  | _ => ""

def parameterRow (parameter : Parameter) : String × String :=
  let short := match parameter.short with
    | some letter => s!"-{letter}, "
    | none => "    "
  let byDefault := match parameter.byDefault with
    | some value => s!" [default: {value}]"
    | none => ""
  (s!"{short}--{parameter.long} <{parameter.name}>",
    s!"{parameter.about}{byDefault}{choices parameter.kind}")

def positionalRow (positional : Positional) : String × String :=
  (s!"<{positional.name}>", s!"{positional.about}{choices positional.kind}")

def call (level : Level) : String :=
  let options := if level.parameters.isEmpty then "" else " [OPTIONS]"
  let arguments := String.join (level.positionals.map fun positional => s!" <{positional.name}>")
  let command := if level.commands.isEmpty then "" else " <COMMAND>"
  s!"Usage: {level.path}{options}{arguments}{command}"

def text (level : Level) : List String :=
  let flags := ("-h, --help", "Print help") ::
    if level.versioned then [("-V, --version", "Print version")] else []
  [level.about, "", call level] ++ part "Commands:" level.commands ++
    part "Arguments:" (level.positionals.map positionalRow) ++
    part "Options:" (level.parameters.map parameterRow ++ flags)

def helpText : List String :=
  [Usage.helpAbout, "", "Usage: radium-cli help [COMMAND]..."] ++
    part "Arguments:" [("[COMMAND]...", "Print help for the subcommand(s)")]

end Help

end Console

end WatchLink
