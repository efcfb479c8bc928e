import Std.Async.DNS
import Std.Async.TCP
import Std.Time
import WatchLink.Console.Account
import WatchLink.Console.LogFilter

/-!
# The program

Connects a run to a real socket, the standard output and the environment. Everything that is said,
sent or decided comes from the run.
-/

namespace WatchLink

set_option autoImplicit false

namespace Program

open Std.Async Std.Net

def reason (error : IO.Error) : String := s!"IO error: {error}"

def time : IO String := do
  let now ← Std.Time.Timestamp.now
  let moment := Std.Time.DateTime.ofTimestampWithZone now Std.Time.TimeZone.UTC
  return moment.format "uuuu-MM-dd'T'HH:mm:ss.SSSSSS'Z'"

def addresses (settings : Settings) : IO (List SocketAddress) := do
  let found ← (DNS.getAddrInfo settings.host "").block
  return found.toList.map fun
    | .v4 addr => .v4 { addr, port := settings.port }
    | .v6 addr => .v6 { addr, port := settings.port }

def dial (settings : Settings) (address : SocketAddress) : IO TCP.Socket.Client := do
  let socket ← TCP.Socket.Client.mk
  (socket.connect address).block
  if settings.noDelay then socket.noDelay
  return socket

/-- A socket that is connected to the first address that answers. -/
def dialEach (settings : Settings) : List SocketAddress → IO TCP.Socket.Client
  | [] => throw (IO.userError "no address found")
  | [address] => dial settings address
  | address :: others => try dial settings address catch _ => dialEach settings others

def print (filter : Console.LogFilter) (before after : Console.Run) : IO Unit := do
  let fresh := after.printed.drop before.printed.length
  for line in fresh.filter (Console.Line.shownBy filter) do
    IO.println (line.stamped (← time))

def send (socket : TCP.Socket.Client) (before after : Console.Run) : IO Unit := do
  let fresh := after.link.sent.drop before.link.sent.length
  unless fresh.isEmpty do
    try (socket.send fresh.toByteArray).block catch _ => pure ()

def listen (socket : TCP.Socket.Client) (run : Console.Run) : IO Arrival := do
  try
    match ← (socket.recv? (UInt64.ofNat run.link.settings.readBufferSize)).block with
    | some chunk => return .chunk chunk.toList
    | none => return .ended
  catch error => return .broken (reason error)

/-- Carries a run on until it has finished. -/
partial def converse (filter : Console.LogFilter) (socket : TCP.Socket.Client) (run : Console.Run) :
    IO UInt32 := do
  match run.exitCode? with
  | some code => return code
  | none =>
      let later := run.deal (← listen socket run)
      print filter run later
      send socket run later
      converse filter socket later

def connect (settings : Settings) : IO (Except String TCP.Socket.Client) := do
  try return .ok (← dialEach settings (← addresses settings))
  catch error => return .error (reason error)

def carryOut (filter : Console.LogFilter) (invocation : Console.Invocation) : IO UInt32 := do
  let run := Console.Run.begin invocation
  print filter { run with printed := [] } run
  match run.exitCode? with
  | some code => return code
  | none =>
      match ← connect run.link.settings with
      | .ok socket =>
          let later := run.deal .accepted
          print filter run later
          send socket run later
          converse filter socket later
      | .error cause =>
          let later := run.deal (.unreachable cause)
          print filter run later
          return later.exitCode?.getD 1

def perform (arguments : List String) : IO UInt32 := do
  match Console.Arguments.parse arguments with
  | .reject =>
      IO.eprintln "error: these arguments make no sense; try '--help'"
      return Console.rejection
  | .show lines =>
      lines.forM fun line => IO.println line
      return 0
  | .run invocation =>
      carryOut (Console.LogFilter.parse (← IO.getEnv "RUST_LOG")) invocation

end Program

end WatchLink

def main (arguments : List String) : IO UInt32 := WatchLink.Program.perform arguments
