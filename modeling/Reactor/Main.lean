import Reactor.CommandLine
import Reactor.Echo.Server

/-!
# The echo server as a program

The command line sets the server up; standard input is its one connection. Every line that
comes in is sent by the peer, and what the server writes back is printed. The end of the input
is the end of the stream.
-/

namespace Reactor

/-- More steps than a step of the server takes. -/
def stepLimit : Nat := 0x1000000000000000

/-- What is said when the arguments cannot be used. -/
def stopMessage : CommandLine.Stop → String
  | .help => CommandLine.help
  | .unknownArgument => "error: unexpected argument found"
  | .missingValue => "error: a value is required but none was supplied"
  | .needlessValue => "error: unexpected value found"
  | .repeated flag => "error: --" ++ flag.name ++ " cannot be used multiple times"
  | .badValue flag => "error: invalid value for --" ++ flag.name

/-- The text of a file, if it can be read. -/
def contentOf? (path : String) : IO (Option String) :=
  try
    let text ← IO.FS.readFile path
    return some text
  catch _ => return none

/-- Sends the lines of the input to the server and prints what comes back. -/
partial def converse (input output : IO.FS.Stream) (client : HandleId) (server : Echo.Server) :
    IO Unit := do
  let line ← input.getLine
  let script : Memory.Script :=
    if line.isEmpty then .pushEof client else .pushData client line.toUTF8.toList
  let before := (server.written client).length
  let server := server.perform stepLimit (Echo.Server.scriptProgram script)
  output.write ⟨((server.written client).drop before).toArray⟩
  output.flush
  unless line.isEmpty do converse input output client server

/-- Serves one connection with the settings of the command line. -/
def serve (settings : CommandLine.Settings) : IO UInt32 := do
  let content ← match settings.config with
    | none => pure none
    | some path => contentOf? path
  match settings.options fun _ => content with
  | .error fault =>
    IO.eprintln ("Error: " ++ fault.message)
    return 1
  | .ok options =>
    let address := settings.address.getD CommandLine.defaultAddress
    let server := (Echo.Server.empty options).perform stepLimit (Echo.Server.openProgram address)
    IO.println ("Listening on " ++ address.display)
    let arrival := Echo.Server.scriptProgram (.pushConnection Echo.Server.listener)
    converse (← IO.getStdin) (← IO.getStdout) (Echo.Server.listener + 1)
      (server.perform stepLimit arrival)
    return 0

end Reactor

open Reactor in
/-- Serves, or says why the arguments cannot be used. -/
def main (args : List String) : IO UInt32 := do
  match CommandLine.parse args with
  | .ok settings => serve settings
  | .error .help =>
    IO.print CommandLine.help
    return 0
  | .error stop =>
    IO.eprintln (stopMessage stop)
    return 2
