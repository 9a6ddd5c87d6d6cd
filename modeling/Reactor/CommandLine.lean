import Reactor.Address.Reader
import Reactor.Options.Reader

/-!
# The command line of the echo server

Three options take one value each, as the next argument or after an equals sign. The arguments are
read from left to right and the first fault decides. A value after an equals sign is judged at once;
one that is an argument of its own is judged only when the next known option or the end of the
arguments has been reached, so an unknown argument that follows it comes first.
-/

namespace Reactor.CommandLine

/-- An option with a value. -/
inductive Flag where
  | addr
  | backlog
  | config
  deriving DecidableEq, Repr

/-- The name of an option after its two dashes. -/
def Flag.name : Flag → String
  | .addr => "addr"
  | .backlog => "backlog"
  | .config => "config"

/-- The option of a name. -/
def Flag.ofName? (name : String) : Option Flag :=
  [Flag.addr, .backlog, .config].find? (·.name = name)

/-- Why reading the arguments ends early. -/
inductive Stop where
  /-- The help was asked for. -/
  | help
  | unknownArgument
  /-- No value follows an option that needs one. -/
  | missingValue
  /-- A value follows an option that takes none. -/
  | needlessValue
  | repeated (flag : Flag)
  | badValue (flag : Flag)
  deriving DecidableEq, Repr

/-- What the options say. -/
structure Settings where
  address : Option SocketAddress := none
  backlog : Option Backlog := none
  config : Option String := none
  deriving DecidableEq, Repr

/-- Whether an option has been given. -/
def Settings.has (s : Settings) : Flag → Bool
  | .addr => s.address.isSome
  | .backlog => s.backlog.isSome
  | .config => s.config.isSome

/-- A number with an optional sign, in decimal digits, that fits a queue's length. -/
def backlog? (text : String) : Option Backlog :=
  let (negative, digits) := match text.toList with
    | '+' :: digits => (false, digits)
    | '-' :: digits => (true, digits)
    | digits => (false, digits)
  if digits.isEmpty || !digits.all Char.isDigit then none
  else
    let value := digits.foldl (fun n c => n * 10 + (c.toNat - '0'.toNat)) 0
    if negative && 0 < value then none
    else if h : value < 0x100000000 then some ⟨value, h⟩ else none

/-- The settings with the value of an option, unless the value is wrong. -/
def Settings.set? (s : Settings) (flag : Flag) (value : String) : Option Settings :=
  match flag with
  | .addr => (SocketAddress.parse? value).map fun a => { s with address := some a }
  | .backlog => (backlog? value).map fun n => { s with backlog := some n }
  | .config => some { s with config := some value }

/-- An option that has been read but not judged, with its value if one has followed. -/
structure Pending where
  flag : Flag
  value : Option String
  deriving DecidableEq, Repr

/-- The settings with an option: its value is there, it was not given before,
and the value is right. -/
def Settings.settle (s : Settings) (p : Pending) : Except Stop Settings :=
  match p.value with
  | none => .error .missingValue
  | some value =>
    if s.has p.flag then .error (.repeated p.flag)
    else
      match s.set? p.flag value with
      | some s => .ok s
      | none => .error (.badValue p.flag)

/-- The settings with the option that waits for its judgement, if there is one. -/
def Settings.settleAll (s : Settings) : Option Pending → Except Stop Settings
  | none => .ok s
  | some p => s.settle p

/-- What an argument looks like. -/
inductive Shape where
  /-- Two dashes alone: the end of the options. -/
  | terminator
  /-- A name after two dashes, with what follows an equals sign. -/
  | long (name : String) (value : Option String)
  /-- Letters after one dash. -/
  | short (first : Char)
  | plain

/-- The shape of an argument. A dash alone is plain. -/
def shape (arg : String) : Shape :=
  match arg.toList with
  | ['-', '-'] => .terminator
  | '-' :: '-' :: body =>
    let name := String.ofList (body.takeWhile (· ≠ '='))
    match body.dropWhile (· ≠ '=') with
    | [] => .long name none
    | _ :: value => .long name (some (String.ofList value))
  | '-' :: c :: _ => .short c
  | _ => .plain

/-- Reads the arguments in the light of the settings so far and of the option that waits for its
value or its judgement. -/
def read (s : Settings) (waiting : Option Pending) : List String → Except Stop Settings
  | [] => s.settleAll waiting
  | arg :: rest =>
    match shape arg with
    | .terminator => if rest.isEmpty then s.settleAll waiting else .error .unknownArgument
    | .long name value =>
      match Flag.ofName? name with
      | some flag =>
        match s.settleAll waiting with
        | .error stop => .error stop
        | .ok s =>
          match value with
          | none => read s (some ⟨flag, none⟩) rest
          | some value =>
            match s.settle ⟨flag, some value⟩ with
            | .error stop => .error stop
            | .ok s => read s none rest
      | none =>
        if name ≠ "help" then .error .unknownArgument
        else if value.isSome then .error .needlessValue
        else
          match s.settleAll waiting with
          | .error stop => .error stop
          | .ok _ => .error .help
    | .short c =>
      if c ≠ 'h' then .error .unknownArgument
      else
        match s.settleAll waiting with
        | .error stop => .error stop
        | .ok _ => .error .help
    | .plain =>
      match waiting with
      | some ⟨flag, none⟩ => read s (some ⟨flag, some arg⟩) rest
      | _ => .error .unknownArgument

/-- The settings that the arguments give. -/
def parse (args : List String) : Except Stop Settings := read {} none args

/-- The help. -/
def help : String := String.intercalate "\n" [
  "Usage: uvecho [OPTIONS]",
  "",
  "Options:",
  "      --addr <HOST_AND_PORT>  Address to listen on (default: 127.0.0.1:7000)",
  "      --backlog <N>           Listen backlog (default: 128)",
  "      --config <FILE>         JSON file with loop options, e.g. \x7b\"readBufferSize\": 4096\x7d",
  "  -h, --help                  Print help",
  ""]

/-- The address that the server listens on when none is given. -/
def defaultAddress : SocketAddress := .v4 ⟨127, 0, 0, 1⟩ 7000

/-- Why the options of the loop could not be had from the settings. -/
inductive ConfigFault where
  | unreadable (path : String)
  | invalid (path : String) (refusal : Options.Refusal)
  deriving DecidableEq, Repr

/-- A fault of the configuration in words. -/
def ConfigFault.message : ConfigFault → String
  | .unreadable path => "Unable to read " ++ path
  | .invalid path _ => "Invalid loop options in " ++ path

/-- The options of the configuration, whose file `content` is the text read, if it could be read. -/
def configOptions (path : String) (content : Option String) : Except ConfigFault Options :=
  match content with
  | none => .error (.unreadable path)
  | some text =>
    match Options.parse text with
    | .ok options => .ok options
    | .error refusal => .error (.invalid path refusal)

/-- The options of the loop: those of the configuration or the defaults, and a queue's length that
is given on the command line before that of the configuration. -/
def Settings.options (s : Settings) (contentOf : String → Option String) :
    Except ConfigFault Options :=
  let base : Except ConfigFault Options := match s.config with
    | none => .ok .standard
    | some path => configOptions path (contentOf path)
  base.map fun options =>
    match s.backlog with
    | none => options
    | some n => { options with defaultBacklog := n }

end Reactor.CommandLine
