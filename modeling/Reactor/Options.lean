/-!
# Options of a loop

The default length of a server's queue, the size of a handle's read buffer, and how often one tick
reads from every handle. The sizes are positive, so a read buffer can always take a byte and a tick
reads at least once.
-/

namespace Reactor

/-- The length of a queue of waiting connections: a word of 32 bits. -/
abbrev Backlog := { n : Nat // n < 0x100000000 }

/-- A size or a count: positive, in a word of 64 bits. -/
abbrev Extent := { n : Nat // 0 < n ∧ n < 0x10000000000000000 }

/-- The name of a collector of metrics. -/
abbrev Collector := String

/-- The options of a loop. -/
structure Options where
  defaultBacklog : Backlog := ⟨128, by decide⟩
  readBufferSize : Extent := ⟨65536, by decide⟩
  maxReadPasses : Extent := ⟨16, by decide⟩
  /-- Who is told of the progress of operations. -/
  collectors : List Collector := []
  deriving DecidableEq, Repr

namespace Options

/-- The options when nothing is given. -/
def standard : Options := {}

/-- The options as they are shown to a reader. -/
def summary (o : Options) : String :=
  "LoopOptions \x7b default_backlog: " ++ toString o.defaultBacklog.val ++
    ", read_buffer_size: " ++ toString o.readBufferSize.val ++
    ", max_read_passes: " ++ toString o.maxReadPasses.val ++
    ", metrics: " ++ (if o.collectors.isEmpty then "false" else "true") ++ " \x7d"

/-- A field that can be set from a text. -/
inductive Field where
  | defaultBacklog
  | readBufferSize
  | maxReadPasses
  deriving DecidableEq, Repr

/-- The fields in the order in which a sequence gives them. -/
def Field.all : List Field := [.defaultBacklog, .readBufferSize, .maxReadPasses]

/-- The name of a field in a text. -/
def Field.name : Field → String
  | .defaultBacklog => "defaultBacklog"
  | .readBufferSize => "readBufferSize"
  | .maxReadPasses => "maxReadPasses"

/-- The field of a name. -/
def Field.ofName? (name : String) : Option Field := Field.all.find? (·.name = name)

/-- The value of a field. -/
def get (o : Options) : Field → Nat
  | .defaultBacklog => o.defaultBacklog
  | .readBufferSize => o.readBufferSize
  | .maxReadPasses => o.maxReadPasses

/-- The options as a text that reads back as them; collectors have no text. -/
def render (o : Options) : String :=
  "\x7b" ++ String.intercalate "," (Field.all.map fun f =>
    "\"" ++ f.name ++ "\":" ++ toString (o.get f)) ++ "\x7d"

end Options

end Reactor
