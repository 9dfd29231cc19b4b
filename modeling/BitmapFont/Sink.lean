/-!
# Sinks

Where bytes are written to: a sink that takes everything, or one that holds
only so many bytes.  A write that does not fit fills the sink with as much as
it can hold and then fails.
-/

namespace BitmapFont

/-- The bytes written so far, and how many there may be. -/
structure Sink where
  capacity : Option Nat
  written : Array UInt8
  deriving Repr, DecidableEq

namespace Sink

def unbounded : Sink :=
  ⟨none, #[]⟩

def ofCapacity (capacity : Option Nat) : Sink :=
  ⟨capacity, #[]⟩

def fullMessage : String :=
  "failed to write whole buffer"

def write (sink : Sink) (bytes : List UInt8) : Except Sink Sink :=
  match sink.capacity with
  | none => .ok { sink with written := sink.written ++ bytes }
  | some capacity =>
      let room := capacity - sink.written.size
      if bytes.length ≤ room then
        .ok { sink with written := sink.written ++ bytes }
      else
        .error { sink with written := sink.written ++ bytes.take room }

end Sink

end BitmapFont
