import BitmapFont.Text.Hex
import BitmapFont.Text.Quoted

/-!
# Events

What the encoder and the compiler report while they work.  A computation that
reports is a value together with its events in order.  A log has a gate, which is
asked about an event when it is reported and takes it or does not.
-/

namespace BitmapFont

inductive Level where
  | error
  | warn
  | info
  | debug
  | trace
  deriving Repr, DecidableEq

/-- Greater numbers are less severe. -/
def Level.rank : Level → Nat
  | .error => 1
  | .warn => 2
  | .info => 3
  | .debug => 4
  | .trace => 5

def Level.name : Level → String
  | .error => "ERROR"
  | .warn => "WARN"
  | .info => "INFO"
  | .debug => "DEBUG"
  | .trace => "TRACE"

inductive Event where
  | noRow (line : Nat)
  | packed (line : Nat) (markers : List Char) (byte : UInt8)
  | sourceRead (bytes : Nat) (path : String)
  | outputWritten (rows glyphs height : Nat) (path : String)
  | trailingRows (rows : Nat)
  | noGlyph (char : Char) (glyphs : Nat)
  deriving Repr, DecidableEq

namespace Event

def level : Event → Level
  | noRow .. | packed .. => .trace
  | sourceRead .. | trailingRows .. => .debug
  | outputWritten .. => .info
  | noGlyph .. => .warn

def target : Event → String
  | noRow .. | packed .. => "font::row"
  | _ => "font_compiler"

def message : Event → String
  | noRow line => s!"line {line}: no glyph row"
  | packed line markers byte =>
      s!"line {line}: " ++ String.ofList markers ++ " => 0x" ++
        String.ofList (Text.hex .lower 2 byte.toNat)
  | sourceRead bytes path => s!"read {bytes} bytes from \"" ++ path ++ "\""
  | outputWritten rows glyphs height path =>
      s!"wrote {rows} glyph rows ({glyphs} glyphs of {height} rows) to \"" ++ path ++ "\""
  | trailingRows rows => s!"{rows} trailing rows do not form a whole glyph"
  | noGlyph char glyphs =>
      "no glyph for " ++ String.ofList (Text.quoted char) ++ s!": output holds {glyphs} glyphs"

theorem message_packed (line : Nat) (markers : List Char) (byte : UInt8) :
    (packed line markers byte).message =
      s!"line {line}: " ++ String.ofList markers ++ " => 0x" ++
        String.ofList [Text.HexCase.lower.digit (byte.toNat / 16),
          Text.HexCase.lower.digit (byte.toNat % 16)] :=
  congrArg
    (fun digits =>
      s!"line {line}: " ++ String.ofList markers ++ " => 0x" ++ String.ofList digits)
    (Text.hex_byte .lower byte)

def indented (message : String) : String :=
  String.ofList <| message.toList.flatMap fun c =>
    if c = '\n' then ['\n', ' ', ' ', ' ', ' '] else [c]

/-- What a log prints: the level in a column of five, the target, the message. -/
def logText (event : Event) : String :=
  "[" ++ String.ofList (event.level.name.toList.rightpad 5 ' ') ++ " " ++ event.target ++ "] " ++
    indented event.message

end Event

/-- Decides about an event that is reported whether the log takes it. -/
abbrev Gate := Event → Bool

namespace Gate

/-- The gate of a log that takes every event. -/
def wide : Gate :=
  fun _ => true

def report (gate : Gate) (log : Array Event) (event : Event) : Array Event :=
  if gate event then log.push event else log

@[simp] theorem filter_wide (events : List Event) : events.filter wide = events :=
  List.filter_eq_self.mpr fun _ _ => rfl

@[simp] theorem report_wide (log : Array Event) (event : Event) :
    wide.report log event = log.push event := rfl

theorem toList_report (gate : Gate) (log : Array Event) (event : Event) :
    (gate.report log event).toList = log.toList ++ [event].filter gate := by
  cases hgate : gate event <;> simp [report, hgate]

end Gate

/-- A value and the events that were reported on the way to it. -/
structure Logged (α : Type) where
  value : α
  events : List Event
  deriving Repr, DecidableEq

namespace Logged

protected def pure {α : Type} (value : α) : Logged α :=
  ⟨value, []⟩

protected def bind {α β : Type} (first : Logged α) (next : α → Logged β) : Logged β :=
  let second := next first.value
  ⟨second.value, first.events ++ second.events⟩

instance : Monad Logged where
  pure := Logged.pure
  bind := Logged.bind

@[simp] theorem value_pure {α : Type} (a : α) :
    (pure a : Logged α).value = a := rfl

@[simp] theorem events_pure {α : Type} (a : α) :
    (pure a : Logged α).events = [] := rfl

@[simp] theorem value_bind {α β : Type} (first : Logged α) (next : α → Logged β) :
    (first >>= next).value = (next first.value).value := rfl

@[simp] theorem events_bind {α β : Type} (first : Logged α) (next : α → Logged β) :
    (first >>= next).events = first.events ++ (next first.value).events := rfl

end Logged

end BitmapFont
