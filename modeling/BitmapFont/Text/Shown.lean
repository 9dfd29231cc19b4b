/-!
# What a terminal message shows

Messages may quote what the user wrote.  Before one is printed its terminal
control sequences and its control characters are taken out, line breaks and
tabs excepted, so that a quoted word cannot act on the terminal.

Sequences are recognised in the encoded text.  That shows in one place only: a
string that is closed by the byte `9C` is closed by any character whose
encoding holds that byte.
-/

namespace BitmapFont.Text

inductive ControlState where
  | ground
  | escape
  | intermediate
  | parameters
  | deviceEntry
  | deviceParameters
  | deviceIntermediate
  /-- In a string that the byte `9C` closes. -/
  | closedString
  /-- In a string that a bell closes. -/
  | bellString
  deriving Repr, DecidableEq

def isLayoutControl (c : Char) : Bool :=
  c == '\t' || c == '\n' || c == '\x0c' || c == '\r'

def closesString (c : Char) : Bool :=
  (String.utf8EncodeChar c).contains 0x9C

namespace ControlState

/-- The state behind a character that is neither an escape, a cancel nor a
substitute character. -/
def after (state : ControlState) (c : Char) : ControlState :=
  let point := c.toNat
  match state with
  | ground => ground
  | escape =>
      if point < 0x20 || 0x7F ≤ point then escape
      else if point < 0x30 then intermediate
      else if c = '[' then parameters
      else if c = ']' then bellString
      else if c = 'P' then deviceEntry
      else if c = 'X' || c = '^' || c = '_' then closedString
      else ground
  | intermediate => if point < 0x30 || 0x7F ≤ point then intermediate else ground
  | parameters => if point < 0x40 || 0x7F ≤ point then parameters else ground
  | deviceEntry =>
      if point < 0x20 || 0x7F ≤ point then deviceEntry
      else if point < 0x30 then deviceIntermediate
      else if point < 0x40 then deviceParameters
      else closedString
  | deviceParameters =>
      if point < 0x20 || 0x7F ≤ point then deviceParameters
      else if point < 0x30 then deviceIntermediate
      else if point < 0x3C then deviceParameters
      else closedString
  | deviceIntermediate =>
      if point < 0x30 || 0x7F ≤ point then deviceIntermediate else closedString
  | closedString => if closesString c then ground else closedString
  | bellString => if point = 0x07 then ground else bellString

/-- Whether a character is shown.  A layout control inside a sequence is, but
not inside a string. -/
def shows (state : ControlState) (c : Char) : Bool :=
  match state with
  | ground => isLayoutControl c || (0x20 ≤ c.toNat && c.toNat != 0x7F)
  | escape | intermediate | parameters => isLayoutControl c
  | _ => false

end ControlState

inductive Medium where
  | text
  | stream
  deriving Repr, DecidableEq

structure ShownState where
  sequence : ControlState := .ground
  /-- The last character was shown, so the next may follow it in spite of a
  sequence that is still open. -/
  printing : Bool := false
  deriving Repr, DecidableEq

namespace ShownState

/-- The state behind a character that is shown.  In a text it ends whatever
sequence it stands in; on a stream the sequence stays open behind the characters
shown, unless one of them is beyond the basic ones. -/
def afterShown (state : ShownState) (medium : Medium) (c : Char) : ShownState :=
  match medium with
  | .text => {}
  | .stream => {
      sequence := if c.toNat < 0x80 then state.sequence else .ground
      printing := true }

def read (state : ShownState) (medium : Medium) (c : Char) : Bool × ShownState :=
  let point := c.toNat
  let around := if state.printing then ControlState.ground else state.sequence
  if point = 0x1B then (false, { sequence := .escape })
  else if point = 0x18 || point = 0x1A then (false, {})
  else if around.shows c then (true, state.afterShown medium c)
  else (false, { sequence := state.sequence.after c })

end ShownState

def shownFrom (medium : Medium) : ShownState → List Char → List Char
  | _, [] => []
  | state, c :: rest =>
      match state.read medium c with
      | (true, after) => c :: shownFrom medium after rest
      | (false, after) => shownFrom medium after rest

/-- What is left of a text when it is printed between two changes of style,
the second of which ends a sequence that the text leaves open. -/
def shown (medium : Medium) (text : String) : String :=
  String.ofList (shownFrom medium {} text.toList)

end BitmapFont.Text
