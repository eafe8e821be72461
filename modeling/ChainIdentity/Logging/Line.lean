import ChainIdentity.Journal
import ChainIdentity.Text.Quoted
import ChainIdentity.Text.Terminal

/-!
# Log lines

An event is written as one record: the time, the level, the names of the open spans, the part of
the program, the message with the values recorded, and after them the values of the spans.  A
message may hold newlines and its record then covers several lines.

There are two styles.  A terminal gets colours; a file gets plain text, from which every control
sequence is removed in the end, also one that came in with a value.  In messages the characters
that could control a terminal are spelled out in either style.

What differs from run to run (the time, and how trace ids look) is a parameter, `Stamp`.
-/

namespace ChainIdentity.Logging

open Text

/-- What differs from one run to the next. -/
structure Stamp where
  /-- The time of day and date, as it stands at the start of a line. -/
  time : String
  /-- The moment of an event, as it is recorded with one. -/
  moment : String
  /-- The text of a trace id. -/
  trace : TraceId → String

/-- How a record looks. -/
inductive Style where
  /-- Without colours. -/
  | plain
  /-- With colours, for a terminal. -/
  | coloured
deriving DecidableEq, Repr

namespace Style

/-- A text in the colour or weight of the given number. -/
def paint (style : Style) (number : String) (text : String) : String :=
  match style with
  | plain => text
  | coloured => "\x1b[" ++ number ++ "m" ++ text ++ "\x1b[0m"

/-- A text that stands back. -/
def dim (style : Style) (text : String) : String := style.paint "2" text

/-- A text that stands out. -/
def bold (style : Style) (text : String) : String := style.paint "1" text

/-- A slanted text. -/
def italic (style : Style) (text : String) : String := style.paint "3" text

end Style

/-- The number of the colour of a level. -/
def colour : Level → String
  | .trace => "35"
  | .debug => "34"
  | .info => "32"
  | .warn => "33"
  | .error => "31"

/-- The name of a level, five characters wide. -/
def paddedName (level : Level) : String :=
  String.ofList (List.replicate (5 - level.name.length) ' ') ++ level.name

/-- The form of a character in a message: what could control a terminal is spelled out, except
for tabs and line ends. -/
def messageChar (c : Char) : List Char :=
  if c = '\x1b' then ['\\', 'x', '1', 'b']
  else if c = '\x07' then ['\\', 'x', '0', '7']
  else if c = '\x08' then ['\\', 'x', '0', '8']
  else if c = '\x0c' then ['\\', 'x', '0', 'c']
  else if c = '\x7f' then ['\\', 'x', '7', 'f']
  else if 0x80 ≤ c.toNat ∧ c.toNat ≤ 0x9f then
    ['\\', 'u', '\x7b'] ++ Numeral.write 16 c.toNat ++ ['\x7d']
  else [c]

/-- The form of a message. -/
def messageText (message : String) : String :=
  String.ofList (message.toList.flatMap messageChar)

/-- The text of a recorded value. -/
def valueText (stamp : Stamp) : FieldValue → String
  | .shown text => text
  | .quoted text => quoteText text
  | .trace id => stamp.trace id
  | .moment => stamp.moment

/-- A recorded value with its name; one that is named a message is written as a message. -/
def fieldText (style : Style) (stamp : Stamp) (field : Field) : String :=
  if field.1 = "message" then messageText (valueText stamp field.2)
  else style.italic field.1 ++ style.dim "=" ++ valueText stamp field.2

/-- Recorded values, one after another. -/
def fieldTexts (style : Style) (stamp : Stamp) (fields : List Field) : String :=
  String.intercalate " " (fields.map (fieldText style stamp))

/-- The names of the open spans. -/
def spanNames (style : Style) (spans : List Span) : String :=
  if spans.isEmpty then ""
  else String.join (spans.map fun span => style.bold span.name ++ ":") ++ " "

/-- The values of the open spans. -/
def spanFields (style : Style) (stamp : Stamp) (spans : List Span) : String :=
  String.join ((spans.filter fun span => !span.fields.isEmpty).map fun span =>
    " " ++ style.dim (fieldTexts style stamp span.fields))

/-- The record of an event before control sequences are removed. -/
def rawRecord (style : Style) (stamp : Stamp) (event : Event) : String :=
  style.dim stamp.time ++ " " ++ style.paint (colour event.level) (paddedName event.level) ++ " "
    ++ spanNames style event.spans
    ++ style.dim event.target ++ style.dim ":" ++ " "
    ++ fieldTexts style stamp (("message", .shown event.message) :: event.fields)
    ++ spanFields style stamp event.spans ++ "\n"

/-- The record of an event. -/
def record (style : Style) (stamp : Stamp) (event : Event) : String :=
  match style with
  | .plain => Terminal.stripText (rawRecord .plain stamp event)
  | .coloured => rawRecord .coloured stamp event

/-- The event as it is kept when only the given level and higher ones are; spans are there only
where the level of information is. -/
def kept? (threshold : Level) (event : Event) : Option Event :=
  if event.level.passes threshold then
    some (if Level.info.passes threshold then event else { event with spans := [] })
  else none

end ChainIdentity.Logging
