import Gleaner.Settings.Basic
import Gleaner.Document.Literal
import Gleaner.Json.Writer

/-! # Writing the log

    A record is written on one line, as JSON or as aligned text. A line has the
    fields of the record, its name, those fields of the context that the record does
    not have itself, the level, and the time.
-/

namespace Gleaner.Log

/-- The fields of a line in order. The level and the time stand in the place of
    fields of these names. -/
def lineFields (context : Keyed Document) (time : Text) (record : Record) : Keyed Document :=
  let named := record.fields.put "event" (.string record.name)
  let missing := context.filter fun (key, _) => key ∉ named.keys
  ((named ++ missing).put "level" (.string record.level.name)).put "timestamp" (.string time)

/-! ## Aligned text -/

/-- The width of a level and of an event's name. -/
def levelWidth : Nat := 9

def nameWidth : Nat := 30

/-- Texts with one of these are quoted. -/
def quotedMarks : Text := " \t=\r\n\"'"

/-- A value after its key. -/
def shown : Document → Text
  | .string text => if text.any quotedMarks.elem then text.quoted else text
  | other => other.literal

/-- The names of the fields that have columns of their own. -/
def columns : List Text := ["event", "level", "timestamp"]

/-- A line of aligned text. The fields come in the order of their keys. -/
def textLine (context : Keyed Document) (time : Text) (record : Record) : Text :=
  let fields := (lineFields context time record).filter fun (key, _) => key ∉ columns
  let sorted := fields.mergeSort fun a b => Text.le a.1 b.1
  let pairs := sorted.map fun (key, value) => key ++ .scalar '=' :: shown value
  let level := .scalar '[' :: Text.padRight levelWidth record.level.name ++ [.scalar ']']
  let line := Text.join " " (time :: level :: Text.padRight nameWidth record.name :: pairs)
  (line.reverse.dropWhile (· == .scalar ' ')).reverse

/-! ## Lines -/

/-- The line of a record without its end. -/
def line (format : LogFormat) (context : Keyed Document) (time : Text) (record : Record) : Text :=
  match format with
  | .json => Json.write (.object (lineFields context time record))
  | .text => textLine context time record

/-- What is written for a record: nothing if it is below the level that is set. -/
def write (settings : LoggingSettings) (context : Keyed Document) (time : Text) (record : Record) :
    Text :=
  if record.level.rank < settings.level.rank then []
  else line settings.format context time record ++ [.scalar '\n']

end Gleaner.Log
