import Gleaner.Document.Overlay
import Gleaner.Json.Reader
import Gleaner.Settings.Basic
import Gleaner.Text.Lowercase

/-! # Settings from the environment

    A variable named after a section holds the section as JSON. A variable named
    after a section and a key, with two underscores before the key, holds the text
    of one field and covers what the JSON says about it. The case of a name does not
    matter.
-/

namespace Gleaner

/-- Environment variables in order. -/
abbrev Environment := Keyed Text

namespace Environment

/-- The variables with their names in lower case, a later one in place of an earlier
    one of the same name. -/
def lowered (environment : Environment) : Environment :=
  Keyed.ofPairs (environment.map fun (name, value) => (Text.lowercase name, value))

/-- The name of the variable of a section. -/
def variableOf (name : Text) : Text := Text.ofString "remotevalue__" ++ name

/-- The keys that follow a section in the name of a variable. -/
def keysUnder? (name full : Text) : Option (List Text) :=
  (Text.dropStart? (variableOf name ++ Text.ofString "__") full).map
    (Text.splitOn (.scalar '_') "_" none)

/-- Writes a text under nested keys, unless another text stands in the way. A text
    that was given for a key covers everything under that key. -/
def write (value : Text) : (keys : List Text) → Keyed Document → Keyed Document
  | [], fields => fields
  | [last], fields => fields.put last (.string value)
  | key :: keys, fields =>
    match fields.get? key with
    | none => fields.put key (.object (write value keys []))
    | some (.object inner) => fields.put key (.object (write value keys inner))
    | some _ => fields

/-- The fields of a section that have variables of their own. -/
def nested (name : Text) (environment : Environment) : Keyed Document :=
  environment.foldl (fun fields (full, value) =>
    match keysUnder? name full with
    | some keys => write value keys fields
    | none => fields) []

/-- The keys of an object that differ from a name by case only, put in the case of
    the name. -/
def withNames (names : List Text) (fields : Keyed Document) : Keyed Document :=
  Keyed.ofPairs (fields.map fun (key, value) =>
    ((names.find? fun name => Text.lowercase key == Text.lowercase name).getD key, value))

/-- What the environment says about a section. A section given as null is not given
    at all, whatever its other variables say. -/
def sectionOf (name : Text) (keys : List Text) (environment : Environment) :
    Except Fault (Option Document) :=
  let fields := nested name environment
  match environment.get? (variableOf name) with
  | none => .ok (if fields.isEmpty then none else some (.object (withNames keys fields)))
  | some text =>
    match Json.readLenient text with
    | .error _ => .error (.unreadableVariable name)
    | .ok .null => .ok none
    | .ok (.object members) =>
      .ok (some (.object (withNames keys (Document.overlay members fields))))
    | .ok other => .ok (some other)

/-- A section under its name, if it is given. -/
def given (name : Text) (value : Option Document) : Keyed Document :=
  (value.map fun value => (name, value)).toList

/-- The sections that the environment gives. -/
def settings (environment : Environment) : Except Fault (Keyed Document) := do
  let environment := environment.lowered
  let cache ← environment.sectionOf "cache" CacheSettings.names
  let logging ← environment.sectionOf "logging" LoggingSettings.names
  return given "cache" cache ++ given "logging" logging

end Environment

end Gleaner
