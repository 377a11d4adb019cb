import Gleaner.Settings.Environment
import Gleaner.Yaml.Block

/-! # Where settings come from

    Settings are put together from three sources: what the caller gives, the
    environment, and a file. They are overlaid in this order, the caller on top, and
    checked afterwards, so that a value that is covered does not matter.
-/

namespace Gleaner.Settings

/-! ## The file -/

/-- The places where a settings file is looked for, the first one first. -/
inductive FilePlace
  | workingDirectory | home
  deriving DecidableEq, Repr

/-- The file that counts, of those in the two places. -/
def findFile (workingDirectory home : Option Text) : Option (FilePlace × Text) :=
  match workingDirectory with
  | some text => some (.workingDirectory, text)
  | none => home.map fun text => (.home, text)

/-- The mapping in a file. A void file is an empty mapping. -/
def readFile (text : Text) : Except Fault (Keyed Document) :=
  match Yaml.read text with
  | some (.object fields) => .ok fields
  | some other => if other.isVoid then .ok [] else .error .malformedFile
  | none => .error .malformedFile

/-! ## Names of sections -/

/-- A section of a mapping. If it is not there under its name, the first key that
    differs by case only stands for it. -/
def sectionIn (name : Text) (fields : Keyed Document) : Option Document :=
  match fields.get? name with
  | some value => some value
  | none => (fields.find? fun (key, _) => Text.lowercase key == name).map (·.2)

/-- A mapping with its sections under their names and first, and with no other
    spelling of these names. -/
def withSections (fields : Keyed Document) : Keyed Document :=
  sections.flatMap (fun name => Environment.given name (sectionIn name fields)) ++
    fields.filter fun (key, _) => Text.lowercase key ∉ sections

/-! ## Loading -/

/-- What settings are put together from. -/
structure Sources where
  /-- What the caller gives. -/
  given       : Keyed Document := []
  environment : Environment := []
  /-- The text of the settings file, if there is one. -/
  file        : Option Text := none

/-- The mapping that the sources make together. The file is read before the
    environment. -/
def Sources.fields (sources : Sources) : Except Fault (Keyed Document) := do
  let file ← match sources.file with
    | some text => readFile text
    | none => .ok []
  let environment ← sources.environment.settings
  return Document.overlay (withSections file)
    (Document.overlay environment (withSections sources.given))

/-- The settings that the sources make together. -/
def load (sources : Sources) : Except Fault Settings := do
  let fields ← sources.fields
  (ofFields fields).mapError .invalid

end Gleaner.Settings
