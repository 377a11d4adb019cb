import Gleaner.Cache.Attempt
import Gleaner.Json.Reader
import Gleaner.Document.Index

/-! # Deserializers

    The built-in format is JSON. Beside it stand three small formats for content that
    is less than JSON or more: columns between commas, lines of keys and values, and
    a JSON object that includes the document of another URL.
-/

namespace Gleaner.Deserializer

/-- Content that cannot be read, as a fault. -/
def unreadable (error : Json.ReadError) : Fault := .unreadable error.message

/-- JSON text. -/
def json : Deserializer := fun content =>
  .ended ((Json.readContent content).mapError unreadable)

/-- The texts between commas, of which there must be one. -/
def columns : Deserializer := fun content =>
  .ended (match content with
    | .string text =>
      if .scalar ',' ∈ text then
        .ok (.array ((Text.splitAt (.scalar ',') text).map .string))
      else .error (.unreadable "no columns")
    | .array items =>
      if items.any fun item => item.text? == some [.scalar ','] then .error .missingOperation
      else .error (.unreadable "no columns")
    | .object members =>
      if (Keyed.keys members).contains [.scalar ','] then .error .missingOperation
      else .error (.unreadable "no columns")
    | _ => .error .wrongKind)

/-- Lines of a key, an equals sign and a value, written one over the other. -/
def pairs : Deserializer := fun content =>
  .ended (match content with
    | .string text =>
      match (Text.splitAt (.scalar '\n') text).mapM (Text.cutAt? (.scalar '=')) with
      | some pairs =>
        .ok (.object (Keyed.ofPairs (pairs.map fun (key, value) => (key, .string value))))
      | none => .error (.unreadable "expected key=value")
    | _ => .error .missingOperation)

/-- The document under one key of a value that should be an object. -/
def field (key : String) (value : Document) : Except Fault Document :=
  match value.index (.string key) with
  | .ok found => .ok found
  | .error .missingKey => .error .missingKey
  | .error _ => .error .wrongKind

/-- The URL and the content that an including object names. -/
def inclusion (content : Document) : Except Fault (Document × Document) := do
  let payload ← (Json.readContent content).mapError unreadable
  let url ← field "url" payload
  let content ← field "content" payload
  return (url, content)

/-- A JSON object with a URL and a content, which is read through the same cache. -/
def including : Deserializer := fun content =>
  match inclusion content with
  | .error fault => .ended (.error fault)
  | .ok (url, content) =>
    .nested url (json content) fun reply =>
      .ended (reply.map fun entry =>
        .object [("included", (entry.map Entry.document).getD .null)])

end Gleaner.Deserializer
