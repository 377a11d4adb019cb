import Gleaner.Fault
import Gleaner.Url.Basic
import Gleaner.Document.Literal

/-! # Formats

    The format of a document is named by the caller or read off the URL: it is what
    follows the last point of the path, and the whole path if there is no point.
    A URL must have a scheme, and some schemes need a host.
-/

namespace Gleaner.Format

/-- Why no format can be read off a URL. -/
inductive UrlError
  | flaw (flaw : Url.Flaw)
  | missingScheme
  | missingHost
  /-- A value of a kind that is no text. -/
  | notText (kind : Document.Kind)
  /-- A list or an object. -/
  | notKey (kind : Document.Kind)
  deriving DecidableEq, Repr

def UrlError.message : UrlError → Text
  | flaw f => f.message
  | missingScheme => "missing scheme"
  | missingHost => "missing host"
  | notText kind =>
    Text.ofString "'" ++ Text.ofString kind.name ++ Text.ofString "' object has no attribute 'decode'"
  | notKey kind => Text.ofString "unhashable type: '" ++ Text.ofString kind.name ++ Text.ofString "'"

/-- The schemes whose URLs must name a host. -/
def hostSchemes : List Text := ["http", "https", "ftp", "ws", "wss"]

/-- What follows the last point of a path. -/
def ofPath (path : Text) : Text := Text.afterLast (.scalar '.') path

/-- The format that a URL shows. -/
def ofUrl (url : Text) : Except UrlError Text :=
  match Url.split url with
  | .error flaw => .error (.flaw flaw)
  | .ok parts =>
    if parts.scheme = [] then .error .missingScheme
    else if parts.scheme ∈ hostSchemes ∧ parts.netloc = [] then .error .missingHost
    else .ok (ofPath parts.path)

/-- The format of a value that stands for a URL. A void value that is no text is a
    URL without a scheme. -/
def ofUrlValue (url : Document) : Except UrlError Text :=
  match url with
  | .string text => ofUrl text
  | .array _ => .error (.notKey url.kind)
  | .object _ => .error (.notKey url.kind)
  | other => if other.isVoid then .error .missingScheme else .error (.notText other.kind)

/-- The URL as it stands in the message of an error. A value that could not even be
    read as a URL is made a text first. -/
def shownUrl (url : Document) : UrlError → Text
  | .notText _ => url.plain.quoted
  | .notKey _ => url.plain.quoted
  | _ => url.literal

/-- The refusal of a URL. -/
def refusal (url : Document) (error : UrlError) : Refusal where
  code := .invalidUrl
  message := Text.ofString "Invalid URL " ++ shownUrl url error ++ Text.ofString ": " ++ error.message

/-- The format of a document: the one given, unless it is void, or the one that the
    URL shows. -/
def resolve (url explicit : Document) : Except Fault Document :=
  if explicit.isVoid then
    match ofUrlValue url with
    | .ok format => .ok (.string format)
    | .error error => .error (.refused (refusal url error))
  else .ok explicit

end Gleaner.Format
