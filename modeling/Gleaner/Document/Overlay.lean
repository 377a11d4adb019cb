import Gleaner.Document.Basic

/-! # Overlaying objects

    An object is laid over another one: a key of both keeps its place. Where both
    values are objects they are overlaid in turn; any other value covers the one
    below it.
-/

namespace Gleaner

namespace Document

mutual

/-- A value laid over another one. -/
def cover (lower : Document) : (upper : Document) → Document
  | object upper =>
    match lower with
    | object lower => object (overlay lower upper)
    | _ => object upper
  | upper => upper

/-- Members laid over those of a lower object. -/
def overlay (lower : Keyed Document) : (upper : List (Text × Document)) → Keyed Document
  | [] => lower
  | (key, value) :: rest =>
    let shown := match Keyed.get? key lower with
      | some covered => cover covered value
      | none => value
    overlay (Keyed.put key shown lower) rest

end

end Document

end Gleaner
