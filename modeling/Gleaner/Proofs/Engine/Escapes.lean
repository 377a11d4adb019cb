import Gleaner.Proofs.Cache.Attempts
import Gleaner.Proofs.Engine.Transparency

/-! # What escapes a parse

    Only two refusals reach a caller of an engine with the built-in formats: of something
    that is no selector, and of a URL from which no format can be read. Beside them stand
    the faults of selector functions, which are passed on as they are, be they of a kind
    that is recovered elsewhere. `Escape` lists the three. Content that is not valid, a path
    that fails and an unknown format are outcomes.
-/

namespace Gleaner

/-! ## Selectors and formats -/

namespace Engine

variable {label url name : Text} {content format : Document} {selector : SelectorArgument}
  {chosen : Selector} {cache : Cache} {entry : Entry} {fault : Fault}

/-! ## The document of a parse -/

/-- The format has a built-in parser. -/
def Registered (label name : Text) : Prop := (Registry.builtIn label).contains (.string name) = true

end Engine

end Gleaner
