import Gleaner.Event
import Gleaner.Fault
import Gleaner.Validation.Model
import Gleaner.Validation.Integer

/-! # Settings

    The settings have two sections: one for the cache of the engine that is built
    from them, and one for logging. Each section is a model with fields of its own,
    every one of which may be left out.
-/

namespace Gleaner

open Validation

/-! ## The cache -/

structure CacheSettings where
  /-- Without a bound, documents are kept until they are invalidated. -/
  maxEntries : Option { n : Nat // 0 < n } := none

namespace CacheSettings

/-- The name of the model in messages. -/
def model : String := "CacheSettings"

/-- The names of the fields. -/
def names : List Text := ["max_entries"]

/-- The settings that an object gives. -/
def ofFields : Keyed Document → Checked CacheSettings :=
  closed names fun fields =>
    let bound := field "max_entries" (orNull (.ofProblem ∘ positive)) (.ok none) fields
    bound.map fun maxEntries => { maxEntries }

/-- The settings as named fields. -/
def toFields (settings : CacheSettings) : Keyed Document :=
  [("max_entries", (settings.maxEntries.map fun n => .int n.val).getD .null)]

end CacheSettings

/-! ## Logging -/

/-- The two ways to write a log. -/
inductive LogFormat
  | json | text
  deriving DecidableEq, Repr

def LogFormat.name : LogFormat → String
  | json => "json"
  | text => "text"

/-- The name of a level in the settings. -/
def Level.settingName : Level → String
  | debug => "DEBUG"
  | info => "INFO"
  | warning => "WARNING"
  | error => "ERROR"
  | critical => "CRITICAL"

structure LoggingSettings where
  /-- Events below this level are not written. -/
  level  : Level := .info
  format : LogFormat := .json
  deriving DecidableEq, Repr

namespace LoggingSettings

/-- The name of the model in messages. -/
def model : String := "LoggingSettings"

/-- The names of the fields. -/
def names : List Text := ["level", "format"]

/-- The levels that can be set. -/
def levels : List Level := [.debug, .info, .warning, .error]

def formats : List LogFormat := [.json, .text]

/-- The settings that an object gives. -/
def ofFields : Keyed Document → Checked LoggingSettings :=
  closed names fun fields =>
    let level := field "level"
      (.ofProblem ∘ choice levels Level.settingName .notAmong) (.ok .info) fields
    let format := field "format"
      (.ofProblem ∘ choice formats LogFormat.name .notAmong) (.ok .json) fields
    (level.both format).map fun (level, format) => { level, format }

/-- The settings as named fields. -/
def toFields (settings : LoggingSettings) : Keyed Document :=
  [("level", .string settings.level.settingName), ("format", .string settings.format.name)]

end LoggingSettings

/-! ## Both sections -/

structure Settings where
  cache   : CacheSettings := {}
  logging : LoggingSettings := {}

namespace Settings

/-- The names of the sections. -/
def sections : List Text := ["cache", "logging"]

/-- The settings that an object of sections gives. -/
def ofFields : Keyed Document → Checked Settings :=
  closed sections fun fields =>
    let cache := field "cache"
      (membersOf CacheSettings.model · >>= CacheSettings.ofFields) (.ok {}) fields
    let logging := field "logging"
      (membersOf LoggingSettings.model · >>= LoggingSettings.ofFields) (.ok {}) fields
    (cache.both logging).map fun (cache, logging) => { cache, logging }

/-- The settings as named sections. -/
def toFields (settings : Settings) : Keyed Document :=
  [("cache", .object settings.cache.toFields), ("logging", .object settings.logging.toFields)]

end Settings

end Gleaner
