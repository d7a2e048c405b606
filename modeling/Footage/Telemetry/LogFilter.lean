import Footage.Config.Types
import Footage.Telemetry.Directive

/-!
# Log filters

A filter is a list of directives with commas between them. Those that can be decided without
knowing the span come first, then those that depend on it; a directive that asks only for a field
is among both. Within each part more specific directives come first, and of two that are equally
specific the later counts.
-/

namespace Footage.Telemetry

open Footage.Place

set_option autoImplicit false

/-- Directives, the most specific first. -/
structure LogFilter where
  statics : List Directive
  dynamics : List Directive := []
deriving DecidableEq

namespace LogFilter

def ordered (directives : List Directive) : List Directive :=
  directives.foldl (fun held added => Directive.insert added held) []

def ofDirectives (directives : List Directive) : LogFilter :=
  let (dynamics, plain) := directives.partition Directive.isDynamic
  ⟨ordered (plain ++ dynamics.filter Directive.isStatic), ordered dynamics⟩

/-- The filter in a text; empty directives are passed over. -/
def parse? (text : String) : Option LogFilter :=
  let words := (Text.pieces ',' text.toList).filter fun word => !word.isEmpty
  (words.mapM fun word => Directive.parse? (String.ofList word)).map ofDirectives

def text (filter : LogFilter) : String :=
  ",".intercalate ((filter.statics ++ filter.dynamics).map Directive.text)

/-- Details of the recorder itself, and what is worth knowing of everything else. -/
def fallback : LogFilter :=
  { statics := [{ target? := some "cliprec", level := .debug }, { level := .info }] }

def filterVariable : String := "RUST_LOG"

/-- The filter in force: the environment's, else the configured one, else the fallback; one that
is not valid is passed over. -/
def choose (env : Environment) (config : Config.Telemetry) : LogFilter :=
  (((env.lookup filterVariable).bind parse?).or (parse? config.logLevel)).getD fallback

end LogFilter

end Footage.Telemetry
