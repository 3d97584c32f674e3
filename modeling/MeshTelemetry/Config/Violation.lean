import MeshTelemetry.Regex.FullMatch

/-!
# MeshTelemetry.Config.Violation

What can be wrong with a configuration that is well formed. A violation names the place in the
configuration and says what is wrong there.
-/

namespace MeshTelemetry

/-- An `index` counts from zero. -/
inductive Violation
  | emptyService (index : Nat)
  | repeatedService (service : String)
  | emptyRule (service : String) (index : Nat)
  | invalidPattern (service rule pattern : String) (cause : RegexError)
  | uncompiledPattern (service rule : String) (cause : RegexError)
  | emptyReceiver (index : Nat)
  | repeatedReceiver (name : String)
  | missingPath (receiver : String)
  deriving DecidableEq, Repr

namespace Violation

/-- The place of a rule of a service. -/
def rulePlace (service rule part : String) : String :=
  "endpoint_naming.services[" ++ service ++ "].rules[" ++ rule ++ "]." ++ part

def field : Violation → String
  | .emptyService index => "endpoint_naming.services[" ++ toString index ++ "].service"
  | .repeatedService service => "endpoint_naming.services[service=" ++ service ++ "]"
  | .emptyRule service index => rulePlace service (toString index) "name"
  | .invalidPattern service rule _ _ => rulePlace service rule "pattern"
  | .uncompiledPattern service rule _ => rulePlace service rule "pattern"
  | .emptyReceiver index => "receivers[" ++ toString index ++ "].name"
  | .repeatedReceiver name => "receivers[name=" ++ name ++ "]"
  | .missingPath receiver => "receivers[" ++ receiver ++ "].params.path"

def reason : Violation → String
  | .emptyService _ => "service name cannot be empty"
  | .repeatedService _ => "duplicate service"
  | .emptyRule _ _ => "rule name cannot be empty"
  | .invalidPattern _ _ pattern cause => "invalid pattern '" ++ pattern ++ "': " ++ cause.message
  | .uncompiledPattern _ _ cause => cause.message
  | .emptyReceiver _ => "receiver name cannot be empty"
  | .repeatedReceiver _ => "duplicate receiver name"
  | .missingPath _ => "file receiver requires a 'path' param"

end Violation

end MeshTelemetry
