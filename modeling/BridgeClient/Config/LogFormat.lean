import BridgeClient.Text.Ascii
import BridgeClient.Text.Blank

set_option autoImplicit false

/-! The form of log lines, chosen by a variable of the environment. -/
namespace BridgeClient

inductive LogFormat where
  | text
  | json
deriving DecidableEq

namespace LogFormat

/-- The variable that chooses the form. -/
def variableName : String := "SOLANOID_LOG_FORMAT"

/-- JSON if its name is given, whatever the case and the blanks around it; text otherwise. -/
def parse (value : String) : LogFormat :=
  if Ascii.equalIgnoringCase (Blank.trim value) "json" then json else text

/-- The form an environment chooses: text if the variable is not set. -/
def ofEnvironment (value? : Option String) : LogFormat :=
  match value? with
  | some value => parse value
  | none => text

end LogFormat
end BridgeClient
