import Retag.Marker.Basic
import Retag.Regex.Fault

/-!
# Faults of configurations

Everything that is reported as a fault of the configuration itself, with its
wording. Faults of single markers come from `MarkerFault`; the others name the
entry or the file.
-/

namespace Retag

open Text

/-- What can be wrong with a configuration. -/
inductive ConfigFault where
  | markers (fault : MarkerFault)
  /-- A mapping for a marker has no expression. -/
  | noExpression (entry : String)
  | unknownFlag (entry name : String)
  | invalidExpression (entry source : String) (error : Regex.SyntaxError)
  | notMarker (entry kind : String)
  | missing (entry : String)
  /-- A section of markers that is neither a mapping nor a list. -/
  | wrongSection
  | unparsable (path : String)
  /-- A file that may not be read. -/
  | unreadable (path : String)
  | noVersion (path : String)
  | notMapping (path : String)
  | unsupportedVersion (version : String)
  deriving DecidableEq, Repr

/-- The wording of a fault. -/
def ConfigFault.message : ConfigFault → String
  | .markers fault => fault.message
  | .noExpression entry =>
    "delimiters." ++ entry ++ ": 'pattern' must be a non-empty string"
  | .unknownFlag entry name =>
    "delimiters." ++ entry ++ ": unknown regex flag '" ++ name ++ "'"
  | .invalidExpression entry source error =>
    "delimiters." ++ entry ++ ": invalid pattern " ++ quoted source ++ ": "
      ++ error.message
  | .notMarker entry kind =>
    "delimiters." ++ entry ++ ": expected a string or a pattern mapping, got " ++ kind
  | .missing entry => "delimiters." ++ entry ++ " is required"
  | .wrongSection =>
    "'delimiters' must be a mapping of open/close markers or a list of 2 or 4 markers"
  | .unparsable path => "CONFIG ERROR: Failed to parse " ++ path ++ ": "
  | .unreadable path =>
    "CONFIG ERROR: Could not read " ++ path ++ ": [Errno 13] Permission denied: "
      ++ quoted path
  | .noVersion path =>
    "CONFIG ERROR: " ++ path ++ " is missing the required 'version' field.\n"
      ++ "Add 'version: 1' to the top of your config file."
  | .notMapping path =>
    "CONFIG ERROR: " ++ path ++ " is not a valid YAML mapping.\n"
      ++ "The config file must be a YAML dictionary at the top level."
  | .unsupportedVersion version =>
    "CONFIG ERROR: Unsupported config version: " ++ version
      ++ ". Supported versions: [1]."

end Retag
