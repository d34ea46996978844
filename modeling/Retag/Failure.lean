import Retag.Config.Fault
import Retag.Segment
import Retag.Guard
import Retag.Yaml.Token
import Retag.Text.Quoted

/-!
# Failures

Every way in which an operation of the library can fail. Each constructor is a
cause; `message` words it. Faults of the smaller parts of the library are taken
over by the functions at the end.
-/

namespace Retag

open Text

/-- Why an engine refuses a text or a call. -/
inductive EngineFault where
  | probe (text : String)
  /-- The mustache engine refuses; it has no words of its own. -/
  | mustache
  deriving DecidableEq, Repr

/-- The name of a fault's kind in events. -/
def EngineFault.name : EngineFault → String
  | .probe _ => "EngineError"
  | .mustache => "PybarsError"

/-- The wording of a fault. -/
def EngineFault.message : EngineFault → String
  | .probe text => text
  | .mustache => ""

/-- Why an operation fails. -/
inductive Failure where
  | config (fault : ConfigFault)
  | expression (error : Regex.CompileError)
  /-- A matched expression has no group for the content of tags. -/
  | noGroup
  /-- A tag without content cannot be written. -/
  | absentInner
  /-- A guard's key is not one character. -/
  | guardKey
  /-- What was taken for a sentinel is none. -/
  | unknownSentinel (found : Text)
  /-- A value of a kind that has no length. -/
  | noLength (kind : String)
  /-- A value of a kind that has no items. -/
  | noItems (kind : String)
  /-- A value of a kind that has no entries. -/
  | noEntries (kind : String)
  /-- A value that cannot be a key. -/
  | unhashable (kind : String)
  | notText (kind : String)
  | bytesText
  /-- A name that is no log level's. -/
  | unknownLevel (name : String)
  /-- A file that is not encoded text. -/
  | undecodable
  /-- A scalar of a YAML text that denotes nothing, or nothing that can be printed. -/
  | yaml (fault : Yaml.Fault)
  | engine (fault : EngineFault)
  deriving DecidableEq, Repr

namespace Yaml

/-- The wording of a fault of a YAML text. -/
def Fault.message : Fault → String
  | .malformed => ""
  | .noCodePoint => "chr() arg not in range(0x110000)"
  | .hugeCodePoint => Regex.beyondMachine
  | .calendar fault => fault.message
  | .notInteger base text =>
    "invalid literal for int() with base " ++ toString base ++ ": " ++ quoted text
  | .integerTooLong digits => Regex.tooManyDigits digits
  | .unprintable =>
    "Exceeds the limit (4300 digits) for integer string conversion; "
      ++ "use sys.set_int_max_str_digits() to increase the limit"
  | .tooDeep => Regex.beyondStack
  | .notFloat text => "could not convert string to float: " ++ quoted text
  | .emptyNumber => "string index out of range"
  | .notBool text => quoted text
  | .notTimestamp => "'NoneType' object has no attribute 'groupdict'"

end Yaml

namespace Failure

/-- The wording of a failure. -/
def message : Failure → String
  | .config fault => fault.message
  | .expression error => error.message
  | .noGroup => "no such group"
  | .absentInner => "can only concatenate str (not \"NoneType\") to str"
  | .guardKey => "string keys in translate table must be of length 1"
  | .unknownSentinel found => String.ofList (quotedChars found)
  | .noLength kind => "object of type '" ++ kind ++ "' has no len()"
  | .noItems kind => "'" ++ kind ++ "' object is not iterable"
  | .noEntries kind => "'" ++ kind ++ "' object has no attribute 'get'"
  | .unhashable kind => "unhashable type: '" ++ kind ++ "'"
  | .notText kind => "expected string or bytes-like object, got '" ++ kind ++ "'"
  | .bytesText => "cannot use a string pattern on a bytes-like object"
  | .unknownLevel name => "module 'logging' has no attribute '" ++ name ++ "'"
  | .undecodable => ""
  | .yaml fault => fault.message
  | .engine fault => fault.message

/-- A fault of markers as a failure. -/
def ofMarkers (fault : MarkerFault) : Failure := .config (.markers fault)

/-- A fault of scanning as a failure. -/
def ofScan : ScanFault → Failure
  | .noGroup => .noGroup

/-- A fault of writing as a failure. -/
def ofWrite : WriteFault → Failure
  | .absentInner => .absentInner

/-- A fault of a guard as a failure. -/
def ofGuard : GuardFault → Failure
  | .keyNotCharacter => .guardKey
  | .unknownSentinel found => .unknownSentinel found

end Failure

/-- An answer of a part of the library, its faults taken over. -/
def orFail {ε α : Type} (wrap : ε → Failure) : Except ε α → Except Failure α
  | .ok x => .ok x
  | .error fault => .error (wrap fault)

end Retag
