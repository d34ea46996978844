import Retag.Failure
import Retag.Value.Printed
import Retag.Yaml.Document
import Retag.Text.Encoding

/-!
# What configurations are read with

A configuration is read with a YAML library, on the stack of whoever asks for
it.  Neither is part of this library, so both are parameters: a `Runtime` says
what the YAML library makes of a text, and which work is too deep for the stack.
How deep that is depends on the calls around.

`Runtime.standard` has the YAML reader of this library and a stack that never ends.
-/

namespace Retag

open Text

/-- What a configuration is read with. -/
structure Runtime where
  /-- The value that a YAML text denotes. -/
  yaml : Text → Except Yaml.Fault Value
  /-- What is wrong with a file in front of bytes that encode no text, if that
  is found first: a file is decoded while it is read. -/
  faultBefore? : List UInt8 → Option Yaml.Fault
  /-- Whether the stack is deep enough to compile an expression with flags. -/
  compiles : String → Regex.Flags → Bool
  /-- Whether the stack is deep enough to print a value. -/
  prints : Value → Bool

namespace Runtime

/-- The YAML reader of this library, and a stack that never ends. -/
def standard : Runtime where
  yaml := Yaml.read
  faultBefore? := fun _ => none
  compiles := fun _ _ => true
  prints := fun _ => true

variable (rt : Runtime)

/-- The value in a file. -/
def document (bytes : List UInt8) : Except Failure Value :=
  match Text.decode bytes with
  | some text => orFail .yaml (rt.yaml (unifyLineEnds text))
  | none =>
    match rt.faultBefore? bytes with
    | some fault => .error (.yaml fault)
    | none => .error .undecodable

/-- The text of a value in a message or as a name. -/
def printed (value : Value) : Except Failure String :=
  if !rt.prints value then .error (.yaml .tooDeep)
  else if value.isPrintable then .ok value.plain
  else .error (.yaml .unprintable)

/-- The expression of a text with flags. -/
def expression (source : String) (flags : Regex.Flags) :
    Except Regex.CompileError Regex :=
  if rt.compiles source flags then Regex.compile source.toList flags.toInt
  else .error .tooDeep

end Runtime

end Retag
