import Retag.Engine.Basic

/-!
# Probes and mustache engines

A probe answers a rendering with what it knows: the text it was given, the
context, the number of renderings so far, or the names of what was passed. It
refuses texts and renderings on request, so that failures can be provoked. The
mustache engine renders mustache templates.
-/

namespace Retag

open Mustache

/-- What a probe answers. -/
inductive ProbeAnswer where
  | source
  | context
  /-- The number of renderings, and the text. -/
  | count
  /-- The names of what was passed, and the text. -/
  | arguments
  deriving DecidableEq, Repr

/-- What a probe or a mustache engine compiles to. -/
inductive Program where
  /-- A probe that was given some source, with the number of its renderings. -/
  | probe (answer : ProbeAnswer) (source : Value) (count : Nat)
  | mustache (nodes : List Node)

/-- Whether a text stands somewhere in another one. -/
def standsIn (part : Text) : Text → Bool
  | [] => part.isEmpty
  | c :: rest => part.isPrefixOf (c :: rest) || standsIn part rest

/-- Whether a source is a text with some part. -/
def hasPart (part : String) : Value → Bool
  | .text s => standsIn part.toList s.toList
  | _ => false

/-- The part of a source that a probe refuses to compile. -/
def compileRefusal : String := "!compile-error!"

/-- The part of a source that a probe refuses to render. -/
def renderRefusal : String := "!render-error!"

/-- The names of what was passed to a rendering besides the context, in order. -/
def Call.passed (c : Call) : List String :=
  (if c.helpers.isSome then ["helpers"] else [])
    ++ (if c.partials.isSome then ["partials"] else [])

/-- What a probe answers to its rendering with a number. -/
def ProbeAnswer.value (answer : ProbeAnswer) (source : Value) (count : Nat)
    (call : Call) : Value :=
  match answer with
  | .source => source
  | .context => call.context.value
  | .count => .text (toString count ++ ":" ++ source.plain)
  | .arguments => .text ("0 " ++ ",".intercalate call.passed ++ " " ++ source.plain)

/-- A rendering of a probe. -/
def renderProbe (answer : ProbeAnswer) (source : Value) (count : Nat) (call : Call) :
    Rendered Program :=
  let after := Program.probe answer source (count + 1)
  if hasPart renderRefusal source then
    ⟨.error (.engine (.probe "cannot render")), [], after⟩
  else ⟨.ok (answer.value source (count + 1) call), [], after⟩

/-- A rendering of a mustache template. -/
def renderMustache (nodes : List Node) (call : Call) : Rendered Program :=
  let library : Library := ⟨call.helpers.getD [], call.partials.getD []⟩
  let (answer, inserted) := (renderAll library nodes call.context).run.run []
  ⟨answer.map fun text => .text (String.ofList text), inserted, .mustache nodes⟩

/-- A rendering of a program. -/
def Program.render : Program → Call → Rendered Program
  | .probe answer source count, call => renderProbe answer source count call
  | .mustache nodes, call => renderMustache nodes call

namespace Engine

/-- A probe. -/
def probe (answer : ProbeAnswer) (cost : Rat) : Engine Program where
  compile source _ :=
    if hasPart compileRefusal source then .error (.probe "cannot compile")
    else .ok (.probe answer source 0)
  render := Program.render
  cost := cost
  isObserved := true

/-- The mustache engine. -/
def mustache : Engine Program where
  compile source _ :=
    match source with
    | .text s =>
      match Node.read? s.toList with
      | some nodes => .ok (.mustache nodes)
      | none => .error .mustache
    | _ => .error .mustache
  render := Program.render
  cost := 0
  isObserved := false

end Engine

end Retag
