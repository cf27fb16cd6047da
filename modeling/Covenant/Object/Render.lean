import Covenant.Format.Template
import Covenant.Object.Attribute

/-!
Rendering a message template with values.

The fields are rendered from left to right, each by walking to its value, converting it and laying
it out; a mistake further on in the template comes to light only then.
-/

namespace Covenant.Act

open Covenant.Format

/-- Raises a mistake in a template. -/
def failTemplate {α : Type} (e : TemplateError) : Act α :=
  fail .valueError e.message

/-- Where the values of the fields come from: arguments, or a mapping that is asked for names. -/
inductive FieldSource where
  | arguments (args : List Value) (named : Fields)
  | mapping (v : Value)

/-- The value that a field starts from, and the numbering after it. -/
def fieldStart (call : Caller) (supply : FieldSource) (numbering : Numbering) (source : Source) :
    Act (Value × Numbering) := do
  let at_ (index : Option Nat) : Act (Value × Numbering) := do
    match numbering.step index, supply with
    | .error e, _ => failTemplate e
    | .ok _, .mapping _ => fail .valueError "Format string contains positional fields"
    | .ok (i, numbering), .arguments args _ =>
      match args[i]? with
      | some v => return (v, numbering)
      | none =>
        fail .indexError
          ("Replacement index " ++ toString i ++ " out of range for positional args tuple")
  match source, supply with
  | .next, _ => at_ none
  | .position i, _ => at_ (some i)
  | .name name, .mapping v => do return (← item call v (.text name), numbering)
  | .name name, .arguments _ named =>
    match named.get? name with
    | some v => return (v, numbering)
    | none => failWith .keyError [.text name]

/-- Walks one step into a value. -/
def walkStep (call : Caller) (v : Value) : Step → Act Value
  | .attribute name => getAttribute call v name
  | .item key => item call v (.text key)
  | .position i => item call v (.int i)

/-- Walks into a value step by step, up to a mistake in the path. -/
def walk (call : Caller) (mistake : Option TemplateError) : Value → List Step → Act Value
  | v, [] =>
    match mistake with
    | none => return v
    | some e => failTemplate e
  | v, step :: rest => do
    let part ← walkStep call v step
    walk call mistake part rest

/-- A value after the conversion that a field asks for. -/
def convert (call : Caller) (v : Value) : Option Char → Act Value
  | none => return v
  | some c => do
    if c == 'r' then return .text (← quotedText call v)
    else if c == 's' then return .text (← plainText call v)
    else if c == 'a' then return .text (Text.escapeNonAscii (← quotedText call v))
    else failTemplate (.unknownConversion c)

/-- Renders a field; `nested` renders a specification that holds fields. -/
def renderField (call : Caller) (supply : FieldSource)
    (nested : Template → Numbering → Act (String × Numbering)) (field : Field)
    (numbering : Numbering) : Act (String × Numbering) := do
  match readSource field.path with
  | .error e => failTemplate e
  | .ok (source, rest) =>
    let (start, numbering) ← fieldStart call supply numbering source
    let (steps, mistake) := readSteps (rest.length + 1) rest
    let v ← walk call mistake start steps
    let v ← convert call v field.conversion
    if field.nested then
      let (spec, numbering) ← nested (.ofChars field.spec) numbering
      return (← laidOut call v spec, numbering)
    else return (← laidOut call v (String.ofList field.spec), numbering)

/-- Renders pieces from left to right. -/
def renderPieces (call : Caller) (supply : FieldSource)
    (nested : Template → Numbering → Act (String × Numbering)) :
    List Piece → String → Numbering → Act (String × Numbering)
  | [], done, numbering => return (done, numbering)
  | piece :: rest, done, numbering => do
    let done := done ++ String.ofList piece.plain
    match piece.field with
    | none => renderPieces call supply nested rest done numbering
    | some field =>
      let (text, numbering) ← renderField call supply nested field numbering
      renderPieces call supply nested rest (done ++ text) numbering

/-- Renders a template whose specifications may hold fields `depth - 1` levels deep. -/
def renderWithin (call : Caller) (supply : FieldSource) :
    (depth : Nat) → Template → Numbering → Act (String × Numbering)
  | 0, _, _ => failTemplate .tooDeep
  | depth + 1, template, numbering => do
    let nested := renderWithin call supply depth
    let (text, numbering) ← renderPieces call supply nested template.pieces "" numbering
    match template.mistake with
    | none => return (text, numbering)
    | some e => failTemplate e

/-- Renders a template from a supply. A specification may hold fields, whose own specifications may
not. -/
def renderFrom (call : Caller) (template : String) (supply : FieldSource) : Act String := do
  return (← renderWithin call supply 2 (.read template) .open).1

/-- Renders a template with arguments. -/
def render (call : Caller) (template : String) (args : List Value) (named : Fields) :
    Act String :=
  renderFrom call template (.arguments args named)

/-- Renders a template with the values that a mapping has under names. -/
def renderMapped (call : Caller) (template : String) (mapping : Value) : Act String :=
  renderFrom call template (.mapping mapping)

end Covenant.Act
