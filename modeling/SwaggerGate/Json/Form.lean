import SwaggerGate.Fault
import SwaggerGate.Text.Utf8
import SwaggerGate.Value.Display

/-! Values as JSON data. Times stand as texts, bytes as the text that they encode, sets and
pairs as lists; keys stand as texts, and of two that give one text the later counts. Bytes
that encode no text and values that are part of themselves have no JSON form. -/
namespace SwaggerGate.Json

/-- The text of a point in time, in which the zone of Greenwich is a letter. -/
def momentText (t : Moment) : String :=
  if t.offset = some 0 then { t with offset := none }.isoText ++ "Z" else t.isoText

def bytesForm (bytes : List UInt8) : Except Fault String :=
  match Text.Utf8.decode? bytes with
  | some cs => .ok (String.ofList cs)
  | none => .error .notUtf8

def atomForm : Atom → Except Fault Atom
  | .float (.infinite _) | .float (.nan _) => .ok .null
  | .date d => .ok (.text d.isoText)
  | .moment t => .ok (.text (momentText t))
  | .bytes b => do return .text (← bytesForm b)
  | a => .ok a

/-- The text of a key. Truth values are written as in JSON, nothing at all is not. -/
def keyForm : Atom → Except Fault String
  | .text s => .ok s
  | .bool b => .ok (if b then "true" else "false")
  | .float (.infinite _) | .float (.nan _) => .ok (Atom.display .null)
  | .date d => .ok d.isoText
  | .moment t => .ok (momentText t)
  | .bytes b => bytesForm b
  | a => .ok a.display

mutual
def form : Value → Except Fault Value
  | .atom a => do return .atom (← atomForm a)
  | .list items => do return .list (← itemForms items)
  | .pair a b => do return .list [← form a, ← form b]
  | .set members => do return .list ((← members.mapM atomForm).map .atom)
  | .obj fields => do return .obj (Entries.ofList (← fieldForms fields))
  | .loop .. => .error .circular
def itemForms : List Value → Except Fault (List Value)
  | [] => .ok []
  | v :: rest => do return (← form v) :: (← itemForms rest)
def fieldForms : List (Atom × Value) → Except Fault (List (Atom × Value))
  | [] => .ok []
  | (key, v) :: rest => do
    let name ← keyForm key
    return (.text name, ← form v) :: (← fieldForms rest)
end

end SwaggerGate.Json
