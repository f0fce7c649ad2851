import SwaggerGate.Value.Display

/-! JSON text. Entries keep their order, characters outside ASCII are written as UTF-16
escapes, floats in their shortest form. A pair is a list of two; a loop has no JSON form and
is null. -/
namespace SwaggerGate.Json

def escapeUnit (unit : Nat) : List Char := '\\' :: 'u' :: Text.hexText 4 unit

/-- One character inside a JSON string. -/
def escapedChar (c : Char) : List Char :=
  if c = '"' ∨ c = '\\' then ['\\', c]
  else if c = '\n' then ['\\', 'n']
  else if c = '\r' then ['\\', 'r']
  else if c = '\t' then ['\\', 't']
  else if c.toNat = 8 then ['\\', 'b']
  else if c.toNat = 12 then ['\\', 'f']
  else if 32 ≤ c.toNat ∧ c.toNat < 127 then [c]
  else if Text.codePoint c < 0x10000 then escapeUnit (Text.codePoint c)
  else
    let rest := c.toNat - 0x10000
    escapeUnit (0xd800 + rest / 0x400) ++ escapeUnit (0xdc00 + rest % 0x400)

def stringText (s : String) : String :=
  String.ofList ('"' :: s.toList.flatMap escapedChar ++ ['"'])

/-- How deep lists and objects may nest in a text that is written. -/
def writingLimit : Nat := 980

/-- The words that JSON texts use for the numbers without digits. -/
def words : Double.Words := ⟨"Infinity", "NaN"⟩

def atomText : Atom → String
  | .null => "null"
  | .bool b => if b then "true" else "false"
  | .int n => intText n
  | .float x => x.text words
  | .text s => stringText s
  | .date d => stringText d.isoText
  | .moment t => stringText t.isoText
  | .bytes b => stringText (String.ofList (b.flatMap fun x => Text.hexText 2 x.toNat))

/-- Key of an object: an atom that is no text is quoted in its JSON form. -/
def keyText : Atom → String
  | .text s => stringText s
  | .null => stringText "null"
  | .bool b => stringText (if b then "true" else "false")
  | .int n => stringText (intText n)
  | .float x => stringText (x.text words)
  | a => atomText a

mutual
/-- One-line text, with a blank after each comma and colon. -/
def lineText : Value → String
  | .atom a => atomText a
  | .list items => "[" ++ String.intercalate ", " (lineItems items) ++ "]"
  | .obj fields => "\x7b" ++ String.intercalate ", " (lineFields fields) ++ "\x7d"
  | .set members => "[" ++ String.intercalate ", " (members.map atomText) ++ "]"
  | .pair a b => "[" ++ lineText a ++ ", " ++ lineText b ++ "]"
  | .loop .. => "null"
def lineItems : List Value → List String
  | [] => []
  | v :: rest => lineText v :: lineItems rest
def lineFields : List (Atom × Value) → List String
  | [] => []
  | (k, v) :: rest => (keyText k ++ ": " ++ lineText v) :: lineFields rest
end

private def margin (depth : Nat) : String := "\n" ++ String.ofList (List.replicate (2 * depth) ' ')

private def block (depth : Nat) (start stop : String) : List String → String
  | [] => start ++ stop
  | parts => start ++ margin (depth + 1) ++ String.intercalate ("," ++ margin (depth + 1)) parts
    ++ margin depth ++ stop

mutual
/-- Text with one member a line, indented by two blanks a level. -/
def blockText (depth : Nat) : Value → String
  | .atom a => atomText a
  | .list items => block depth "[" "]" (blockItems (depth + 1) items)
  | .obj fields => block depth "\x7b" "\x7d" (blockFields (depth + 1) fields)
  | .set members => block depth "[" "]" (members.map atomText)
  | .pair a b => block depth "[" "]" [blockText (depth + 1) a, blockText (depth + 1) b]
  | .loop .. => "null"
def blockItems (depth : Nat) : List Value → List String
  | [] => []
  | v :: rest => blockText depth v :: blockItems depth rest
def blockFields (depth : Nat) : List (Atom × Value) → List String
  | [] => []
  | (k, v) :: rest => (keyText k ++ ": " ++ blockText depth v) :: blockFields depth rest
end

end SwaggerGate.Json
