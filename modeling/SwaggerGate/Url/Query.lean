import SwaggerGate.Text.Split
import SwaggerGate.Url.Percent

/-! The pairs of a raw query: pieces between `&`, each cut at its first `=`. A plus sign
is a blank, a piece without `=` has an empty value, an empty piece is no pair. -/
namespace SwaggerGate.Url

/-- A name or a value with its plus signs and escapes undone. -/
def formDecode (cs : List Char) : String :=
  String.ofList (percentDecode (cs.map fun c => if c = '+' then ' ' else c))

def queryPairs (query : List Char) : List (String × String) :=
  ((Text.splitOn '&' query).filter (!·.isEmpty)).map fun piece =>
    let (name, value) := Text.cut '=' piece
    (formDecode name, formDecode (value.getD []))

end SwaggerGate.Url
