import SwaggerGate.Document

/-! Merging of documents. Later documents win on equal names; each path remembers the base
path of the document that it came from. -/
namespace SwaggerGate

structure Merged where
  paths : List (String × (Option String × PathItem)) := []
  definitions : Definitions := []
  parameters : List (String × Parameter) := []
deriving Repr

namespace Merged

/-- Adds the sections of one more document. -/
def add (merged : Merged) (document : Document) : Merged :=
  { paths := Entries.putAll merged.paths (document.paths.map fun p => (p.1, document.basePath, p.2))
    definitions := Entries.putAll merged.definitions document.definitions
    parameters := Entries.putAll merged.parameters document.parameters }

def ofDocuments (documents : List Document) : Merged := documents.foldl add {}

end Merged
end SwaggerGate
