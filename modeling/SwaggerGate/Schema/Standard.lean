import SwaggerGate.Schema.Scope
import SwaggerGate.Schema.Standard.Draft2019
import SwaggerGate.Schema.Standard.Draft2020
import SwaggerGate.Schema.Standard.Draft3
import SwaggerGate.Schema.Standard.Draft4
import SwaggerGate.Schema.Standard.Draft6
import SwaggerGate.Schema.Standard.Draft7

/-! The library of the schemas of schemas, which any reference can lead to. -/
namespace SwaggerGate.Schema.Standard

def resources : List Resource :=
  [⟨.draft3, draft3⟩, ⟨.draft4, draft4⟩, ⟨.draft6, draft6⟩, ⟨.draft7, draft7⟩]
    ++ [draft2019, core2019, applicator2019, validation2019, metaData2019, format2019, content2019].map
      (Resource.mk .draft2019)
    ++ [draft2020, core2020, applicator2020, unevaluated2020, validation2020, metaData2020, formatAnnotation2020,
      formatAssertion2020, content2020].map (Resource.mk .draft2020)

/-- The address of a standard resource; each gives its own. -/
def addressOf (r : Resource) : String :=
  match r.id? with
  | .ok (some address) => address
  | _ => ""

def anchorsOf (r : Resource) : List ((String × String) × Anchor) :=
  match r.anchors with
  | .ok named => named.map fun a => ((addressOf r, a.1), a.2)
  | .error _ => []

def library : Library :=
  { resources := resources.map fun r => (addressOf r, r), anchors := resources.flatMap anchorsOf }

end SwaggerGate.Schema.Standard
