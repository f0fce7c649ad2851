import SwaggerGate.Document

/-! Compiled operations: one method of one path, with everything that requests to it are
validated against. -/
namespace SwaggerGate

structure Operation where
  method : Method
  template : String
  basePath : Option String
  templateSegments : List String
  baseSegments : List String
  /-- The properties that the body parameters declare, first declarations first. -/
  properties : List (Atom × Value)
  required : List String
  parameters : List Parameter
  bodyRequired : Bool
  bodySchema : Value
  payloadSchema : Value
deriving Repr

namespace Operation

/-- The name of an operation in a registry: its method and its path template. -/
def key (o : Operation) : String := o.method.name ++ o.template

end Operation
end SwaggerGate
