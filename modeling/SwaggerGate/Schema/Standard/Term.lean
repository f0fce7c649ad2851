import SwaggerGate.Schema.Dialect

/-! Terms that the schemas of schemas are written with. -/
namespace SwaggerGate.Schema.Standard

def ref (address : String) : Value := .record [("$ref", .text address)]

def recursiveRef : Value := .record [("$recursiveRef", .text "#")]

def dynamicRef : Value := .record [("$dynamicRef", .text "#meta")]

/-- A schema of one type, with more keywords. -/
def typed (type : String) (more : List (String × Value)) : Value := .record (("type", .text type) :: more)

/-- The address of one vocabulary's part of the edition of 2019. -/
def part2019 (name : String) : String := Dialect.secureSite ++ "draft/2019-09/meta/" ++ name

/-- The address of one vocabulary's part of the edition of 2020. -/
def part2020 (name : String) : String := Dialect.secureSite ++ "draft/2020-12/meta/" ++ name

end SwaggerGate.Schema.Standard
