import SwaggerGate.Value

/-! Description documents: the sections that the validator relies on, with every other
entry kept as it was written. -/
namespace SwaggerGate

inductive Method where
  | get | put | post | delete | options | head | patch
deriving DecidableEq, Repr

namespace Method

/-- All methods in the order in which a path's operations are listed. -/
def all : List Method := [.get, .put, .post, .delete, .options, .head, .patch]

def name : Method → String
  | .get => "get"
  | .put => "put"
  | .post => "post"
  | .delete => "delete"
  | .options => "options"
  | .head => "head"
  | .patch => "patch"

end Method

/-- Where a parameter is carried. -/
inductive Location where
  | path | query | body | header | formData
deriving DecidableEq, Repr

namespace Location

def all : List Location := [.path, .query, .body, .header, .formData]

def name : Location → String
  | .path => "path"
  | .query => "query"
  | .body => "body"
  | .header => "header"
  | .formData => "formData"

end Location

/-- The types that a parameter outside the body may declare. -/
inductive ParamType where
  | string | integer | number | boolean | array | file
deriving DecidableEq, Repr

namespace ParamType

def all : List ParamType := [.string, .integer, .number, .boolean, .array, .file]

def name : ParamType → String
  | .string => "string"
  | .integer => "integer"
  | .number => "number"
  | .boolean => "boolean"
  | .array => "array"
  | .file => "file"

def named? (text : String) : Option ParamType := all.find? (·.name == text)

end ParamType

/-- What an array parameter says of its elements. -/
structure Items where
  type : ParamType := .string
  enum : Option (List Value) := none
  items : Option Items := none
  collectionFormat : String := "csv"
  extra : List (String × Value) := []
deriving Repr

structure Parameter where
  name : String := ""
  location : Option Location := none
  type : Option ParamType := none
  required : Bool := false
  enum : Option (List Value) := none
  items : Option Items := none
  collectionFormat : String := "csv"
  schema : Option (List (Atom × Value)) := none
  ref : Option String := none
  extra : List (String × Value) := []
deriving Repr

/-- The parameters of one method of a path. -/
structure Endpoint where
  parameters : List Parameter := []
  extra : List (String × Value) := []
deriving Repr

/-- One path: parameters shared by its methods, and the methods it declares. -/
structure PathItem where
  parameters : List Parameter := []
  endpoints : List (Method × Endpoint) := []
  extra : List (String × Value) := []
deriving Repr

/-- The schemas of a description by name. -/
abbrev Definitions := List (String × Value)

structure Document where
  basePath : Option String := none
  paths : List (String × PathItem) := []
  definitions : Definitions := []
  parameters : List (String × Parameter) := []
  extra : List (String × Value) := []
deriving Repr

end SwaggerGate
