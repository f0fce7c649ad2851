/-! Failures that are neither an outcome nor a configuration error. -/
namespace SwaggerGate

inductive Fault where
  /-- An integer text has more digits than are converted, or an integer that is to be shown
  has more digits than are written. -/
  | longInteger
  /-- A URL is malformed. -/
  | malformedUrl
  /-- A text does not convert to the type that is asked for. -/
  | unconvertible
  /-- A scalar of a document is tagged as a boolean and is none. -/
  | unknownBoolean
  /-- A tagged scalar is empty where its first character decides. -/
  | emptyScalar
  /-- A scalar of a document is tagged as a date and is none. -/
  | noTimestamp
  /-- A file name cannot name a file. -/
  | unusableName
  /-- An object or a text was needed, and its parts asked for. -/
  | notAnObject
  /-- A list was needed in a schema. -/
  | notAList
  /-- An argument of a keyword is of a kind that the keyword cannot use. -/
  | wrongArgument
  /-- An integer is too large for a double, or a repetition count too large to compile. -/
  | outOfRange
  /-- Arithmetic met not-a-number. -/
  | notANumber
  | divisionByZero
  /-- A file is not UTF-8. -/
  | notUtf8
  /-- A text with a lone surrogate cannot be written. -/
  | unencodable
  /-- A reference of a compiled schema leads nowhere. -/
  | danglingReference
  /-- No resource has the address that is looked up. -/
  | unknownResource
  /-- A pointer leads to nothing inside its resource. -/
  | unknownPlace
  /-- A resource has no anchor of the name that is looked up. -/
  | unknownAnchor
  /-- The name of an anchor that is looked up in vain is a path. -/
  | malformedAnchor
  /-- An anchor is looked up at an address on the way that no resource has. -/
  | unlistedAddress
  /-- A pattern does not compile. -/
  | badPattern
  /-- The flags of a pattern exclude each other. -/
  | conflictingFlags
  /-- A type name is none that the schema's dialect knows. -/
  | unknownType
  /-- References lead back to themselves without reaching into the data, or data nests too
  deeply. -/
  | endless
  /-- A value that is part of itself has no plain form. -/
  | circular
deriving DecidableEq, Repr

/-- The fault of following a reference, given that of looking it up. -/
def Fault.ofLookUp : Fault → Fault
  | .unknownResource | .unknownPlace | .unknownAnchor | .malformedAnchor => .danglingReference
  | fault => fault

end SwaggerGate
