import SwaggerGate.Text.Quoted
import SwaggerGate.Text.Similar
import SwaggerGate.Text.Split

/-! Options among the words of a command line. A long option takes its value after `=` or
from the next word; short flags can share one word, whose rest is the value of the first
that takes one; `--` ends the options, and a lone hyphen is no option. -/
namespace SwaggerGate.CommandLine

/-- What is wrong with a command line. -/
inductive UsageError where
  | missingOption (name : String)
  | needsValue (name : String)
  | takesNoValue (name : String)
  /-- The names that come close to an unknown one may have been meant. -/
  | noSuchOption (name : String) (close : List String)
  | noSuchCommand (name : String) (close : List String)
  | badValue (place reason : String)
  | noDocuments
  | missingCommand
deriving DecidableEq, Repr

namespace UsageError

private def suggestion (close : List String) : String :=
  match close.map Text.quoted with
  | [] => ""
  | [one] => " Did you mean " ++ one ++ "?"
  | several => " (Did you mean one of: " ++ String.intercalate ", " several ++ "?)"

def message : UsageError → String
  | .missingOption name => "Missing option " ++ Text.quoted name ++ "."
  | .needsValue name => "Option " ++ Text.quoted name ++ " requires an argument."
  | .takesNoValue name => "Option " ++ Text.quoted name ++ " does not take a value."
  | .noSuchOption name close => "No such option " ++ Text.quoted name ++ "." ++ suggestion close
  | .noSuchCommand name close => "No such command " ++ Text.quoted name ++ "." ++ suggestion close
  | .badValue place reason => "Invalid value for " ++ place ++ ": " ++ reason
  | .noDocuments => "No description documents given."
  | .missingCommand => "Missing command."

end UsageError

/-- An option of a command, known by its long name. -/
structure Switch where
  name : String
  short : Option Char := none
  takesValue : Bool := true
deriving DecidableEq, Repr

/-- What one word is among the words of a command line. -/
inductive Word where
  | operand
  | endOfOptions
  /-- Options with their values; the last may still want one, under the name used. -/
  | options (given : List (String × String)) (wanting : Option (String × String))
deriving DecidableEq, Repr

/-- Short options that share a word. -/
def shortOptions (switches : List Switch) : List Char → Except UsageError Word
  | [] => .ok (.options [] none)
  | c :: rest =>
    match switches.find? (·.short == some c) with
    | none => .error (.noSuchOption (String.ofList ['-', c]) [])
    | some switch =>
      if switch.takesValue then
        if rest.isEmpty then .ok (.options [] (some (switch.name, String.ofList ['-', c])))
        else .ok (.options [(switch.name, String.ofList rest)] none)
      else match shortOptions switches rest with
        | .ok (.options given wanting) => .ok (.options ((switch.name, "") :: given) wanting)
        | other => other

def readWord (switches : List Switch) (word : String) : Except UsageError Word :=
  match word.toList with
  | ['-', '-'] => .ok .endOfOptions
  | '-' :: c :: rest =>
    let (name, value) := Text.cut '=' word.toList
    match switches.find? (·.name.toList == name) with
    | some switch =>
      match value, switch.takesValue with
      | some value, true => .ok (.options [(switch.name, String.ofList value)] none)
      | some _, false => .error (.takesNoValue switch.name)
      | none, true => .ok (.options [] (some (switch.name, switch.name)))
      | none, false => .ok (.options [(switch.name, "")] none)
    | none =>
      if c = '-' then
        let name := String.ofList name
        .error (.noSuchOption name (Text.closeMatches name (switches.map Switch.name)))
      else shortOptions switches (c :: rest)
  | _ => .ok .operand

/-- The options and operands of a command line. -/
structure Arguments where
  options : List (String × String) := []
  operands : List String := []
deriving DecidableEq, Repr

namespace Arguments

/-- Reads words in order. Where options may not follow operands, the first operand ends them. -/
def read (switches : List Switch) (optionsFollow : Bool) : List String → Except UsageError Arguments
  | [] => .ok {}
  | word :: rest => do
    match ← readWord switches word with
    | .endOfOptions => return { operands := rest }
    | .operand =>
      if optionsFollow then
        let more ← read switches optionsFollow rest
        return { more with operands := word :: more.operands }
      else return { operands := word :: rest }
    | .options given none =>
      let more ← read switches optionsFollow rest
      return { more with options := given ++ more.options }
    | .options given (some (name, used)) =>
      match rest with
      | [] => throw (.needsValue used)
      | value :: rest =>
        let more ← read switches optionsFollow rest
        return { more with options := given ++ (name, value) :: more.options }

def has (arguments : Arguments) (name : String) : Bool := arguments.options.any (·.1 == name)

/-- All values of an option. -/
def values (arguments : Arguments) (name : String) : List String :=
  arguments.options.filterMap fun option => if option.1 = name then some option.2 else none

/-- The value of an option that counts once: the last. -/
def value? (arguments : Arguments) (name : String) : Option String := (arguments.values name).getLast?

end Arguments

end SwaggerGate.CommandLine
