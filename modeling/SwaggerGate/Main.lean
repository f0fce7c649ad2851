import SwaggerGate.CommandLine

/-! The program: it takes what the named files hold at its start, runs the command line on
them, and prints the report. -/
namespace SwaggerGate.Main

/-- What a name leads to; whatever is there but cannot be read counts as a directory. -/
def entryOf (name : String) : IO (Option FileEntry) := do
  try
    return some (.file (← IO.FS.readBinFile name).toList)
  catch
    | .noFileOrDirectory .. => return none
    | .inappropriateType .. => return some .directory
    | _ => return some .directory

def filesOf (names : List String) : IO Files := do
  let entries ← names.mapM fun name => return (name, ← entryOf name)
  return { find? := fun name => (entries.lookup name).bind id }

/-- The names that a command line may read: its words, and the documents of whatever among
them is a configuration. -/
def namesOf (files : Files) (words : List String) : List String :=
  words.flatMap fun word =>
    let name := PathName.ofText word
    match Config.load files name with
    | .ok config => word :: name.text :: config.documents.map PathName.text
    | .error _ => [word, name.text]

end SwaggerGate.Main

open SwaggerGate in
def main (words : List String) : IO UInt32 := do
  let named ← Main.filesOf (words.flatMap fun word => [word, (PathName.ofText word).text])
  let files ← Main.filesOf (Main.namesOf named words)
  let report := CommandLine.run files words
  for line in report.output do
    IO.println line
  for line in report.log do
    IO.eprintln line
  match report.failure with
  | some (.usage e) => IO.eprintln ("Error: " ++ e.message)
  | some (.config e) => IO.eprintln ("Error: " ++ e.message)
  | some (.compile e) => IO.eprintln ("Error: " ++ e.message)
  | some (.fault _) => IO.eprintln "Error: the input cannot be processed"
  | none => pure ()
  return UInt32.ofNat report.exitCode
