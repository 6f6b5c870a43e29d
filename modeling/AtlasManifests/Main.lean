import AtlasManifests.Export.CommandLine

/-! # The program

Runs on the words of the command line, or prints the definitions of the curated kinds
when it goes by the name `crdgen`. No transport is built in, so every request is one that
cannot be delivered.
-/
namespace AtlasManifests.Program

/-- The content of a file, if it can be read. -/
def contentOf (path : String) : IO (Option String) := do
  try
    return some (← IO.FS.readFile path)
  catch _ => return none

/-- Write a file, as far as that is possible. -/
def writeContent (path text : String) : IO Bool := do
  try
    IO.FS.writeFile path text
    return true
  catch _ => return false

/-- What a run on the words of a command line can see: of all files, the one that the
words name. -/
def surroundings (words : List String) : IO CommandLine.Surroundings := do
  let seed ← IO.getRandomBytes 16
  let token ← IO.getEnv "ATLAS_ACCESS_TOKEN"
  let content ← match CommandLine.demand {} words with
    | .export settings => match settings.config with
      | some path => contentOf path
      | none => pure none
    | _ => pure none
  return {
    file := fun _ => content
    token := token
    send := fun _ => none
    word := Label.word seed.toList
  }

/-- What is to be done under the name of the program. -/
def outcome (name : Option String) (words : List String) : IO CommandLine.Outcome := do
  if name == some "crdgen" then return .definitions
  return (CommandLine.report (← surroundings words) words).outcome

/-- The program. -/
def run (words : List String) : IO UInt32 := do
  let outcome ← outcome (← IO.appPath).fileName words
  let written ← match outcome.file? with
    | some (path, text) => writeContent path text
    | none => pure true
  let ending := outcome.ending written
  IO.print ending.output
  match ending.failure with
  | some failure => IO.eprintln ("Error: " ++ failure.message)
  | none => if outcome == .misused then IO.eprint CommandLine.usage
  return ending.status

end AtlasManifests.Program

/-- The program, on the words of its command line. -/
def main (words : List String) : IO UInt32 := AtlasManifests.Program.run words
