import TlvSchema.CommandLine

/-!
# The program

Reads the source that the arguments ask for, runs the command and writes what it leaves behind.
-/

namespace TlvSchema

/-- The reason why a file could not be read. -/
def readErrorOf : IO.Error → ReadError
  | .noFileOrDirectory _ _ _ => .notFound
  | .inappropriateType _ code _ => if code = 20 then .notDirectory else .isDirectory
  | .permissionDenied _ code reason => .other (reason ++ " (os error " ++ toString code ++ ")")
  | e => .other (toString e)

/-- Read a source. -/
def readOrigin (origin : CommandLine.Origin) : IO (Except ReadError ByteArray) := do
  try
    match origin with
    | .standardInput => return .ok (← (← IO.getStdin).readBinToEnd)
    | .file path => return .ok (← IO.FS.readBinFile path)
  catch e => return .error (readErrorOf e)

/-- The events that are shown, by the level that the environment asks for. -/
def showsOf : Option String → Event → Bool
  | some "off" => fun _ => false
  | some "error" | some "" => Event.reaches .error
  | some "debug" | some "trace" => Event.reaches .debug
  | _ => CommandLine.shownByDefault

/-- An event on a line, without the time. -/
def lineOf (e : Event) : String :=
  " ".intercalate (e.level.name :: e.message :: e.attributes.map fun a => a.1 ++ "=" ++ a.2) ++ "\n"

/-- Run the program with some arguments. -/
def runProgram (arguments : List String) : IO UInt32 := do
  let env : CommandLine.Environment := ⟨none, showsOf (← IO.getEnv "RUST_LOG"), fun _ => lineOf⟩
  let content ← match CommandLine.originOf? arguments with
    | some origin => readOrigin origin
    | none => pure (.error .notFound)
  let ending := CommandLine.runIn env arguments fun _ => content
  (← IO.getStderr).putStr ending.errors
  (← IO.getStdout).putStr ending.output
  return ending.exitCode.toUInt32

end TlvSchema

/-- The entry point of the program. -/
def main (arguments : List String) : IO UInt32 := TlvSchema.runProgram arguments
