import MathAgents.CommandLine.Execution

/-!
# The program

Gathers what a command may read of the host, carries the command out, and prints what it leaves.
This build has no network: every exchange with an endpoint fails.
-/

namespace MathAgents.CommandLine

/-- Why a file cannot be read, as the system says. -/
def faultOf : IO.Error → FileFault
  | .noFileOrDirectory _ _ _ => .missing
  | .inappropriateType _ code _ => if code = 21 then .isDirectory else .notDirectory
  | .permissionDenied _ _ _ => .other "Permission denied (os error 13)"
  | e => .other (toString e)

/-- The bytes of the file at a path. -/
def readPath (path : String) : IO (Except FileFault (List UInt8)) := do
  try
    let bytes ← IO.FS.readBinFile path
    return .ok bytes.toList
  catch e => return .error (faultOf e)

/-- The paths that an invocation may read. -/
def pathsOf (home : Option String) (i : Invocation) : List String :=
  let images := match i.command with
    | .transcribe _ _ _ images => images
    | _ => []
  i.config.toList ++ (home.map Settings.homePath).toList ++ images

/-- The host, as far as an invocation may look at it. -/
def hostFor (i : Invocation) : IO Host := do
  let home ← IO.getEnv "HOME"
  let files ← (pathsOf home i).mapM fun path => do return (path, ← readPath path)
  let names := [keyVariable, Settings.modelVariable, Settings.baseUrlVariable, temperatureVariable]
  let values ← names.mapM fun name => do return (name, ← IO.getEnv name)
  return {
    read := fun path => (files.lookup path).getD (.error .missing)
    environment := fun name => (values.lookup name).bind id
    home? := home }

/-- A transport that reaches nothing. -/
def offline : Endpoint.Transport Unit where
  send _ := return .error "no network"
  freshId := return "call_0"

end MathAgents.CommandLine

open MathAgents.CommandLine in
/-- Carries out what the arguments ask for. -/
def main (arguments : List String) : IO UInt32 := do
  match Invocation.ofArguments arguments with
  | .error usage =>
    IO.print usage.output
    unless usage.exitStatus = 0 do IO.eprint helpText
    return usage.exitStatus.toUInt32
  | .ok invocation =>
    let outcome := (invocation.carryOut offline (← hostFor invocation) ()).1
    IO.print outcome.output
    outcome.log.forM fun line => IO.eprintln line
    if let some e := outcome.error then IO.eprintln s!"Error: {e.report}"
    return outcome.exitStatus.toUInt32
