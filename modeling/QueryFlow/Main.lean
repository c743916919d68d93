import QueryFlow.Program

namespace QueryFlow

/-- Reads a text file. A path that cannot be followed, because it leads through a file, leads
nowhere; one that leads to a directory fails later and without its name. -/
def readEntry (path : String) : IO FileEntry := do
  try
    return .text (← IO.FS.readFile path)
  catch
    | .noFileOrDirectory .. => return .missing
    | .inappropriateType (some _) .. => return .missing
    | _ => return .unreadable

def findConfigHome : IO (Option String) := do
  let named ← IO.getEnv "XDG_CONFIG_HOME"
  let home ← IO.getEnv "HOME"
  return (named.filter (·.startsWith "/")).orElse fun _ =>
    (home.filter fun path => !path.isEmpty).map (· ++ "/.config")

def answer (arguments : List String) : IO UInt32 := do
  let environment : Environment := {
    logFilter := ← IO.getEnv "RUST_LOG"
    config := ← IO.getEnv "ROWPIPE_CONFIG"
    profile := (← IO.getEnv "ROWPIPE_PROFILE").isSome
    configHome := ← findConfigHome }
  let outcome ← Program.perform readEntry environment arguments
  (← IO.getStdout).putStr outcome.output
  (← IO.getStderr).putStr outcome.notice
  return outcome.code

end QueryFlow

def main (arguments : List String) : IO UInt32 := QueryFlow.answer arguments
