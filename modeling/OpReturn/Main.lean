import OpReturn.Server.Line

/-!
# The server

The arguments are paths of configuration files in order of preference; the first that is there is
read. Then every line of the input is a request and gets one line of output. The program opens no
connections of its own, so tools that ask the node find it out of reach.
-/

namespace OpReturn.Server

/-- The text of a file; `none` if it is not there. -/
def readIfThere (path : String) : IO (Option String) := do
  try return some (← IO.FS.readFile path)
  catch
    | .noFileOrDirectory .. => return none
    | e => throw e

/-- A transport that reaches nothing. -/
def unreachable : Node.Transport IO where
  run _ := return .error ⟨.notFound, "The node is out of reach"⟩
  post _ := return .error ⟨.connect, "The node is out of reach"⟩

/-- The line that answers a request, after `asked` requests to the node, and the number of those
after it. -/
def answerLine (config : Config) (line : String) (asked : Nat) : IO (String × Nat) := do
  match Line.toolOf line with
  | .error e => return (Line.ofAnswer (.error e.message), asked)
  | .ok tool =>
    let (answer, asked) ← ((tool.run config unreachable).run).run asked
    return (Line.ofAnswer (answer.mapError Tool.Error.message), asked)

/-- Answers line after line until the input ends. -/
partial def serve (config : Config) (input output : IO.FS.Stream) (asked : Nat) : IO Unit := do
  let line ← input.getLine
  if line.isEmpty then return ()
  let (answer, asked) ← answerLine config line asked
  output.putStrLn answer
  output.flush
  serve config input output asked

end OpReturn.Server

open OpReturn in
/-- Reads the configuration and serves requests; fails if the configuration cannot be used. -/
def main (args : List String) : IO UInt32 := do
  let files ← args.mapM Server.readIfThere
  match Config.loadFirst files with
  | .error e =>
    IO.eprintln e.message
    return 1
  | .ok config =>
    if config.logLevel.number ≤ LogLevel.info.number then
      IO.eprintln ("Starting (" ++ config.network.text ++ " via " ++ config.method.text ++ ")")
    Server.serve config (← IO.getStdin) (← IO.getStdout) 0
    return 0
