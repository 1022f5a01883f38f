import OpReturn.Json.Parser
import OpReturn.Json.Printer
import OpReturn.Server.Tools

/-!
# Requests and answers as lines

A request is one line of JSON, an object that names a tool and gives its arguments. Its answer is
one line that holds either what the tool answers or what went wrong.

* `Line.toolOf`: the tool that a line asks for.
* `Line.ofAnswer`: the line of an answer.
-/

namespace OpReturn.Line

/-- Why a line asks for nothing. -/
inductive RequestError where
  | json (e : Json.ReadError)
  /-- The line names no tool or gives no arguments. -/
  | noCall
  | call (e : Tool.CallError)
deriving DecidableEq, Repr

/-- What went wrong, in words. -/
def RequestError.message : RequestError → String
  | .json e => e.message
  | .noCall => "Expected an object with a 'tool' and its 'args'"
  | .call e => e.message

/-- The tool that a line asks for. A line without arguments gives none. -/
def toolOf (line : String) : Except RequestError Tool :=
  match Json.parse line with
  | .error e => .error (.json e)
  | .ok request =>
    match request.member? "tool", (request.member? "args").getD (.obj []) with
    | some (.str name), .obj args =>
      (Tool.ofJson name (args.map fun arg => (arg.1.shown, arg.2))).mapError .call
    | _, _ => .error .noCall

/-- The line of an answer, or of what went wrong. -/
def ofAnswer : Except String Json → String
  | .ok answer => (Json.obj [("ok", answer)]).render
  | .error text => (Json.obj [("error", .str text)]).render

end OpReturn.Line
