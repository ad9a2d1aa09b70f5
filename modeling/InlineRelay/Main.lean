import InlineRelay.Pattern.Matcher
import InlineRelay.Startup
import InlineRelay.Webhook

/-!
The bot as a program. The network is a peer on standard input and output: the program writes one
line for what it wants done and reads one line in return, and once it has started it reads one line
for each web request and writes one for its response.
-/
namespace InlineRelay.Main

/-- Write a line and read the one that comes back. -/
def ask (v : Json) : IO String := do
  let output ← IO.getStdout
  output.putStrLn v.text
  output.flush
  (← IO.getStdin).getLine

/-- A request goes out as its address and body; a line that is no reply stands for none. -/
def transport : Gateway.Transport IO where
  address? := Http.Address.ofText?
  post address body := do
    let line ← ask (.ofFields [("post", .str address.text), ("body", .str body)])
    return (Json.decodeText Gateway.Reply.decode line).toOption

/-- Ask for a port; a string that comes back says why it cannot be had. -/
def bind (port : Nat) : IO (Except String Unit) := do
  let line ← ask (.ofFields [("bind", .int port)])
  match Json.decodeText Json.string line with
  | .ok e => return .error e
  | .error _ => return .ok ()

/-- Serve one request after another until the input ends. -/
partial def serve (d : Desk IO) : IO Unit := do
  let line ← (← IO.getStdin).getLine
  if line.isEmpty then return
  match Json.decodeText Webhook.Request.decode line with
  | .ok r =>
    let output ← IO.getStdout
    output.putStrLn (← d.serve r).encode.text
    output.flush
  | .error _ => return
  serve d

/-- The variables that are set, and those of the file `.env` if there is one. -/
def environment : IO Variables := do
  let set := Variables.ofBlock (← IO.FS.readBinFile "/proc/self/environ").toList
  match ← (IO.FS.readFile ".env").toBaseIO with
  | .ok text => return set.addFile text
  | .error _ => return set

def run : IO UInt32 := do
  match ← Startup.run transport Pattern.matcher bind (← environment) with
  | .ok (desk, _) =>
    serve desk
    return 0
  | .error f =>
    let exit := Exit.ofFailure f
    (← IO.getStderr).putStr exit.stderr
    return exit.code.toUInt32

end InlineRelay.Main

def main : IO UInt32 := InlineRelay.Main.run
