import WebhookRelay.Server
import WebhookRelay.SettingsFile

/-!
# The command line

The program takes the path of a settings file, `hookbridge.toml` if none is given. It then answers
requests: each line of its input is one, as a JSON object, and so is each line of its output a
response. It has no network of its own, so the provider and the chat server are out of reach.
-/

namespace WebhookRelay.CommandLine

open Json

/-- The settings file that is read if none is named. -/
def defaultFile : String := "hookbridge.toml"

/-! ## Requests and responses as JSON -/

/-- A header. -/
def headerOf : Doc → Except Fault (String × String)
  | .array [name, value] true => do .ok (← name.toText, ← value.toText)
  | d => .error d.mismatch

/-- The fields of a request. -/
def requestFields : List (Json.Field Http.Request) :=
  [⟨"method", .required, fun d r => do .ok { r with method := ← d.toText }⟩,
    ⟨"path", .required, fun d r => do .ok { r with target := ← d.toText }⟩,
    ⟨"headers", .defaulted, fun d r => do .ok { r with headers := ← d.toList headerOf }⟩,
    ⟨"body", .defaulted, fun d r => do .ok { r with body := Utf8.encode (← d.toText) }⟩]

/-- Reads a request. -/
def requestOf (line : String) : Except Fault Http.Request :=
  Json.decode (record requestFields { method := "", target := "" }) (Utf8.encode line)

/-- Writes a response. -/
def responseToJson (r : Http.Response) : Value :=
  .object [("status", .number (.ofNat r.status)), ("json", .ofOption (fun v => v) r.json)]

/-- No server can be reached. -/
def unreachable : Rest.Peer Unit := fun _ s => (.hangUp, s)

/-- The response to a line of input. -/
def respond (settings : Settings) (line : String) (s : Server Unit) : Value × Server Unit :=
  match requestOf line with
  | .error _ => (.null, s)
  | .ok r =>
    let (response, s) := Server.respond settings unreachable 1 r s
    (responseToJson response, s)

/-! ## Running -/

/-- The bytes of a file, if there is one. -/
def bytesOf (file : String) : IO (Option Bytes) := do
  try
    return some (← IO.FS.readBinFile file).toList
  catch _ => return none

/-- Answers lines until the input ends. -/
partial def serve (settings : Settings) (s : Server Unit) : IO Unit := do
  let line ← (← IO.getStdin).getLine
  if line.isEmpty then return
  let (value, s) := respond settings line s
  IO.println (String.ofList value.print)
  serve settings s

end WebhookRelay.CommandLine

/-- Reads the settings and answers requests. -/
def main (arguments : List String) : IO UInt32 := do
  let file := arguments.headD WebhookRelay.CommandLine.defaultFile
  match WebhookRelay.Settings.ofFile (← WebhookRelay.CommandLine.bytesOf file) with
  | .error e =>
    IO.eprintln e.message
    return 1
  | .ok settings =>
    WebhookRelay.CommandLine.serve settings { peer := () }
    return 0
