import Std.Async.DNS
import Std.Async.TCP
import VaultAccess.App
import VaultAccess.Http.Octets

/-!
# The executable

Reads what the program finds when it starts, carries its messages over TCP, and leaves behind what
the program's ending says.
-/
namespace VaultAccess

open Std.Async

/-- The variables that the program looks at. -/
def knownVariables : List String :=
  ["HOME", "VAULT_ADDR", "VAULT_TOKEN", "VAULT_NAMESPACE", "BATON_VAULT_HOST", "BATON_VAULT_TOKEN"]

/-- The files that the program may read. -/
def knownFiles (words : List String) (home : String) : List String :=
  App.variablesFile :: Settings.standardFiles ++ [Settings.homeFile home] ++
    match CommandLine.read words with
    | .ok i => i.file.toList
    | .error _ => []

/-- The route of a path from the directory that the program works in, or from the root. -/
def routeOf (path : String) : List String :=
  let names := ((Text.fields '/' path.toList).map String.ofList).filter fun n => n ≠ "" ∧ n ≠ "."
  if path.toList.head? = some '/' then "/" :: names else names

/-- What a path leads to, if it leads anywhere. -/
def entryAt (path : String) : IO (Option (List String × Disk.Entry)) := do
  try
    let bytes ← IO.FS.readBinFile path
    return some (routeOf path, .file bytes.toList)
  catch _ => return none

/-- The directories above one at an absolute path, from the nearest on. -/
def directoriesAbove (path : String) : List String :=
  let names := (routeOf path).drop 1
  (List.range names.length).reverse.map fun n => "/" ++ "/".intercalate (names.take n)

/-- What the program finds when it starts. -/
def surroundings (words : List String) : IO App.Surroundings := do
  let bindings ← knownVariables.filterMapM fun name => do
    return (← IO.getEnv name).map fun value => (name, value)
  let home := (bindings.lookup "HOME").getD ""
  let entries ← (knownFiles words home).filterMapM entryAt
  let above ← (directoriesAbove (← IO.currentDir).toString).mapM fun directory => do
    return (← entryAt (directory ++ "/" ++ App.variablesFile)).map (·.2)
  return ⟨words, bindings, home, ⟨entries⟩, above⟩

/-- All bytes that come before the other side closes the connection. -/
partial def receive (socket : TCP.Socket.Client) (before : ByteArray) : Async ByteArray := do
  match ← socket.recv? 65536 with
  | none => return before
  | some bytes => receive socket (before ++ bytes)

/-- Send a message over plain TCP and wait for the reply. -/
def exchange (m : Http.Message) : IO Http.Delivery := do
  if m.url.scheme ≠ "http" then return .lost
  let port := UInt16.ofNat (m.url.port.getD 80)
  let name := match m.url.host with
    | some (.ipv6 words) => Url.ipv6Text words
    | some host => host.text
    | none => ""
  let talk : Async ByteArray := do
    let addresses ← DNS.getAddrInfo name ""
    let some address := addresses[0]? | throw (.userError "no address")
    let socket ← TCP.Socket.Client.mk
    socket.connect (match address with
      | .v4 a => .v4 ⟨a, port⟩
      | .v6 a => .v6 ⟨a, port⟩)
    socket.send ⟨m.bytes.toArray⟩
    receive socket .empty
  try
    return .ofBytes (← talk.block).toList
  catch _ => return .lost

/-- Carry out a program of requests; the log is kept with its last line first. -/
def converse (c : Http.Connection) {α : Type} (log : List Vault.LogLine) :
    Vault.Program α → IO (α × List Vault.LogLine)
  | .done a => return (a, log)
  | .note line next => converse c (line :: log) next
  | .ask r next => do
    let (before, sent) := c.outgoing r
    let log := before.reverse ++ log
    match sent with
    | .error fault => converse c log (next (.error fault))
    | .ok m =>
      let (after, answer) := Http.incoming r (← Http.follow exchange Http.maxRedirections m)
      converse c (after.reverse ++ log) (next answer)

/-- Carry out a plan. -/
def carryOut : App.Plan → IO App.Ending
  | .stop ending => return ending
  | .talk c program ending => do
    let (result, log) ← converse c [] program
    return ending log.reverse result

/-- Print a line of the log. -/
def printLine (isJson : Bool) (line : Vault.LogLine) : IO Unit := do
  let level := match line.level with
    | .error => "ERROR"
    | .warn => "WARN"
    | .info => "INFO"
    | .debug => "DEBUG"
    | .trace => "TRACE"
  let text := if isJson then
      (Json.obj [("level", .str level), ("fields", .obj [("message", .str line.text)]),
        ("target", .str "vault_connector")]).toText
    else level ++ " " ++ line.text
  IO.eprintln text

/-- The path of a route. -/
def pathOf : List String → String
  | "/" :: names => "/" ++ "/".intercalate names
  | names => "/".intercalate names

/-- Leave behind what an ending says. -/
def leave (before : Disk) (e : App.Ending) : IO Unit := do
  for entry in e.disk.entries do
    match entry with
    | (route, .file content) =>
      if !before.entries.contains entry then
        IO.FS.writeBinFile (pathOf route) ⟨content.toArray⟩
    | _ => pure ()
  for line in e.log do printLine e.hasJsonLog line
  IO.print e.output
  match e.failure with
  | none => pure ()
  | some failure =>
    IO.eprintln ("Error: " ++ "\n  caused by: ".intercalate failure.causes)

end VaultAccess

/-- Run the program. -/
def main (words : List String) : IO UInt32 := do
  let start ← VaultAccess.surroundings words
  let ending ← VaultAccess.carryOut (VaultAccess.App.plan start)
  try
    VaultAccess.leave start.disk ending
    return UInt32.ofNat ending.code
  catch e =>
    IO.eprintln ("Error: " ++ toString e)
    return 1
