import DeviceSync.Http.Line
import DeviceSync.Settings.Load
import Std.Time.DateTime.Timestamp

/-!
# The Command Line

`run` answers requests that come line by line on standard input; `generate-secret` prints a fresh
signing secret. Everything that is decided is decided elsewhere: here only the clock, the random
source, the environment and the streams are consulted.
-/

namespace DeviceSync.Main

/-- The clock, to the nanosecond. -/
def now : IO Instant := do
  let t ← Std.Time.Timestamp.now
  let nanos := t.toNanosecondsSinceUnixEpoch.val
  return (Instant.ofParts? (nanos / 1000000000) (nanos % 1000000000).toNat).getD .epoch

def freshSecret : IO Credential.Secret := do
  let bytes ← IO.getRandomBytes 32
  match Credential.Secret.ofBytes bytes.data.toList with
  | .ok secret => return secret
  | .error e => throw (IO.userError e.message)

/-- The text of a file, if it can be read. -/
def readFile? (path : String) : IO (Option String) := do
  try return some (← IO.FS.readFile path)
  catch _ => return none

/-- The variables of the environment, on systems that show them as a file. -/
def environment : IO (List (String × String)) := do
  let bytes ← try IO.FS.readBinFile "/proc/self/environ" catch _ => pure ByteArray.empty
  let entries := Text.splitAll '\x00' (Text.ofOctetsLossy bytes.data.toList).toList
  return entries.filterMap fun entry ↦
    (Text.cutFirst '=' entry).map fun (name, value) ↦ (String.ofList name, String.ofList value)

def hostname : IO String := do
  let name ← readFile? "/proc/sys/kernel/hostname"
  return (name.map Text.trimmed).getD "127.0.0.1"

/-- The files that settings may stand in, as far as they exist. -/
def settingsFiles : IO (List String) := do
  let home := (← IO.getEnv "HOME").map (· ++ "/.config")
  let folder := (← IO.getEnv "XDG_CONFIG_HOME").orElse fun _ ↦ home
  let paths := "/etc" :: folder.toList
  let texts ← paths.mapM fun path ↦ readFile? (path ++ "/vanopticon/bifrost.json")
  return texts.filterMap id

/-- The settings of the machine; the standard ones if they cannot be loaded. -/
def loadSettings : IO Settings := do
  let hostname ← hostname
  match Settings.load hostname (← settingsFiles) (← environment) with
  | .ok settings => return settings
  | .error e => do
    IO.eprintln ("Failed to load config, using defaults: " ++ e.message)
    return .standard hostname

/-- Answer the lines of a stream until it ends. -/
partial def serve (stdin stdout : IO.FS.Stream) (api : Http.Api) : IO Unit := do
  let line ← stdin.getLine
  if line.isEmpty then return
  let (api, answer) := api.answerLine line (← now)
  stdout.putStrLn answer
  stdout.flush
  serve stdin stdout api

def run : IO UInt32 := do
  let settings ← loadSettings
  match Http.Api.start settings (← freshSecret) with
  | .error e => do
    IO.eprintln e.message
    return 1
  | .ok api => do
    serve (← IO.getStdin) (← IO.getStdout) api
    return 0

def usage : String :=
  "usage: devicesync [run | generate-secret]"

end DeviceSync.Main

open DeviceSync.Main in
def main (arguments : List String) : IO UInt32 := do
  match arguments with
  | [] => run
  | ["run"] => run
  | ["generate-secret"] => do
    IO.println (← freshSecret).toBase64
    return 0
  | _ => do
    IO.eprintln usage
    return 2
