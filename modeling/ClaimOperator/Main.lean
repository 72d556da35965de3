import ClaimOperator.CommandLine.Run
import ClaimOperator.Settings.DatabaseFile
import ClaimOperator.Store.Archive
import Std.Time.DateTime.Timestamp

/-! The program: the command line with its environment, its clock and its database file.

The rows are kept as one document in the database file, which is read before a run
and written after it. No connection is made to an API server, so the cluster
backend finds none.
-/

set_option autoImplicit false

namespace ClaimOperator.Program

def variablesRead : List String :=
  ["PROJCLAIM_BACKEND", "PROJECT_REFERENCE_NAMESPACE", "PROJCLAIM_DATA_DIR", "XDG_DATA_HOME", "HOME",
    "KUBE_API_URL", "KUBE_TOKEN", "KUBE_CA_CERT", "KUBE_TIMEOUT_SECONDS", "KUBE_INSECURE_SKIP_TLS_VERIFY"]

def environment : IO Environment :=
  variablesRead.filterMapM fun name => return (← IO.getEnv name).map (name, ·)

def currentTime : IO Timestamp := do
  let now ← Std.Time.Timestamp.now
  return (Timestamp.ofUnixMicros? (now.toNanosecondsSinceUnixEpoch.toInt / 1000)).getD .epoch

def noServer : Cluster.Server Unit := fun _ state => (.unreachable "no connection", state)

def logLine (now : Timestamp) (entry : Log.Entry) : String :=
  let time := now.time
  let clock := String.ofList <|
    Text.padded 2 time.hour ++ [':'] ++ Text.padded 2 time.minute ++ [':'] ++ Text.padded 2 time.second
  clock ++ " " ++ CommandLine.levelName entry.level ++ " [" ++ CommandLine.channelName entry.channel ++
    "] " ++ entry.message

def loadRows (path : String) : IO Rows := do
  match ← (IO.FS.readFile path).toBaseIO with
  | .error _ => return []
  | .ok content =>
    match (Json.read? content).bind Rows.ofDocument? with
    | some rows => return rows
    | none => throw <| IO.userError (path ++ " is no database of this program")

def saveRows (directory path : String) (rows : Rows) : IO Unit := do
  IO.FS.createDirAll directory
  IO.FS.writeFile path rows.document.compact

def report (now : Timestamp) (outcome : CommandLine.Outcome) : IO Unit := do
  for entry in outcome.log do IO.eprintln (logLine now entry)
  IO.print outcome.printed

def run (arguments : List String) : IO UInt32 := do
  let env ← environment
  let now ← currentTime
  match (StorageSettings.load? env).bind (·.expandHome? env) with
  | none => throw <| IO.userError "Could not determine home directory."
  | some storage =>
    let base := DataPath.ofText (← IO.currentDir).toString
    let path := (storage.databasePath base).text
    let surroundings : CommandLine.Surroundings Unit :=
      { env := env, now := now, server := noServer, fileExists := fun _ => false }
    let (outcome, stores) := CommandLine.run surroundings arguments { rows := ← loadRows path, server := () }
    if stores.started then saveRows (base.append storage.directory).text path stores.rows
    report now outcome
    return outcome.status.toUInt32

end ClaimOperator.Program

def main (arguments : List String) : IO UInt32 := ClaimOperator.Program.run arguments
