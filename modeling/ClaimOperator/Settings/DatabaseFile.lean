import ClaimOperator.Settings.DataPath
import ClaimOperator.Settings.Variables

/-! Where the local database is kept. -/

set_option autoImplicit false

namespace ClaimOperator

structure StorageSettings where
  directory : DataPath
  filename : String := "projclaim.db"
  deriving DecidableEq, Repr

namespace StorageSettings

/-- The home directory; a home that begins with a tilde leads nowhere. -/
def homeDirectory? (env : Environment) : Option DataPath :=
  let trimmed := Text.withoutFinal '/' ((env.get? "HOME").getD "")
  if trimmed.startsWith "~" then none
  else some (.ofText (if trimmed = "" then "/" else trimmed))

def expandHome? (config : StorageSettings) (env : Environment) : Option StorageSettings :=
  match config.directory.root, config.directory.parts with
  | "", "~" :: parts =>
    (homeDirectory? env).map fun home => { config with directory := home.append ⟨"", parts⟩ }
  | _, _ => some config

/-- A directory that is named outright, or one below the data directory of the user. Empty
variables count as unset, blank ones do not. -/
def load? (env : Environment) : Option StorageSettings :=
  let named (name : String) := (env.get? name).filter (· ≠ "")
  let own := DataPath.ofText "projclaim"
  match named "PROJCLAIM_DATA_DIR", named "XDG_DATA_HOME" with
  | some directory, _ => some ⟨.ofText directory, "projclaim.db"⟩
  | none, some shared => some ⟨(DataPath.ofText shared).append own, "projclaim.db"⟩
  | none, none =>
    (homeDirectory? env).map fun home =>
      ⟨(home.append (.ofText ".local/share")).append own, "projclaim.db"⟩

def databasePath (config : StorageSettings) (base : DataPath) : DataPath :=
  let directory := base.append config.directory
  DataPath.append ⟨directory.root, DataPath.withoutDots [] directory.parts⟩ (.ofText config.filename)

/-- Whether the database file lies right in the directory, or in one above it. -/
def isDirectlyInside (config : StorageSettings) : Bool :=
  (config.databasePath {}).parts.dropLast.isPrefixOf (DataPath.withoutDots [] config.directory.parts)

end StorageSettings

def fileAddress (path : DataPath) : String := "sqlite+pysqlite:///" ++ path.text

/-- The address of the database: the one in the environment, unless it is empty, or that of the file. -/
def databaseAddress (env : Environment) (file : DataPath) : String :=
  ((env.get? "DATABASE_URI").filter (· ≠ "")).getD (fileAddress file)

end ClaimOperator
