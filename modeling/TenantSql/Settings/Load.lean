import TenantSql.Document.Kept
import TenantSql.Document.Merge
import TenantSql.Files
import TenantSql.Settings.Decode
import TenantSql.Toml.Reader

/-!
Where settings come from: one text, one file, the variables of the environment, or a directory. In a
directory the file of the active environment is laid over the common one, and the variables over both.
Settings are checked before they are handed out.
-/

namespace TenantSql

/-- The variables of an environment. -/
abbrev Variables := String → Option String

namespace Settings

/-- The active environment, development if none is named. -/
def detectEnvironment (vars : Variables) : Environment :=
  match vars "SQLDIALECT_ENV" with
  | some name => .ofName name
  | none => .development

/-- The settings with what the variables say in place. A backend that cannot be read changes nothing. -/
def override (vars : Variables) (settings : Settings) : Except Error Settings := do
  let backend ←
    match vars "SQLDIALECT_BACKEND" with
    | some name => some <$> Backend.parse name
    | none => pure settings.database.backend
  let url := (vars "SQLDIALECT_DATABASE_URL").or settings.database.url
  let timezone := (vars "SQLDIALECT_TIMEZONE").getD settings.database.timezone
  return { settings with database := { backend, url, timezone } }

/-- The settings if they are valid. -/
def checked (settings : Settings) : Except Error Settings := do
  settings.validate
  return settings

/-- Settings from the text of a document. -/
def ofToml (text : String) : Except Error Settings := do
  let unreadable (reason : String) : Error := .settings (.unreadable reason)
  let value ← (Toml.read text).mapError fun fault => unreadable fault.message
  let settings ← (decode .toml (value.tree .number)).mapError fun mismatch =>
    unreadable mismatch.message
  settings.checked

/-- The default settings with what the variables say in place. -/
def ofVariables (vars : Variables) : Except Error Settings := do
  (← override vars { (default : Settings) with environment := detectEnvironment vars }).checked

/-- The text of a file of settings. -/
def readFile (files : Files) (path : String) : Except Error String :=
  Error.seenFrom ("Failed to read config file '" ++ path ++ "'") ((files.text path).mapError .io)

/-- Settings from one file. -/
def ofFile (files : Files) (path : String) : Traced Settings := do
  let text ← readFile files path
  let settings ← Error.seenFrom ("Invalid config file '" ++ path ++ "'") (ofToml text)
  Traced.report (.loadedFile path)
  return settings

/-- The document in a file. -/
def documentOfFile (files : Files) (path : String) : Except Error Value := do
  let unreadable (reason : String) : Error := .settings (.unreadableFile path reason)
  let value ← (Toml.read (← readFile files path)).mapError fun fault => unreadable fault.message
  match value.kept? with
  | some kept => .ok kept
  | none => .error (unreadable "value out of range")

/-- The document of a directory: the common file, if it is there, and laid over it the file of the
environment, if that is there. -/
def documentOfDirectory (files : Files) (environment : Environment) (directory : String) :
    Traced Value := do
  let common := pathIn directory "sqldialect.toml"
  let base ← if files.isThere common then documentOfFile files common else pure (.table [])
  let special := pathIn directory ("sqldialect." ++ environment.shortName ++ ".toml")
  if files.isThere special then
    Traced.report (.overlaying special)
    let top ← documentOfFile files special
    (Value.merge "$" base top).mapError fun conflict => Error.settings (.conflicting conflict)
  else pure base

/-- Settings from a directory and the variables. The environment is the one the variables name, whatever
the documents say. -/
def ofDirectory (files : Files) (vars : Variables) (directory : String) : Traced Settings := do
  let environment := detectEnvironment vars
  let document ← documentOfDirectory files environment directory
  let settings ← (decode .json (document.tree .null)).mapError fun mismatch =>
    Error.settings (.undecodable mismatch.message)
  let settings ← override vars { settings with environment }
  let settings ← settings.checked
  Traced.report (.loadedDirectory environment.shortName)
  return settings

end Settings
end TenantSql
