import TenantSql.Backend
import TenantSql.DateKind

/-!
What can go wrong, by cause. `Error.message` words each cause, `Error.code` classifies it for programs,
and `Error.isFatal` tells defects of a deployment from faults of one request. An error may be wrapped in
contexts: they change what is shown first and nothing else.
-/

namespace TenantSql

/-- The operations for which each family has a syntax of its own. -/
inductive Operation where
  /-- An operation that is worded elsewhere. -/
  | stated (title : String)
  | groupConcat
  | limit
  | currentDate
  | currentDateTime
  | subtractDate
  | dateDifference
  | lastInsertId
  | castToCharacter
  | castToInteger
  | currentSchema
  | castToJson
  deriving Repr, DecidableEq

/-- How the operation is called in messages. -/
def Operation.title : Operation → String
  | .stated title => title
  | .groupConcat => "group concat"
  | .limit => "limit"
  | .currentDate => "current date"
  | .currentDateTime => "current date time"
  | .subtractDate => "subtracting date"
  | .dateDifference => "date diff"
  | .lastInsertId => "last insert id"
  | .castToCharacter => "casting to character"
  | .castToInteger => "casting to integer"
  | .currentSchema => "current schema"
  | .castToJson => "casting to json"

/-- Why no backend could be told. -/
inductive BackendFault where
  /-- A name that is none of the spoken ones. -/
  | name (text : String)
  /-- A connection URL with a scheme that is not known. -/
  | scheme (url : String)
  deriving Repr, DecidableEq

/-- The wording of the fault. Of a name it is the name alone. -/
def BackendFault.detail : BackendFault → String
  | .name text => text
  | .scheme url => "Unsupported database URL scheme: " ++ url

/-- Why a sort specification was refused. -/
inductive SortFault where
  | stated (text : String)
  | unknownDirection (word : String)
  | malformedEntry (entry : String)
  deriving Repr, DecidableEq

/-- The wording of the fault. What is quoted stands between quotes as it is. -/
def SortFault.detail : SortFault → String
  | .stated text => text
  | .unknownDirection word => "unknown sort direction '" ++ word ++ "'"
  | .malformedEntry entry => "malformed sort entry '" ++ entry ++ "'"

/-- Why a file could not be read. -/
inductive FileFault where
  /-- A fault that is worded elsewhere, and what lies behind it. -/
  | stated (text : String) (sources : List String := [])
  | notFound
  | notDirectory
  | isDirectory
  | notText
  | nameTooLong
  /-- A path with a character that no file name can have. -/
  | nullInName
  deriving Repr, DecidableEq

/-- The wording of the fault, as the system gives it. -/
def FileFault.detail : FileFault → String
  | .stated text _ => text
  | .notFound => "No such file or directory (os error 2)"
  | .notDirectory => "Not a directory (os error 20)"
  | .isDirectory => "Is a directory (os error 21)"
  | .notText => "stream did not contain valid UTF-8"
  | .nameTooLong => "File name too long (os error 36)"
  | .nullInName => "file name contained an unexpected NUL byte"

/-- What lies behind the fault, from the outside in. -/
def FileFault.sources : FileFault → List String
  | .stated _ sources => sources
  | _ => []

/-- Two documents that disagree on the type of a value. -/
structure MergeConflict where
  path : String
  expected : String
  received : String
  deriving Repr, DecidableEq

/-- The wording of a conflict. The path stands between quotes as it is, whatever its keys hold. -/
def MergeConflict.detail (conflict : MergeConflict) : String :=
  "Incompatible types at path \"" ++ conflict.path ++ "\", expected \"" ++ conflict.expected ++
    "\" received \"" ++ conflict.received ++ "\"."

/-- Why settings cannot be used. -/
inductive SettingsFault where
  | stated (text : String)
  | noBackend
  | tenantWithoutBackend (identifier : String)
  | emptyPattern (field : String)
  | unknownPattern (field pattern : String)
  | unprintablePattern (pattern : String)
  | unreadable (reason : String)
  | unreadableFile (path reason : String)
  | conflicting (conflict : MergeConflict)
  | undecodable (reason : String)
  deriving Repr, DecidableEq

/-- The wording of the fault. What a person wrote is shown as it is, quoted or behind a colon. -/
def SettingsFault.detail : SettingsFault → String
  | .stated text => text
  | .noBackend => "No database backend configured: set database.backend or database.url"
  | .tenantWithoutBackend identifier => "Tenant '" ++ identifier ++ "' has neither backend nor url"
  | .emptyPattern field => field ++ " cannot be empty"
  | .unknownPattern field pattern => field ++ " is not a valid chrono pattern: '" ++ pattern ++ "'"
  | .unprintablePattern pattern => "Invalid date format pattern '" ++ pattern ++ "'"
  | .unreadable reason => "Failed to parse configuration: " ++ reason
  | .unreadableFile path reason =>
    "Failed to parse config file '" ++ path ++ "': " ++ reason ++ ". Check TOML syntax."
  | .conflicting conflict => "Failed to merge configuration files: " ++ conflict.detail
  | .undecodable reason => "Failed to deserialize merged configuration: " ++ reason

/-- A failure, by cause. -/
inductive Error where
  /-- The backend has no syntax for the operation. -/
  | unsupported (operation : Operation) (backend : Backend)
  | settings (fault : SettingsFault)
  | unknownBackend (fault : BackendFault)
  | unknownTenant (identifier : String)
  /-- The scope holds no date of the kind that the activity asks for. -/
  | missingDate (kind : DateKind)
  | invalidTimezone (text : String)
  | invalidSort (fault : SortFault)
  | io (fault : FileFault)
  /-- A fault of a JSON document that is worded elsewhere, and what lies behind it. -/
  | json (reason : String) (sources : List String := [])
  /-- An error seen from further out. -/
  | within (context : String) (inner : Error)
  deriving Repr, DecidableEq

namespace Error

/-- The text shown for an error; of a wrapped one, its outermost context. -/
def message : Error → String
  | unsupported operation backend =>
    "Database type is not supported for " ++ operation.title ++ ": " ++ backend.name
  | settings fault => "Configuration error: " ++ fault.detail
  | unknownBackend fault => "Unknown database backend: " ++ fault.detail
  | unknownTenant identifier => "Unknown tenant: " ++ identifier
  | missingDate kind => "No " ++ kind.title ++ " bound to the current execution context"
  | invalidTimezone text => "Invalid timezone: " ++ text
  | invalidSort fault => "Invalid sort specification: " ++ fault.detail
  | io fault => "IO error: " ++ fault.detail
  | json reason _ => "JSON error: " ++ reason
  | within context _ => context

/-- The class of an error, whatever its contexts. -/
def code : Error → String
  | unsupported .. => "E_UNSUPPORTED_DIALECT_OPERATION"
  | settings _ => "E_CONFIGURATION"
  | unknownBackend _ => "E_UNKNOWN_BACKEND"
  | unknownTenant _ => "E_UNKNOWN_TENANT"
  | missingDate _ => "E_MISSING_BUSINESS_DATE"
  | invalidTimezone _ => "E_INVALID_TIMEZONE"
  | invalidSort _ => "E_INVALID_SORT"
  | io _ => "E_IO"
  | json .. => "E_JSON"
  | within _ inner => inner.code

/-- Whether the same request would fail again in the same deployment, whatever the contexts. -/
def isFatal : Error → Bool
  | unsupported .. | settings _ | unknownBackend _ | unknownTenant _ | missingDate _
  | invalidTimezone _ => true
  | invalidSort _ | io _ | json .. => false
  | within _ inner => inner.isFatal

/-- What lies behind the message, from the outside in. -/
def causes : Error → List String
  | io fault => fault.detail :: fault.sources
  | json reason sources => reason :: sources
  | within _ inner => inner.message :: inner.causes
  | _ => []

/-- The error wrapped in each context in turn; the last one ends up outermost. -/
def withContexts (error : Error) (contexts : List String) : Error :=
  contexts.foldl (fun inner context => within context inner) error

/-- A result whose error, if there is one, is seen from further out. -/
def seenFrom {α : Type} (context : String) (result : Except Error α) : Except Error α :=
  result.mapError (within context)

@[simp] theorem seenFrom_ok {α : Type} (context : String) (value : α) :
    seenFrom context (.ok value) = .ok value := rfl

@[simp] theorem seenFrom_error {α : Type} (context : String) (error : Error) :
    seenFrom context (.error error : Except Error α) = .error (within context error) := rfl

end Error

/-- The backend a person names. An unknown name is quoted in lower case. -/
def Backend.parse (text : String) : Except Error Backend :=
  match Backend.ofName? text with
  | some backend => .ok backend
  | none => .error (.unknownBackend (.name (Backend.plainName text)))

/-- The backend a connection URL leads to. -/
def Backend.ofUrl (url : String) : Except Error Backend :=
  match Backend.ofUrl? url with
  | some backend => .ok backend
  | none => .error (.unknownBackend (.scheme url))

end TenantSql
