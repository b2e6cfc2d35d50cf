import RtlFlow.Path
import RtlFlow.Duration

/-! # Errors

Every way in which building a project can fail, by the part that notices it, with one function for
the wording of each. A cause that comes from the machine or from the reader of a text format is
carried as text. -/

namespace RtlFlow

/-- **Errors of the source catalog.** -/
inductive CatalogError where
  /-- The file is registered already, with other attributes. -/
  | duplicateFile (path : Path) (library : String)
  /-- The library name of a file is blank. -/
  | emptyLibrary (path : Path)
  /-- A registered file does not exist. -/
  | missingSource (path : Path)
  deriving DecidableEq, Repr

/-- The wording of a catalog error. -/
def CatalogError.message : CatalogError → String
  | .duplicateFile path library =>
    "File '" ++ path.text ++ "' is already registered with conflicting attributes (library '" ++
      library ++ "')"
  | .emptyLibrary path => "Library name for '" ++ path.text ++ "' must not be empty"
  | .missingSource path => "Source file not found: " ++ path.text

/-- **Errors of dependency resolution.** -/
inductive ResolverError where
  /-- Libraries depend on each other. -/
  | cyclicDependency (libraries : List String)
  /-- A source could not be read. -/
  | missingSource (path : Path) (reason : String)
  /-- A pattern of the scanner is malformed. -/
  | invalidPattern (pattern reason : String)
  deriving DecidableEq, Repr

/-- The wording of a resolution error. -/
def ResolverError.message : ResolverError → String
  | .cyclicDependency libraries =>
    "Cyclic dependency between libraries: " ++ " -> ".intercalate libraries
  | .missingSource path reason =>
    "Failed to read source '" ++ path.text ++ "' for dependency scanning: " ++ reason
  | .invalidPattern pattern reason => "Invalid scanner pattern '" ++ pattern ++ "': " ++ reason

/-- **Why a stored cache cannot be trusted.** -/
inductive Corruption where
  /-- It has no schema version. -/
  | noVersion
  /-- It has another schema version than the expected one. -/
  | version (found expected : Nat)
  /-- It cannot be decoded. -/
  | undecodable (reason : String)
  deriving DecidableEq, Repr

/-- The wording of a corruption. -/
def Corruption.message : Corruption → String
  | .noVersion => "missing schema version"
  | .version found expected =>
    "schema version " ++ toString found ++ ", expected " ++ toString expected
  | .undecodable reason => reason

/-- **Errors of the build cache.** -/
inductive CacheError where
  /-- The stored cache cannot be trusted. -/
  | corrupt (path : Path) (why : Corruption)
  /-- The stored cache could not be read or written. -/
  | io (path : Path) (reason : String)
  deriving DecidableEq, Repr

/-- The wording of a cache error. -/
def CacheError.message : CacheError → String
  | .corrupt path why => "Cache at '" ++ path.text ++ "' is corrupt: " ++ why.message
  | .io path reason => "Cache IO error for '" ++ path.text ++ "': " ++ reason

/-- **Errors of running a tool.** -/
inductive ToolError where
  /-- The backend cannot pass on a generic of this kind. -/
  | unsupportedOverride (backend name kind : String)
  /-- The backend does not offer the operation. -/
  | unsupportedOperation (backend operation : String)
  /-- A program could not be started. -/
  | invocation (program reason : String)
  /-- A program ran longer than allowed. -/
  | timedOut (program : String) (after : Duration)
  /-- A program was stopped from outside. -/
  | cancelled (program : String)
  /-- A template needs a value that the request does not give. -/
  | missingValue (backend placeholder : String)
  /-- The program of a backend is not installed. -/
  | notInstalled (backend executable : String)
  /-- A script could not be written. -/
  | scriptWrite (path : Path) (reason : String)
  deriving DecidableEq, Repr

/-- The wording of a tool error. -/
def ToolError.message : ToolError → String
  | .unsupportedOverride backend name kind =>
    "Backend '" ++ backend ++ "' cannot express override '" ++ name ++ "' of type " ++ kind
  | .unsupportedOperation backend operation =>
    "Backend '" ++ backend ++ "' does not support " ++ operation
  | .invocation program reason => "Failed to start '" ++ program ++ "': " ++ reason
  | .timedOut program after =>
    "'" ++ program ++ "' timed out after " ++ after.inSeconds.positional ++ "s and was terminated"
  | .cancelled program => "'" ++ program ++ "' was cancelled"
  | .missingValue backend placeholder =>
    "Backend '" ++ backend ++ "' needs a value for '" ++ placeholder ++ "'"
  | .notInstalled backend executable =>
    "Backend '" ++ backend ++ "' is not installed: '" ++ executable ++ "' not found"
  | .scriptWrite path reason => "Failed to write script '" ++ path.text ++ "': " ++ reason

/-- **Errors of the archive.** -/
inductive ArchiveError where
  /-- A bundle could not be written. -/
  | write (path : Path) (reason : String)
  deriving DecidableEq, Repr

/-- The wording of an archive error. -/
def ArchiveError.message : ArchiveError → String
  | .write path reason => "Failed to write archive '" ++ path.text ++ "': " ++ reason

/-- **Errors of the settings.** -/
inductive ConfigError where
  /-- The settings file could not be read. -/
  | read (origin reason : String)
  /-- The settings are malformed. -/
  | parse (origin reason : String)
  /-- The pattern of a severity rule is malformed. -/
  | invalidRule (pattern reason : String)
  /-- A backend section cannot be used. -/
  | invalidBackend (backend message : String)
  deriving DecidableEq, Repr

/-- The wording of a settings error. -/
def ConfigError.message : ConfigError → String
  | .read origin reason => "Failed to read config file '" ++ origin ++ "': " ++ reason
  | .parse origin reason => "Failed to parse config file '" ++ origin ++ "': " ++ reason
  | .invalidRule pattern reason => "Invalid severity rule pattern '" ++ pattern ++ "': " ++ reason
  | .invalidBackend backend message => "Invalid backend '" ++ backend ++ "': " ++ message

/-- **Errors of file operations.** -/
inductive FilesystemError where
  /-- A directory could not be created. -/
  | createDir (path : Path) (reason : String)
  /-- A file could not be written. -/
  | writeFile (path : Path) (reason : String)
  /-- A file could not be copied. -/
  | copy (source target : Path) (reason : String)
  deriving DecidableEq, Repr

/-- The wording of a file error. -/
def FilesystemError.message : FilesystemError → String
  | .createDir path reason => "Failed to create directory '" ++ path.text ++ "': " ++ reason
  | .writeFile path reason => "Failed to write file '" ++ path.text ++ "': " ++ reason
  | .copy source target reason =>
    "Failed to copy '" ++ source.text ++ "' to '" ++ target.text ++ "': " ++ reason

/-- **Any error of a build.** -/
inductive BuildError where
  /-- An error of the catalog. -/
  | catalog (e : CatalogError)
  /-- An error of dependency resolution. -/
  | resolver (e : ResolverError)
  /-- An error of the cache. -/
  | cache (e : CacheError)
  /-- An error of running a tool. -/
  | tool (e : ToolError)
  /-- An error of the archive. -/
  | archive (e : ArchiveError)
  /-- An error of the settings. -/
  | config (e : ConfigError)
  /-- An error of a file operation. -/
  | filesystem (e : FilesystemError)
  /-- No backend has the name. -/
  | unknownBackend (name : String) (available : List String)
  /-- No backend is requested or configured for a role. -/
  | noBackend (role : String)
  /-- A target is not of the form `library.entity`. -/
  | invalidTarget (target : String)
  /-- The operation needs a target and has none. -/
  | missingTarget (operation : String)
  /-- The output of a tool was classified as a failure. -/
  | toolFailed (operation subject : String)
  deriving DecidableEq, Repr

/-- The wording of a build error. -/
def BuildError.message : BuildError → String
  | .catalog e => "Catalog error: " ++ e.message
  | .resolver e => "Resolver error: " ++ e.message
  | .cache e => "Cache error: " ++ e.message
  | .tool e => "Tool error: " ++ e.message
  | .archive e => "Archive error: " ++ e.message
  | .config e => "Config error: " ++ e.message
  | .filesystem e => "Filesystem error: " ++ e.message
  | .unknownBackend name available =>
    "No backend named '" ++ name ++ "'. Available: " ++ ", ".intercalate available
  | .noBackend role => "No " ++ role ++ " backend requested or configured"
  | .invalidTarget target => "Invalid target '" ++ target ++ "': expected 'library.entity'"
  | .missingTarget operation =>
    "Operation '" ++ operation ++ "' requires a 'library.entity' target"
  | .toolFailed operation subject => operation ++ " failed for '" ++ subject ++ "'"

end RtlFlow
