import RtlFlow.Error

/-! # Kinds of errors

The names under which reports list errors: the part that noticed the error and what went wrong. -/

namespace RtlFlow

/-- The kind of a catalog error. -/
def CatalogError.kind : CatalogError → String
  | .duplicateFile .. => "DuplicateFile"
  | .emptyLibrary .. => "EmptyLibrary"
  | .missingSource .. => "MissingSource"

/-- The kind of a resolution error. -/
def ResolverError.kind : ResolverError → String
  | .cyclicDependency .. => "CyclicDependency"
  | .missingSource .. => "MissingSource"
  | .invalidPattern .. => "InvalidPattern"

/-- The kind of a cache error. -/
def CacheError.kind : CacheError → String
  | .corrupt .. => "Corrupt"
  | .io .. => "Io"

/-- The kind of a tool error. -/
def ToolError.kind : ToolError → String
  | .unsupportedOverride .. => "UnsupportedOverride"
  | .unsupportedOperation .. => "UnsupportedOperation"
  | .invocation .. => "Invocation"
  | .timedOut .. => "TimedOut"
  | .cancelled .. => "Cancelled"
  | .missingValue .. => "MissingValue"
  | .notInstalled .. => "ToolNotInstalled"
  | .scriptWrite .. => "ScriptWrite"

/-- The kind of a settings error. -/
def ConfigError.kind : ConfigError → String
  | .read .. => "Read"
  | .parse .. => "Parse"
  | .invalidRule .. => "InvalidRule"
  | .invalidBackend .. => "InvalidBackend"

/-- The kind of a file error. -/
def FilesystemError.kind : FilesystemError → String
  | .createDir .. => "CreateDir"
  | .writeFile .. => "WriteFile"
  | .copy .. => "Copy"

/-- **The kind of an error.** -/
def BuildError.kind : BuildError → String
  | .catalog e => "CatalogError." ++ e.kind
  | .resolver e => "ResolverError." ++ e.kind
  | .cache e => "CacheError." ++ e.kind
  | .tool e => "ToolError." ++ e.kind
  | .archive _ => "ArchiveError.Write"
  | .config e => "ConfigError." ++ e.kind
  | .filesystem e => "FilesystemError." ++ e.kind
  | .unknownBackend .. => "UnknownBackend"
  | .noBackend .. => "NoBackend"
  | .invalidTarget .. => "InvalidTarget"
  | .missingTarget .. => "MissingTarget"
  | .toolFailed .. => "ToolFailed"

/-- **The wording of an error without the part that noticed it**, where the kind tells the part. -/
def BuildError.detail : BuildError → String
  | .catalog e => e.message
  | .resolver e => e.message
  | .cache e => e.message
  | .tool e => e.message
  | .archive e => e.message
  | .config e => e.message
  | .filesystem e => e.message
  | e => e.message

end RtlFlow
