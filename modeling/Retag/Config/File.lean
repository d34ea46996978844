import Retag.Config.OfValue
import Retag.Log.Event

/-!
# Configurations from files

`Runtime.load` reads the configuration of a YAML file. Without a path, or where
there is no such file, the default configuration holds. A file must hold a
mapping with a supported version.
-/

namespace Retag

open Log

/-- The files that a configuration may be read from, by paths relative to one
directory. -/
structure FileSystem where
  files : List (String × List UInt8)
  directories : List String
  /-- The paths that may not be opened. -/
  unreadable : List String

namespace FileSystem

/-- The home directory of the user. -/
def home : String := "home"

/-- A path whose leading tilde stands for the home directory. The homes of other
users are not known. -/
def expandHome (path : String) : String :=
  match path.toList with
  | ['~'] => home
  | '~' :: '/' :: rest => home ++ "/" ++ String.ofList rest
  | _ => path

/-- The names of a path, one for each step. -/
def steps (path : String) : List String := path.splitOn "/"

/-- Whether names lead to a directory. -/
def isDirectory (fs : FileSystem) (names : List String) : Bool :=
  names.isEmpty
    || fs.directories.any (fun path => names.isPrefixOf (steps path))
    || fs.files.any fun file =>
      names.isPrefixOf (steps file.1) && names.length < (steps file.1).length

/-- Walks along a path, from the directory that some names lead to. -/
def walk (fs : FileSystem) : List String → List String → Option (List String)
  | here, [] => some here
  | here, step :: rest =>
    if !fs.isDirectory here then none
    else if step == "" || step == "." then fs.walk here rest
    else if step == ".." then
      (if here.isEmpty then none else fs.walk here.dropLast rest)
    else fs.walk (here ++ [step]) rest

/-- The contents of the file at a path. -/
def file? (fs : FileSystem) (path : String) : Option (List UInt8) :=
  if path.isEmpty || path.startsWith "/" then none
  else do
    let names ← fs.walk [] (steps path)
    (← fs.files.find? fun file => steps file.1 == names).2

end FileSystem

/-- The event of a loaded configuration. -/
def Config.loadedEvent (config : Config) (path : String) : Event :=
  ⟨.info, "Config loaded",
    [("path", .text path), ("version", config.version),
      ("two_tier", .bool config.markers.isTwoTier),
      ("native", .bool config.markers.isNative)]⟩

namespace Runtime

variable (rt : Runtime)

/-- Refuses a version. -/
def refuseVersion (version : Value) : Except Failure Config := do
  throw (.config (.unsupportedVersion (← rt.printed version)))

/-- The configuration of a value from a file. -/
def ofDocument (document : Value) (path : String) : Except Failure Config :=
  match document.untied with
  | .dict entries =>
    match Value.field? entries "version" with
    | none | some .none => .error (.config (.noVersion path))
    | some (.int n) =>
      if n == Config.supportedVersion then rt.ofValue document (some path)
      else rt.refuseVersion (.int n)
    | some version => rt.refuseVersion version
  | .none => .error (.config (.noVersion path))
  | _ => .error (.config (.notMapping path))

/-- The configuration of a file's contents. -/
def ofFile (bytes : List UInt8) (path : String) : Except Failure Config :=
  match rt.document bytes with
  | .ok document => rt.ofDocument document path
  | .error (.yaml .malformed) => .error (.config (.unparsable path))
  | .error failure => .error failure

/-- Reads the configuration of a file, with the events of doing so. -/
def load (fs : FileSystem) (path : Option String) :
    Except Failure (Config × List Event) :=
  match path with
  | none =>
    .ok (.default, [⟨.debug, "No config path given: using native delimiters", []⟩])
  | some path => do
    let path := FileSystem.expandHome path
    match fs.file? path with
    | none =>
      return (.default,
        [⟨.info, "Config file not found: using native delimiters",
          [("path", .text path)]⟩])
    | some bytes =>
      if fs.unreadable.contains path then throw (.config (.unreadable path))
      let config ← rt.ofFile bytes path
      return (config,
        [⟨.debug, "Loading config", [("path", .text path)]⟩,
          config.loadedEvent path])

end Runtime

/-- Reads the configuration of a file, with the standard runtime. -/
def Config.load (fs : FileSystem) (path : Option String) :
    Except Failure (Config × List Event) :=
  Runtime.standard.load fs path

end Retag
