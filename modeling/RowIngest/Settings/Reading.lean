import RowIngest.Settings.Dotenv
import RowIngest.Settings.Files
import RowIngest.Settings.Options
/-!
How settings are found in variables. Variables come from the environment and from files of
variables; secrets are files of their own, named as the variables are. The names of variables may
have a start in common, and their case may count. How all that is, is given along with the
settings, by names of its own. Options are found in words that are given in the same way.
-/
namespace RowIngest.Settings

/-- Where settings may come from, besides the files of the working directory. -/
structure Sources where
  given : Fields
  environment : List (String × String)

namespace Sources

/-- A variable of the environment. Its name and its value are texts without null characters, and
the name is not empty and has no equals sign in it. -/
def checkVariable (name : String) (given : Value) : Except Fault String := do
  let .str value := given
    | throw (.ofForeign .wrongType s!"str expected, not {given.typeName}")
  if (name ++ value).contains (Char.ofNat 0) then
    throw (.ofForeign .wrongValue "embedded null byte")
  if name.contains '=' then throw (.ofForeign .wrongValue "illegal environment variable name")
  if name.isEmpty then throw (.ofForeign .system "[Errno 22] Invalid argument")
  return value

/-- Settings that are given, and those in an environment of the variables `around`. -/
def make (given around : Fields) : Except Fault Sources := do
  let environment ← around.mapM fun (name, v) => do return (name, ← checkVariable name v)
  return ⟨given, environment⟩

end Sources

/-- Whose names have the common start. -/
inductive Started where
  | everything
  | nothing
  deriving DecidableEq

/-- How variables are read. -/
structure Reading where
  /-- The files of variables; of those that set a variable the last one counts. -/
  files : Except Fault (List Value)
  charset : Except ForeignError Text.Charset
  /-- What the names of variables begin with, in front of the name of a setting. -/
  start : Value
  started : Started
  exactCase : Bool
  skipsEmpty : Bool
  /-- The text that stands for null. -/
  nullText : Option String
  /-- The directories of secrets; of those that have a secret the last one counts. -/
  secrets : Except Fault (List Value)
  options : Options

namespace Reading

/-- The values that stand for several paths, or the one that stands for one. -/
def several : Value → Except Fault (List Value)
  | .null => .ok []
  | .str text => .ok [.str text]
  | .list vs => .ok vs
  | .obj fields => .ok (fields.map fun (name, _) => .str name)
  | v => .error (.ofForeign .wrongType s!"'{v.typeName}' object is not iterable")

/-- The charset of files of variables, if there is one of that name. -/
def charsetOf : Value → Except ForeignError Text.Charset
  | .str name =>
    if name.contains (Char.ofNat 0) then .error ⟨.wrongValue, "embedded null character"⟩
    else
      match Text.Charset.ofName? name with
      | some charset => .ok charset
      | none =>
        .error ⟨.unknownName,
          if Text.Charset.isConversion name then
            s!"'{name}' is not a text encoding; use codecs.open() to handle arbitrary codecs"
          else "unknown encoding: " ++ name⟩
  | v => .error ⟨.wrongType,
      s!"open() argument 'encoding' must be str or None, not {v.typeName}"⟩

/-- The way of reading that is given along with the settings. -/
def ofFields (given : Fields) : Reading where
  files := ((Fields.get? given "_env_file").map several).getD (.ok [.str ".env"])
  charset := ((asked? given "_env_file_encoding").map charsetOf).getD (.ok (.utf8 false))
  start := (asked? given "_env_prefix").getD (.str "")
  started :=
    match asked? given "_env_prefix_target" with
    | none | some (.str "variable") | some (.str "all") => .everything
    | some _ => .nothing
  exactCase := isAsked given "_case_sensitive"
  skipsEmpty := isAsked given "_env_ignore_empty"
  nullText :=
    match asked? given "_env_parse_none_str" with
    | some (.str s) => some s
    | _ => none
  secrets := ((asked? given "_secrets_dir").map several).getD (.ok [])
  options := ⟨given⟩

/-- Parts of names are split off so often and no more; that takes a number. -/
def checkSplits (given : Fields) : Except Fault Unit :=
  match (asked? given "_env_nested_max_split").filter Value.isTruthy with
  | none | some (.int _) | some (.bool _) | some (.float _) => .ok ()
  | some v => .error (.ofForeign .wrongType
      s!"unsupported operand type(s) for -: '{v.typeName}' and 'int'")

/-- How many directories around the working directory are searched for files of variables that are
not there. Nothing is found in them, and still it has to be a whole number if there are any. -/
def checkDepth (given : Fields) : Except Fault Unit :=
  let stopLimit : Int := (Nat.pow 2 63 : Nat)
  let unlimited : Fault := .ofForeign .wrongValue
    "Stop argument for islice() must be None or an integer: 0 <= x <= sys.maxsize."
  match asked? given "_env_file_depth" with
  | none | some (.bool _) => .ok ()
  | some (.int n) => if n < stopLimit then .ok () else .error unlimited
  | some (.float x) => if x.isZero || (x.negative && !x.isNaN) then .ok () else .error unlimited
  | some v => .error (.ofForeign .wrongType
      s!"'<=' not supported between instances of '{v.typeName}' and 'int'")

/-- A start has a length, as texts and containers do. -/
def checkStart : Value → Except Fault Unit
  | .str _ | .list _ | .obj _ => .ok ()
  | v => .error (.ofForeign .wrongType s!"object of type '{v.typeName}' has no len()")

/-- The error of a setting that a source cannot be asked for. -/
def unreadable (setting source : String) : Fault :=
  .ofForeign .settings s!"error getting value for field \"{setting}\" from source \"{source}\""

/-- What names of variables begin with. It has to be text where it is put in front of names. -/
def startText (r : Reading) (firstSetting : String) : Except Fault String :=
  match r.started, r.start with
  | .nothing, _ => .ok ""
  | .everything, .str start => .ok start
  | .everything, _ => .error (unreadable firstSetting "EnvSettingsSource")

def plainName (r : Reading) (name : String) : String :=
  if r.exactCase then name else Text.lower name

/-- A path as it is given, with the home of the user in place of a tilde. -/
def pathOf (environment : List (String × String)) : Value → Except Fault FilePath
  | .str text =>
    ((FilePath.ofString text).expanded (Fields.get? environment "HOME")).mapError .foreign
  | v =>
    .error (.ofForeign .wrongType
      s!"expected str, bytes or os.PathLike object, not {v.typeName}")

/-- Variables by their plain names. The last of equal names wins, also if it has no value. -/
def byName (r : Reading) (assignments : List (String × Option String)) :
    List (String × Option String) :=
  let isRead (given : Option String) : Bool := !(r.skipsEmpty && given = some "")
  Fields.ofPairs ((assignments.filter fun (_, given) => isRead given).map
    fun (name, given) => (r.plainName name, given))

/-- The settings `names` among variables. -/
def settings (r : Reading) (start : String) (names : List String)
    (known : List (String × Option String)) : Fields :=
  let value (v : String) : Value := if r.nullText = some v then .null else .str v
  names.filterMap fun name =>
    match Fields.get? known (r.plainName (start ++ name)) with
    | some (some v) => some (name, value v)
    | _ => none

/-- The settings among the variables of files that begin with the start, although names do not
have it. A variable with the name of another one behind the start does not count. -/
def startedSettings (r : Reading) (names : List String)
    (known : List (String × Option String)) : Fields :=
  match r.started, r.start with
  | .nothing, .str start =>
    let start := r.plainName start
    known.foldl
      (fun found (name, given) =>
        let rest := String.ofList (name.toList.drop start.length)
        match given with
        | some v =>
          if v ≠ "" && start ≠ "" && name.startsWith start && !names.contains name
              && (Fields.get? found name).isNone then
            Fields.set found rest (.str v)
          else found
        | none => found)
      []
  | _, _ => []

/-- The variables of a file, if it is there. A byte order mark in front of them does not count. -/
def fileVariables (r : Reading) (sources : Sources) (files : Files) (given : Value) :
    Except Fault (List (String × Option String)) := do
  let environment := sources.environment
  let path ← pathOf environment given
  match files.find path with
  | .file bytes =>
    let text ← (Files.textIn (← r.charset.mapError .foreign) bytes).mapError .foreign
    let unmarked :=
      match text.toList with
      | c :: cs => if c = Char.ofNat 0xFEFF then cs else c :: cs
      | [] => []
    return Dotenv.assignments environment (String.ofList unmarked)
  | .tooLong => throw (.foreign (Files.tooLong path))
  | _ =>
    checkDepth sources.given
    return []

/-- The variables of every file. -/
def allVariables (r : Reading) (sources : Sources) (files : Files) :
    Except Fault (List (List (String × Option String))) := do
  (← r.files).mapM (r.fileVariables sources files)

/-- The directories of secrets that are there, given those that are named. -/
def secretPlaces (files : Files) : List FilePath → Except Fault (List (Option (List String)))
  | [] => .ok []
  | path :: rest =>
    match files.find path with
    | .tooLong => .error (.foreign (Files.tooLong path))
    | .directory place? => (secretPlaces files rest).map (place? :: ·)
    | .file _ =>
      (secretPlaces files rest).bind fun _ =>
        .error (.ofForeign .settings "secrets_dir must reference a directory, not a file")
    | _ => secretPlaces files rest

/-- The secret of a setting in a directory: the text of the file, without blanks around it. -/
def secret? (r : Reading) (files : Files) (start setting : String) (place : List String) :
    Except Fault (Option Value) :=
  let wanted := r.plainName (start ++ setting)
  match (files.namesIn place).find? fun name => r.plainName name = wanted with
  | none => .ok none
  | some name =>
    match files.bytesAt? (place ++ [name]) with
    | none => .ok none
    | some bytes =>
      match Files.textOf bytes with
      | .ok text => .ok (some (.str (Text.trim text)))
      | .error _ => .error (unreadable setting "SecretsSettingsSource")

/-- The first secret of a setting among directories. -/
def firstSecret? (r : Reading) (files : Files) (start setting : String) :
    List (Option (List String)) → Except Fault (Option Value)
  | [] => .ok none
  | none :: places => firstSecret? r files start setting places
  | some place :: places => do
    match ← r.secret? files start setting place with
    | some v => return some v
    | none => firstSecret? r files start setting places

/-- The settings `names` that are secrets. -/
def secretSettings (r : Reading) (environment : List (String × String)) (files : Files)
    (start : String) (names : List String) : Except Fault Fields := do
  let paths ← (← r.secrets).mapM (pathOf environment)
  let places ← secretPlaces files paths
  let found ← names.mapM fun name => do
    return ((← r.firstSecret? files start name places.reverse).map ((name, ·))).toList
  return found.flatten

/-- The settings among values that are given as such, in whichever case; the first of equal names
wins. -/
def direct (given : Fields) : Fields :=
  Fields.ofPairs (given.map fun (name, v) => (Text.lower name, v)).reverse

/-- Sources that are given as such, with what they are given for. None of them can be asked for
settings, so there have to be none. -/
def builtSettings (v : Value) : Except Fault Fields :=
  let wrongType (message : String) : Except Fault Fields := .error (.ofForeign .wrongType message)
  let parts? : Option (List Value) :=
    match v with
    | .str text => some (text.toList.map fun c => .str (String.singleton c))
    | .list vs => some vs
    | .obj fields => some (fields.map fun (name, _) => .str name)
    | _ => none
  match parts? with
  | none => wrongType s!"cannot unpack non-iterable {v.typeName} object"
  | some [sources, _] =>
    match sources with
    | .list (source :: _) => wrongType s!"'{source.typeName}' object is not callable"
    | .obj (_ :: _) => wrongType "'str' object is not callable"
    | .str text => if text.isEmpty then .ok [] else wrongType "'str' object is not callable"
    | v => if v.isTruthy then wrongType s!"'{v.typeName}' object is not iterable" else .ok []
  | some parts =>
    .error (.ofForeign .wrongValue (if parts.length < 2 then
      s!"not enough values to unpack (expected 2, got {parts.length})"
      else "too many values to unpack (expected 2)"))

/-- All settings that are found by their names. Options come before those that are given
otherwise, these before the environment, this before files of variables, and these before
secrets. -/
def collect (settings : List (String × Holds)) (sources : Sources) (files : Files) :
    Except Stop Fields := do
  if let some v := asked? sources.given "_build_sources" then return ← builtSettings v
  let names := settings.map (·.1)
  let r := ofFields sources.given
  checkSplits sources.given
  checkStart r.start
  let fromFiles ← r.allVariables sources files
  let chosen ← r.options.settings settings
  let start ← r.startText (names.headD "")
  let inFiles := Fields.ofPairs (fromFiles.map r.byName).flatten
  let around := r.byName (sources.environment.map fun (name, v) => (name, some v))
  let secrets ← r.secretSettings sources.environment files start names
  let started := (r.startedSettings names inFiles).filter fun (name, _) => names.contains name
  let layers := [r.settings start names inFiles, started,
    r.settings start names around, direct sources.given, chosen]
  return layers.foldl Fields.merge secrets

end Reading

end RowIngest.Settings
