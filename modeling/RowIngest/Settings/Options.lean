import RowIngest.Check.Scalar
import RowIngest.Settings.CommandLine
import RowIngest.Text.Blank
import RowIngest.Text.Identifier
import RowIngest.Text.Lower
/-!
Settings that are given as options of a command line. An option has the name of its setting behind
two dashes; it may have more names, and names may have a start in common. How options are named
and read is given along with the settings, by names of its own. The last of equal options wins.
-/
namespace RowIngest.Settings

open CommandLine

/-- What options need to know of the values of a setting. -/
inductive Holds where
  | text
  | truth
  /-- Null is among the values. -/
  | nullable
  deriving DecidableEq

/-- What is given by a name, unless it is null. -/
def asked? (given : Fields) (name : String) : Option Value :=
  match Fields.get? given name with
  | some .null => none
  | v? => v?

def isAsked (given : Fields) (name : String) : Bool := (asked? given name).any Value.isTruthy

/-- Why there are no settings: there is a fault, or the program has to end with a status. -/
inductive Stop where
  | fault (f : Fault)
  | exit (status : Nat)

instance : MonadLift (Except Fault) (Except Stop) := ⟨(·.mapError .fault)⟩

/-- How options are named and read. -/
structure Options where
  given : Fields

namespace Options

/-- A number that is zero, or what counts as one. -/
def isZero : Value → Bool
  | .bool b => !b
  | .int n => n = 0
  | .float x => x.isZero
  | _ => false

/-- The text that stands for null, if it is a text. -/
def nullText (o : Options) : Value :=
  let asked (name : String) : Option Value := (asked? o.given name).filter Value.isTruthy
  let usual :=
    match asked? o.given "_cli_avoid_json" with
    | some (.bool true) => "None"
    | _ => "null"
  ((asked "_env_parse_none_str").or (asked "_cli_parse_none_str")).getD (.str usual)

/-- The case of options counts unless it is told plainly that it does not. -/
def isExact (o : Options) : Bool :=
  match asked? o.given "_case_sensitive" with
  | none | some (.bool false) => false
  | some _ => true

/-- Whether words of a name are joined by dashes. -/
def isDashed (o : Options) : Bool := (asked? o.given "_cli_kebab_case").any (!isZero ·)

def wrongType (message : String) : Fault := .ofForeign .wrongType message

/-- What stands twice in front of names. It has to be something that can be doubled. -/
def checkMark (o : Options) : Except Fault Value :=
  match (asked? o.given "_cli_flag_prefix_char").getD (.str "-") with
  | .obj _ => .error (wrongType "unsupported operand type(s) for *: 'dict' and 'int'")
  | v => .ok v

/-- The characters that names begin with. -/
def marksOf : Value → Except Fault (List Char)
  | .str text =>
    if text.isEmpty then .error (.ofForeign .missingItem "string index out of range")
    else .ok text.toList
  | v => .error (wrongType s!"argument of type '{v.typeName}' is not iterable")

/-- A start of names: identifiers with points between them. -/
def isStart (text : String) : Bool :=
  !text.startsWith "." && !text.endsWith "."
    && Text.isIdentifier (text.toList.filter (· ≠ '.'))

/-- What the names of options begin with. Something empty is no text, and still has a length. -/
def checkStart (o : Options) : Except Fault (Option String) :=
  match asked? o.given "_cli_prefix" with
  | none => .ok (some "")
  | some (.str text) =>
    if text.isEmpty then .ok (some "")
    else if isStart text then .ok (some (text ++ "."))
    else .error (.ofForeign .settings ("CLI settings source prefix is invalid: " ++ text))
  | some v =>
    if v.isTruthy then .error (.ofForeign .missingPart (lacking v "startswith"))
    else if v.isContainer then .ok none
    else .error (wrongType s!"object of type '{v.typeName}' has no len()")
where
  lacking (v : Value) (part : String) : String :=
    s!"'{v.typeName}' object has no attribute '{part}'"

/-- Checks what is given for single options. -/
def checkEach (o : Options) (start : Option String) : Checked Unit :=
  let bool (asked name : String) : Checked Unit :=
    match asked? o.given asked with
    | none => .valid ()
    | some v => ((Check.bool v).map fun _ => ()).within (.field name)
  let dashed : Checked Unit :=
    match asked? o.given "_cli_kebab_case" with
    | none | some (.str "all") | some (.str "no_enums") => .valid ()
    | some v =>
      match Check.bool v with
      | .issues is =>
        .issues (is.map (·.within (.field "bool"))
          ++ [⟨[.field "literal['all','no_enums']"], .notAmong "'all' or 'no_enums'"⟩])
      | _ => .valid ()
  let prefixed : Checked Unit :=
    match start with
    | some _ => .valid ()
    | none => .issues [⟨[.field "arg_prefix"], .notString⟩]
  (fun _ _ _ _ => ()) <$> prefixed <*> bool "_case_sensitive" "case_sensitive"
    <*> bool "_cli_hide_none_type" "hide_none_type" <*> dashed.within (.field "kebab_case")

/-- The name of an option with two dashes in front, or one if the name has one letter. -/
def marked (mark : List Char) (name : String) : String :=
  String.ofList ((mark ++ mark).take name.length) ++ name

def dashes (name : String) : String :=
  String.ofList (name.toList.map fun c => if c = '_' then '-' else c)

/-- More names for options, by the names they have. -/
def shortcuts (o : Options) : Except Fault Fields :=
  match (asked? o.given "_cli_shortcuts").filter Value.isTruthy with
  | none => .ok []
  | some (.obj fs) => .ok fs
  | some v => .error (.ofForeign .missingPart s!"'{v.typeName}' object has no attribute 'items'")

/-- The other names that are given for one. -/
def othersOf : Value → Except Fault (List Value)
  | .str name => .ok [.str name]
  | .list names => .ok names
  | .obj fields => .ok (fields.map fun (name, _) => .str name)
  | v => .error (wrongType s!"'{v.typeName}' object is not iterable")

/-- A name that is taken by an earlier option does not count. -/
def isFree (taken : List String) : Value → Bool
  | .str name => !taken.contains name
  | _ => true

/-- The names of an option, without what stands in front of them. -/
def namesOf (taken : List String) (name : String) (others : Fields) :
    Except Fault (List Value) :=
  others.foldlM
    (fun names (target, given) => do
      if names.any (fun | .str n => n = target | _ => false) then
        return names ++ (← othersOf given).filter (isFree taken)
      else return names)
    (if taken.contains name then [] else [.str name])

/-- The name of an option as it is written. -/
def written (mark : List Char) : Value → Except Fault String
  | .str name =>
    if name.isEmpty then .error (.ofForeign .missingItem "string index out of range")
    else .ok (marked mark name)
  | v => .error (wrongType s!"object of type '{v.typeName}' has no len()")

/-- With the names that turn a setting off. -/
def withOpposites (names : List String) : List String :=
  names.flatMap fun name =>
    if name.startsWith "--" then [name, "--no-" ++ String.ofList (name.toList.drop 2)] else [name]

def entryOf (o : Options) (setting : String) (holds : Holds) (names : List String) : Entry :=
  match holds, (asked? o.given "_cli_implicit_flags").filter Value.isTruthy with
  | .truth, some (.str "toggle") => ⟨names, .turn setting false⟩
  | .truth, some _ => ⟨withOpposites names, .turn setting true⟩
  | _, _ => ⟨names, .value setting⟩

/-- The options that ask for help. -/
def help (mark : List Char) : Entry :=
  let c := if mark.contains '-' then '-' else mark.headD '-'
  ⟨[String.ofList [c, 'h'], String.ofList [c, c] ++ "help"], .help⟩

/-- Options with the names that are taken. -/
structure Known where
  entries : List Entry
  taken : List String

/-- Adds the option of a setting. A name that another option has is refused, unless it is a name
that was given to that option, in which case there is none for the setting. -/
def add (o : Options) (mark : List Char) (start : String) (others : Fields) (known : Known)
    (setting : String) (holds : Holds) : Except Fault Known := do
  match holds, o.nullText with
  | .text, _ | .truth, _ | .nullable, .str _ => pure ()
  | .nullable, v =>
    if !isAsked o.given "_cli_hide_none_type" then
      throw (wrongType s!"sequence item 1: expected str instance, {v.typeName} found")
  let whole := start ++ setting
  let names ← namesOf known.taken (if o.isDashed then dashes whole else whole) others
  if names.isEmpty || known.taken.contains whole then return known
  let entry := o.entryOf setting holds (← names.mapM (written mark))
  let doubled := entry.names.filter fun name => known.entries.any (·.names.contains name)
  if !doubled.isEmpty then
    let plural := if doubled.length = 1 then "" else "s"
    throw (.ofForeign .badOption
      (s!"argument {entry.text}: conflicting option string{plural}: " ++ ", ".intercalate doubled))
  return ⟨known.entries ++ [entry], known.taken ++ names.filterMap fun
    | .str name => some name
    | _ => none⟩

/-- The options of the settings that there are. -/
def grammar (o : Options) (settings : List (String × Holds)) : Except Fault Grammar := do
  let mark ← o.checkMark
  let start ← o.checkStart
  let mark ← marksOf mark
  (o.checkEach start).toExcept
  let others ← o.shortcuts
  let known ← settings.foldlM
    (fun known (setting, holds) => o.add mark (start.getD "") others known setting holds)
    ⟨[help mark], []⟩
  return ⟨mark, known.entries⟩

/-- The words that options are found in, if they are given as a list. -/
def wordsOf : Value → Except Fault (List Value)
  | .null | .bool _ => .ok []
  | .list vs => .ok vs
  | v =>
    if isZero v then .ok []
    else .error (.ofForeign .settings
      s!"cli_parse_args must be a list or tuple of strings, received <class '{v.typeName}'>")

/-- A word as text; an empty one of any kind is an empty text. -/
def textOf : Value → Except Fault String
  | .str word => .ok word
  | v =>
    if v.isTruthy then
      .error (wrongType s!"expected string or bytes-like object, got '{v.typeName}'")
    else .ok ""

/-- The name of an option at the beginning of a word: one or two marks, and what is neither blank
nor an equals sign. -/
def nameIn? (mark : List Char) (cs : List Char) : Option (List Char) :=
  let behind (front : List Char) : Option (List Char) :=
    let name := (cs.drop front.length).takeWhile fun c => !Text.isBlank c && c ≠ '='
    if front.isPrefixOf cs && !name.isEmpty then some (front ++ name) else none
  (behind (mark ++ mark.drop (mark.length - 1))).or (behind mark)

/-- A word with the name of an option in lower case, if there is such an option. Whatever follows
a line break is lost then. -/
def lowered (g : Grammar) (word : String) : String :=
  match nameIn? g.marks word.toList with
  | none => word
  | some name =>
    let low := Text.lower (String.ofList name)
    if (g.find? low).isSome then
      low ++ String.ofList ((word.toList.drop name.length).takeWhile (· ≠ '\n'))
    else word

/-- Words with blanks between them, as they are shown; each of them has to be a text. -/
def shownWords (words : List Value) : Except Fault String :=
  match words.findIdx? fun | .str _ => false | _ => true with
  | some n =>
    let kind := (words.getD n .null).typeName
    .error (wrongType s!"sequence item {n}: expected str instance, {kind} found")
  | none => .ok (" ".intercalate (words.map Value.text))

/-- What is wrong with options ends the program, unless that is not wanted. -/
def stop (o : Options) (c : Complaint) : Stop :=
  let told (text : String) : Stop :=
    if ((asked? o.given "_cli_exit_on_error").map Value.isTruthy).getD true then .exit 2
    else .fault (.ofForeign .settings ("error parsing CLI: " ++ text))
  match c with
  | .help => .exit 0
  | .noValue e => told s!"argument {e.text}: expected one argument"
  | .ignored e text =>
    told (s!"argument {e.text}: ignored explicit argument " ++ Text.quoted (String.ofList text))
  | .unrecognized words =>
    match shownWords words with
    | .ok shown => told ("unrecognized arguments: " ++ shown)
    | .error f => .fault f

/-- The value of a setting that is given as an option. Null says nothing of it. -/
def valueOf? (o : Options) (v : Value) : Option Value :=
  match v, o.nullText with
  | .null, _ => none
  | .str text, .str null => some (if text = null then .null else .str text)
  | v, _ => some v

/-- The settings among the words. -/
def parse (o : Options) (g : Grammar) (given : Value) : Except Stop Fields := do
  let words ← wordsOf given
  let read ←
    if o.isExact then pure words
    else words.mapM fun word => do return Value.str (lowered g (← textOf word))
  let roles ← (g.roles read).mapError fun e => .fault (.foreign e)
  let (values, unknown) ← (g.assigned roles).mapError o.stop
  if !unknown.isEmpty && !isAsked o.given "_cli_ignore_unknown_args" then
    throw (o.stop (.unrecognized unknown))
  return (Fields.ofPairs values).filterMap fun (name, v) => (o.valueOf? v).map ((name, ·))

/-- The settings that are given as options. Without words to look for them in, nothing is asked
of the way they are named. -/
def settings (o : Options) (named : List (String × Holds)) : Except Stop Fields := do
  let some words := asked? o.given "_cli_parse_args" | return []
  o.parse (← o.grammar named) words

end Options

end RowIngest.Settings
