import RowIngest.Fault
import RowIngest.Text.Digit
/-!
Words of a command line, and the options among them. The value of an option stands behind an
equals sign, or right behind an option of one letter, or is the next word. Options of one letter
that have no value may stand together in a word. What is no part of an option is left over. Main
statement: the search for options goes over all words in their order.
-/
namespace RowIngest.Settings.CommandLine

/-- What an option is there for. -/
inductive Effect where
  /-- Gives a value to a setting. -/
  | value (setting : String)
  /-- Turns a setting on; if it turns `bothWays`, some of its names turn it off. -/
  | turn (setting : String) (bothWays : Bool)
  | help
  deriving DecidableEq

structure Entry where
  names : List String
  effect : Effect
  deriving DecidableEq

/-- The names of options, for messages. -/
def Entry.text (e : Entry) : String := "/".intercalate e.names

/-- The options that there are, and the characters that options begin with. -/
structure Grammar where
  marks : List Char
  entries : List Entry

/-- What an option does to a setting. -/
inductive Deed where
  | assign (setting : String) (value : Value)
  | help

/-- What follows the name of an option in the same word. -/
structure Attached where
  behindEquals : Bool
  text : List Char
  deriving DecidableEq

/-- What a word is to those who look for options. -/
inductive Role where
  | option (entry : Entry) (name : String) (attached : Option Attached)
  | unknown
  | plain
  deriving DecidableEq

inductive Complaint where
  | help
  | noValue (entry : Entry)
  | ignored (entry : Entry) (text : List Char)
  | unrecognized (words : List Value)

/-- Whether a text is a number with a minus sign: digits, and a point with digits behind it
perhaps. A line break may follow. -/
def isNegativeNumber (word : String) : Bool :=
  let hasDigits (cs : List Char) : Bool :=
    match cs.dropWhile Text.isDigit with
    | [] | ['\n'] => cs.head?.any Text.isDigit
    | _ => false
  match word.toList with
  | '-' :: cs =>
    hasDigits cs ||
      match cs.dropWhile Text.isDigit with
      | '.' :: fraction => hasDigits fraction
      | _ => false
  | _ => false

namespace Grammar

def isMark (g : Grammar) (c : Char) : Bool := g.marks.contains c

def find? (g : Grammar) (name : String) : Option Entry :=
  g.entries.find? (·.names.contains name)

/-- The option that a text is, with what follows it behind an equals sign or, if it has one
letter, right away. -/
def optionOf? (g : Grammar) (word : String) : Option (Entry × String × Option Attached) :=
  let cs := word.toList
  let name := String.ofList (cs.takeWhile (· ≠ '='))
  let letter := String.ofList (cs.take 2)
  match g.find? word, g.find? name, g.find? letter, cs.dropWhile (· ≠ '=') with
  | some e, _, _, _ => some (e, word, none)
  | none, some e, _, _ :: value => some (e, name, some ⟨true, value⟩)
  | none, _, some e, _ =>
    if (cs.drop 1).head?.any g.isMark then none else some (e, letter, some ⟨false, cs.drop 2⟩)
  | none, _, none, _ => none

/-- Whether words that look like negative numbers are options. -/
def hasNumbers (g : Grammar) : Bool := g.entries.any (·.names.any isNegativeNumber)

def roleOfText (g : Grammar) (word : String) : Role :=
  if word.length ≤ 1 || !word.toList.head?.any g.isMark then .plain
  else
    match g.optionOf? word with
    | some (e, name, attached) => .option e name attached
    | none =>
      if (isNegativeNumber word && !g.hasNumbers) || word.contains ' ' then .plain else .unknown

/-- The role of a word, told by what it begins with. A word that is no text is a plain one if it is
empty; an object has nothing in the first place. -/
def roleOf (g : Grammar) : Value → Except ForeignError Role
  | .str word => .ok (g.roleOfText word)
  | .list (.str first :: _) =>
    if first.toList.all g.isMark && first.length ≤ 1 then
      .error ⟨.wrongType, "unhashable type: 'list'"⟩
    else .ok .plain
  | .list (v :: _) =>
    .error ⟨.wrongType, s!"'in <string>' requires string as left operand, not {v.typeName}"⟩
  | .obj (_ :: _) => .error ⟨.missingPlace, "0"⟩
  | v =>
    if v.isTruthy then .error ⟨.wrongType, s!"'{v.typeName}' object is not subscriptable"⟩
    else .ok .plain

/-- Words with their roles. Behind a lone pair of dashes there are no more options. -/
def roles (g : Grammar) : List Value → Except ForeignError (List (Value × Role))
  | [] => .ok []
  | .str "--" :: rest => .ok ((.str "--", .unknown) :: rest.map ((·, .plain)))
  | word :: rest => do
    let role ← g.roleOf word
    return (word, role) :: (← roles g rest)

/-- No word is lost, and their order is kept. -/
theorem words_of_roles {g : Grammar} {words : List Value} {read : List (Value × Role)}
    (h : g.roles words = .ok read) : read.map (·.1) = words := by
  fun_induction roles g words generalizing read with
  | case1 => simp_all
  | case2 rest =>
    simp only [Except.ok.injEq] at h
    simp [← h, Function.comp_def]
  | case3 word rest _ ih =>
    cases hr : g.roleOf word with
    | error e => simp [hr, bind, Except.bind] at h
    | ok role =>
      cases hs : g.roles rest with
      | error e => simp [hr, hs, bind, Except.bind] at h
      | ok more =>
        simp only [hr, hs, bind, Except.bind, pure, Except.pure, Except.ok.injEq] at h
        simp [← h, ih hs]

end Grammar

/-- What the options in a word do, which of them waits for a value, and what is left over. -/
structure Parsed where
  deeds : List Deed
  waiting : Option Entry
  leftover : Option String

namespace Grammar

/-- What an option without a value does. -/
def deedOf (e : Entry) (name : String) : Option Deed :=
  match e.effect with
  | .value _ => none
  | .turn setting bothWays =>
    some (.assign setting (.bool (!(bothWays && name.startsWith "--no-"))))
  | .help => some .help

/-- An option with nothing behind it in its word. -/
def alone (e : Entry) (name : String) : Parsed :=
  match deedOf e name with
  | some deed => ⟨[deed], none, none⟩
  | none => ⟨[], some e, none⟩

/-- Reads what is behind the name of an option: its value, or more options of one letter. -/
def follow (g : Grammar) (e : Entry) (name : String) (behindEquals : Bool) :
    List Char → Except Complaint Parsed
  | [] =>
    match e.effect with
    | .value setting => .ok ⟨[.assign setting (.str "")], none, none⟩
    | _ => .error (.ignored e [])
  | c :: rest =>
    match e.effect, deedOf e name with
    | .value setting, _ => .ok ⟨[.assign setting (.str (String.ofList (c :: rest)))], none, none⟩
    | _, none => .error (.ignored e (c :: rest))
    | _, some deed =>
      if (name.toList.drop 1).head?.any g.isMark || behindEquals || g.isMark c then
        .error (.ignored e (c :: rest))
      else
        let next := String.ofList (name.toList.take 1 ++ [c])
        match g.find? next with
        | none => .ok ⟨[deed], none, some (next ++ String.ofList rest)⟩
        | some e =>
          let read : Except Complaint Parsed :=
            match rest with
            | [] => .ok (alone e next)
            | '=' :: value => follow g e next true value
            | d :: more => follow g e next false (d :: more)
          read.map fun p => { p with deeds := deed :: p.deeds }

/-- What stands in a word with an option. -/
def parsedOf (g : Grammar) (e : Entry) (name : String) :
    Option Attached → Except Complaint Parsed
  | none => .ok (alone e name)
  | some a => follow g e name a.behindEquals a.text

/-- The values that settings are given, as far as no help is asked for. -/
def assignments : List Deed → Except Complaint Fields
  | [] => .ok []
  | .help :: _ => .error .help
  | .assign setting value :: rest => (assignments rest).map ((setting, value) :: ·)

/-- The values that settings are given, and the words that are no part of an option. -/
def assigned (g : Grammar) : List (Value × Role) → Except Complaint (Fields × List Value)
  | [] => .ok ([], [])
  | (_, .option e name attached) :: rest => do
    let p ← g.parsedOf e name attached
    match p.waiting, rest with
    | none, rest =>
      let given ← assignments p.deeds
      let (values, unknown) ← assigned g rest
      return (given ++ values, (p.leftover.map Value.str).toList ++ unknown)
    | some e, (value, .plain) :: rest =>
      let given ← assignments p.deeds
      let (values, unknown) ← assigned g rest
      match e.effect with
      | .value setting => return (given ++ (setting, value) :: values, unknown)
      | _ => return (given ++ values, unknown)
    | some e, _ => throw (.noValue e)
  | (word, _) :: rest =>
    (assigned g rest).map fun (values, unknown) => (values, word :: unknown)

end Grammar

end RowIngest.Settings.CommandLine
