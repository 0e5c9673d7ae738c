import RowIngest.Text.Blank
import RowIngest.Value
/-!
Files of variables, one assignment a line. A value may stand in single or double quotes and
then run over several lines; outside quotes a comment ends it. Values may refer to variables
of earlier lines and of the environment. A line that cannot be read is passed over, and so is
a name without a value. Main statement: expanding a value that refers to no variable leaves
it as it is.
-/
namespace RowIngest.Dotenv

open Text

/-- A blank within a line. -/
def isGap (c : Char) : Bool := isBlank c && c != '\n'

def skipGap (cs : List Char) : List Char := cs.dropWhile isGap

/-- What reading yields, with the text after it; or the text from where it cannot be read. -/
abbrev Scan (α : Type) := Except (List Char) (α × List Char)

def afterExport (cs : List Char) : List Char :=
  match "export".toList.isPrefixOf cs, cs.drop 6 with
  | true, c :: rest => if isGap c then skipGap rest else cs
  | _, _ => cs

def isNameChar (c : Char) : Bool := c != '=' && c != '#' && !isBlank c

/-- The name of a variable; a comment has none. -/
def name (cs : List Char) : Scan (Option String) :=
  match cs with
  | '#' :: _ => .ok (none, cs)
  | '\'' :: rest =>
    match rest.takeWhile (· != '\''), rest.dropWhile (· != '\'') with
    | c :: inside, _ :: after => .ok (some (String.ofList (c :: inside)), after)
    | _, _ => .error cs
  | _ =>
    match cs.takeWhile isNameChar with
    | [] => .error cs
    | c :: more => .ok (some (String.ofList (c :: more)), cs.dropWhile isNameChar)

/-- The text up to the closing quote. A backslash and the character behind it stay together,
so that such a quote does not close. -/
def quotedBody (quote : Char) : List Char → Option (List Char × List Char)
  | [] => none
  | '\\' :: c :: rest =>
    (quotedBody quote rest).map fun (body, after) => ('\\' :: c :: body, after)
  | c :: rest =>
    if c = quote then some ([], rest)
    else (quotedBody quote rest).map fun (body, after) => (c :: body, after)

def singleEscapes : List (Char × Char) := [('\\', '\\'), ('\'', '\'')]

def doubleEscapes : List (Char × Char) :=
  [('\\', '\\'), ('\'', '\''), ('"', '"'), ('a', '\x07'), ('b', '\x08'), ('f', '\x0c'),
   ('n', '\n'), ('r', '\r'), ('t', '\t'), ('v', '\x0b')]

def unescape (escapes : List (Char × Char)) : List Char → List Char
  | [] => []
  | '\\' :: c :: rest =>
    match escapes.find? (·.1 == c) with
    | some (_, meant) => meant :: unescape escapes rest
    | none => '\\' :: unescape escapes (c :: rest)
  | c :: rest => c :: unescape escapes rest

/-- Drops a comment, which begins with blanks and a hash sign. -/
def withoutComment : List Char → List Char
  | [] => []
  | c :: rest =>
    if isBlank c && (rest.dropWhile isBlank).head? == some '#' then []
    else c :: withoutComment rest

/-- The value behind an equals sign. Without quotes it goes on to the end of the line; a comment
may also begin right behind the blanks at its front. -/
def value (cs : List Char) : Scan String :=
  let quoted (quote : Char) (escapes : List (Char × Char)) (rest : List Char) : Scan String :=
    match quotedBody quote rest with
    | some (body, after) => .ok (String.ofList (unescape escapes body), after)
    | none => .error cs
  match skipGap cs with
  | '\'' :: rest => quoted '\'' singleEscapes rest
  | '"' :: rest => quoted '"' doubleEscapes rest
  | _ =>
    let line := cs.takeWhile (· != '\n')
    .ok (String.ofList (trimChars isBlank (withoutComment line)), cs.dropWhile (· != '\n'))

def skipComment (cs : List Char) : List Char :=
  match skipGap cs with
  | '#' :: rest => rest.dropWhile (· != '\n')
  | _ => cs

/-- The text of the next line, if nothing is left on this one. -/
def lineEnd (cs : List Char) : Except (List Char) (List Char) :=
  match skipGap cs with
  | [] => .ok []
  | '\n' :: rest => .ok rest
  | _ => .error cs

/-- A name with its value, if it has one. -/
abbrev Binding := String × Option String

def binding (cs : List Char) : Except (List Char) (Option Binding × List Char) := do
  let (name, afterName) ← name (afterExport cs)
  let rest := skipGap afterName
  let (given, rest) : Option String × List Char ←
    match rest with
    | '=' :: rest => do
      let (v, after) ← value rest
      pure (some v, after)
    | _ => pure (none, rest)
  let next ← lineEnd (skipComment rest)
  return (name.map fun n => (n, given), next)

/-- The bindings of a text. Every round reads a line at least, so that there are no more
rounds than characters. -/
def bindingsFor : Nat → List Char → List Binding
  | 0, _ => []
  | fuel + 1, cs =>
    match cs.dropWhile isBlank with
    | [] => []
    | cs =>
      match binding cs with
      | .ok (some b, rest) => b :: bindingsFor fuel rest
      | .ok (none, rest) => bindingsFor fuel rest
      | .error rest => bindingsFor fuel ((rest.dropWhile (· != '\n')).drop 1)

def bindings (text : String) : List Binding := bindingsFor text.length text.toList

/-- A reference to a variable, behind its opening brace: the name, what stands for it where
it is not set, and the text after the closing brace. -/
def reference? (cs : List Char) : Option (String × Option String × List Char) :=
  let isInName (c : Char) : Bool := c != '\x7d' && c != ':'
  let name := String.ofList (cs.takeWhile isInName)
  match cs.dropWhile isInName with
  | '\x7d' :: rest => some (name, none, rest)
  | ':' :: '-' :: rest =>
    match rest.dropWhile (· != '\x7d') with
    | _ :: after => some (name, some (String.ofList (rest.takeWhile (· != '\x7d'))), after)
    | [] => none
  | _ => none

theorem length_of_reference? {cs rest : List Char} {name : String} {fallback : Option String}
    (h : reference? cs = some (name, fallback, rest)) : rest.length < cs.length := by
  have shorter (p : Char → Bool) (xs : List Char) : (xs.dropWhile p).length ≤ xs.length :=
    (List.dropWhile_suffix p).length_le
  unfold reference? at h
  dsimp only at h
  split at h
  · rename_i r e
    have := shorter (fun c => c != '\x7d' && c != ':') cs
    rw [e] at this
    simp only [Option.some.injEq, Prod.mk.injEq] at h
    simp only [List.length_cons] at this
    rw [← h.2.2]
    omega
  · rename_i r e
    have outer := shorter (fun c => c != '\x7d' && c != ':') cs
    rw [e] at outer
    split at h
    · rename_i c after e'
      have inner := shorter (fun c => c != '\x7d') r
      rw [e'] at inner
      simp only [Option.some.injEq, Prod.mk.injEq] at h
      simp only [List.length_cons] at inner outer
      rw [← h.2.2]
      omega
    · simp at h
  · simp at h

/-- Puts the values of variables in the place of references to them. `lookup` tells whether a
variable is known, and its value if it has one. -/
def expand (lookup : String → Option (Option String)) (cs : List Char) : List Char :=
  match cs with
  | [] => []
  | '$' :: '\x7b' :: rest =>
    match h : reference? rest with
    | some (name, fallback, after) =>
      have := length_of_reference? h
      let v := (lookup name).getD (some (fallback.getD ""))
      (v.getD "").toList ++ expand lookup after
    | none => '$' :: expand lookup ('\x7b' :: rest)
  | c :: rest => c :: expand lookup rest
termination_by cs.length
decreasing_by all_goals simp_wf <;> omega

theorem expand_eq_self {lookup : String → Option (Option String)} {cs : List Char}
    (h : '$' ∉ cs) : expand lookup cs = cs := by
  fun_induction expand lookup cs <;> simp_all

/-- The variables of a file. A variable that is set twice keeps its first place and its last
value. Earlier lines come before the environment. -/
def assignments (environment : List (String × String)) (text : String) :
    List (String × Option String) :=
  (bindings text).foldl
    (fun known (name, given) =>
      let lookup (n : String) : Option (Option String) :=
        (Fields.get? known n).or ((Fields.get? environment n).map some)
      Fields.set known name (given.map fun v => String.ofList (expand lookup v.toList)))
    []

end RowIngest.Dotenv
