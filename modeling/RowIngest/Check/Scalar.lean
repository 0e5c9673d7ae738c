import RowIngest.Check.Checked
import RowIngest.Json.Reader
import RowIngest.Text.Blank
/-!
Checking single values loosely: texts that spell a truth value or a number are taken for it,
whole numbers may be written with a fraction of zero, and truth values count as one and zero.
-/
namespace RowIngest.Check

/-- Where a value comes from: handed over as it is, or read from JSON text. -/
inductive Source where
  | handed
  | text
  deriving DecidableEq

def lowerAscii (s : String) : List Char := s.toList.map Char.toLower

def falseWords : List String := ["0", "off", "f", "false", "n", "no"]

def trueWords : List String := ["1", "on", "t", "true", "y", "yes"]

def boolOfWord? (s : String) : Option Bool :=
  let w := String.ofList (lowerAscii s)
  if falseWords.contains w then some false
  else if trueWords.contains w then some true
  else none

/-- The numbers of a signed word are below this one. -/
def wordLimit : Int := (Nat.pow 2 63 : Nat)

/-- Whole numbers outside this range are read from numbers with fraction no more. -/
def isSmall (n : Int) : Bool := -wordLimit < n && n < wordLimit

def boolOfInt (n : Int) : Checked Bool :=
  if n = 0 then .valid false else if n = 1 then .valid true else .issue .unreadableBool

def bool : Value → Checked Bool
  | .bool b => .valid b
  | .str s => ((boolOfWord? s).map .valid).getD (.issue .unreadableBool)
  | .int n => if isSmall n || n = -wordLimit then boolOfInt n else .issue .notBool
  | .float x =>
    match x.toInt? with
    | some n => if isSmall n then boolOfInt n else .issue .notBool
    | none => .issue .notBool
  | _ => .issue .notBool

def signed (cs : List Char) : Bool × List Char :=
  match cs with
  | '-' :: rest => (true, rest)
  | '+' :: rest => (false, rest)
  | _ => (false, cs)

/-- Drops underscores that stand one by one inside the text. -/
def withoutUnderscores? (cs : List Char) : Option (List Char) :=
  let doubled := (cs.zip cs.tail).any fun (a, b) => a == '_' && b == '_'
  if doubled || cs.head? = some '_' || cs.getLast? = some '_' then none
  else some (cs.filter (· ≠ '_'))

/-- A whole number in its plain form: a minus sign if need be, and digits of which the first
is zero only if it is the only one. -/
def plainInteger (cs : List Char) : Except Complaint Int :=
  let (negative, body) : Bool × List Char :=
    match cs with
    | '-' :: rest => (true, rest)
    | _ => (false, cs)
  match Json.wholePart? body with
  | none => .error .unreadableInteger
  | some (digits, rest) =>
    if digits.length > Json.integerDigitLimit then .error .hugeInteger
    else if !rest.isEmpty then .error .unreadableInteger
    else
      let n : Int := Json.natOfAscii digits
      .ok (if negative then -n else n)

/-- The text behind zeros and underscores, the last of which is `before`. It begins with the
first digit that counts, with a minus sign, or with the character before a point. -/
def behindZeros? (before : Char) : List Char → Option (List Char)
  | [] => some [before]
  | c :: rest =>
    if c = '0' || c = '_' then behindZeros? c rest
    else if c.isDigit || c = '-' then some (c :: rest)
    else if c = '.' then some (before :: c :: rest)
    else none

def withoutLeadingZeros? : List Char → Option (List Char)
  | [] => none
  | c :: rest =>
    if c = '0' then behindZeros? c rest
    else if c.isDigit || c = '-' then some (c :: rest)
    else none

/-- Drops a fraction of zeros. -/
def withoutZeroFraction (cs : List Char) : List Char :=
  match cs.dropWhile (· ≠ '.') with
  | _ :: zero :: zeros => if (zero :: zeros).all (· == '0') then cs.takeWhile (· ≠ '.') else cs
  | _ => cs

/-- A number without what may adorn it: blanks around it, a plus sign, zeros at the front, a
fraction of zeros, and underscores between its digits. A minus sign in front of all that is
kept. -/
def unadorned? (cs : List Char) : Option (List Char) := do
  let (sign, unsigned) : List Char × List Char ←
    match Text.trimChars Text.isWhiteSpace cs with
    | '+' :: '-' :: _ => none
    | '+' :: rest => some ([], rest)
    | '-' :: rest => some (['-'], rest)
    | trimmed => some ([], trimmed)
  let bare := withoutZeroFraction (← withoutLeadingZeros? unsigned)
  return sign ++ (withoutUnderscores? bare).getD bare

/-- A whole number in text. If it is too long in its plain form that is said; adorned, it is
then taken for something else. -/
def integerOfText (s : String) : Checked Int :=
  match plainInteger s.toList with
  | .ok n => .valid n
  | .error .hugeInteger => .issue .hugeInteger
  | .error _ =>
    match (unadorned? s.toList).map plainInteger with
    | some (.ok n) => .valid n
    | _ => .issue .unreadableInteger

def integer : Value → Checked Int
  | .int n => .valid n
  | .bool b => .valid (if b then 1 else 0)
  | .str s => integerOfText s
  | .float x =>
    if !x.isFinite then .issue .notFinite
    else
      match x.toInt? with
      | some n => if isSmall n then .valid n else .issue .hugeInteger
      | none => .issue .fraction
  | _ => .issue .notInteger

def natAtLeast (bound : Nat) (v : Value) : Checked Nat :=
  (integer v).andThen fun n => if n < bound then .issue (.below bound) else .valid n.toNat

/-- A decimal number in text: digits on one side of a point at least, and an exponent. -/
def decimalOfText? (negative : Bool) (cs : List Char) : Option Binary64 :=
  let whole := cs.takeWhile Char.isDigit
  let afterWhole := cs.dropWhile Char.isDigit
  let (fraction, afterFraction) : List Char × List Char :=
    match afterWhole with
    | '.' :: rest => (rest.takeWhile Char.isDigit, rest.dropWhile Char.isDigit)
    | rest => ([], rest)
  if whole.isEmpty && fraction.isEmpty then none
  else
    let mantissa := Json.natOfAscii (whole ++ fraction)
    match afterFraction with
    | [] => some (.ofDecimal negative mantissa (-fraction.length))
    | rest =>
      match Json.exponentPart? rest with
      | some (exponent, []) => some (.ofDecimal negative mantissa (exponent - fraction.length))
      | _ => none

def numberOfChars? (cs : List Char) : Option Binary64 :=
  let (negative, body) := signed cs
  let word := body.map Char.toLower
  if word = "inf".toList || word = "infinity".toList then some (.infinity negative)
  else if word = "nan".toList then some .nan
  else decimalOfText? negative body

def numberOfText (s : String) : Checked Binary64 :=
  match numberOfChars? (Text.trimChars Text.isWhiteSpace s.toList) with
  | some x => .valid x
  | none =>
    match (withoutUnderscores? s.toList).bind numberOfChars? with
    | some x => .valid x
    | none => .issue .unreadableNumber

def number : Value → Checked Binary64
  | .float x => .valid x
  | .int n => ((Binary64.ofInt? n).map .valid).getD (.issue .notNumber)
  | .bool b => .valid (if b then .ofDecimal false 1 0 else .zero)
  | .str s => numberOfText s
  | _ => .issue .notNumber

def nonnegative (v : Value) : Checked Binary64 :=
  (number v).andThen fun x => if x.isNonnegative then .valid x else .issue (.below 0)

def string : Value → Checked String
  | .str s => .valid s
  | _ => .issue .notString

def nonemptyString (v : Value) : Checked String :=
  (string v).andThen fun s => if s.isEmpty then .issue .shortString else .valid s

/-- A text that has to be one of several. -/
def among {α : Type} (choices : List (String × α)) (shown : String) : Value → Checked α
  | .str s => ((Fields.get? choices s).map .valid).getD (.issue (.notAmong shown))
  | _ => .issue (.notAmong shown)

/-- The items of a list, each checked. -/
def list {α : Type} (source : Source) (check : Value → Checked α) : Value → Checked (List α)
  | .list vs => Checked.items check 0 vs
  | _ => .issue (if source = .text then .notArray else .notList)

def nonemptyList {α : Type} (source : Source) (check : Value → Checked α) (v : Value) :
    Checked (List α) :=
  (list source check v).andThen fun as => if as.isEmpty then .issue .emptyList else .valid as

/-- The fields of an object that stands for a model. -/
def model (source : Source) (name : String) : Value → Checked Fields
  | .obj fs => .valid fs
  | _ => .issue (if source = .text then .notObject else .notModel name)

def required {α : Type} (fs : Fields) (name : String) (check : Value → Checked α) : Checked α :=
  (((Fields.get? fs name).map check).getD (.issue .missing)).within (.field name)

def optional {α : Type} (fs : Fields) (name : String) (fallback : α)
    (check : Value → Checked α) : Checked α :=
  (((Fields.get? fs name).map check).getD (.valid fallback)).within (.field name)

end RowIngest.Check
