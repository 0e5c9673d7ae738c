/-!
Issues: what is wrong with a loosely typed value, and where in it.
-/
namespace RowIngest.Check

/-- A step into a value: a field of an object or an item of a list. -/
inductive Place where
  | field (name : String)
  | item (position : Nat)
  deriving DecidableEq

def Place.text : Place → String
  | .field name => name
  | .item position => toString position

inductive Complaint where
  | missing
  | notBool
  | unreadableBool
  | notInteger
  | unreadableInteger
  | fraction
  | notFinite
  | hugeInteger
  | notNumber
  | unreadableNumber
  | below (bound : Nat)
  | notString
  | shortString
  | notAmong (choices : String)
  | notList
  | notArray
  | emptyList
  | notModel (model : String)
  | notObject
  | notFields
  | notDictionary
  | notPath
  | refused (reason : String)
  | badJson
  | notJsonText
  deriving DecidableEq

namespace Complaint

/-- The short name of a complaint, for programs. -/
def tag : Complaint → String
  | .missing => "missing"
  | .notBool => "bool_type"
  | .unreadableBool => "bool_parsing"
  | .notInteger => "int_type"
  | .unreadableInteger => "int_parsing"
  | .fraction => "int_from_float"
  | .notFinite => "finite_number"
  | .hugeInteger => "int_parsing_size"
  | .notNumber => "float_type"
  | .unreadableNumber => "float_parsing"
  | .below _ => "greater_than_equal"
  | .notString => "string_type"
  | .shortString => "string_too_short"
  | .notAmong _ => "literal_error"
  | .notList | .notArray => "list_type"
  | .emptyList => "too_short"
  | .notModel _ | .notObject => "model_type"
  | .notFields => "model_attributes_type"
  | .notDictionary => "dict_type"
  | .notPath => "path_type"
  | .refused _ => "value_error"
  | .badJson => "json_invalid"
  | .notJsonText => "json_type"

/-- The complaint in words. -/
def message : Complaint → String
  | .missing => "Field required"
  | .notBool => "Input should be a valid boolean"
  | .unreadableBool => "Input should be a valid boolean, unable to interpret input"
  | .notInteger => "Input should be a valid integer"
  | .unreadableInteger => "Input should be a valid integer, unable to parse string as an integer"
  | .fraction => "Input should be a valid integer, got a number with a fractional part"
  | .notFinite => "Input should be a finite number"
  | .hugeInteger => "Unable to parse input string as an integer, exceeded maximum size"
  | .notNumber => "Input should be a valid number"
  | .unreadableNumber => "Input should be a valid number, unable to parse string as a number"
  | .below bound => s!"Input should be greater than or equal to {bound}"
  | .notString => "Input should be a valid string"
  | .shortString => "String should have at least 1 character"
  | .notAmong choices => s!"Input should be {choices}"
  | .notList => "Input should be a valid list"
  | .notArray => "Input should be a valid array"
  | .emptyList => "List should have at least 1 item after validation, not 0"
  | .notModel model => s!"Input should be a valid dictionary or instance of {model}"
  | .notObject => "Input should be an object"
  | .notFields => "Input should be a valid dictionary or object to extract fields from"
  | .notDictionary => "Input should be a valid dictionary"
  | .notPath => "Input is not a valid path for <class 'pathlib.Path'>"
  | .refused reason => s!"Value error, {reason}"
  | .badJson => "JSON decode error"
  | .notJsonText => "JSON input should be string, bytes or bytearray"

end Complaint

structure Issue where
  place : List Place
  complaint : Complaint
  deriving DecidableEq

namespace Issue

def within (p : Place) (i : Issue) : Issue := { i with place := p :: i.place }

def placeText (sep : String) (i : Issue) : String :=
  sep.intercalate (i.place.map Place.text)

end Issue

end RowIngest.Check
