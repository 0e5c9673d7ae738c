import RowIngest.Mapping.Field
import RowIngest.Mapping.Index
/-!
Mappings as they are kept in files: JSON text with a list of fields and a list of indexes.
-/
namespace RowIngest

structure Mapping where
  fields : List FieldMapping
  indexes : List IndexChange

namespace Mapping

def checkFields (source : Check.Source) (fs : Fields) : Checked Mapping :=
  Mapping.mk <$> Check.optional fs "fields" [] (Check.list source (FieldMapping.check source))
    <*> Check.optional fs "indexes" [] (Check.list source (IndexChange.check source))

/-- Reads a mapping from JSON text. -/
def ofText (text : String) : Checked Mapping :=
  match Json.readWith .strict text with
  | .ok v => (Check.model .text "MappingFile" v).andThen (checkFields .text)
  | .error _ => .issue .badJson

/-- Reads a mapping from a value that should be JSON text. -/
def ofValue : Value → Checked Mapping
  | .str text => ofText text
  | _ => .issue .notJsonText

end Mapping

end RowIngest
