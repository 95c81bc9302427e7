
/-!
# JSON values

The value type of a JSON parser, with the accessors used on untyped documents:
field access on anything but an object, text access on anything but a string, and
integer access on anything but an integer, give nothing.  An object is a list of fields; access takes the first
field of a name.
-/

namespace Cfwdon.Library

/-- A JSON value.  A number is kept as its literal. -/
inductive Json where
  | null
  | bool (value : Bool)
  | number (literal : String)
  | string (value : String)
  | array (values : List Json)
  | object (fields : List (String × Json))

namespace Json

/-- The field of an object. -/
def get (key : String) : Json → Option Json
  | .object fields => fields.lookup key
  | _ => none

def asStr : Json → Option String
  | .string value => some value
  | _ => none

/-- The integer of a number that is written as one and fits `i64`. -/
def asI64 : Json → Option Int
  | .number literal =>
    if literal = "-0" then none
    else literal.toInt?.filter fun value =>
      decide (-9223372036854775808 ≤ value) && decide (value ≤ 9223372036854775807)
  | _ => none

end Json

end Cfwdon.Library
