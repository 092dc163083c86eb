import ThermalPrint.Number.Shortest

/-!
JSON values. A number is whole if it is written without point and exponent and fits 64 bits, and
else the binary64 number that its text stands for. An object keeps its members as they were
written, and the last member of a key is the one that counts.
-/

namespace ThermalPrint

namespace Json

inductive Number where
  | whole (value : Int)
  | real (value : Binary64)
  deriving DecidableEq, Repr

end Json

inductive Json where
  | null
  | boolean (value : Bool)
  | number (value : Json.Number)
  | string (value : String)
  | list (elements : List Json)
  | object (members : List (String × Json))

namespace Json

inductive Shape where
  | null
  | boolean
  | number
  | string
  | list
  | object
  deriving DecidableEq, Repr

def shape : Json → Shape
  | .null => .null
  | .boolean _ => .boolean
  | .number _ => .number
  | .string _ => .string
  | .list _ => .list
  | .object _ => .object

/-- The kind with its article. -/
def Shape.description : Shape → String
  | .null => "null"
  | .boolean => "a boolean"
  | .number => "a number"
  | .string => "a string"
  | .list => "a list"
  | .object => "an object"

/-- The value of a key in a list of members, the last one if there are several. -/
def member? (key : String) : List (String × Json) → Option Json
  | [] => none
  | (name, value) :: rest =>
    match member? key rest with
    | some later => some later
    | none => if name = key then some value else none

def get? (key : String) : Json → Option Json
  | .object members => member? key members
  | _ => none

end Json

end ThermalPrint
