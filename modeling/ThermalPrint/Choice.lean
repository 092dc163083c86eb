import ThermalPrint.Json.Basic

/-!
Types with a few named members. A member is written as its name, and read from its exact name.
-/

namespace ThermalPrint

/-- A type whose members can be listed and have names. -/
class Choice (α : Type) where
  /-- The members, in the order in which messages list them. -/
  all : List α
  name : α → String

namespace Choice

variable {α : Type} [Choice α]

def ofName? (text : String) : Option α :=
  (all : List α).find? fun member => name member == text

def names (α : Type) [Choice α] : List String :=
  (all : List α).map name

def toJson (member : α) : Json :=
  .string (name member)

/-- The member that a JSON value stands for: its name, or an object that has the name as its only
key, with null as value. -/
def ofJson? : Json → Option α
  | .string text => ofName? text
  | .object [(key, .null)] => ofName? key
  | _ => none

end Choice

end ThermalPrint
