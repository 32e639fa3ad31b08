/-!
# JSON values

Settings and plans are stored as JSON. A number that is written as an integer of at most 64 bits is
kept as that integer, and any other as a float; so an integer stays exact, and `-0`, which no
integer is, is a float. The members of an object keep their order and may repeat a name.

A string that holds half of a surrogate pair is well written but stands for no text. That matters
only to those who want the text, so it is kept as a string, or as a name, without one.
-/

namespace LoraLink

/-- A JSON value. -/
inductive Json where
  | null
  | bool (b : Bool)
  | integer (n : Int)
  | float (x : Float)
  | string (text : Option String)
  | array (items : List Json)
  | object (members : List (Option String × Json))

namespace Json

def text (s : String) : Json := .string (some s)

/-- The object with the given members. -/
def ofMembers (members : List (String × Json)) : Json :=
  .object (members.map fun (name, value) => (some name, value))

/-- The number nearest to an integer; infinite if it is past all finite ones. -/
def nearest (n : Int) : Float :=
  let magnitude := Float.ofScientific n.natAbs false 0
  if n < 0 then -magnitude else magnitude

end Json

end LoraLink
