import TicketRemaster.Services.World
set_option autoImplicit false

/-! Request bodies as `request.get_json(silent=True)` returns them, and columns of a database. -/

namespace TicketRemaster

/-- A parsed JSON value. The keys of an object are distinct. -/
inductive Json where
  | null
  | bool (b : Bool)
  | num (q : ℚ)
  | str (s : String)
  | arr (items : List Json)
  | obj (fields : List (String × Json))

namespace Json

def truthy : Json → Bool
  | .null => false
  | .bool b => b
  | .num q => q ≠ 0
  | .str s => s ≠ ""
  | .arr items => !items.isEmpty
  | .obj fields => !fields.isEmpty

def isStr (s : String) : Json → Bool
  | .str s' => s' = s
  | _ => false

/-- `field in data`, which raises on a number, a truth value and `None`. -/
def contains (field : String) : Json → Option Bool
  | .obj fields => some (fields.any (·.1 = field))
  | .arr items => some (items.any (isStr field))
  | .str s => some (s.toList.tails.any (field.toList.isPrefixOf ·))
  | .null | .bool _ | .num _ => none

/-- `any(field not in data for field in fields)`. -/
def anyMissing (data : Json) : List String → Option Bool
  | [] => some false
  | field :: rest =>
      match data.contains field with
      | none => none
      | some true => anyMissing data rest
      | some false => some true

/-- `data.get(field)` of an object. -/
def get (fields : List (String × Json)) (field : String) : Json :=
  (fields.lookup field).getD .null

end Json

/-- What a database stores for a value in a column of some type, if it takes it at all, and what
`datetime.fromisoformat` makes of a string. -/
structure Columns where
  varchar : Nat → Json → Option String
  float : Json → Option ℚ
  boolean : Json → Option Bool
  fromisoformat : String → Option Time

namespace Columns

variable (cols : Columns)

/-- A column that may not be null. -/
def text (n : Nat) : Json → Option String
  | .null => none
  | value => cols.varchar n value

def nullableText (n : Nat) : Json → Option (Option String)
  | .null => some none
  | value => (cols.varchar n value).map some

/-- Columns that take what their type says. -/
def plain : Columns where
  varchar n
    | .str s => if s.length ≤ n then some s else none
    | _ => none
  float
    | .num q => some q
    | _ => none
  boolean
    | .bool b => some b
    | _ => none
  fromisoformat _ := none

end Columns

end TicketRemaster
