import TicketRemaster.Services.Json
set_option autoImplicit false

/-! JSON values in the hands of the orchestrators' code: operations that raise at a value of another
type than they expect. -/

namespace TicketRemaster

inductive PyError where
  | attributeError
  | typeError
  deriving DecidableEq, Repr

abbrev Py (α : Type) := Except PyError α

theorem Py.ok_bind {α β : Type} (a : α) (f : α → Py β) : ((Except.ok a : Py α) >>= f) = f a := rfl

abbrev Fields := List (String × Json)

namespace Json

def isNull : Json → Bool
  | .null => true
  | _ => false

mutual

/-- `==`: a truth value equals the number that it is, and the order of keys does not matter. -/
def eq : Json → Json → Bool
  | .null, .null => true
  | .bool a, .bool b => a = b
  | .bool a, .num q => (if a then 1 else 0) = q
  | .num p, .bool b => p = if b then 1 else 0
  | .num p, .num q => p = q
  | .str s, .str t => s = t
  | .arr xs, .arr ys => eqItems xs ys
  | .obj xs, .obj ys => xs.length = ys.length && eqFields xs ys
  | _, _ => false

def eqItems : List Json → List Json → Bool
  | [], [] => true
  | x :: xs, y :: ys => eq x y && eqItems xs ys
  | _, _ => false

def eqFields : List (String × Json) → List (String × Json) → Bool
  | [], _ => true
  | (name,x) :: xs, ys =>
      (match ys.lookup name with
        | some y => eq x y
        | none => false) && eqFields xs ys

end

/-- `value or {}`. -/
def orEmpty (value : Json) : Json := if value.truthy then value else .obj []

/-- `value.get(name, default)`, which only an object has. -/
def getOr (value : Json) (name : String) (default : Json) : Py Json :=
  match value with
  | .obj fields => .ok ((fields.lookup name).getD default)
  | _ => .error .attributeError

def dot (value : Json) (name : String) : Py Json := value.getOr name .null

/-- What a loop over a value goes through. -/
def iter : Json → Py (List Json)
  | .arr items => .ok items
  | .obj fields => .ok (fields.map fun entry => .str entry.1)
  | .str s => .ok (s.toList.map fun c => .str (String.singleton c))
  | .null | .bool _ | .num _ => .error .typeError

/-- The field of an object, and null where there is none. -/
def field (value : Json) (name : String) : Json :=
  match value with
  | .obj fields => get fields name
  | _ => .null

/-- Null or an object. -/
def Plain : Json → Prop
  | .null | .obj _ => True
  | _ => False

theorem eq_str {value : Json} {s : String} : value.eq (.str s) = true ↔ value = .str s := by
  cases value <;> simp [eq]

@[simp] theorem field_null (name : String) : field .null name = .null := rfl

theorem dot_obj (fields : Fields) (name : String) :
    (obj fields).dot name = .ok ((obj fields).field name) := rfl

theorem orEmpty_dot {value : Json} (h : value.Plain) (name : String) :
    value.orEmpty.dot name = .ok (value.field name) := by
  cases value with
  | null => rfl
  | obj fields =>
    cases fields with
    | nil => rfl
    | cons entry fields => rfl
  | _ => exact h.elim

theorem null_dot (name : String) : (orEmpty .null).dot name = .ok .null := rfl

theorem dot_of_truthy {value : Json} (h : value.Plain) (ht : value.truthy) (name : String) :
    value.dot name = .ok (value.field name) := by
  cases value with
  | null => cases ht
  | obj fields => rfl
  | _ => exact h.elim

end Json

end TicketRemaster
