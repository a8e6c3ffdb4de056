import TicketRemaster.Services.World
set_option autoImplicit false

/-! Values of the class `datetime`, with a time zone or without. -/

namespace TicketRemaster

inductive Datetime where
  | naive (t : Time)
  | aware (t : Time)
  deriving DecidableEq

namespace Datetime

/-- `a < b`. Between a naive and an aware value it raises. -/
def lt : Datetime → Datetime → Except ServiceError Bool
  | .naive s, .naive t => .ok (s < t)
  | .aware s, .aware t => .ok (s < t)
  | _, _ => .error unhandledError

/-- A column without time zone is read back naive. -/
def ofColumn (t : Time) : Datetime := .naive t

end Datetime

end TicketRemaster
