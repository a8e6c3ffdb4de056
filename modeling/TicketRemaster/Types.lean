import Mathlib.Data.List.AList
import Mathlib.Algebra.Order.Field.Rat
set_option autoImplicit false

namespace TicketRemaster

/-! The services name their rows by UUID strings and only ever compare them, so an
identifier is a number here. -/

abbrev UserId := Nat
abbrev EventId := Nat
abbrev VenueId := Nat
abbrev SeatId := Nat
abbrev InventoryId := Nat
abbrev TicketId := Nat
abbrev ListingId := Nat
abbrev TransferId := Nat
abbrev PaymentIntentId := Nat
abbrev Phone := Nat
abbrev Sid := Nat

/-- Instants and durations in microseconds, the resolution of `datetime`. -/
abbrev Time := Int

def seconds (n : Int) : Time := n*1000000

/-- Prices and balances; floating-point rounding is not modelled. -/
abbrev Credits := ℚ

/-- A table of a service, by primary key. -/
abbrev Table (κ ρ : Type) := AList (fun _ : κ => ρ)

namespace Table

variable {κ ρ : Type} [DecidableEq κ]

/-- The first row that satisfies a filter. -/
def findRow (t : Table κ ρ) (p : κ → ρ → Bool) : Option (κ × ρ) :=
  (t.entries.find? (fun e => p e.1 e.2)).map (fun e => (e.1,e.2))

theorem findRow_lookup {t : Table κ ρ} {p : κ → ρ → Bool} {r : κ × ρ}
    (h : findRow t p = some r) : t.lookup r.1 = some r.2 := by
  obtain ⟨entry,hfind,rfl⟩ := Option.map_eq_some_iff.mp h
  exact AList.mem_lookup_iff.mpr (List.mem_of_find?_eq_some hfind)

omit [DecidableEq κ] in
theorem findRow_satisfies {t : Table κ ρ} {p : κ → ρ → Bool} {r : κ × ρ}
    (h : findRow t p = some r) : p r.1 r.2 := by
  obtain ⟨entry,hfind,rfl⟩ := Option.map_eq_some_iff.mp h
  exact (List.find?_eq_some_iff_append.mp hfind).1

theorem lookup_insert_cases {t : Table κ ρ} {k k' : κ} {r r' : ρ}
    (h : (t.insert k r).lookup k' = some r') :
    (k' = k ∧ r' = r) ∨ (k' ≠ k ∧ t.lookup k' = some r') := by
  by_cases hk : k' = k
  · subst hk
    rw [AList.lookup_insert] at h
    exact .inl ⟨rfl,(Option.some.inj h).symm⟩
  · rw [AList.lookup_insert_ne hk] at h
    exact .inr ⟨hk,h⟩

end Table

/-- A hold token: the text of a UUID, or the empty string a request carries without one. -/
inductive HoldToken where
  | empty
  | uuid (n : Nat)
  deriving DecidableEq, Repr

/-- The `status` column of `seat_inventory`; an import may store any text there. -/
inductive SeatStatus where
  | available
  | held
  | sold
  | other (word : String)
  deriving DecidableEq, Repr

/-- A row of `seat_inventory`, without its key and its timestamps. -/
structure SeatInventory where
  eventId : EventId
  seatId : SeatId
  status : SeatStatus
  heldByUserId : Option UserId
  holdToken : Option HoldToken
  heldUntil : Option Time
  deriving DecidableEq, Repr

/-- The text of a `heldUntil` value: absent, not a timestamp, or a timestamp. -/
inductive HeldUntilText where
  | empty
  | unparsable
  | at (t : Time)
  deriving DecidableEq, Repr

/-- The record stored in Redis under `hold:<inventoryId>`. -/
structure CachedHold where
  status : SeatStatus
  heldByUserId : Option UserId
  holdToken : Option HoldToken
  heldUntil : HeldUntilText
  deriving DecidableEq, Repr

end TicketRemaster
