import TicketRemaster.Services.Json
set_option autoImplicit false

/-! Two HTTP routes of seat-inventory-service: the import of the seats of an event, and the hold a
user has there. -/

namespace TicketRemaster.SeatInventory

abbrev Inventory := Table InventoryId SeatInventory

end SeatInventory

/-- The status that a text in the column stands for. -/
def SeatStatus.ofText (s : String) : SeatStatus :=
  if s = "available" then .available
  else if s = "held" then .held
  else if s = "sold" then .sold
  else .other s

namespace SeatInventory

/-- What the identifier columns make of a JSON value: when it is compared with, and when it is
stored. -/
structure IdColumns where
  operand : Json → Option Nat
  stored : Json → Option Nat

def normalizeSeat : Json → Except ServiceError (Json × String)
  | .obj fields =>
      let seatId := Json.get fields "seatId"
      if ¬ seatId.truthy then .error (validationError "Each seat entry must include seatId")
      else match (fields.lookup "status").getD (.str "available") with
        | .str status =>
            if status = "" then .error (validationError "Seat status must be a non-empty string")
            else .ok (seatId,status)
        | _ => .error (validationError "Seat status must be a non-empty string")
  | _ => .error (validationError "Each seat entry must be an object")

/-- The row that is made for a seat, if its columns take the values. -/
def newRow (cols : Columns) (ids : IdColumns) (eventId : EventId) (seat : Json × String) :
    Option SeatInventory := do
  let seatId ← ids.stored seat.1
  let status ← cols.text 20 (.str seat.2)
  pure ⟨eventId,seatId,SeatStatus.ofText status,none,none,none⟩

/-- One row after the other, under keys drawn from `keys`, up to the first that breaks one of the
two uniqueness constraints. -/
def insertRows (keys : Nat → InventoryId) (n : Nat) (db : Inventory) :
    List SeatInventory → Option Inventory
  | [] => some db
  | row :: rest =>
      if (db.lookup (keys n)).isSome ∨
          (db.findRow fun _ r => r.eventId = row.eventId && r.seatId = row.seatId).isSome then none
      else insertRows keys (n+1) (db.insert (keys n) row) rest

/-- The number of rows created, and the table after the request. -/
abbrev BatchAnswer := Except ServiceError Nat × Inventory

/-- The validated request: either all rows are created, or none. -/
def createRows (cols : Columns) (ids : IdColumns) (keys : Nat → InventoryId) (db : Inventory)
    (eventId : Json) (seats : List (Json × String)) : BatchAnswer :=
  match ids.operand eventId with
  | none => (.error unhandledError,db)
  | some event =>
      if (db.findRow fun _ r => r.eventId = event).isSome then
        (.error ⟨409,"ALREADY_EXISTS","Inventory already exists for this event"⟩,db)
      else
        let created : Option Inventory := do
          let event ← ids.stored eventId
          let rows ← seats.mapM (newRow cols ids event)
          insertRows keys 0 db rows
        match created with
        | some db' => (.ok seats.length,db')
        | none => (.error ⟨500,"DB_ERROR","Could not create inventory records"⟩,db)

/-- `POST /inventory/batch`. -/
def createInventoryBatch (cols : Columns) (ids : IdColumns) (keys : Nat → InventoryId)
    (db : Inventory) (body : Json) : BatchAnswer :=
  match if body.truthy then body else .obj [] with
  | .obj fields =>
      let eventId := Json.get fields "eventId"
      let seats := (fields.lookup "seats").getD (.arr [])
      if ¬ eventId.truthy ∨ ¬ seats.truthy then
        (.error (validationError "Missing required fields: eventId, seats"),db)
      else match seats with
        | .arr entries =>
            match entries.mapM normalizeSeat with
            | .error e => (.error e,db)
            | .ok normalized => createRows cols ids keys db eventId normalized
        | _ => (.error (validationError "seats must be a non-empty list"),db)
  | _ => (.error unhandledError,db)

/-- `GET /inventory/event/<event_id>/my-hold`. -/
def getMyHold (db : Inventory) (eventId : EventId) (userId : Option UserId) :
    Except ServiceError (InventoryId × SeatInventory) :=
  match userId with
  | none => .error (validationError "userId is required.")
  | some userId =>
      match db.findRow fun _ r =>
          r.eventId = eventId && r.heldByUserId = some userId && r.status = .held with
      | some hold => .ok hold
      | none => .error ⟨404,"NOT_FOUND","No active hold found."⟩

section Created

variable {cols : Columns} {ids : IdColumns} {keys : Nat → InventoryId} {db db' : Inventory}

/-- No hold is set in the row. -/
def Unheld (r : SeatInventory) : Prop :=
  r.heldByUserId = none ∧ r.holdToken = none ∧ r.heldUntil = none

theorem newRow_unheld {event : EventId} {seat : Json × String} {r : SeatInventory}
    (h : newRow cols ids event seat = some r) : Unheld r := by
  obtain ⟨seatId,-,hrest⟩ := Option.bind_eq_some_iff.mp h
  obtain ⟨status,-,hrow⟩ := Option.bind_eq_some_iff.mp hrest
  cases hrow
  exact ⟨rfl,rfl,rfl⟩

theorem insertRows_cases {n : Nat} {rows : List SeatInventory}
    (h : insertRows keys n db rows = some db') {i : InventoryId} {r : SeatInventory}
    (hr : db'.lookup i = some r) : db.lookup i = some r ∨ r ∈ rows := by
  induction rows generalizing n db with
  | nil =>
    cases h
    exact .inl hr
  | cons row rest ih =>
    unfold insertRows at h
    split at h
    · cases h
    · rcases ih h with hold | hmem
      · rcases Table.lookup_insert_cases hold with ⟨-,rfl⟩ | ⟨-,hold⟩
        · exact .inr List.mem_cons_self
        · exact .inl hold
      · exact .inr (List.mem_cons_of_mem _ hmem)

theorem newRows_unheld {event : EventId} {seats : List (Json × String)}
    {rows : List SeatInventory} (h : seats.mapM (newRow cols ids event) = some rows) :
    ∀ r ∈ rows, Unheld r := by
  induction seats generalizing rows with
  | nil =>
    rw [List.mapM_nil] at h
    cases h
    simp
  | cons seat seats ih =>
    rw [List.mapM_cons] at h
    obtain ⟨row,hrow,hrest⟩ := Option.bind_eq_some_iff.mp h
    obtain ⟨rest,hseats,hcons⟩ := Option.bind_eq_some_iff.mp hrest
    cases hcons
    exact List.forall_mem_cons.mpr ⟨newRow_unheld hrow,ih hseats⟩

/-- Whatever an accepted request creates is without a hold. -/
theorem createInventoryBatch_unheld {body : Json} {n : Nat}
    (h : createInventoryBatch cols ids keys db body = (.ok n,db')) {i : InventoryId}
    {r : SeatInventory} (hr : db'.lookup i = some r) (hnew : db.lookup i = none) : Unheld r := by
  unfold createInventoryBatch at h
  split at h
  case h_2 => cases h
  dsimp only at h
  split at h
  · cases h
  split at h
  case h_2 => cases h
  split at h
  · cases h
  unfold createRows at h
  split at h
  · cases h
  split at h
  · cases h
  dsimp only at h
  split at h
  · rename_i db'' hcreated
    cases h
    obtain ⟨event,-,hrest⟩ := Option.bind_eq_some_iff.mp hcreated
    obtain ⟨rows,hrows,hinsert⟩ := Option.bind_eq_some_iff.mp hrest
    rcases insertRows_cases hinsert hr with hold | hmem
    · rw [hnew] at hold
      cases hold
    · exact newRows_unheld hrows r hmem
  · cases h

end Created

end TicketRemaster.SeatInventory
