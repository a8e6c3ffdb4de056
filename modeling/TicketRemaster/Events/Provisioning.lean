import TicketRemaster.Events.Cancellation
import TicketRemaster.Lib.Dict
import TicketRemaster.Lib.Interleaving
import TicketRemaster.SeatInventory.Routes
import TicketRemaster.Services.Platform
set_option autoImplicit false

/-! An event and its seats: `POST /admin/events` of the event orchestrator, which makes both, the
routes that show the seats of an event, and what the services do with their calls. -/

namespace TicketRemaster.EventOrchestrator

open Resumption SeatInventory EventService

/-- How an id is written, what Python's `str` makes of a value, which id a segment of a path names,
and what the id columns make of a value. -/
structure IdTexts extends IdColumns where
  text : Nat → String
  str : Json → String
  named : String → Option Nat
  text_ne : ∀ n, text n ≠ ""
  str_str : ∀ s, str (.str s) = s
  named_text : ∀ n, named (text n) = some n
  operand_text : ∀ n, operand (.str (text n)) = some n
  stored_text : ∀ n, stored (.str (text n)) = some n

/-- An item of `GET /inventory/event/<event_id>`. -/
structure InventoryEntry where
  inventoryId : InventoryId
  seatId : SeatId
  status : SeatStatus
  heldUntil : Option Time
  deriving DecidableEq

inductive EventCall where
  | getVenue (venueId : String)
  | getEvent (eventId : EventId)
  | createEvent (payload : Json)
  | getSeatsByVenue (venueId : String)
  | listInventoryByEvent (eventId : EventId)
  | createInventoryBatch (payload : Json)
  | getTicketsByEvent (eventId : EventId)
  | getUser (userId : UserId)

@[reducible] def EventCall.Ans : EventCall → Type
  | .getVenue _ => Reply (VenueId × Venue)
  | .getEvent _ => Reply EventDetail
  | .createEvent _ => Reply EventId
  | .getSeatsByVenue _ => Reply (List (SeatId × Seat))
  | .listInventoryByEvent _ => Reply (List InventoryEntry)
  | .createInventoryBatch _ => Reply Nat
  | .getTicketsByEvent _ => Reply (List (TicketId × Ticket))
  | .getUser _ => Reply (UserId × User)

@[reducible] def EventIf : Interface := ⟨EventCall,EventCall.Ans⟩

/-- The exceptions are not told apart: each is answered with status 500. -/
abbrev EventProg (α : Type) := Prog EventIf Unit α

/-- A seat of the seat map; the last two fields but one are null where the seat is not found. -/
structure SeatMapEntry where
  inventoryId : InventoryId
  seatId : SeatId
  status : SeatStatus
  heldUntil : Option Time
  rowNumber : Option String
  seatNumber : Option String
  price : ℚ
  deriving DecidableEq

structure Attendee where
  seatId : SeatId
  rowNumber : Option String
  seatNumber : Option String
  email : String
  deriving DecidableEq, Repr

structure DashboardStats where
  seatsSold : Nat
  totalSeats : Nat
  revenue : ℚ
  deriving DecidableEq

inductive EventAnswer where
  | created (eventId : EventId) (seatsCreated : Nat)
  | seatMap (eventId : EventId) (seats : List SeatMapEntry)
  | seatDetail (seat : InventoryEntry) (event : EventDetail) (venue : Option (VenueId × Venue))
  | dashboard (stats : DashboardStats) (attendees : List Attendee)
  deriving DecidableEq

section Handlers

/-- `call_service`; no error code is empty, so each passes for an error. -/
def ask {α : Type} : Reply α → EventProg (Option α)
  | .ok a => .ret (some a)
  | .error _ => .ret none
  | .raised => .raise ()

variable (ids : IdTexts)

/-- The price of the first tier, or zero. -/
def firstPrice (data : List (String × Json)) : EventProg Json :=
  let tiers := Json.get data "pricing_tiers"
  if tiers.truthy then
    match tiers with
    | .obj ((_,price) :: _) => pure price
    | _ => .raise ()
  else pure (.num 0)

def eventPayload (data : List (String × Json)) (venueId price : Json) : Json :=
  .obj [("name",Json.get data "name"),("type",Json.get data "type"),("venueId",venueId),
    ("date",Json.get data "event_date"),("price",price),
    ("description",(data.lookup "description").getD (.str "")),("image",Json.get data "image")]

def inventoryPayload (eventId : EventId) (seats : List SeatId) : Json :=
  .obj [("eventId",.str (ids.text eventId)),("seats",.arr (seats.map fun seatId =>
    .obj [("seatId",.str (ids.text seatId)),("status",.str "available")]))]

/-- `data.get("venueId") or data.get("venue_id")`. -/
def venueOf (data : List (String × Json)) : Json :=
  if (Json.get data "venueId").truthy then Json.get data "venueId" else Json.get data "venue_id"

/-- `POST /admin/events`. -/
def createEventAdmin (body : Json) : EventProg (Response EventAnswer) :=
  match if body.truthy then body else .obj [] with
  | .obj data =>
      let venueId := venueOf data
      if ¬ (Json.get data "name").truthy ∨ ¬ (Json.get data "type").truthy ∨ ¬ venueId.truthy ∨
          ¬ (Json.get data "event_date").truthy then
        pure (.error "VALIDATION_ERROR" "Missing required fields: name, type, venueId, event_date"
          400)
      else do
        match ← (.call (.getVenue (ids.str venueId)) ask :
          EventProg (Option (VenueId × Venue))) with
        | none =>
            pure (.error "VENUE_NOT_FOUND" ("Venue " ++ ids.str venueId ++ " not found.") 404)
        | some _ =>
            let price ← firstPrice data
            match ← (.call (.createEvent (eventPayload data venueId price)) ask :
              EventProg (Option EventId)) with
            | none => pure (.error "EVENT_SERVICE_ERROR" "Failed to create event." 503)
            | some eventId =>
                match ← (.call (.getSeatsByVenue (ids.str venueId)) ask :
                  EventProg (Option (List (SeatId × Seat)))) with
                | none => pure (.error "SEAT_SERVICE_ERROR" "Failed to fetch seat data." 503)
                | some seats =>
                    match ← (.call (.createInventoryBatch
                      (inventoryPayload ids eventId (seats.map (·.1)))) ask :
                        EventProg (Option Nat)) with
                    | none =>
                        pure (.error "INVENTORY_ERROR" "Failed to create seat inventory." 503)
                    | some _ => pure (.data 201 (.created eventId seats.length))
  | _ => .raise ()

/-- `{s["seatId"]: s for s in (seat_list or {}).get("seats", [])}`. -/
def seatLookup (seats : Option (List (SeatId × Seat))) : List (SeatId × Seat) :=
  Dict.setAll [] (seats.getD [])

def seatMapEntry (seatMap : List (SeatId × Seat)) (price : ℚ) (s : InventoryEntry) :
    SeatMapEntry where
  inventoryId := s.inventoryId
  seatId := s.seatId
  status := s.status
  heldUntil := s.heldUntil
  rowNumber := (seatMap.lookup s.seatId).map (·.rowNumber)
  seatNumber := (seatMap.lookup s.seatId).map (·.seatNumber)
  price := price

def eventMissing : Response EventAnswer := .error "EVENT_NOT_FOUND" "Event not found." 404

def getSeatMap (eventId : EventId) : EventProg (Response EventAnswer) := do
  match ← (.call (.getEvent eventId) ask : EventProg (Option EventDetail)) with
  | none => pure eventMissing
  | some event =>
      match ← (.call (.listInventoryByEvent eventId) ask :
        EventProg (Option (List InventoryEntry))) with
      | none => pure (.error "SERVICE_UNAVAILABLE" "Could not fetch seat map." 503)
      | some inventory =>
          let seats ← (.call (.getSeatsByVenue event.venueId) ask :
            EventProg (Option (List (SeatId × Seat))))
          pure (.data 200 (.seatMap eventId
            (inventory.map (seatMapEntry (seatLookup seats) event.price))))

def getSeatDetail (eventId : EventId) (inventoryId : InventoryId) :
    EventProg (Response EventAnswer) := do
  match ← (.call (.getEvent eventId) ask : EventProg (Option EventDetail)) with
  | none => pure eventMissing
  | some event =>
      match ← (.call (.listInventoryByEvent eventId) ask :
        EventProg (Option (List InventoryEntry))) with
      | none => pure (.error "SERVICE_UNAVAILABLE" "Could not fetch seat data." 503)
      | some inventory =>
          match inventory.find? (·.inventoryId = inventoryId) with
          | none => pure (.error "SEAT_NOT_FOUND" "Seat not found for this event." 404)
          | some seat =>
              let venue ← (.call (.getVenue event.venueId) ask :
                EventProg (Option (VenueId × Venue)))
              pure (.data 200 (.seatDetail seat event venue))

/-- The email of the owner of a ticket, or nothing. -/
def ownerEmail : Option Ticket → EventProg String
  | none => pure ""
  | some ticket => do
      match ← (.call (.getUser ticket.ownerId) ask : EventProg (Option (UserId × User))) with
      | some user => pure user.2.email
      | none => pure ""

def attendeesOf (seatMap : List (SeatId × Seat)) (invToTicket : List (InventoryId × Ticket)) :
    List InventoryEntry → EventProg (List Attendee)
  | [] => pure []
  | item :: rest => do
      let email ← ownerEmail (invToTicket.lookup item.inventoryId)
      let others ← attendeesOf seatMap invToTicket rest
      pure (⟨item.seatId,(seatMap.lookup item.seatId).map (·.rowNumber),
        (seatMap.lookup item.seatId).map (·.seatNumber),email⟩ :: others)

def getEventDashboard (eventId : EventId) : EventProg (Response EventAnswer) := do
  match ← (.call (.getEvent eventId) ask : EventProg (Option EventDetail)) with
  | none => pure eventMissing
  | some event =>
      match ← (.call (.listInventoryByEvent eventId) ask :
        EventProg (Option (List InventoryEntry))) with
      | none => pure (.error "SERVICE_UNAVAILABLE" "Could not fetch inventory data." 503)
      | some inventory =>
          let soldInventory := inventory.filter (·.status = .sold)
          let ticketsData ← (.call (.getTicketsByEvent eventId) ask :
            EventProg (Option (List (TicketId × Ticket))))
          let tickets := ticketsData.getD []
          let seats ← (.call (.getSeatsByVenue event.venueId) ask :
            EventProg (Option (List (SeatId × Seat))))
          let attendees ← attendeesOf (seatLookup seats)
            (Dict.setAll [] (tickets.map fun t => (t.2.inventoryId,t.2))) soldInventory
          pure (.data 200 (.dashboard
            ⟨soldInventory.length,inventory.length,(tickets.map (·.2.price)).sum⟩ attendees))

inductive EventRequest where
  | create (body : Json)
  | seatMap (eventId : EventId)
  | seatDetail (eventId : EventId) (inventoryId : InventoryId)
  | dashboard (eventId : EventId)

def EventRequest.handler : EventRequest → EventProg (Response EventAnswer)
  | .create body => createEventAdmin ids body
  | .seatMap eventId => getSeatMap eventId
  | .seatDetail eventId inventoryId => getSeatDetail eventId inventoryId
  | .dashboard eventId => getEventDashboard eventId

end Handlers

section Server

/-- The databases behind the routes. -/
structure EventSystem where
  events : Events
  venues : Table VenueId Venue
  seats : Table SeatId Seat
  inventory : Inventory
  tickets : Table TicketId Ticket
  users : Table UserId User

/-- The outside's choices at one call. -/
structure EventEnv where
  time : Time
  uuid : Nat
  keys : Nat → InventoryId
  fault : Option Fault

namespace EventSystem

variable (ids : IdTexts) (cols : EventColumns) (e : EventEnv) (s : EventSystem)

def getVenue (venueId : String) : Except ServiceError (VenueId × Venue) :=
  World.found ((ids.named venueId).bind fun v => (s.venues.lookup v).map (v,·)) "VENUE_NOT_FOUND"
    "Venue not found"

def seatsOf (venueId : String) : List (SeatId × Seat) :=
  (s.seats.entries.filter fun x => some x.2.venueId = ids.named venueId).map fun x => (x.1,x.2)

def listInventoryByEvent (eventId : EventId) : List InventoryEntry :=
  (s.inventory.entries.filter (·.2.eventId = eventId)).map
    fun x => ⟨x.1,x.2.seatId,x.2.status,x.2.heldUntil⟩

def ticketsOf (eventId : EventId) : List (TicketId × Ticket) :=
  (s.tickets.entries.filter (·.2.eventId = eventId)).map fun x => (x.1,x.2)

/-- A call with a fault answers with it, whether or not it took effect. -/
def answer {α : Type} (run : Except ServiceError α × EventSystem) : Reply α × EventSystem :=
  match e.fault with
  | some f => (World.httpFault f,if f.applied then run.2 else s)
  | none => (World.httpReply run.1,run.2)

def perform : (q : EventCall) → q.Ans × EventSystem
  | .getVenue venueId => s.answer e (s.getVenue ids venueId,s)
  | .getEvent eventId => s.answer e (EventService.getEvent s.events eventId,s)
  | .createEvent payload =>
      let run := createEvent cols s.events e.time e.uuid payload
      s.answer e (run.1.map (·.1),{ s with events := run.2 })
  | .getSeatsByVenue venueId => s.answer e (.ok (s.seatsOf ids venueId),s)
  | .listInventoryByEvent eventId => s.answer e (.ok (s.listInventoryByEvent eventId),s)
  | .createInventoryBatch payload =>
      let run := SeatInventory.createInventoryBatch cols.toColumns ids.toIdColumns e.keys
        s.inventory payload
      s.answer e (run.1,{ s with inventory := run.2 })
  | .getTicketsByEvent eventId => s.answer e (.ok (s.ticketsOf eventId),s)
  | .getUser userId =>
      s.answer e (World.found ((s.users.lookup userId).map (userId,·)) "USER_NOT_FOUND"
        "User not found",s)

def server (ι : Type) : Server EventIf ι EventEnv EventSystem where
  ready _ _ _ _ := true
  serve _ e s q := s.perform ids cols e q

/-- What others do with the databases meanwhile: a call of another orchestrator, on a platform with
the same inventory, tickets and users, or an administrator's request to event-service. -/
inductive Acts : EventSystem → EventSystem → Prop where
  | call (s : EventSystem) (cfg : SeatConfig) (e : Env) (w : World) (q : Call)
      (hinventory : w.inventory = s.inventory) (htickets : w.tickets = s.tickets)
      (husers : w.users = s.users) :
      Acts s { s with
        inventory := (w.perform cfg e q).2.inventory
        tickets := (w.perform cfg e q).2.tickets }
  | admin (s : EventSystem) (clock : Time) (eventId : EventId) (r : AdminRequest) :
      Acts s { s with events := (EventService.serve cols eventId s.events clock r).2 }

end EventSystem

end Server

end TicketRemaster.EventOrchestrator
