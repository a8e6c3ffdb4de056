import Mathlib.Data.Prod.Lex
import TicketRemaster.Lib.Pages
import TicketRemaster.Services.Datetime
import TicketRemaster.Services.Json
set_option autoImplicit false

/-! The list routes of event-service, and those that make, show or change an event. -/

namespace TicketRemaster.EventService

open Paging

/-- A row of `events`, without its key. -/
structure Event where
  venueId : String
  name : String
  date : Time
  description : Option String
  type : String
  image : Option String
  price : ℚ
  cancelledAt : Option Time
  createdAt : Time
  deriving DecidableEq

abbrev Events := Table EventId Event

abbrev EventRow := EventId × Event

/-- `to_dict(summary=True)`. -/
structure EventSummary where
  eventId : EventId
  venueId : String
  name : String
  date : Time
  type : String
  price : ℚ
  cancelledAt : Option Time
  createdAt : Time
  deriving DecidableEq

def summary (row : EventRow) : EventSummary where
  eventId := row.1
  venueId := row.2.venueId
  name := row.2.name
  date := row.2.date
  type := row.2.type
  price := row.2.price
  cancelledAt := row.2.cancelledAt
  createdAt := row.2.createdAt

structure EventPage where
  events : List EventSummary
  page : Int
  limit : Int
  total : Nat
  deriving DecidableEq

/-- `datetime.now(datetime.timezone.utc)`: the module has the class under the name `datetime`, and
the class has no `timezone`. -/
def nowInUtc (_clock : Time) : Except ServiceError Time := .error unhandledError

section Lists

def isSpace (c : Char) : Bool :=
  let n := c.toNat
  n = 0x20 ∨ 0x09 ≤ n ∧ n ≤ 0x0d ∨ 0x1c ≤ n ∧ n ≤ 0x1f ∨ n = 0x85 ∨ n = 0xa0 ∨ n = 0x1680 ∨
    0x2000 ≤ n ∧ n ≤ 0x200a ∨ n = 0x2028 ∨ n = 0x2029 ∨ n = 0x202f ∨ n = 0x205f ∨ n = 0x3000

def strip (s : String) : String :=
  String.ofList ((s.toList.dropWhile isSpace).reverse.dropWhile isSpace).reverse

/-- The arguments of a request; a number that is missing or no integer is `none`. -/
structure ListArgs where
  page : Option Int
  limit : Option Int
  type : String := ""
  q : String := ""

def byDateAndCreation (row : EventRow) : Time ×ₗ Time := toLex (row.2.date,row.2.createdAt)

def byDate (row : EventRow) : Time := row.2.date

variable (ilike : String → String → Bool) (db : Events)

def rowsWhere (p : Event → Bool) : List EventRow :=
  (db.entries.map fun e => (e.1,e.2)).filter fun row => p row.2

/-- The `type` filter; an absent argument is empty. -/
def hasType (eventType : String) (e : Event) : Bool :=
  eventType = "" || ilike e.type (strip eventType)

/-- `offset` and `limit` of the answer of the database, with the number of all rows. -/
def answerPage {κ : Type} [LinearOrder κ] {key : EventRow → κ} {rows : List EventRow}
    (arranged : Arrangement key rows) (page limit : Int) : EventPage where
  events := (Paging.page limit.toNat page.toNat arranged.answer).map summary
  page := page
  limit := limit
  total := rows.length

/-- `GET /events`. -/
def listEvents (order : ∀ rows, Arrangement byDateAndCreation rows) (args : ListArgs) :
    Except ServiceError EventPage :=
  let page := args.page.getD 1
  let limit := args.limit.getD 20
  if page < 1 then
    .error (validationError "page must be an integer greater than or equal to 1")
  else if limit < 1 then
    .error (validationError "limit must be an integer greater than or equal to 1")
  else .ok (answerPage (order (rowsWhere db (hasType ilike args.type))) page (min limit 100))

def upcoming (now : Time) (eventType : String) (e : Event) : Bool :=
  e.cancelledAt = none && now ≤ e.date && hasType ilike eventType e

/-- `GET /events/upcoming`. -/
def listUpcomingEvents (clock : Time) (order : ∀ rows, Arrangement byDate rows)
    (args : ListArgs) : Except ServiceError EventPage := do
  let page := args.page.getD 1
  let limit := args.limit.getD 20
  if page < 1 then .error (validationError "page must be >= 1")
  else if limit < 1 ∨ limit > 100 then
    .error (validationError "limit must be between 1 and 100")
  else
    let now ← nowInUtc clock
    .ok (answerPage (order (rowsWhere db (upcoming ilike now args.type))) page limit)

/-- A missing description is not like anything. -/
def matchesSearch (q : String) (e : Event) : Bool :=
  let searchTerm := "%" ++ strip q ++ "%"
  e.cancelledAt = none &&
    (ilike e.name searchTerm || e.description.any (ilike · searchTerm))

/-- `GET /events/search`. -/
def searchEvents (order : ∀ rows, Arrangement byDate rows) (args : ListArgs) :
    Except ServiceError EventPage :=
  let page := args.page.getD 1
  let limit := args.limit.getD 20
  if args.q = "" then .error (validationError "Search query \"q\" is required")
  else if page < 1 then .error (validationError "page must be >= 1")
  else if limit < 1 ∨ limit > 100 then
    .error (validationError "limit must be between 1 and 100")
  else .ok (answerPage (order (rowsWhere db (matchesSearch ilike args.q))) page limit)

end Lists

section Admin

/-- `to_dict()`. -/
structure EventDetail extends EventSummary where
  description : Option String
  image : String
  deriving DecidableEq

def defaultImage : String := "https://picsum.photos/seed/default-event/800/450"

def detail (row : EventRow) : EventDetail where
  toEventSummary := summary row
  description := row.2.description
  image := match row.2.image with
    | some image => if image = "" then defaultImage else image
    | none => defaultImage

structure AdminAnswer where
  message : Option String
  event : EventDetail
  cancelReason : Option Json

abbrev Answered := Except ServiceError AdminAnswer × Events

def eventNotFound : ServiceError := ⟨404,"EVENT_NOT_FOUND","Event not found"⟩

/-- The columns of the table; one of them takes texts of any length. -/
structure EventColumns extends Columns where
  text : Json → Option (Option String)

variable (cols : EventColumns) (db : Events) (clock : Time) (eventId : EventId)

def updatableFields : List String :=
  ["venueId","name","date","description","type","image","price"]

/-- What `parse_datetime` makes of a value: nothing, an instant, an error that the route handles, or
one that it lets pass. -/
inductive ParsedDate where
  | absent
  | at (t : Time)
  | invalid
  | attributeError

def parseDatetime (value : Json) : ParsedDate :=
  if ¬ value.truthy then .absent
  else match value with
    | .str s =>
        match cols.fromisoformat (s.replace "Z" "+00:00") with
        | some t => .at t
        | none => .invalid
    | _ => .attributeError

/-- One `setattr`, as the database takes it at the commit. -/
def setField (event : Event) (entry : String × Json) : Option Event :=
  if entry.1 = "venueId" then
    (cols.toColumns.text 36 entry.2).map fun v => { event with venueId := v }
  else if entry.1 = "name" then
    (cols.toColumns.text 255 entry.2).map fun v => { event with name := v }
  else if entry.1 = "date" then
    match parseDatetime cols entry.2 with
    | .at t => some { event with date := t }
    | _ => none
  else if entry.1 = "description" then
    (cols.text entry.2).map fun v => { event with description := v }
  else if entry.1 = "type" then
    (cols.toColumns.text 50 entry.2).map fun v => { event with type := v }
  else if entry.1 = "image" then
    (cols.nullableText 500 entry.2).map fun v => { event with image := v }
  else (cols.float entry.2).map fun v => { event with price := v }

/-- The error that the date of a body makes the route end with, if any. -/
def dateError (fields : List (String × Json)) : Option ServiceError :=
  match fields.lookup "date" with
  | none => none
  | some value =>
      match parseDatetime cols value with
      | .invalid => some ⟨400,"INVALID_DATE","Invalid date format"⟩
      | .attributeError => some unhandledError
      | .absent | .at _ => none

def unsupported (fields : List (String × Json)) : List String :=
  (fields.map (·.1)).filter (· ∉ updatableFields)

/-- `PUT /admin/events/<event_id>`. -/
def updateEvent (data : Json) : Answered :=
  if ¬ data.truthy then (.error (validationError "Request body is required"),db)
  else match data with
    | .obj fields =>
        if unsupported fields ≠ [] then
          (.error (validationError ("Request contains unsupported fields: \x7b'" ++
            "', '".intercalate (unsupported fields) ++ "'\x7d")),db)
        else match db.lookup eventId with
          | none => (.error eventNotFound,db)
          | some event =>
              if event.cancelledAt.isSome then
                (.error ⟨400,"EVENT_CANCELLED","Cannot update a cancelled event"⟩,db)
              else match dateError cols fields with
                | some e => (.error e,db)
                | none =>
                    match fields.foldlM (setField cols) event with
                    | some event =>
                        (.ok ⟨none,detail (eventId,event),none⟩,db.insert eventId event)
                    | none => (.error unhandledError,db)
    | _ => (.error unhandledError,db)

/-- `POST /admin/events/<event_id>/publish`; the mark it leaves is no column. -/
def publishEvent : Answered :=
  match db.lookup eventId with
  | none => (.error eventNotFound,db)
  | some event =>
      if event.cancelledAt.isSome then
        (.error ⟨400,"EVENT_CANCELLED","Cannot publish a cancelled event"⟩,db)
      else
        match nowInUtc clock >>= fun now => (Datetime.ofColumn event.date).lt (.aware now) with
        | .error e => (.error e,db)
        | .ok true =>
            (.error ⟨400,"EVENT_IN_PAST","Cannot publish an event that has already passed"⟩,db)
        | .ok false =>
            match nowInUtc clock with
            | .error e => (.error e,db)
            | .ok _ =>
                (.ok ⟨some "Event published successfully",detail (eventId,event),none⟩,db)

def cancelNow (event : Event) (cancelReason : Option Json) : Answered :=
  match nowInUtc clock with
  | .error e => (.error e,db)
  | .ok now =>
      let cancelled := { event with cancelledAt := some now }
      (.ok ⟨some "Event cancelled successfully",detail (eventId,cancelled),cancelReason⟩,
        db.insert eventId cancelled)

def alreadyCancelled : ServiceError :=
  ⟨400,"EVENT_ALREADY_CANCELLED","Event is already cancelled"⟩

/-- `DELETE /admin/events/<event_id>`. -/
def deleteEvent : Answered :=
  match db.lookup eventId with
  | none => (.error eventNotFound,db)
  | some event =>
      if event.cancelledAt.isSome then (.error alreadyCancelled,db)
      else cancelNow db clock eventId event none

/-- `POST /admin/events/<event_id>/cancel`. -/
def cancelEvent (data : Json) : Answered :=
  match db.lookup eventId with
  | none => (.error eventNotFound,db)
  | some event =>
      if event.cancelledAt.isSome then (.error alreadyCancelled,db)
      else match if data.truthy then data else .obj [] with
        | .obj fields =>
            let reason := Json.get fields "reason"
            cancelNow db clock eventId event (if reason.truthy then some reason else none)
        | _ => (.error unhandledError,db)

/-- The fields that `POST /events` insists on. -/
def requiredFields : List String := ["venueId","name","date","type","price"]

/-- The row, if its columns take the values. The constructor is given an image even where the body
has none, and the column's default then stands for it. -/
def newEvent (fields : List (String × Json)) : Option Event := do
  let date ← match parseDatetime cols (Json.get fields "date") with
    | .at t => some t
    | _ => none
  let venueId ← cols.toColumns.text 36 (Json.get fields "venueId")
  let name ← cols.toColumns.text 255 (Json.get fields "name")
  let description ← cols.text (Json.get fields "description")
  let type ← cols.toColumns.text 50 (Json.get fields "type")
  let image ← cols.nullableText 500 (Json.get fields "image")
  let price ← cols.float (Json.get fields "price")
  pure ⟨venueId,name,date,description,type,some (image.getD defaultImage),price,none,clock⟩

/-- `POST /events`, under the key `eventId`. A list of the fields' names passes for a body up to the
first subscript, whose `TypeError` is taken for one of the date. -/
def createEvent (data : Json) : Except ServiceError EventRow × Events :=
  if ¬ data.truthy then (.error (validationError "Missing required fields"),db)
  else match data.anyMissing requiredFields with
    | none => (.error unhandledError,db)
    | some true => (.error (validationError "Missing required fields"),db)
    | some false =>
        match data with
        | .obj fields =>
            match dateError cols fields with
            | some e => (.error e,db)
            | none =>
                match newEvent cols clock fields with
                | some event =>
                    if (db.lookup eventId).isSome then (.error unhandledError,db)
                    else (.ok (eventId,event),db.insert eventId event)
                | none => (.error unhandledError,db)
        | _ => (.error ⟨400,"INVALID_DATE","Invalid date format"⟩,db)

/-- `GET /events/<event_id>`. -/
def getEvent : Except ServiceError EventDetail :=
  match db.lookup eventId with
  | some event => .ok (detail (eventId,event))
  | none => .error eventNotFound

end Admin

end TicketRemaster.EventService
