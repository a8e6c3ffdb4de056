import TicketRemaster.Transfer.Chain
import TicketRemaster.Transfer.Reads
set_option autoImplicit false

/-! The enrichment on rows and the enrichment on JSON compute the same, once the rows are written
out as their services write them. -/

namespace TicketRemaster

def ListingStatus.text : ListingStatus → String
  | .active => "active"
  | .completed => "completed"
  | .cancelled => "cancelled"
  | .other word => word

def Reply.toOption {α : Type} : Reply α → Option α
  | .ok a => some a
  | .error _ | .raised => none

def Json.opt {α : Type} (encode : α → Json) : Option α → Json
  | none => .null
  | some a => encode a

/-- A row that has been looked up by its id. -/
def Json.row {ρ : Type} (encode : Nat → ρ → Json) : Option Nat → Option ρ → Json
  | some n, some r => encode n r
  | _, _ => .null

namespace TransferRecord

open Resumption

/-- How ids, instants and hashes are written. An id can be read back, and is not empty. -/
structure Encoding where
  id : Nat → String
  read : String → Option Nat
  time : Time → String
  hash : QrHash → String
  read_id (n : Nat) : read (id n) = some n
  id_ne_empty (n : Nat) : id n ≠ ""

namespace Encoding

variable (enc : Encoding)

def idText (n : Nat) : Json := .str (enc.id n)

def timeText (t : Time) : Json := .str (enc.time t)

section Rows

def listing (listingId : ListingId) (r : Listing) : Json :=
  .obj [("listingId",enc.idText listingId),("ticketId",enc.idText r.ticketId),
    ("sellerId",enc.idText r.sellerId),("price",.num r.price),("status",.str r.status.text),
    ("createdAt",enc.timeText r.createdAt)]

def ticket (ticketId : TicketId) (r : Ticket) : Json :=
  .obj [("ticketId",enc.idText ticketId),("inventoryId",enc.idText r.inventoryId),
    ("ownerId",enc.idText r.ownerId),("venueId",enc.idText r.venueId),
    ("eventId",enc.idText r.eventId),("price",.num r.price),("status",.str r.status.text),
    ("qrHash",Json.opt (fun hash => .str (enc.hash hash)) r.qrHash),
    ("qrTimestamp",Json.opt enc.timeText r.qrTimestamp),("createdAt",enc.timeText r.createdAt)]

def event (eventId : EventId) (r : Event) : Json :=
  .obj [("eventId",enc.idText eventId),("venueId",enc.idText r.venueId),("name",.str r.name),
    ("date",enc.timeText r.date),("price",.num r.price),("image",.str r.image)]

def venue (r : Venue) : Json := .obj [("name",.str r.name),("address",.str r.address)]

def user (userId : UserId) (r : User) : Json :=
  .obj [("userId",enc.idText userId),("email",.str r.email),
    ("phoneNumber",enc.idText r.phoneNumber)]

def inventoryItem (r : InventoryItem) : Json :=
  .obj [("inventoryId",enc.idText r.inventoryId),("seatId",enc.idText r.seatId)]

def seat (r : SeatId × Seat) : Json :=
  .obj [("seatId",enc.idText r.1),("venueId",enc.idText r.2.venueId),
    ("seatNumber",.str r.2.seatNumber),("rowNumber",.str r.2.rowNumber)]

end Rows

section Answers

/-- What `call_service` returns for a path with an id in it. -/
def reply {ρ : Type} (encode : Nat → ρ → Json) (answer : Nat → Reply ρ) : Json → Except String Json
  | .str s =>
      match (enc.read s).map fun n => (n,answer n) with
      | some (n,.ok r) => .ok (encode n r)
      | some (_,.error code) => .error code
      | some (_,.raised) | none => .error "SERVICE_UNAVAILABLE"
  | _ => .error "SERVICE_UNAVAILABLE"

def lookups (answers : (q : Call) → q.Ans) : Lookups where
  listing := enc.reply enc.listing fun n => answers (.http (.getListing n))
  ticket := enc.reply enc.ticket fun n => answers (.http (.getTicket n))
  event := enc.reply enc.event fun n => answers (.http (.getEvent n))
  venue := enc.reply (fun _ => venue) fun n => answers (.http (.getVenue n))
  seller := enc.reply enc.user fun n => answers (.http (.getUser n))
  buyer := enc.reply enc.user fun n => answers (.http (.getUser n))
  inventory := enc.reply (fun _ items => .obj [("inventory",.arr (items.map enc.inventoryItem))])
    fun n => answers (.http (.listInventoryByEvent n))
  seats := enc.reply (fun _ items => .obj [("seats",.arr (items.map enc.seat))])
    fun n => answers (.http (.getSeatsByVenue n))

variable {enc} {ρ : Type} {encode : Nat → ρ → Json} {answer : Nat → Reply ρ}

theorem reply_ok {id data : Json} (h : enc.reply encode answer id = .ok data) :
    ∃ n r, data = encode n r := by
  unfold reply at h
  split at h
  · split at h
    · cases h
      exact ⟨_,_,rfl⟩
    all_goals cases h
  · cases h

theorem reply_hasTexts {names : List String} (hencode : ∀ n r, HasTexts names (encode n r))
    (id data : Json) (h : enc.reply encode answer id = .ok data) : HasTexts names data := by
  obtain ⟨n,r,rfl⟩ := reply_ok h
  exact hencode n r

theorem reply_hasItems {α : Type} {answer : Nat → Reply (List α)} {list : String}
    {names : List String} {item : α → Json} (hitem : ∀ a, HasTexts names (item a)) (id data : Json)
    (h : enc.reply (fun _ items => .obj [(list,.arr (items.map item))]) answer id = .ok data) :
    HasItems list names data := by
  obtain ⟨n,items,rfl⟩ := reply_ok h
  refine ⟨_,items.map item,rfl,(Dict.lookup_cons _ _ _ _).trans (if_pos rfl),fun a ha => ?_⟩
  obtain ⟨b,-,rfl⟩ := List.mem_map.mp ha
  exact hitem b

/-- The rows have the shapes of their services. -/
theorem lookups_shaped (answers : (q : Call) → q.Ans) : (enc.lookups answers).Shaped where
  listing := reply_hasTexts fun n r => ⟨_,rfl,by simp [Json.get,Dict.lookup_cons,idText]⟩
  ticket := reply_hasTexts fun n r => ⟨_,rfl,by simp [Json.get,Dict.lookup_cons,idText]⟩
  event := reply_hasTexts fun n r => ⟨_,rfl,by simp [Json.get,Dict.lookup_cons,idText,timeText]⟩
  venue := reply_hasTexts fun n r => ⟨_,rfl,by simp [Json.get,Dict.lookup_cons]⟩
  seller := reply_hasTexts fun n r => ⟨_,rfl,by simp [Json.get,Dict.lookup_cons]⟩
  buyer := reply_hasTexts fun n r => ⟨_,rfl,by simp [Json.get,Dict.lookup_cons]⟩
  inventory := reply_hasItems fun a => ⟨_,rfl,by simp [Json.get,Dict.lookup_cons,idText]⟩
  seats := reply_hasItems fun a => ⟨_,rfl,by simp [Json.get,Dict.lookup_cons,idText]⟩

end Answers

section Searches

variable {enc} {ρ : Type}

theorem id_injective : Function.Injective enc.id := fun m n h => by
  have hread := congrArg enc.read h
  rwa [enc.read_id,enc.read_id,Option.some.injEq] at hread

theorem idText_truthy (n : Nat) : (enc.idText n).truthy := by
  simp [idText,Json.truthy,enc.id_ne_empty]

theorem safeGet_reply (encode : Nat → ρ → Json) (answer : Nat → Reply ρ) (n : Nat) :
    safeGet (enc.reply encode answer (enc.idText n)) =
      Json.opt (encode n) (answer n).toOption := by
  simp only [reply,idText,enc.read_id,Option.map_some]
  cases answer n <;> rfl

theorem lookupIf_reply (encode : Nat → ρ → Json) (answer : Nat → Reply ρ) (id : Option Nat) :
    lookupIf (Json.opt enc.idText id) (enc.reply encode answer) =
      Json.row encode id (id.bind fun n => (answer n).toOption) := by
  cases id with
  | none => rfl
  | some n =>
    simp only [lookupIf,Json.opt,idText_truthy,if_true,safeGet_reply,Option.bind_some]
    cases (answer n).toOption <;> rfl

variable {α : Type} {item : α → Json} {name : String} {key : α → Nat}

theorem nextItem_map (hobj : ∀ a, ∃ fields, item a = .obj fields)
    (hkey : ∀ a, (item a).field name = enc.idText (key a)) (k : Nat) (items : List α) :
    nextItem name (enc.idText k) (items.map item) =
      .ok (Json.opt item (items.find? fun a => key a = k)) := by
  induction items with
  | nil => rfl
  | cons a items ih =>
    obtain ⟨fields,hfields⟩ := hobj a
    have hdot : (item a).dot name = .ok (enc.idText (key a)) := by
      rw [← hkey a,hfields]
      rfl
    rw [List.map_cons,nextItem,hdot,Py.ok_bind,ih]
    by_cases hk : key a = k
    · simp [hk,idText,Json.eq_str,Json.opt,pure,Except.pure]
    · have hid : enc.id (key a) ≠ enc.id k := fun h => hk (id_injective h)
      simp [hk,idText,Json.eq_str,hid]

theorem findItem_reply {list : String} {answer : Nat → Reply (List α)}
    (hobj : ∀ a, ∃ fields, item a = .obj fields)
    (hkey : ∀ a, (item a).field name = enc.idText (key a)) (n k : Nat) :
    findItem (safeGet (enc.reply (fun _ items => .obj [(list,.arr (items.map item))]) answer
        (enc.idText n))) list name (enc.idText k) =
      .ok (Json.opt item (((answer n).toOption.getD []).find? fun a => key a = k)) := by
  rw [safeGet_reply]
  cases (answer n).toOption with
  | none => rfl
  | some items =>
    rw [← nextItem_map hobj hkey k]
    simp [findItem,Json.opt,Json.orEmpty,Json.truthy,Json.getOr,Json.iter,Py.ok_bind]

end Searches

end Encoding

section Rows

open Transfer

variable (answers : (q : Call) → q.Ans)

def found (q : Http) : Option q.Val := Reply.toOption (answers (.http q))

def seatOf (eventId : Option EventId) (inventoryId : Option InventoryId)
    (venueId : Option VenueId) : Option (SeatId × TicketRemaster.Seat) :=
  eventId.bind fun eventId => inventoryId.bind fun inventoryId =>
    let inventoryItem := ((found answers (.listInventoryByEvent eventId)).getD []).find?
      (·.inventoryId = inventoryId)
    venueId.bind fun venueId => (inventoryItem.map (·.seatId)).bind fun seatId =>
      ((found answers (.getSeatsByVenue venueId)).getD []).find? (·.1 = seatId)

/-- The context that the handler builds on rows, from these answers. -/
def rowsContext (t : TransferFields) : TransferContext :=
  let listing := t.listingId.bind fun i => found answers (.getListing i)
  let ticketId := t.ticketId.or (listing.map (·.ticketId))
  let ticket := ticketId.bind fun i => found answers (.getTicket i)
  let eventId := t.eventId.or (ticket.map (·.eventId))
  let event := eventId.bind fun i => found answers (.getEvent i)
  let venueId := (event.map (·.venueId)).or ((ticket.map (·.venueId)).or t.venueId)
  { buyer := t.buyerId.bind fun i => found answers (.getUser i)
    seller := t.sellerId.bind fun i => found answers (.getUser i)
    listing, ticket, ticketId, event, eventId
    venue := venueId.bind fun i => found answers (.getVenue i)
    seat := seatOf answers eventId ((ticket.map (·.inventoryId)).or t.inventoryId) venueId }

/-- No lookup raises. -/
def Readable : Prop := ∀ q, answers (.http q) ≠ .raised

variable {answers}

theorem safeGet_eval (hanswers : Readable answers) (q : Http) :
    (TicketRemaster.safeGet q).eval answers = .ok (found answers q) := by
  have hraised := hanswers q
  cases hq : (answers (.http q) : Reply q.Val) with
  | ok a =>
    have hcall : (callService q).eval answers = .ok (.ok a) := by
      simp only [callService,Prog.eval,hq]
    rw [TicketRemaster.safeGet,Prog.eval_bind_ok hcall,found,hq]
    rfl
  | error code =>
    have hcall : (callService q).eval answers = .ok (.error code) := by
      simp only [callService,Prog.eval,hq]
    rw [TicketRemaster.safeGet,Prog.eval_bind_ok hcall,found,hq]
    rfl
  | raised => exact absurd hq hraised

theorem lookupIf_eval {κ ρ : Type} {get : κ → Handler (Option ρ)} {f : κ → Option ρ}
    (hget : ∀ k, (get k).eval answers = .ok (f k)) (id : Option κ) :
    (Transfer.lookupIf id get).eval answers = .ok (id.bind f) := by
  cases id with
  | none => rfl
  | some k => exact hget k

theorem findSeat_eval (hanswers : Readable answers) (eventId : Option EventId)
    (inventoryId : Option InventoryId) (venueId : Option VenueId) :
    (Transfer.findSeat eventId inventoryId venueId).eval answers =
      .ok (seatOf answers eventId inventoryId venueId) := by
  refine lookupIf_eval (fun eventId => lookupIf_eval (fun inventoryId => ?_) _) _
  rw [Prog.eval_bind_ok (safeGet_eval hanswers _)]
  refine lookupIf_eval (fun venueId => lookupIf_eval (fun seatId => ?_) _) _
  rw [Prog.eval_bind_ok (safeGet_eval hanswers _)]
  rfl

theorem buildTransferContext_eval (hanswers : Readable answers) (t : TransferFields) :
    (Transfer.buildTransferContext t).eval answers = .ok (rowsContext answers t) := by
  unfold Transfer.buildTransferContext
  rw [Prog.eval_bind_ok (lookupIf_eval (fun i => safeGet_eval hanswers (.getListing i)) _),
    Prog.eval_bind_ok (lookupIf_eval (fun i => safeGet_eval hanswers (.getTicket i)) _),
    Prog.eval_bind_ok (lookupIf_eval (fun i => safeGet_eval hanswers (.getEvent i)) _),
    Prog.eval_bind_ok (lookupIf_eval (fun i => safeGet_eval hanswers (.getVenue i)) _),
    Prog.eval_bind_ok (lookupIf_eval (fun i => safeGet_eval hanswers (.getUser i)) _),
    Prog.eval_bind_ok (lookupIf_eval (fun i => safeGet_eval hanswers (.getUser i)) _),
    Prog.eval_bind_ok (findSeat_eval hanswers _ _ _)]
  rfl

end Rows

section Refinement

open Transfer

variable {enc : Encoding} {answers : (q : Call) → q.Ans} {t : TransferFields} {fields : Fields}

variable (enc t fields) in
/-- A record that has the ids of the transfer, and whatever else. -/
structure Encoding.Encodes : Prop where
  listingId : Json.get fields "listingId" = Json.opt enc.idText t.listingId
  buyerId : Json.get fields "buyerId" = Json.opt enc.idText t.buyerId
  sellerId : Json.get fields "sellerId" = Json.opt enc.idText t.sellerId
  ticketId : Json.get fields "ticketId" = Json.opt enc.idText t.ticketId
  eventId : Json.get fields "eventId" = Json.opt enc.idText t.eventId
  venueId : Json.get fields "venueId" = Json.opt enc.idText t.venueId
  inventoryId : Json.get fields "inventoryId" = Json.opt enc.idText t.inventoryId

variable (enc t) in
def Encoding.context (c : TransferContext) : Context where
  buyer := Json.row enc.user t.buyerId c.buyer
  seller := Json.row enc.user t.sellerId c.seller
  listing := Json.row enc.listing t.listingId c.listing
  ticket := Json.row enc.ticket c.ticketId c.ticket
  ticketId := Json.opt enc.idText c.ticketId
  event := Json.row enc.event c.eventId c.event
  eventId := Json.opt enc.idText c.eventId
  venue := Json.opt Encoding.venue c.venue
  seat := Json.opt enc.seat c.seat

theorem firstPresent_two (a b : Option Nat) :
    firstPresent [Json.opt enc.idText a,Json.opt enc.idText b] = Json.opt enc.idText (a.or b) := by
  cases a with
  | none => exact firstPresent_singleton _
  | some n => exact firstPresent_cons_of_ne Json.noConfusion _

theorem firstPresent_three (a b c : Option Nat) :
    firstPresent [Json.opt enc.idText a,Json.opt enc.idText b,Json.opt enc.idText c] =
      Json.opt enc.idText (a.or (b.or c)) := by
  cases a with
  | none => exact firstPresent_two b c
  | some n => exact firstPresent_cons_of_ne Json.noConfusion _

theorem row_field {ρ : Type} {encode : Nat → ρ → Json} {name : String} {key : ρ → Nat}
    (hkey : ∀ n r, (encode n r).field name = enc.idText (key r)) (id : Option Nat)
    (f : Nat → Option ρ) :
    (Json.row encode id (id.bind f)).field name = Json.opt enc.idText ((id.bind f).map key) := by
  cases id with
  | none => rfl
  | some n =>
    rw [Option.bind_some]
    cases f n with
    | none => rfl
    | some r => exact hkey n r

theorem row_eq_opt {ρ : Type} (encode : ρ → Json) (id : Option Nat) (f : Nat → Option ρ) :
    Json.row (fun _ => encode) id (id.bind f) = Json.opt encode (id.bind f) := by
  cases id with
  | none => rfl
  | some n =>
    rw [Option.bind_some]
    cases f n <;> rfl

theorem findItem_inventory (n k : Nat) :
    findItem (safeGet ((enc.lookups answers).inventory (enc.idText n))) "inventory" "inventoryId"
        (enc.idText k) =
      .ok (Json.opt enc.inventoryItem
        (((found answers (.listInventoryByEvent n)).getD []).find? (·.inventoryId = k))) :=
  Encoding.findItem_reply (fun _ => ⟨_,rfl⟩) (fun _ => rfl) n k

theorem findItem_seats (n k : Nat) :
    findItem (safeGet ((enc.lookups answers).seats (enc.idText n))) "seats" "seatId"
        (enc.idText k) =
      .ok (Json.opt enc.seat (((found answers (.getSeatsByVenue n)).getD []).find? (·.1 = k))) :=
  Encoding.findItem_reply (fun _ => ⟨_,rfl⟩) (fun _ => rfl) n k

theorem findSeat_encodes (eventId : Option EventId) (inventoryId : Option InventoryId)
    (venueId : Option VenueId) :
    findSeat (enc.lookups answers) (Json.opt enc.idText eventId) (Json.opt enc.idText inventoryId)
        (Json.opt enc.idText venueId) =
      .ok (Json.opt enc.seat (seatOf answers eventId inventoryId venueId)) := by
  cases eventId with
  | none => rfl
  | some eventId =>
  cases inventoryId with
  | none => simp [findSeat,Json.opt,Json.truthy,seatOf]; rfl
  | some inventoryId =>
  simp only [findSeat,Json.opt,Encoding.idText_truthy,Bool.and_self,if_true,seatOf,
    Option.bind_some,findItem_inventory,Py.ok_bind]
  cases ((found answers (.listInventoryByEvent eventId)).getD []).find?
      (·.inventoryId = inventoryId) with
  | none =>
    simp only [Json.null_dot,Py.ok_bind,Option.map_none,Option.bind_none]
    cases venueId <;> simp [Json.truthy] <;> rfl
  | some item =>
    have hseatId : (enc.inventoryItem item).orEmpty.dot "seatId" =
      .ok (enc.idText item.seatId) := rfl
    simp only [hseatId,Py.ok_bind,Option.map_some,Option.bind_some]
    cases venueId with
    | none => rfl
    | some venueId =>
      simp only [Encoding.idText_truthy,Bool.and_self,if_true,findItem_seats,Option.bind_some]
      rfl

section Rows

variable (id : Option Nat)

theorem lookupIf_listing : lookupIf (Json.opt enc.idText id) (enc.lookups answers).listing =
    Json.row enc.listing id (id.bind fun i => found answers (.getListing i)) :=
  Encoding.lookupIf_reply _ _ id

theorem lookupIf_ticket : lookupIf (Json.opt enc.idText id) (enc.lookups answers).ticket =
    Json.row enc.ticket id (id.bind fun i => found answers (.getTicket i)) :=
  Encoding.lookupIf_reply _ _ id

theorem lookupIf_event : lookupIf (Json.opt enc.idText id) (enc.lookups answers).event =
    Json.row enc.event id (id.bind fun i => found answers (.getEvent i)) :=
  Encoding.lookupIf_reply _ _ id

theorem lookupIf_seller : lookupIf (Json.opt enc.idText id) (enc.lookups answers).seller =
    Json.row enc.user id (id.bind fun i => found answers (.getUser i)) :=
  Encoding.lookupIf_reply _ _ id

theorem lookupIf_buyer : lookupIf (Json.opt enc.idText id) (enc.lookups answers).buyer =
    Json.row enc.user id (id.bind fun i => found answers (.getUser i)) :=
  Encoding.lookupIf_reply _ _ id

theorem lookupIf_venue : lookupIf (Json.opt enc.idText id) (enc.lookups answers).venue =
    Json.opt Encoding.venue (id.bind fun i => found answers (.getVenue i)) :=
  (Encoding.lookupIf_reply _ _ id).trans (row_eq_opt _ id _)

theorem row_listing_ticketId (f : Nat → Option Listing) :
    (Json.row enc.listing id (id.bind f)).field "ticketId" =
      Json.opt enc.idText ((id.bind f).map (·.ticketId)) := row_field (fun _ _ => rfl) id f

theorem row_ticket_eventId (f : Nat → Option Ticket) :
    (Json.row enc.ticket id (id.bind f)).field "eventId" =
      Json.opt enc.idText ((id.bind f).map (·.eventId)) := row_field (fun _ _ => rfl) id f

theorem row_ticket_venueId (f : Nat → Option Ticket) :
    (Json.row enc.ticket id (id.bind f)).field "venueId" =
      Json.opt enc.idText ((id.bind f).map (·.venueId)) := row_field (fun _ _ => rfl) id f

theorem row_ticket_inventoryId (f : Nat → Option Ticket) :
    (Json.row enc.ticket id (id.bind f)).field "inventoryId" =
      Json.opt enc.idText ((id.bind f).map (·.inventoryId)) := row_field (fun _ _ => rfl) id f

theorem row_event_venueId (f : Nat → Option Event) :
    (Json.row enc.event id (id.bind f)).field "venueId" =
      Json.opt enc.idText ((id.bind f).map (·.venueId)) := row_field (fun _ _ => rfl) id f

end Rows

/-- Both make the same lookups, and get hold of the same rows. -/
theorem buildTransferContext_encodes (h : enc.Encodes t fields) :
    buildTransferContext (enc.lookups answers) fields =
      .ok (enc.context t (rowsContext answers t)) := by
  have hl := enc.lookups_shaped answers
  simp only [buildTransferContext,lookupIf_dot hl.listing,lookupIf_dot hl.ticket,
    lookupIf_dot hl.event,Py.ok_bind,h.listingId,h.buyerId,h.sellerId,h.ticketId,h.eventId,
    h.venueId,h.inventoryId]
  simp only [lookupIf_listing,row_listing_ticketId,firstPresent_two,lookupIf_ticket,
    row_ticket_eventId,lookupIf_event,row_event_venueId,row_ticket_venueId,firstPresent_three,
    lookupIf_venue,lookupIf_seller,lookupIf_buyer,row_ticket_inventoryId,findSeat_encodes,
    Py.ok_bind]
  rfl

variable (enc) in
def Encoding.eventPayload (p : TicketRemaster.EventPayload) : Json :=
  .obj [("id",Json.opt enc.idText p.eventId),("eventId",Json.opt enc.idText p.eventId),
    ("name",Json.opt .str p.name),("date",Json.opt enc.timeText p.date),
    ("image",Json.opt .str p.image),("venue",Json.opt Encoding.venue p.venue)]

variable (enc) in
def Encoding.seatPayload (p : TicketRemaster.SeatPayload) : Json :=
  .obj [("seatId",enc.idText p.seatId),("section",.null),("row",.str p.row),
    ("rowNumber",.str p.row),("seat",.str p.seat),("seatNumber",.str p.seat),("gate",.null)]

variable (enc) in
/-- What an enriched transfer has beyond the transfer. -/
def Encoding.entries (e : EnrichedTransfer) : Fields :=
  let listing := Json.row enc.listing e.transfer.listingId e.listing
  let ticket := Json.row enc.ticket e.ticketId e.ticket
  let venue := Json.opt Encoding.venue e.venue
  let event := Json.opt enc.eventPayload e.event
  let seat := Json.opt enc.seatPayload e.seat
  [("buyerName",.str e.buyerName),("sellerName",.str e.sellerName),
      ("ticketId",Json.opt enc.idText e.ticketId)] ++
    present listing [("listing",listing)] ++ present ticket [("ticket",ticket)] ++
    present venue (venueEntries venue) ++ present event (eventEntries event) ++
    present seat (seatEntries seat)

theorem nameOf_row (id : Option Nat) (f : Nat → Option User) (default : String) :
    nameOf (Json.row enc.user id (id.bind f)) default =
      .str (((id.bind f).map (·.email)).getD default) := by
  cases id with
  | none => rfl
  | some n =>
    rw [Option.bind_some]
    cases f n <;> rfl

theorem row_plain {ρ : Type} (encode : Nat → ρ → Json) (hobj : ∀ n r, (encode n r).Plain)
    (id : Option Nat) (r : Option ρ) : (Json.row encode id r).Plain := by
  cases id with
  | none => trivial
  | some n =>
    cases r with
    | none => trivial
    | some r => exact hobj n r

theorem opt_plain {α : Type} (encode : α → Json) (hobj : ∀ a, (encode a).Plain) (a : Option α) :
    (Json.opt encode a).Plain := by
  cases a with
  | none => trivial
  | some a => exact hobj a

theorem context_plain (c : TransferContext) : (enc.context t c).Plain where
  buyer := row_plain enc.user (fun _ _ => trivial) _ _
  seller := row_plain enc.user (fun _ _ => trivial) _ _
  event := row_plain enc.event (fun _ _ => trivial) _ _
  venue := opt_plain Encoding.venue (fun _ => trivial) _
  seat := opt_plain enc.seat (fun _ => trivial) _

theorem eventPayload_encodes (c : TransferContext) (hevent : c.eventId = none → c.event = none) :
    (if (enc.context t c).knowsEvent then
        eventPayload (enc.context t c).knownEventId (enc.context t c).event (enc.context t c).venue
      else .null) = Json.opt enc.eventPayload (Transfer.buildEventPayload c) := by
  obtain ⟨buyer,seller,listing,ticket,ticketId,event,eventId,venue,seat⟩ := c
  cases eventId with
  | none =>
    obtain rfl : event = none := hevent rfl
    cases venue <;> rfl
  | some n =>
    have hknown : (enc.context t ⟨buyer,seller,listing,ticket,ticketId,event,some n,venue,
        seat⟩).knownEventId = enc.idText n := by
      cases event <;> rfl
    rw [Context.knowsEvent,hknown,Encoding.idText_truthy,Bool.true_or,Bool.true_or,Bool.true_or,
      if_pos rfl]
    cases event <;> rfl

theorem seatPayload_encodes (c : TransferContext) :
    (if knowsSeat (enc.context t c).seat then seatPayload (enc.context t c).seat else .null) =
      Json.opt enc.seatPayload (Transfer.buildSeatPayload c) := by
  obtain ⟨buyer,seller,listing,ticket,ticketId,event,eventId,venue,seat⟩ := c
  cases seat with
  | none => rfl
  | some seat =>
    have hknows : knowsSeat (enc.seat seat) := by
      simp only [knowsSeat,Bool.or_eq_true]
      exact .inl (.inl (.inl (.inl (Encoding.idText_truthy seat.1))))
    exact if_pos hknows

/-- On JSON the enrichment computes what it does on rows. -/
theorem enrichTransfer_encodes (hanswers : Readable answers) (h : enc.Encodes t fields) :
    ∃ e, (Transfer.enrichTransfer t).eval answers = .ok e ∧
      enrichTransfer (enc.lookups answers) fields = .ok (Dict.setAll fields (enc.entries e)) := by
  have hevent (hid : (rowsContext answers t).eventId = none) :
      (rowsContext answers t).event = none := congrArg (Option.bind · _) hid
  have hbuyer : nameOf (enc.context t (rowsContext answers t)).buyer "Buyer" =
      .str (((rowsContext answers t).buyer.map (·.email)).getD "Buyer") := nameOf_row _ _ _
  have hseller : nameOf (enc.context t (rowsContext answers t)).seller "Seller" =
      .str (((rowsContext answers t).seller.map (·.email)).getD "Seller") := nameOf_row _ _ _
  refine ⟨_,Prog.eval_bind_ok (buildTransferContext_eval hanswers t),?_⟩
  rw [enrichTransfer_eq (buildTransferContext_encodes h) (context_plain _),Context.entries,
    eventPayload_encodes _ hevent,seatPayload_encodes,hbuyer,hseller]
  rfl

end Refinement

section Databases

variable (cfg : SeatInventory.SeatConfig) (w : World)

/-- What the services answer when nothing goes wrong. -/
def answersOf (q : Call) : q.Ans := (w.perform cfg ⟨0,0,0,true,false,none⟩ q).1

def IsLookup : Call → Prop
  | .http (.getListing _) | .http (.getTicket _) | .http (.getEvent _) | .http (.getVenue _)
  | .http (.getUser _) | .http (.listInventoryByEvent _) | .http (.getSeatsByVenue _) => True
  | _ => False

theorem lookupIf_calls {ρ : Type} {get : Nat → Handler (Option ρ)}
    (hget : ∀ k, (get k).Calls IsLookup (fun _ => True)) (id : Option Nat) :
    (Transfer.lookupIf id get).Calls IsLookup (fun _ => True) := by
  cases id with
  | none => trivial
  | some k => exact hget k

theorem enrichTransfer_calls (t : Transfer.TransferFields) :
    (Transfer.enrichTransfer t).Calls IsLookup (fun _ => True) := by
  have hget (q : Http) (hq : IsLookup (.http q)) :
      (TicketRemaster.safeGet q).Calls IsLookup (fun _ => True) := safeGet_calls hq
  refine Prog.calls_bind ?_ fun _ => trivial
  refine Prog.calls_bind (lookupIf_calls (fun i => hget (.getListing i) trivial) _) fun _ => ?_
  refine Prog.calls_bind (lookupIf_calls (fun i => hget (.getTicket i) trivial) _) fun _ => ?_
  refine Prog.calls_bind (lookupIf_calls (fun i => hget (.getEvent i) trivial) _) fun _ => ?_
  refine Prog.calls_bind (lookupIf_calls (fun i => hget (.getVenue i) trivial) _) fun _ => ?_
  refine Prog.calls_bind (lookupIf_calls (fun i => hget (.getUser i) trivial) _) fun _ => ?_
  refine Prog.calls_bind (lookupIf_calls (fun i => hget (.getUser i) trivial) _) fun _ => ?_
  refine Prog.calls_bind ?_ fun _ => trivial
  refine lookupIf_calls (fun eventId => lookupIf_calls (fun inventoryId => ?_) _) _
  refine Prog.calls_bind (hget (.listInventoryByEvent eventId) trivial) fun _ => ?_
  refine lookupIf_calls (fun venueId => lookupIf_calls (fun seatId => ?_) _) _
  exact Prog.calls_bind (hget (.getSeatsByVenue venueId) trivial) fun _ => trivial

variable {cfg w}

theorem answersOf_readable : Readable (answersOf cfg w) := by
  intro q
  show World.httpReply (w.serve _ q).1 ≠ .raised
  cases (w.serve _ q).1 <;> simp [World.httpReply]

theorem perform_lookup {e : Env} (he : e.fault = none) {q : Call} (hq : IsLookup q) :
    w.perform cfg e q = (answersOf cfg w q,w) := by
  unfold IsLookup at hq
  split at hq
  case h_8 => exact hq.elim
  all_goals
    simp only [World.perform,he]
    rfl

/-- With every service at work, an enrichment shows what their databases hold, and changes
nothing. -/
theorem enrichTransfer_databases {enc : Encoding} {t : Transfer.TransferFields} {fields : Fields}
    (h : enc.Encodes t fields) {ι : Type} (i : ι) (ω : List (Entry Platform) → Env)
    (hω : ∀ past, (ω past).fault = none) (past : List (Entry Platform)) :
    ∃ e, ((Transfer.enrichTransfer t).exec (World.server cfg ι) i ω past w).result = .ok e ∧
      ((Transfer.enrichTransfer t).exec (World.server cfg ι) i ω past w).state = w ∧
      enrichTransfer (enc.lookups (answersOf cfg w)) fields =
        .ok (Dict.setAll fields (enc.entries e)) := by
  obtain ⟨e,heval,hjson⟩ := enrichTransfer_encodes answersOf_readable h
  have hserve (q : Call) (hq : IsLookup q) (past : List (Entry Platform)) :
      (World.server cfg ι).serve i (ω past) w q = (answersOf cfg w q,w) :=
    perform_lookup (hω past) hq
  obtain ⟨hresult,hstate⟩ := (enrichTransfer_calls t).exec_eval hserve past
  exact ⟨e,hresult.trans heval,hstate,hjson⟩

end Databases

end TransferRecord

end TicketRemaster
