import TicketRemaster.Services.Platform
set_option autoImplicit false

/-! The lookups with which the transfer orchestrator dresses up its answers and notifications. -/

namespace TicketRemaster.Transfer

open Resumption

/-- A transfer as the orchestrator passes it around: any of its keys may be missing. The last
three are looked for, but no service or handler sets them. -/
structure TransferFields where
  transferId : Option TransferId := none
  listingId : Option ListingId := none
  buyerId : Option UserId := none
  sellerId : Option UserId := none
  status : Option TransferStatus := none
  creditAmount : Option Credits := none
  buyerOtpVerified : Option Bool := none
  sellerOtpVerified : Option Bool := none
  buyerVerificationSid : Option Sid := none
  sellerVerificationSid : Option Sid := none
  completedAt : Option Time := none
  expiresAt : Option Time := none
  createdAt : Option Time := none
  ticketId : Option TicketId := none
  eventId : Option EventId := none
  venueId : Option VenueId := none
  inventoryId : Option InventoryId := none
  deriving DecidableEq

def toDict (transferId : TransferId) (t : TicketRemaster.Transfer) : TransferFields where
  transferId := some transferId
  listingId := some t.listingId
  buyerId := some t.buyerId
  sellerId := some t.sellerId
  status := some t.status
  creditAmount := some t.creditAmount
  buyerOtpVerified := some t.buyerOtpVerified
  sellerOtpVerified := some t.sellerOtpVerified
  buyerVerificationSid := t.buyerVerificationSid
  sellerVerificationSid := t.sellerVerificationSid
  completedAt := t.completedAt
  expiresAt := some t.expiresAt
  createdAt := some t.createdAt

structure TransferContext where
  buyer : Option User
  seller : Option User
  listing : Option Listing
  ticket : Option Ticket
  ticketId : Option TicketId
  event : Option Event
  eventId : Option EventId
  venue : Option Venue
  seat : Option (SeatId × Seat)
  deriving DecidableEq

/-- Look something up if its id is known. -/
def lookupIf {κ ρ : Type} (id : Option κ) (get : κ → Handler (Option ρ)) : Handler (Option ρ) :=
  match id with
  | some k => get k
  | none => pure none

def findSeat (eventId : Option EventId) (inventoryId : Option InventoryId)
    (venueId : Option VenueId) : Handler (Option (SeatId × Seat)) :=
  lookupIf eventId fun eventId => lookupIf inventoryId fun inventoryId => do
    let invData ← safeGet (.listInventoryByEvent eventId)
    let inventoryItem := (invData.getD []).find? (·.inventoryId = inventoryId)
    lookupIf venueId fun venueId => lookupIf (inventoryItem.map (·.seatId)) fun seatId => do
      let seatsData ← safeGet (.getSeatsByVenue venueId)
      pure ((seatsData.getD []).find? (·.1 = seatId))

def buildTransferContext (t : TransferFields) : Handler TransferContext := do
  let listing ← lookupIf t.listingId fun i => safeGet (.getListing i)
  let ticketId := t.ticketId.or (listing.map (·.ticketId))
  let ticket ← lookupIf ticketId fun i => safeGet (.getTicket i)
  let eventId := t.eventId.or (ticket.map (·.eventId))
  let event ← lookupIf eventId fun i => safeGet (.getEvent i)
  let venueId := (event.map (·.venueId)).or ((ticket.map (·.venueId)).or t.venueId)
  let venue ← lookupIf venueId fun i => safeGet (.getVenue i)
  let seller ← lookupIf t.sellerId fun i => safeGet (.getUser i)
  let buyer ← lookupIf t.buyerId fun i => safeGet (.getUser i)
  let inventoryId := (ticket.map (·.inventoryId)).or t.inventoryId
  let seat ← findSeat eventId inventoryId venueId
  pure ⟨buyer,seller,listing,ticket,ticketId,event,eventId,venue,seat⟩

def buildEventPayload (c : TransferContext) : Option EventPayload :=
  if c.eventId.isNone && c.event.isNone && c.venue.isNone then none
  else some ⟨c.eventId,c.event.map (·.name),c.event.map (·.date),c.event.map (·.image),c.venue⟩

/-- The seats of seat-service have neither a section nor a gate. -/
def buildSeatPayload (c : TransferContext) : Option SeatPayload :=
  c.seat.map fun s => ⟨s.1,s.2.rowNumber,s.2.seatNumber⟩

structure EnrichedTransfer where
  transfer : TransferFields
  buyerName : String
  sellerName : String
  ticketId : Option TicketId
  listing : Option Listing
  ticket : Option Ticket
  venue : Option Venue
  event : Option EventPayload
  seat : Option SeatPayload
  deriving DecidableEq

/-- user-service knows its users by e-mail only. -/
def enrichTransfer (t : TransferFields) : Handler EnrichedTransfer := do
  let context ← buildTransferContext t
  pure {
    transfer := t
    buyerName := (context.buyer.map (·.email)).getD "Buyer"
    sellerName := (context.seller.map (·.email)).getD "Seller"
    ticketId := context.ticketId
    listing := context.listing
    ticket := context.ticket
    venue := context.venue
    event := buildEventPayload context
    seat := buildSeatPayload context }

def buildTransferNotificationPayload (eventType : String) (t : TransferFields) :
    Handler TransferNotification := do
  let enriched ← enrichTransfer t
  pure {
    eventType := eventType
    transferId := t.transferId
    listingId := t.listingId
    ticketId := enriched.ticketId
    buyerId := t.buyerId
    buyerName := enriched.buyerName
    sellerId := t.sellerId
    sellerName := enriched.sellerName
    status := t.status
    creditAmount := t.creditAmount
    completedAt := t.completedAt
    event := enriched.event
    seat := enriched.seat }

/-- Reload the latest state of the transfer, or make do with the caller's copy. -/
def loadEnrichedTransfer (transferId : TransferId) (fallback : TransferFields) :
    Handler EnrichedTransfer := do
  match ← callService (.getTransfer transferId) with
  | .error _ => enrichTransfer fallback
  | .ok transfer => enrichTransfer (toDict transferId transfer)

def broadcastNotification (n : Notification) : Handler Unit :=
  (do let _ ← callService (.broadcast n) : Handler Unit).handle fun _ => pure ()

def broadcastTransferNotification (eventType : String) (t : TransferFields) : Handler Unit := do
  let payload ← buildTransferNotificationPayload eventType t
  broadcastNotification (.transferUpdate payload)

def publishSellerNotification (transferId : TransferId) (sellerId : UserId) : Handler Unit :=
  publishAttempts (.sellerNotification transferId sellerId) 3

def publishTransferTimeout (transferId : TransferId) (listingId : ListingId)
    (buyerId sellerId : UserId) : Handler Unit :=
  publishAttempts (.transferTimeout transferId listingId buyerId sellerId) 3

end TicketRemaster.Transfer
