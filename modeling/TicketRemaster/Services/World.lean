import TicketRemaster.Services.Records
set_option autoImplicit false

/-! The databases behind the services, and what each service does with a request on them. -/

namespace TicketRemaster

structure World where
  users : Table UserId User
  events : Table EventId Event
  venues : Table VenueId Venue
  seats : Table SeatId Seat
  inventory : Table InventoryId SeatInventory
  holdCache : Table InventoryId (CachedHold × Time)
  released : Table InventoryId (Table HoldToken (Bool × Time))
  tickets : Table TicketId Ticket
  ticketLogs : List TicketLog
  listings : Table ListingId Listing
  transfers : Table TransferId Transfer
  credits : Table UserId Credits
  creditTransactions : List CreditTransaction
  paymentIntents : Table PaymentIntentId PaymentIntent
  scanLocks : Table TicketId (Time × Time)

/-- An error answer of a service. -/
structure ServiceError where
  status : Nat
  code : String
  message : String
  deriving DecidableEq, Repr

def validationError (message : String) : ServiceError := ⟨400,"VALIDATION_ERROR",message⟩

/-- What the services answer when a row breaks a constraint nobody handles. -/
def unhandledError : ServiceError := ⟨500,"INTERNAL_ERROR","Unhandled internal server error."⟩

/-- An answer together with the databases after it. -/
abbrev Served (α : Type) := Except ServiceError α × World

namespace World

/-- Look a row up, or answer 404. -/
def found {α : Type} (row : Option α) (code message : String) : Except ServiceError α :=
  match row with
  | some r => .ok r
  | none => .error ⟨404,code,message⟩

section UserEventVenueSeat

def getUser (w : World) (userId : UserId) : Served User :=
  (found (w.users.lookup userId) "USER_NOT_FOUND" "User not found",w)

def getEvent (w : World) (eventId : EventId) : Served Event :=
  (found (w.events.lookup eventId) "EVENT_NOT_FOUND" "Event not found",w)

def getVenue (w : World) (venueId : VenueId) : Served Venue :=
  (found (w.venues.lookup venueId) "VENUE_NOT_FOUND" "Venue not found",w)

def getSeatsByVenue (w : World) (venueId : VenueId) : Served (List (SeatId × Seat)) :=
  (.ok ((w.seats.entries.filter (fun e => e.2.venueId = venueId)).map (fun e => (e.1,e.2))),w)

def listInventoryByEvent (w : World) (eventId : EventId) : Served (List InventoryItem) :=
  (.ok ((w.inventory.entries.filter (fun e => e.2.eventId = eventId)).map
    (fun e => ⟨e.1,e.2.seatId,e.2.status⟩)),w)

end UserEventVenueSeat

section TicketService

def allowedStatusValues : List TicketStatus := [.active,.listed,.used,.pendingTransfer]

/-- The `qrHash` column is unique. -/
def qrHashTaken (w : World) (hash : QrHash) (except : Option TicketId) : Bool :=
  w.tickets.entries.any (fun e => e.2.qrHash = some hash && some e.1 ≠ except)

def createTicket (w : World) (now : Time) (ticketId hex : Nat) (data : NewTicket) :
    Served (TicketId × Ticket) :=
  if data.status ∉ allowedStatusValues then (.error (validationError "Invalid status value"),w)
  else if (w.tickets.lookup ticketId).isSome || w.qrHashTaken (.uuidHex hex) none then
    (.error unhandledError,w)
  else
    let ticket : Ticket := {
      inventoryId := data.inventoryId
      ownerId := data.ownerId
      venueId := data.venueId
      eventId := data.eventId
      price := data.price
      status := data.status
      qrHash := some (.uuidHex hex)
      qrTimestamp := some now
      createdAt := now }
    (.ok (ticketId,ticket),{ w with tickets := w.tickets.insert ticketId ticket })

def getTicket (w : World) (ticketId : TicketId) : Served Ticket :=
  (found (w.tickets.lookup ticketId) "TICKET_NOT_FOUND" "Ticket not found",w)

def getTicketByQrHash (w : World) (hash : QrHash) : Served (TicketId × Ticket) :=
  (found (Table.findRow w.tickets (fun _ t => t.qrHash = some hash)) "TICKET_NOT_FOUND"
    "Ticket not found",w)

def patchTicket (p : TicketPatch) (t : Ticket) : Ticket :=
  { t with
    status := p.status.getD t.status
    ownerId := p.ownerId.getD t.ownerId
    qrHash := p.qrHash.or t.qrHash
    qrTimestamp := p.qrTimestamp.or t.qrTimestamp }

/-- `none` stands for a path that names no ticket, as `/tickets/None` does. -/
def updateTicket (w : World) (ticketId : Option TicketId) (data : TicketPatch) : Served Ticket :=
  if data = {} then (.error (validationError "Request body is required"),w)
  else match ticketId.bind (fun i => (w.tickets.lookup i).map (i,·)) with
    | none => (.error ⟨404,"TICKET_NOT_FOUND","Ticket not found"⟩,w)
    | some (i,ticket) =>
        if data.status.any (· ∉ allowedStatusValues) then
          (.error (validationError "Invalid status value"),w)
        else if data.qrHash.any (fun h => w.qrHashTaken h (some i)) then
          (.error ⟨409,"DUPLICATE_QR_HASH","QR hash already exists"⟩,w)
        else (.ok (patchTicket data ticket),
          { w with tickets := w.tickets.insert i (patchTicket data ticket) })

end TicketService

section TicketLogService

def createTicketLog (w : World) (data : TicketLog) : Served Unit :=
  (.ok (),{ w with ticketLogs := data :: w.ticketLogs })

def getTicketLogs (w : World) (ticketId : TicketId) : Served (List TicketLog) :=
  (.ok (w.ticketLogs.filter (·.ticketId = ticketId)),w)

end TicketLogService

section MarketplaceService

def allowedStatuses : List ListingStatus := [.active,.completed,.cancelled]

def createListing (w : World) (now : Time) (listingId : ListingId) (data : NewListing) :
    Served (ListingId × Listing) :=
  if (w.listings.lookup listingId).isSome then (.error unhandledError,w)
  else
    let listing : Listing := {
      ticketId := data.ticketId
      sellerId := data.sellerId
      price := data.price
      status := .active
      createdAt := now }
    (.ok (listingId,listing),{ w with listings := w.listings.insert listingId listing })

def getListing (w : World) (listingId : ListingId) : Served Listing :=
  (found (w.listings.lookup listingId) "LISTING_NOT_FOUND" "Listing not found",w)

def updateListing (w : World) (listingId : ListingId) (status : ListingStatus) : Served Listing :=
  match w.listings.lookup listingId with
  | none => (.error ⟨404,"LISTING_NOT_FOUND","Listing not found"⟩,w)
  | some listing =>
      if status ∉ allowedStatuses then (.error (validationError "Invalid status value"),w)
      else (.ok { listing with status := status },
        { w with listings := w.listings.insert listingId { listing with status := status } })

end MarketplaceService

section TransferService

def isTransferExpired (t : Transfer) (now : Time) : Bool := t.expiresAt < now

/-- Past its expiry and not yet in one of the three statuses that exempt it. -/
def autoExpires (t : Transfer) (now : Time) : Bool :=
  isTransferExpired t now && t.status ∉ [.completed,.cancelled,.expired]

def createTransfer (w : World) (now : Time) (transferId : TransferId) (data : NewTransfer) :
    Served CreatedTransfer :=
  if (w.transfers.lookup transferId).isSome then (.error unhandledError,w)
  else
    let transfer : Transfer := {
      listingId := data.listingId
      buyerId := data.buyerId
      sellerId := data.sellerId
      status := .pendingSellerAcceptance
      creditAmount := data.creditAmount
      buyerOtpVerified := false
      sellerOtpVerified := false
      buyerVerificationSid := none
      sellerVerificationSid := none
      completedAt := none
      expiresAt := now+seconds 86400
      createdAt := now }
    (.ok ⟨transferId,transfer.status,transfer.expiresAt,now⟩,
      { w with transfers := w.transfers.insert transferId transfer })

def expire (t : Transfer) : Transfer := { t with status := .expired }

def getTransfer (w : World) (now : Time) (transferId : TransferId) : Served Transfer :=
  match w.transfers.lookup transferId with
  | none => (.error ⟨404,"TRANSFER_NOT_FOUND","Transfer not found"⟩,w)
  | some t =>
      if autoExpires t now then
        (.ok (expire t),{ w with transfers := w.transfers.insert transferId (expire t) })
      else (.ok t,w)

def setTransfer (p : TransferPatch) (t : Transfer) : Transfer :=
  { t with
    status := p.status.getD t.status
    buyerOtpVerified := p.buyerOtpVerified.getD t.buyerOtpVerified
    sellerOtpVerified := p.sellerOtpVerified.getD t.sellerOtpVerified
    buyerVerificationSid := p.buyerVerificationSid.or t.buyerVerificationSid
    sellerVerificationSid := p.sellerVerificationSid.or t.sellerVerificationSid
    completedAt := p.completedAt.or t.completedAt }

def patchTransfer (w : World) (now : Time) (transferId : TransferId) (data : TransferPatch) :
    Served Transfer :=
  if data = {} then (.error (validationError "Request body is required"),w)
  else if data.otherFields then
    (.error (validationError "Request contains unsupported fields"),w)
  else match w.transfers.lookup transferId with
    | none => (.error ⟨404,"TRANSFER_NOT_FOUND","Transfer not found"⟩,w)
    | some t =>
        if autoExpires t now then
          (.error ⟨400,"TRANSFER_EXPIRED","Transfer has expired"⟩,
            { w with transfers := w.transfers.insert transferId (expire t) })
        else (.ok (setTransfer data t),
          { w with transfers := w.transfers.insert transferId (setTransfer data t) })

end TransferService

section Credits

/-- The credit API serves the balance last written, under its usual name. -/
def getCredits (w : World) (userId : UserId) : Served CreditData :=
  (match w.credits.lookup userId with
    | some b => .ok ⟨some b,none,none⟩
    | none => .error ⟨404,"NOT_FOUND",""⟩,w)

def patchCredits (w : World) (userId : UserId) (creditBalance : Credits) : Served Unit :=
  if (w.credits.lookup userId).isSome then
    (.ok (),{ w with credits := w.credits.insert userId creditBalance })
  else (.error ⟨404,"NOT_FOUND",""⟩,w)

def createCreditTransaction (w : World) (data : CreditTransaction) : Served CreditTransaction :=
  (.ok data,{ w with creditTransactions := data :: w.creditTransactions })

/-- The newest entry with the reference. -/
def getCreditTransactionByReference (w : World) (r : Reference) : Served CreditTransaction :=
  (found (w.creditTransactions.find? (·.referenceId = some r)) "TRANSACTION_NOT_FOUND"
    "No credit transaction found for referenceId",w)

/-- The route exists for `GET` only. -/
def patchCreditTransactionByReference (w : World) : Served Unit :=
  (.error ⟨405,"METHOD_NOT_ALLOWED","The method is not allowed for the requested URL."⟩,w)

end Credits

section Stripe

def retrievePaymentIntent (w : World) (p : PaymentIntentId) : Served (Option (UserId × Nat)) :=
  match w.paymentIntents.lookup p with
  | none => (.error unhandledError,w)
  | some intent =>
      if intent.succeeded then (.ok intent.metadata,w)
      else (.error ⟨400,"PAYMENT_NOT_SUCCEEDED","Payment has not succeeded."⟩,w)

/-- The wrapper's answer never carries an event id. -/
def stripeWebhook (w : World) (d : StripeDelivery) : Served WebhookResult :=
  if d.signatureValid then
    (.ok ⟨d.intent.bind (·.2),d.intent.map (·.1),none⟩,w)
  else (.error ⟨400,"INVALID_SIGNATURE",""⟩,w)

end Stripe

end World

end TicketRemaster
