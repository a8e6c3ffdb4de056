import TicketRemaster.Types
set_option autoImplicit false

/-! The rows the services keep and the JSON bodies they exchange, as far as the orchestrators
read them. -/

namespace TicketRemaster

inductive TicketStatus where
  | active
  | listed
  | used
  | pendingTransfer
  | paymentFailed
  | sold
  | other (word : String)
  deriving DecidableEq, Repr

def TicketStatus.text : TicketStatus → String
  | .active => "active"
  | .listed => "listed"
  | .used => "used"
  | .pendingTransfer => "pending_transfer"
  | .paymentFailed => "payment_failed"
  | .sold => "sold"
  | .other word => word

inductive ListingStatus where
  | active
  | completed
  | cancelled
  | other (word : String)
  deriving DecidableEq, Repr

inductive TransferStatus where
  | pendingSellerAcceptance
  | pendingBuyerOtp
  | pendingSellerOtp
  | completed
  | cancelled
  | expired
  | failed
  | other (word : String)
  deriving DecidableEq, Repr

inductive LogStatus where
  | checkedIn
  | duplicate
  | expired
  | invalid
  | wrongVenue
  | wrongEvent
  | other (word : String)
  deriving DecidableEq, Repr

/-- A QR hash: the hex of a fresh UUID at creation, or the SHA-256 of the ticket's data.
Both are taken to be injective, and distinct from each other. -/
inductive QrHash where
  | uuidHex (n : Nat)
  | sha256 (ticketId : TicketId) (userId : UserId) (eventId : EventId) (venueId : VenueId)
      (generatedAt : Time)
  deriving DecidableEq, Repr

/-- What a ledger entry refers to. -/
inductive Reference where
  | ticket (t : TicketId)
  | transfer (t : TransferId)
  | payment (p : PaymentIntentId)
  | stripeEvent (n : Nat)
  deriving DecidableEq, Repr

structure User where
  email : String
  phoneNumber : Phone
  deriving DecidableEq, Repr

structure Event where
  venueId : VenueId
  name : String
  date : Time
  image : String
  price : Credits
  deriving DecidableEq

structure Venue where
  name : String
  address : String
  deriving DecidableEq, Repr

structure Seat where
  venueId : VenueId
  rowNumber : String
  seatNumber : String
  deriving DecidableEq, Repr

structure Ticket where
  inventoryId : InventoryId
  ownerId : UserId
  venueId : VenueId
  eventId : EventId
  price : Credits
  status : TicketStatus
  qrHash : Option QrHash
  qrTimestamp : Option Time
  createdAt : Time
  deriving DecidableEq

structure NewTicket where
  inventoryId : InventoryId
  ownerId : UserId
  venueId : VenueId
  eventId : EventId
  price : Credits
  status : TicketStatus
  deriving DecidableEq

structure TicketPatch where
  status : Option TicketStatus := none
  ownerId : Option UserId := none
  qrHash : Option QrHash := none
  qrTimestamp : Option Time := none
  deriving DecidableEq

structure TicketLog where
  ticketId : TicketId
  staffId : UserId
  status : LogStatus
  deriving DecidableEq, Repr

structure Listing where
  ticketId : TicketId
  sellerId : UserId
  price : Credits
  status : ListingStatus
  createdAt : Time
  deriving DecidableEq

structure NewListing where
  ticketId : TicketId
  sellerId : UserId
  price : Credits
  deriving DecidableEq

structure Transfer where
  listingId : ListingId
  buyerId : UserId
  sellerId : UserId
  status : TransferStatus
  creditAmount : Credits
  buyerOtpVerified : Bool
  sellerOtpVerified : Bool
  buyerVerificationSid : Option Sid
  sellerVerificationSid : Option Sid
  completedAt : Option Time
  expiresAt : Time
  createdAt : Time
  deriving DecidableEq

structure NewTransfer where
  listingId : ListingId
  buyerId : UserId
  sellerId : UserId
  creditAmount : Credits
  deriving DecidableEq

structure CreatedTransfer where
  transferId : TransferId
  status : TransferStatus
  expiresAt : Time
  createdAt : Time
  deriving DecidableEq

/-- A PATCH body for a transfer; `otherFields` says whether it has keys beyond these. -/
structure TransferPatch where
  status : Option TransferStatus := none
  buyerOtpVerified : Option Bool := none
  sellerOtpVerified : Option Bool := none
  buyerVerificationSid : Option Sid := none
  sellerVerificationSid : Option Sid := none
  completedAt : Option Time := none
  otherFields : Bool := false
  deriving DecidableEq

/-- The balance object of the credit API, with the three spellings its readers know. -/
structure CreditData where
  creditBalance : Option Credits
  CreditBalance : Option Credits
  balance : Option Credits
  deriving DecidableEq

inductive TransactionReason where
  | topup
  | ticketPurchase
  | p2pSent
  | p2pReceived
  deriving DecidableEq, Repr

structure CreditTransaction where
  userId : UserId
  delta : Credits
  reason : TransactionReason
  referenceId : Option Reference
  deriving DecidableEq

/-- A Stripe payment intent. Intents made by the wrapper carry the user and the credits in
their metadata; others need not. -/
structure PaymentIntent where
  succeeded : Bool
  metadata : Option (UserId × Nat)
  deriving DecidableEq, Repr

/-- A webhook request: whether its signature verifies, and the intent it reports as
succeeded, with the metadata in the payload; other event types report none. -/
structure StripeDelivery where
  signatureValid : Bool
  intent : Option (PaymentIntentId × Option (UserId × Nat))
  deriving DecidableEq, Repr

structure WebhookResult where
  metadata : Option (UserId × Nat)
  paymentIntentId : Option PaymentIntentId
  eventId : Option Nat
  deriving DecidableEq, Repr

/-- A row of `GET /inventory/event/<id>`, without the columns no caller reads. -/
structure InventoryItem where
  inventoryId : InventoryId
  seatId : SeatId
  status : SeatStatus
  deriving DecidableEq, Repr

structure EventPayload where
  eventId : Option EventId
  name : Option String
  date : Option Time
  image : Option String
  venue : Option Venue
  deriving DecidableEq, Repr

structure SeatPayload where
  seatId : SeatId
  row : String
  seat : String
  deriving DecidableEq, Repr

structure TransferNotification where
  eventType : String
  transferId : Option TransferId
  listingId : Option ListingId
  ticketId : Option TicketId
  buyerId : Option UserId
  buyerName : String
  sellerId : Option UserId
  sellerName : String
  status : Option TransferStatus
  creditAmount : Option Credits
  completedAt : Option Time
  event : Option EventPayload
  seat : Option SeatPayload
  deriving DecidableEq

structure TicketNotification where
  ticketId : Option TicketId
  ownerId : UserId
  previousOwnerId : UserId
  transferId : TransferId
  event : Option EventPayload
  deriving DecidableEq

inductive Notification where
  | transferUpdate (payload : TransferNotification)
  | ticketUpdate (payload : TicketNotification)
  deriving DecidableEq

/-- What the orchestrators publish to RabbitMQ. -/
inductive Message where
  | sellerNotification (transferId : TransferId) (sellerId : UserId)
  | transferTimeout (transferId : TransferId) (listingId : ListingId) (buyerId sellerId : UserId)
  | transferCompensationFailed (transferId : TransferId) (buyerId sellerId : UserId)
      (completedSteps errors : List String)
  | purchaseCompensationFailed (ticketId : TicketId) (inventoryId : InventoryId) (userId : UserId)
      (errors : List String)
  | seatHold (inventoryId : InventoryId) (userId : UserId) (holdToken : HoldToken)
  deriving DecidableEq, Repr

end TicketRemaster
