import TicketRemaster.Services.World
import TicketRemaster.SeatInventory.Rpc
set_option autoImplicit false

/-! The calls an orchestrator makes to everything outside it, and how they are answered. -/

namespace TicketRemaster

open Resumption SeatInventory

/-- The HTTP requests the orchestrators send, by method and route. -/
inductive Http where
  | getUser (userId : UserId)
  | getEvent (eventId : EventId)
  | getVenue (venueId : VenueId)
  | getSeatsByVenue (venueId : VenueId)
  | listInventoryByEvent (eventId : EventId)
  | createTicket (data : NewTicket)
  | getTicket (ticketId : TicketId)
  | getTicketByQrHash (hash : QrHash)
  | updateTicket (ticketId : Option TicketId) (data : TicketPatch)
  | createTicketLog (data : TicketLog)
  | getTicketLogs (ticketId : TicketId)
  | createListing (data : NewListing)
  | getListing (listingId : ListingId)
  | updateListing (listingId : ListingId) (status : ListingStatus)
  | createTransfer (data : NewTransfer)
  | getTransfer (transferId : TransferId)
  | patchTransfer (transferId : TransferId) (data : TransferPatch)
  | getCredits (userId : UserId)
  | patchCredits (userId : UserId) (creditBalance : Credits)
  | createCreditTransaction (data : CreditTransaction)
  | getCreditTransactionByReference (r : Reference)
  | patchCreditTransactionByReference (r : Reference)
  | sendOtp (phoneNumber : Phone)
  | verifyOtp (sid : Sid) (otp : Nat) (phoneNumber : Phone)
  | retrievePaymentIntent (p : PaymentIntentId)
  | stripeWebhook (d : StripeDelivery)
  | broadcast (n : Notification)
  deriving DecidableEq

/-- The body of a success answer. -/
@[reducible] def Http.Val : Http → Type
  | .getUser _ => User
  | .getEvent _ => Event
  | .getVenue _ => Venue
  | .getSeatsByVenue _ => List (SeatId × Seat)
  | .listInventoryByEvent _ => List InventoryItem
  | .createTicket _ => TicketId × Ticket
  | .getTicket _ => Ticket
  | .getTicketByQrHash _ => TicketId × Ticket
  | .updateTicket _ _ => Ticket
  | .createTicketLog _ => Unit
  | .getTicketLogs _ => List TicketLog
  | .createListing _ => ListingId × Listing
  | .getListing _ => Listing
  | .updateListing _ _ => Listing
  | .createTransfer _ => CreatedTransfer
  | .getTransfer _ => Transfer
  | .patchTransfer _ _ => Transfer
  | .getCredits _ => CreditData
  | .patchCredits _ _ => Unit
  | .createCreditTransaction _ => CreditTransaction
  | .getCreditTransactionByReference _ => CreditTransaction
  | .patchCreditTransactionByReference _ => Unit
  | .sendOtp _ => Sid
  | .verifyOtp _ _ _ => Bool
  | .retrievePaymentIntent _ => Option (UserId × Nat)
  | .stripeWebhook _ => WebhookResult
  | .broadcast _ => Unit

/-- How `call_service` ends: `(body, None)`, `(None, code)`, or an exception it lets pass. -/
inductive Reply (α : Type) where
  | ok (a : α)
  | error (code : String)
  | raised
  deriving DecidableEq

inductive Call where
  | http (q : Http)
  | seatRpc (inventoryId : InventoryId) (call : SeatCall)
  | getHoldCache (inventoryId : InventoryId)
  | now
  | lockPing
  | lockSet (ticketId : TicketId) (token : Time) (ttl : Time)
  | lockRelease (ticketId : TicketId) (token : Time)
  | publish (m : Message)
  deriving DecidableEq

/-- A Redis command answers `none`, or a miss, where the client would raise; a publication
answers whether it went through. -/
@[reducible] def Call.Ans : Call → Type
  | .http q => Reply q.Val
  | .seatRpc _ _ => Option SeatReply
  | .getHoldCache _ => Option CachedHold
  | .now => Time
  | .lockPing => Bool
  | .lockSet _ _ _ => Option Bool
  | .lockRelease _ _ => Unit
  | .publish _ => Bool

@[reducible] def Platform : Interface := ⟨Call,Call.Ans⟩

/-- A call that does not go as planned: whether it took effect all the same, and the error
code it reports; without a code the client raises. -/
structure Fault where
  applied : Bool
  code : Option String
  deriving DecidableEq, Repr

/-- The outside's choices at one call: the clock, the UUIDs drawn, whether Redis can be
reached, what the SMS gateway says about an OTP, and the fault, if any. -/
structure Env where
  time : Time
  uuid : Nat
  hex : Nat
  redisUp : Bool
  otpVerified : Bool
  fault : Option Fault
  deriving DecidableEq, Repr

namespace World

/-- A request as the service behind its route handles it. -/
def serve (e : Env) (w : World) : (q : Http) → Served q.Val
  | .getUser userId => w.getUser userId
  | .getEvent eventId => w.getEvent eventId
  | .getVenue venueId => w.getVenue venueId
  | .getSeatsByVenue venueId => w.getSeatsByVenue venueId
  | .listInventoryByEvent eventId => w.listInventoryByEvent eventId
  | .createTicket data => w.createTicket e.time e.uuid e.hex data
  | .getTicket ticketId => w.getTicket ticketId
  | .getTicketByQrHash hash => w.getTicketByQrHash hash
  | .updateTicket ticketId data => w.updateTicket ticketId data
  | .createTicketLog data => w.createTicketLog data
  | .getTicketLogs ticketId => w.getTicketLogs ticketId
  | .createListing data => w.createListing e.time e.uuid data
  | .getListing listingId => w.getListing listingId
  | .updateListing listingId status => w.updateListing listingId status
  | .createTransfer data => w.createTransfer e.time e.uuid data
  | .getTransfer transferId => w.getTransfer e.time transferId
  | .patchTransfer transferId data => w.patchTransfer e.time transferId data
  | .getCredits userId => w.getCredits userId
  | .patchCredits userId creditBalance => w.patchCredits userId creditBalance
  | .createCreditTransaction data => w.createCreditTransaction data
  | .getCreditTransactionByReference r => w.getCreditTransactionByReference r
  | .patchCreditTransactionByReference _ => w.patchCreditTransactionByReference
  | .sendOtp _ => (.ok e.uuid,w)
  | .verifyOtp _ _ _ => (.ok e.otpVerified,w)
  | .retrievePaymentIntent p => w.retrievePaymentIntent p
  | .stripeWebhook d => w.stripeWebhook d
  | .broadcast _ => (.ok (),w)

/-- The inventory row with its Redis keys, as a store no other call is using. -/
def seatDb (w : World) (e : Env) (inventoryId : InventoryId) : SeatDb Unit where
  row := w.inventory.lookup inventoryId
  lock := none
  clock := e.time
  issued := []
  cache := w.holdCache.lookup inventoryId
  idempotent := (w.released.lookup inventoryId).getD ∅

def setSeatDb (w : World) (inventoryId : InventoryId) (db : SeatDb Unit) : World :=
  { w with
    inventory := match db.row with
      | some r => w.inventory.insert inventoryId r
      | none => w.inventory.erase inventoryId
    holdCache := match db.cache with
      | some c => w.holdCache.insert inventoryId c
      | none => w.holdCache.erase inventoryId
    released := w.released.insert inventoryId db.idempotent }

/-- A procedure of seat-inventory-service, run without interruption. -/
def seatRpc (cfg : SeatConfig) (e : Env) (w : World) (inventoryId : InventoryId)
    (call : SeatCall) : Option SeatReply × World :=
  let run := (call.prog cfg).exec (SeatDb.server Unit) () (fun _ => ⟨e.time,e.uuid,e.redisUp,none⟩)
    [] (w.seatDb e inventoryId)
  (match run.result with
    | .ok r => some r
    | .error _ => none,w.setSeatDb inventoryId run.state)

def lockSet (e : Env) (w : World) (ticketId : TicketId) (token ttl : Time) :
    Option Bool × World :=
  if e.redisUp then
    if (SeatDb.alive e.time (w.scanLocks.lookup ticketId)).isSome then (some false,w)
    else (some true,{ w with scanLocks := w.scanLocks.insert ticketId (token,e.time+ttl) })
  else (none,w)

/-- The Lua script deletes the key only if it still holds the token. -/
def lockRelease (e : Env) (w : World) (ticketId : TicketId) (token : Time) : World :=
  if e.redisUp && SeatDb.alive e.time (w.scanLocks.lookup ticketId) = some token then
    { w with scanLocks := w.scanLocks.erase ticketId }
  else w

/-- A faulty call answers with its fault, whether or not it took effect. -/
def faulty {α β : Type} (w : World) (fault : Option Fault) (answer : Fault → β) (ok : α → β)
    (run : α × World) : β × World :=
  match fault with
  | some f => (answer f,if f.applied then run.2 else w)
  | none => (ok run.1,run.2)

def httpFault {α : Type} (f : Fault) : Reply α :=
  match f.code with
  | some code => .error code
  | none => .raised

/-- `call_service` passes the body of a success on, and of an error its code. -/
def httpReply {α : Type} : Except ServiceError α → Reply α
  | .ok a => .ok a
  | .error err => .error err.code

def perform (cfg : SeatConfig) (e : Env) (w : World) : (q : Call) → q.Ans × World
  | .http q => w.faulty e.fault httpFault httpReply (w.serve e q)
  | .seatRpc inventoryId call =>
      w.faulty e.fault (fun _ => none) id (w.seatRpc cfg e inventoryId call)
  | .getHoldCache inventoryId =>
      (if e.redisUp then SeatDb.alive e.time (w.holdCache.lookup inventoryId) else none,w)
  | .now => (e.time,w)
  | .lockPing => (e.redisUp,w)
  | .lockSet ticketId token ttl => w.lockSet e ticketId token ttl
  | .lockRelease ticketId token => ((),w.lockRelease e ticketId token)
  | .publish _ => (e.fault.isNone,w)

/-- Every participant can make its next call at any time. -/
def server (cfg : SeatConfig) (ι : Type) : Server Platform ι Env World where
  ready _ _ _ _ := true
  serve _ e w q := perform cfg e w q

end World

/-- What leaves a handler unhandled. -/
inductive Unhandled where
  | client
  | runtimeError
  | attributeError
  deriving DecidableEq, Repr

abbrev Handler (α : Type) := Prog Platform Unhandled α

def callService (q : Http) : Handler (Except String q.Val) :=
  .call (.http q) fun
    | .ok a => .ret (.ok a)
    | .error code => .ret (.error code)
    | .raised => .raise .client

/-- A lookup whose failure is only logged. -/
def safeGet (q : Http) : Handler (Option q.Val) := do
  match ← callService q with
  | .ok data => pure (some data)
  | .error _ => pure none

def datetimeNow : Handler Time := .call .now .ret

/-- An error or success answer of an orchestrator, with the data of a success. -/
inductive Response (δ : Type) where
  | error (code message : String) (status : Nat)
  | data (status : Nat) (d : δ)
  deriving DecidableEq

def Response.status {δ : Type} : Response δ → Nat
  | .error _ _ status => status
  | .data status _ => status

/-- Publication with retries; a failure is logged and otherwise ignored. -/
def publishAttempts (m : Message) : Nat → Handler Unit
  | 0 => pure ()
  | n+1 => do
      let published ← (.call (.publish m) .ret : Handler Bool)
      if published then pure () else publishAttempts m n

end TicketRemaster
