import TicketRemaster.Services.Platform
set_option autoImplicit false

/-! `POST /purchase/confirm/<inventory_id>` of the ticket purchase orchestrator. -/

namespace TicketRemaster.Purchase

open Resumption SeatInventory

/-- The request body; a missing token is the empty one. -/
structure ConfirmRequest where
  userId : UserId
  inventoryId : InventoryId
  eventId : Option EventId
  holdToken : HoldToken
  deriving DecidableEq, Repr

structure Confirmation where
  ticketId : TicketId
  eventId : EventId
  venueId : VenueId
  inventoryId : InventoryId
  price : Credits
  status : TicketStatus
  createdAt : Time
  deriving DecidableEq

abbrev ConfirmResponse := Response Confirmation

def ConfirmRequest.spend (req : ConfirmRequest) : SpendHoldRequest := ⟨req.userId,req.holdToken⟩

/-- A cached hold is served only while Redis can be reached; anything in the cache that is
not a JSON object counts as a miss. -/
def getCachedHold (inventoryId : InventoryId) : Handler (Option CachedHold) :=
  .call (.getHoldCache inventoryId) .ret

/-- `none` is a gRPC error. -/
def getSeatStatus (inventoryId : InventoryId) : Handler (Option GetSeatStatusResponse) :=
  .call (.seatRpc inventoryId .getSeatStatus) fun
    | some (.status reply) => .ret (some reply)
    | _ => .ret none

def sellSeat (req : ConfirmRequest) : Handler (Option Bool) :=
  .call (.seatRpc req.inventoryId (.sellSeat req.spend)) fun
    | some (.spend success) => .ret (some success)
    | _ => .ret none

def releaseSeat (req : ConfirmRequest) : Handler (Option Bool) :=
  .call (.seatRpc req.inventoryId (.releaseSeat req.spend)) fun
    | some (.spend success) => .ret (some success)
    | _ => .ret none

def seatUnavailable : ConfirmResponse :=
  .error "SEAT_UNAVAILABLE" "Seat is no longer held. Please re-select." 409

def inventoryUnavailable : ConfirmResponse :=
  .error "SERVICE_UNAVAILABLE" "Seat inventory service unavailable." 503

/-- Text that is there but is no timestamp passes, as does a missing one. -/
def validateHoldState (status : SeatStatus) (heldUntil : HeldUntilText) :
    Handler (Option ConfirmResponse) := do
  if status ≠ .held then
    pure (some (if status = .available then
      .error "PAYMENT_HOLD_EXPIRED" "Seat is no longer held. Please re-select." 410
      else seatUnavailable))
  else match heldUntil with
    | .at heldUntilAt =>
        let now ← datetimeNow
        if heldUntilAt < now then
          pure (some (.error "PAYMENT_HOLD_EXPIRED" "Seat hold has expired. Please re-select." 410))
        else pure none
    | _ => pure none

def heldUntilText : Option Time → HeldUntilText
  | some t => .at t
  | none => .empty

/-- Step 1: the seat is still held, by the cache if it has the hold, else by gRPC. -/
def checkHold (req : ConfirmRequest) : Handler (Option ConfirmResponse) := do
  match ← getCachedHold req.inventoryId with
  | some cachedHold =>
      if cachedHold.heldByUserId.any (· ≠ req.userId) then pure (some seatUnavailable)
      else if req.holdToken ≠ .empty &&
          cachedHold.holdToken.any (fun t => t ≠ .empty && t ≠ req.holdToken) then
        pure (some seatUnavailable)
      else validateHoldState cachedHold.status cachedHold.heldUntil
  | none =>
      match ← getSeatStatus req.inventoryId with
      | none => pure (some inventoryUnavailable)
      | some seatStatus =>
          validateHoldState seatStatus.status (heldUntilText seatStatus.heldUntil)

/-- The balance under whichever name the credit API uses, or zero. -/
def rawBalance (creditData : CreditData) : Credits :=
  (creditData.creditBalance.or (creditData.CreditBalance.or creditData.balance)).getD 0

/-- The compensation when the credits could not be deducted. Failures are collected and
published for manual reconciliation. -/
def compensateDeduction (req : ConfirmRequest) (ticketId : TicketId) : Handler Unit := do
  let patched ← (do
      match ← callService (.updateTicket (some ticketId) { status := some .paymentFailed }) with
      | .ok _ => pure []
      | .error code => pure ["Failed to mark ticket status: " ++ code] :
      Handler (List String)).handle
    fun _ => pure ["Exception marking ticket status: "]
  let released ← releaseSeat req
  let errors := patched ++ (if released.isNone then ["Failed to release seat: "] else [])
  if errors = [] then pure ()
  else
    let _ ← (.call (.publish (.purchaseCompensationFailed ticketId req.inventoryId req.userId
      errors)) .ret : Handler Bool)
    pure ()

/-- Steps 5 and 6: deduct the credits and log the transaction. -/
def deductCredits (req : ConfirmRequest) (eventId : EventId) (event : Event) (balance : Credits)
    (ticketId : TicketId) (ticket : Ticket) : Handler ConfirmResponse := do
  match ← callService (.patchCredits req.userId (balance-event.price)) with
  | .error _ =>
      compensateDeduction req ticketId
      pure (.error "CREDIT_DEDUCTION_FAILED"
        "Ticket created but credit deduction failed. Please contact support." 500)
  | .ok _ =>
      let _ ← callService (.createCreditTransaction
        ⟨req.userId,-event.price,.ticketPurchase,some (.ticket ticketId)⟩)
      pure (.data 201
        ⟨ticketId,eventId,event.venueId,req.inventoryId,event.price,.active,ticket.createdAt⟩)

/-- Step 4: create the ticket, releasing the seat if that fails. -/
def issueTicket (req : ConfirmRequest) (eventId : EventId) (event : Event) (balance : Credits) :
    Handler ConfirmResponse := do
  match ← callService (.createTicket
      ⟨req.inventoryId,req.userId,event.venueId,eventId,event.price,.active⟩) with
  | .error _ =>
      let _ ← releaseSeat req
      pure (.error "INTERNAL_ERROR" "Could not create ticket record." 500)
  | .ok (ticketId,ticket) => deductCredits req eventId event balance ticketId ticket

/-- Steps 2 and 3: check the credits and sell the seat. -/
def chargeAndSell (req : ConfirmRequest) (eventId : EventId) (event : Event) :
    Handler ConfirmResponse := do
  match ← callService (.getCredits req.userId) with
  | .error _ => pure (.error "SERVICE_UNAVAILABLE" "Could not verify credit balance." 503)
  | .ok creditData =>
      if rawBalance creditData < event.price then
        pure (.error "INSUFFICIENT_CREDITS" "Insufficient credits for this purchase." 402)
      else
        match ← sellSeat req with
        | none => pure inventoryUnavailable
        | some false => pure (.error "SEAT_UNAVAILABLE" "Could not confirm seat as sold." 409)
        | some true => issueTicket req eventId event (rawBalance creditData)

def confirmPurchase (req : ConfirmRequest) : Handler ConfirmResponse := do
  match req.eventId with
  | none => pure (.error "VALIDATION_ERROR" "eventId is required." 400)
  | some eventId =>
      match ← checkHold req with
      | some refusal => pure refusal
      | none =>
          match ← callService (.getEvent eventId) with
          | .error _ => pure (.error "SERVICE_UNAVAILABLE" "Could not fetch event details." 503)
          | .ok event => chargeAndSell req eventId event

end TicketRemaster.Purchase
