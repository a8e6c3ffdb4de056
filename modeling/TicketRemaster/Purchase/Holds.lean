import TicketRemaster.Purchase.Confirm
set_option autoImplicit false

/-! The other requests of the ticket purchase orchestrator: `POST` and `DELETE` on
`/purchase/hold/<inventory_id>`, the consumer of expired holds, and all of them side by side. -/

namespace TicketRemaster.Purchase

open Resumption SeatInventory

structure HeldSeat where
  inventoryId : InventoryId
  status : SeatStatus
  heldUntil : Option Time
  holdToken : HoldToken
  deriving DecidableEq

structure ReleasedSeat where
  inventoryId : InventoryId
  status : SeatStatus
  deriving DecidableEq

def requestHold (inventoryId : InventoryId) (userId : UserId) (holdSeconds : Int) :
    Handler (Option HoldSeatResponse) :=
  .call (.seatRpc inventoryId (.holdSeat ⟨userId,holdSeconds⟩)) fun
    | some (.hold resp) => .ret (some resp)
    | _ => .ret none

/-- `ReleaseSeat` for a token that arrives with the request or with a message. -/
def requestRelease (inventoryId : InventoryId) (userId : UserId) (holdToken : HoldToken) :
    Handler (Option Bool) :=
  .call (.seatRpc inventoryId (.releaseSeat ⟨userId,holdToken⟩)) fun
    | some (.spend success) => .ret (some success)
    | _ => .ret none

def publishHoldTtl (inventoryId : InventoryId) (userId : UserId) (holdToken : HoldToken) :
    Handler Unit := publishAttempts (.seatHold inventoryId userId holdToken) 3

/-- `holdSeconds` is the setting `SEAT_HOLD_DURATION_SECONDS`. -/
def holdSeat (holdSeconds : Int) (userId : UserId) (inventoryId : InventoryId) :
    Handler (Response HeldSeat) := do
  match ← requestHold inventoryId userId holdSeconds with
  | none => pure (.error "SERVICE_UNAVAILABLE" "Seat inventory service unavailable." 503)
  | some resp =>
      if resp.success then
        publishHoldTtl inventoryId userId resp.holdToken
        pure (.data 200 ⟨inventoryId,.held,resp.heldUntil,resp.holdToken⟩)
      else
        let code := if resp.errorCode = "" then "SEAT_UNAVAILABLE" else resp.errorCode
        pure (.error code "Seat could not be held."
          (if code = "INVENTORY_NOT_FOUND" then 404 else 409))

/-- `ReleaseSeatResponse` has no `error_code`, so reading it of a refusal raises. -/
def releaseHold (userId : UserId) (inventoryId : InventoryId) (holdToken : HoldToken) :
    Handler (Response ReleasedSeat) := do
  match ← requestRelease inventoryId userId holdToken with
  | none => pure (.error "SERVICE_UNAVAILABLE" "Seat inventory service unavailable." 503)
  | some false => .raise .attributeError
  | some true => pure (.data 200 ⟨inventoryId,.available⟩)

/-- A message from `seat_hold_expired_queue`: whether it is acknowledged. -/
def onExpired (inventoryId : InventoryId) (userId : UserId) (holdToken : HoldToken) :
    Handler Bool := do
  match ← requestRelease inventoryId userId holdToken with
  | none => pure false
  | some _ => pure true

/-- What runs side by side on the seats. A message may carry any text, so nothing is assumed of
where its data come from. -/
inductive Request where
  | holdSeat (userId : UserId) (inventoryId : InventoryId)
  | releaseHold (userId : UserId) (inventoryId : InventoryId) (holdToken : HoldToken)
  | confirmPurchase (req : ConfirmRequest)
  | expiredHold (inventoryId : InventoryId) (userId : UserId) (holdToken : HoldToken)
  | seatStatus (inventoryId : InventoryId)
  deriving DecidableEq

inductive Answer where
  | held (r : Response HeldSeat)
  | released (r : Response ReleasedSeat)
  | confirmed (r : ConfirmResponse)
  | acknowledged (ack : Bool)
  | status (r : Option GetSeatStatusResponse)
  deriving DecidableEq

def Request.handler (holdSeconds : Int) : Request → Handler Answer
  | .holdSeat userId inventoryId => .held <$> Purchase.holdSeat holdSeconds userId inventoryId
  | .releaseHold userId inventoryId holdToken =>
      .released <$> Purchase.releaseHold userId inventoryId holdToken
  | .confirmPurchase req => .confirmed <$> Purchase.confirmPurchase req
  | .expiredHold inventoryId userId holdToken =>
      .acknowledged <$> onExpired inventoryId userId holdToken
  | .seatStatus inventoryId => .status <$> getSeatStatus inventoryId

end TicketRemaster.Purchase
