import TicketRemaster.Services.Platform
set_option autoImplicit false

/-! `_execute_saga` of the transfer orchestrator: seven forward steps, and the compensation that
undoes the completed ones when a step fails. -/

namespace TicketRemaster.Transfer

open Resumption

inductive SagaStep where
  | buyerDeducted
  | sellerCredited
  | buyerTxnLogged
  | sellerTxnLogged
  | ticketTransferred
  | listingCompleted
  | transferCompleted
  deriving DecidableEq, Repr

def SagaStep.text : SagaStep → String
  | .buyerDeducted => "buyer_deducted"
  | .sellerCredited => "seller_credited"
  | .buyerTxnLogged => "buyer_txn_logged"
  | .sellerTxnLogged => "seller_txn_logged"
  | .ticketTransferred => "ticket_transferred"
  | .listingCompleted => "listing_completed"
  | .transferCompleted => "transfer_completed"

/-- The arguments of a saga. The ticket is unknown if its listing could not be read. -/
structure Saga where
  transferId : TransferId
  buyerId : UserId
  sellerId : UserId
  creditAmount : Credits
  ticketId : Option TicketId
  listingId : ListingId
  buyerBalance : Credits
  sellerBalance : Credits
  deriving DecidableEq

def sagaSteps : List SagaStep :=
  [.buyerDeducted,.sellerCredited,.buyerTxnLogged,.sellerTxnLogged,.ticketTransferred,
    .listingCompleted,.transferCompleted]

/-- The request of a forward step; the last one carries the time at which it is made. -/
def Saga.request (a : Saga) (now : Time) : SagaStep → Http
  | .buyerDeducted => .patchCredits a.buyerId (a.buyerBalance-a.creditAmount)
  | .sellerCredited => .patchCredits a.sellerId (a.sellerBalance+a.creditAmount)
  | .buyerTxnLogged => .createCreditTransaction
      ⟨a.buyerId,-a.creditAmount,.p2pSent,some (.transfer a.transferId)⟩
  | .sellerTxnLogged => .createCreditTransaction
      ⟨a.sellerId,a.creditAmount,.p2pReceived,some (.transfer a.transferId)⟩
  | .ticketTransferred => .updateTicket a.ticketId
      { ownerId := some a.buyerId, status := some .active }
  | .listingCompleted => .updateListing a.listingId .completed
  | .transferCompleted => .patchTransfer a.transferId
      { status := some .completed, completedAt := some now }

/-- A call under `try`: an exception of the client is one more answer. -/
def tryService (q : Http) : Handler (Except Unhandled (Except String q.Val)) :=
  (do let answer ← callService q; pure (.ok answer) : Handler _).handle fun exc => pure (.error exc)

def Saga.attempt (a : Saga) (now : Time) (step : SagaStep) : Handler (Option Unhandled) := do
  match ← tryService (a.request now step) with
  | .ok (.ok _) => pure none
  | .ok (.error _) => pure (some .runtimeError)
  | .error exc => pure (some exc)

def Saga.run (a : Saga) : SagaStep → Handler (Option Unhandled)
  | .transferCompleted => do a.attempt (← datetimeNow) .transferCompleted
  | step => a.attempt 0 step

/-- Take the steps one after the other. The first that fails ends the saga, which then knows
the exception and the steps completed before it. -/
def Saga.forward (a : Saga) : List SagaStep → List SagaStep →
    Handler (Option Unhandled × List SagaStep)
  | [], completed => pure (none,completed)
  | step :: rest, completed => do
      match ← a.run step with
      | none => a.forward rest (completed ++ [step])
      | some exc => pure (some exc,completed)

/-- How the saga goes on after a step. -/
def Saga.goOn (a : Saga) (step : SagaStep) (rest completed : List SagaStep) :
    Option Unhandled → Handler (Option Unhandled × List SagaStep)
  | none => a.forward rest (completed ++ [step])
  | some exc => pure (some exc,completed)

/-- The compensating requests, in their order, each with the step it undoes and the message
for its failure. -/
def Saga.compensations (a : Saga) : List (SagaStep × Http × String) :=
  [(.listingCompleted,.updateListing a.listingId .active,"Failed to revert listing status: "),
    (.ticketTransferred,.updateTicket a.ticketId
      { ownerId := some a.sellerId, status := some .sold },"Failed to revert ticket ownership: "),
    (.sellerCredited,.patchCredits a.sellerId a.sellerBalance,"Failed to restore seller balance: "),
    (.buyerDeducted,.patchCredits a.buyerId a.buyerBalance,"Failed to restore buyer balance: "),
    (.sellerTxnLogged,.patchCreditTransactionByReference (.transfer a.transferId),
      "Failed to reverse seller transaction log: "),
    (.buyerTxnLogged,.patchCreditTransactionByReference (.transfer a.transferId),
      "Failed to reverse buyer transaction log: ")]

/-- Undo the completed steps. Errors are collected; an exception ends the compensation. -/
def compensate (completed : List SagaStep) : List (SagaStep × Http × String) →
    Handler (List String)
  | [] => pure []
  | (step,q,message) :: rest =>
      if step ∈ completed then do
        match ← tryService q with
        | .ok (.ok _) => compensate completed rest
        | .ok (.error code) => do
            let errors ← compensate completed rest
            pure ((message ++ code) :: errors)
        | .error _ => pure ["Compensation exception: "]
      else compensate completed rest

/-- The `except` branch: compensate, mark the transfer as failed, and publish what could not
be undone. -/
def Saga.rollBack (a : Saga) (completed : List SagaStep) : Handler Unit := do
  let compensationErrors ← compensate completed a.compensations
  let _ ← callService (.patchTransfer a.transferId { status := some .failed })
  if compensationErrors ≠ [] then
    let _ ← (.call (.publish (.transferCompensationFailed a.transferId a.buyerId a.sellerId
      (completed.map SagaStep.text) compensationErrors)) .ret : Handler Bool)

def executeSaga (a : Saga) : Handler Unit := do
  match ← a.forward sagaSteps [] with
  | (none,_) => pure ()
  | (some exc,completed) =>
      a.rollBack completed
      .raise exc

end TicketRemaster.Transfer
