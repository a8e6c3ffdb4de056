import TicketRemaster.Services.Platform
set_option autoImplicit false

/-! The two endpoints of the credit orchestrator that credit a payment, `POST
/credits/topup/confirm` and `POST /credits/topup/webhook`. -/

namespace TicketRemaster.Credits

open Resumption

inductive TopupStatus where
  | confirmed (newBalance : Credits)
  | alreadyProcessed
  deriving DecidableEq

/-- Why the webhook answered `received`; the answer itself is the same in all three cases. -/
inductive Receipt where
  | noPayment
  | duplicate
  | credited (userId : UserId) (credits : Nat)
  deriving DecidableEq, Repr

/-- The guard against double credit; a lookup that fails counts as one that finds nothing. -/
def alreadyLogged (r : Reference) : Handler Bool := do
  let existing ← safeGet (.getCreditTransactionByReference r)
  pure existing.isSome

/-- `credit_data.get("creditBalance") or 0` -/
def currentBalance (creditData : CreditData) : Credits := creditData.creditBalance.getD 0

/-- The common end of the two endpoints: raise the balance, then log it under the reference. -/
def creditUser {δ : Type} (userId : UserId) (credits : Nat) (r : Reference)
    (done : Credits → Response δ) : Handler (Response δ) := do
  match ← callService (.getCredits userId) with
  | .error _ => pure (.error "SERVICE_UNAVAILABLE" "Could not retrieve balance." 503)
  | .ok creditData =>
      let newBalance := currentBalance creditData+credits
      match ← callService (.patchCredits userId newBalance) with
      | .error _ => pure (.error "SERVICE_UNAVAILABLE" "Could not update balance." 503)
      | .ok _ =>
          let _ ← callService (.createCreditTransaction ⟨userId,credits,.topup,some r⟩)
          pure (done newBalance)

def confirmTopup (userId : UserId) (paymentIntentId : Option PaymentIntentId) :
    Handler (Response TopupStatus) := do
  match paymentIntentId with
  | none => pure (.error "VALIDATION_ERROR" "paymentIntentId is required." 400)
  | some paymentIntentId =>
      match ← callService (.retrievePaymentIntent paymentIntentId) with
      | .error _ => pure (.error "SERVICE_UNAVAILABLE" "Could not verify payment." 503)
      -- `int(None)` raises when the intent has no metadata
      | .ok none => .raise .runtimeError
      | .ok (some (payer,credits)) =>
          if payer ≠ userId then
            pure (.error "FORBIDDEN" "Payment does not belong to this user." 403)
          else if ← alreadyLogged (.payment paymentIntentId) then
            pure (.data 200 .alreadyProcessed)
          else creditUser payer credits (.payment paymentIntentId) fun newBalance =>
            .data 200 (.confirmed newBalance)

/-- The key under which a webhook looks a payment up and logs it: the Stripe event if the wrapper
names it, else the payment intent. -/
def webhookReference (result : WebhookResult) (paymentIntentId : PaymentIntentId) : Reference :=
  match result.eventId with
  | some eventId => .stripeEvent eventId
  | none => .payment paymentIntentId

def stripeWebhook (delivery : StripeDelivery) : Handler (Response Receipt) := do
  match ← callService (.stripeWebhook delivery) with
  | .error _ => pure (.error "INTERNAL_ERROR" "Webhook processing failed." 400)
  | .ok result =>
      match result.metadata, result.paymentIntentId with
      | some (userId,credits), some paymentIntentId =>
          let reference := webhookReference result paymentIntentId
          if ← alreadyLogged reference then pure (.data 200 .duplicate)
          else creditUser userId credits reference fun _ => .data 200 (.credited userId credits)
      | _, _ => pure (.data 200 .noPayment)

end TicketRemaster.Credits
