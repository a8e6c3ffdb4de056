import TicketRemaster.Credits.Handlers
import TicketRemaster.Lib.Dict
import TicketRemaster.Lib.Doubles
set_option autoImplicit false

/-! The way of a payment from `POST /credits/topup/initiate` through the Stripe wrapper to the payment
intents that Stripe keeps, and what the wrapper answers about them. -/

namespace TicketRemaster.Payments

open Resumption Doubles Credits

/-- A JSON value in the place of an amount. -/
inductive Amount where
  | null
  | bool (b : Bool)
  | int (n : Int)
  | float (x : Double)
  | other
  deriving DecidableEq, Repr

namespace Amount

/-- `amount` is a number and `amount <= 0` is false, which it is of `nan`. -/
def positive : Amount → Bool
  | .int n => 0 < n
  | .float (.finite k) => 0 < k
  | .float (.infinity negative) => !negative
  | .float .nan => true
  | _ => false

/-- `int(amount)`, which rounds towards zero and raises where there is nothing to round. -/
def truncated : Amount → Option Int
  | .int n => some n
  | .float (.finite k) => some (k.tdiv one)
  | _ => none

end Amount

/-- A payment intent, with the amount in cents. -/
structure StripeIntent where
  amount : Int
  currency : String
  status : String
  clientSecret : String
  metadata : List (String × String)
  deriving DecidableEq, Repr

abbrev Intents := Table PaymentIntentId StripeIntent

structure CreatedIntent where
  clientSecret : String
  paymentIntentId : PaymentIntentId
  amount : Int
  deriving DecidableEq, Repr

/-- The answer about a payment that has succeeded; the metadata may lack the two texts. -/
structure IntentData where
  userId : Option String
  credits : Option String
  paymentIntentId : PaymentIntentId
  status : String
  deriving DecidableEq, Repr

/-- An event whose signature verifies, with the id and the metadata of its object: what Stripe signs
always has the former. -/
structure StripeEvent where
  type : String
  id : PaymentIntentId
  metadata : List (String × String)
  deriving DecidableEq, Repr

/-- The answer to a delivery: `received`, and these three for a payment that has succeeded. -/
structure WebhookData where
  userId : Option String
  credits : Option String
  paymentIntentId : Option PaymentIntentId
  deriving DecidableEq, Repr

namespace StripeWrapper

variable (intents : Intents)

/-- `POST /stripe/create-payment-intent`. Stripe draws the id and the secret. -/
def createPaymentIntent (drawn : PaymentIntentId) (clientSecret : String) (userId : Option String)
    (amount : Amount) : Except ServiceError CreatedIntent × Intents :=
  match userId,amount with
  | none,_ | _,.null => (.error (validationError "amount and userId are required."),intents)
  | some userId,.int n =>
      if n ≤ 0 then (.error (validationError "amount must be a positive integer."),intents)
      else (.ok ⟨clientSecret,drawn,n⟩,intents.insert drawn
        ⟨n*100,"sgd","requires_payment_method",clientSecret,[("userId",userId),("credits",n.repr)]⟩)
  | some _,_ => (.error (validationError "amount must be a positive integer."),intents)

/-- `POST /stripe/retrieve-payment-intent`. Stripe's client raises where there is no such intent. -/
def retrievePaymentIntent (paymentIntentId : Option PaymentIntentId) :
    Except ServiceError IntentData :=
  match paymentIntentId with
  | none => .error (validationError "paymentIntentId is required.")
  | some p =>
      match intents.lookup p with
      | none => .error unhandledError
      | some intent =>
          if intent.status ≠ "succeeded" then
            .error ⟨400,"PAYMENT_NOT_SUCCEEDED","Payment has not succeeded."⟩
          else .ok ⟨intent.metadata.lookup "userId",intent.metadata.lookup "credits",p,intent.status⟩

/-- `POST /stripe/webhook`, with what `construct_event` makes of the payload and its signature. -/
def stripeWebhook (event : Except String StripeEvent) : Except ServiceError WebhookData :=
  match event with
  | .error message => .error ⟨400,"INVALID_SIGNATURE",message⟩
  | .ok event =>
      if event.type = "payment_intent.succeeded" then
        .ok ⟨event.metadata.lookup "userId",event.metadata.lookup "credits",some event.id⟩
      else .ok ⟨none,none,none⟩

end StripeWrapper

/-- The number that decimal digits stand for. -/
def readDecimal (digits : List Char) : Option Nat :=
  if digits ≠ [] ∧ digits.all Char.isDigit then some (Nat.ofDigitChars 10 digits 0) else none

/-- `int(text)`, which raises if the text is no number. -/
def readInt (text : String) : Option Int :=
  match readDecimal text.toList,text.toList with
  | some n,_ => some n
  | none,'-' :: digits => (readDecimal digits).map fun n => -(n : Int)
  | none,'+' :: digits => (readDecimal digits).map fun n => (n : Int)
  | none,_ => none

theorem readInt_repr (n : Nat) : readInt (n : Int).repr = some n := by
  have hdigits : readDecimal (n : Int).repr.toList = some n := by
    have hall : ∀ c ∈ Nat.toDigits 10 n, c.isDigit := fun c hc =>
      Nat.isDigit_of_mem_toDigits (by omega) (by omega) hc
    have hlist : (n : Int).repr.toList = Nat.toDigits 10 n := Nat.toList_repr
    simpa [readDecimal,hlist,Nat.toDigits_ne_nil] using hall
  simp [readInt,hdigits]

/-- How the id of a user is written. -/
structure UserTexts where
  text : UserId → String
  named : String → Option UserId
  named_text : ∀ u, named (text u) = some u

section Texts

variable (texts : UserTexts)

/-- The user and the credits that the two texts stand for; there are both of them or neither. -/
def UserTexts.payer (userId credits : Option String) : Option (UserId × Nat) :=
  match userId.bind texts.named,credits.bind readInt with
  | some u,some (.ofNat n) => some (u,n)
  | _,_ => none

def UserTexts.payment (metadata : List (String × String)) : Option (UserId × Nat) :=
  texts.payer (metadata.lookup "userId") (metadata.lookup "credits")

/-- A payment intent as the handlers see it. -/
def UserTexts.intent (intent : StripeIntent) : PaymentIntent :=
  ⟨intent.status = "succeeded",texts.payment intent.metadata⟩

/-- A delivery as the handlers see it. -/
def UserTexts.delivery : Except String StripeEvent → StripeDelivery
  | .error _ => ⟨false,none⟩
  | .ok event =>
      ⟨true,if event.type = "payment_intent.succeeded" then
        some (event.id,texts.payment event.metadata) else none⟩

/-- What the wrapper writes into the metadata of an intent it reads out of them again. -/
theorem UserTexts.payment_written (u : UserId) (n : Nat) :
    texts.payment [("userId",texts.text u),("credits",(n : Int).repr)] = some (u,n) := by
  simp [payment,payer,Dict.lookup_cons,texts.named_text,readInt_repr]

/-- The wrapper's answers are those of the service that the handlers know. -/
theorem retrievePaymentIntent_refines {intents : Intents} {w : World}
    (hsame : ∀ p, w.paymentIntents.lookup p = (intents.lookup p).map texts.intent)
    (p : PaymentIntentId) :
    ((StripeWrapper.retrievePaymentIntent intents (some p)).map fun data =>
      texts.payer data.userId data.credits) = (w.retrievePaymentIntent p).1 := by
  simp only [StripeWrapper.retrievePaymentIntent,World.retrievePaymentIntent,hsame]
  cases intents.lookup p with
  | none => rfl
  | some stored =>
    by_cases hs : stored.status = "succeeded" <;>
      simp [hs,UserTexts.intent,UserTexts.payment,Except.map]

theorem stripeWebhook_refines (w : World) (event : Except String StripeEvent) :
    World.httpReply ((StripeWrapper.stripeWebhook event).map fun data : WebhookData =>
        (⟨texts.payer data.userId data.credits,data.paymentIntentId,none⟩ : WebhookResult)) =
      World.httpReply (w.stripeWebhook (texts.delivery event)).1 := by
  cases event with
  | error message => rfl
  | ok event =>
    by_cases ht : event.type = "payment_intent.succeeded"
    · simp [StripeWrapper.stripeWebhook,World.stripeWebhook,UserTexts.delivery,UserTexts.payment,ht,Except.map]
    · simp [StripeWrapper.stripeWebhook,World.stripeWebhook,UserTexts.delivery,UserTexts.payer,ht,Except.map]

end Texts

end TicketRemaster.Payments
