import TicketRemaster.Lib.Interleaving
import TicketRemaster.Payments.StripeWrapper
import TicketRemaster.Services.Rules
set_option autoImplicit false

/-! Top-ups are paid for, over every interleaving of requests, payments and other business with any
failures: what a top-up adds to a balance and to the ledger, its user has asked for, and has paid. -/

namespace TicketRemaster.Payments

open Resumption SeatInventory Credits

/-- The wrapper's `create-payment-intent`, to its client. -/
@[reducible] def CreateIf : Interface := ⟨String × Int,fun _ => Reply CreatedIntent⟩

structure InitiatedTopup where
  clientSecret : String
  paymentIntentId : PaymentIntentId
  amount : Int
  deriving DecidableEq, Repr

/-- `POST /credits/topup/initiate`. -/
def initiateTopup (userId : String) (amount : Amount) :
    Prog CreateIf Unit (Response InitiatedTopup) :=
  if amount.positive then
    match amount.truncated with
    | none => .raise ()
    | some n => .call (userId,n) fun
        | .ok result => .ret (.data 200 ⟨result.clientSecret,result.paymentIntentId,n⟩)
        | .error _ => .ret (.error "SERVICE_UNAVAILABLE" "Could not create payment intent." 503)
        | .raised => .raise ()
  else .ret (.error "VALIDATION_ERROR" "amount must be a positive number." 400)

/-- What Stripe draws for a new intent, and the fault of the call, if any. -/
structure CreateEnv where
  drawn : PaymentIntentId
  clientSecret : String
  fault : Option Fault

def createServer : Server CreateIf Unit CreateEnv Intents where
  ready _ _ _ _ := true
  serve _ e intents q :=
    let r := StripeWrapper.createPaymentIntent intents e.drawn e.clientSecret (some q.1) (.int q.2)
    match e.fault with
    | some f => (World.httpFault f,if f.applied then r.2 else intents)
    | none => (World.httpReply r.1,r.2)

/-- The services with the intents that Stripe keeps, and a note of what users have asked for, with the
ids of the intents that were made for it; nobody reads the note. -/
structure Cashier where
  world : World
  intents : Intents
  asked : List (PaymentIntentId × UserId × Amount)

namespace Cashier

variable (texts : UserTexts) (s : Cashier)

/-- A user asks for a top-up. No other request can tell how far it has come, as it makes one call. -/
def initiate (userId : UserId) (amount : Amount) (e : CreateEnv) : Cashier :=
  let made := ((initiateTopup (texts.text userId) amount).exec createServer () (fun _ => e) []
    s.intents).state
  { s with
    intents := made
    asked := if (made.lookup e.drawn).isSome then (e.drawn,userId,amount) :: s.asked else s.asked }

/-- Stripe draws ids that it has not used, and an intent that has succeeded stays as it is. Apart from
the two endpoints nobody logs a top-up. -/
inductive Acts : Cashier → Cashier → Prop
  | initiates {s : Cashier} (userId : UserId) (amount : Amount) (e : CreateEnv)
      (fresh : s.intents.lookup e.drawn = none) : Acts s (s.initiate texts userId amount e)
  | pays {s : Cashier} {p : PaymentIntentId} {intent : StripeIntent}
      (found : s.intents.lookup p = some intent) :
      Acts s { s with intents := s.intents.insert p { intent with status := "succeeded" } }
  | proceeds {s : Cashier} {p : PaymentIntentId} {intent : StripeIntent} (status : String)
      (found : s.intents.lookup p = some intent) (unpaid : intent.status ≠ "succeeded")
      (other : status ≠ "succeeded") :
      Acts s { s with intents := s.intents.insert p { intent with status := status } }
  | foreign {s : Cashier} {p : PaymentIntentId} {intent : StripeIntent}
      (fresh : s.intents.lookup p = none) (bare : intent.metadata = []) :
      Acts s { s with intents := s.intents.insert p intent }
  | elsewhere {s : Cashier} {w : World}
      (topups : ∀ d ∈ w.creditTransactions, d.reason = .topup → d ∈ s.world.creditTransactions) :
      Acts s { s with world := w }

/-- A call of a handler; the wrapper asks Stripe about the intents. -/
def perform (cfg : SeatConfig) (e : Env) : (q : Call) → q.Ans × Cashier
  | .http (.retrievePaymentIntent p) =>
      let r := s.world.faulty e.fault World.httpFault World.httpReply
        ((StripeWrapper.retrievePaymentIntent s.intents (some p)).map fun data =>
          texts.payer data.userId data.credits,s.world)
      (r.1,{ s with world := r.2 })
  | q =>
      let r := s.world.perform cfg e q
      (r.1,{ s with world := r.2 })

def server (cfg : SeatConfig) (ι : Type) : Server Platform ι Env Cashier where
  ready _ _ _ _ := true
  serve _ e s q := s.perform texts cfg e q

/-- Only Stripe can sign: what a delivery with its signature says about an intent is so. -/
def Genuine (d : StripeDelivery) : Prop :=
  d.signatureValid → ∀ p payment, d.intent = some (p,payment) →
    ∃ intent, s.intents.lookup p = some intent ∧ intent.status = "succeeded" ∧
      texts.payment intent.metadata = payment

/-- The deliveries that come in are genuine. -/
def Signed {ι : Type} (s : Cashier) (_ : ι → List (Entry Platform)) (_ : ι) (_ : Env) (q : Call) :
    Prop :=
  ∀ d, q = .http (.stripeWebhook d) → s.Genuine texts d

/-- Where the databases show the intents as they are, the answers are those of the services alone. -/
theorem perform_refines {cfg : SeatConfig} {e : Env} {s : Cashier}
    (hsame : ∀ p, s.world.paymentIntents.lookup p = (s.intents.lookup p).map texts.intent)
    (q : Call) : s.perform texts cfg e q =
      ((s.world.perform cfg e q).1,{ s with world := (s.world.perform cfg e q).2 }) := by
  cases q with
  | http q =>
    cases q with
    | retrievePaymentIntent p =>
      have hanswer := retrievePaymentIntent_refines texts hsame p
      have hworld : (s.world.retrievePaymentIntent p).2 = s.world := by
        simp only [World.retrievePaymentIntent]
        split
        · rfl
        · split <;> rfl
      have hserve : s.world.serve e (.retrievePaymentIntent p) =
          ((StripeWrapper.retrievePaymentIntent s.intents (some p)).map fun data =>
            texts.payer data.userId data.credits,s.world) := Prod.ext hanswer.symm hworld
      simp only [perform,World.perform,hserve]
    | _ => rfl
  | _ => rfl

end Cashier

end TicketRemaster.Payments
