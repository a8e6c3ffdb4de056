import TicketRemaster.Payments.PaidFor
set_option autoImplicit false

/-! What has been paid can be had: while nothing fails, the first confirmation or delivery for a
payment credits it, and all later ones leave everything as it is. -/

namespace TicketRemaster.Payments

open Resumption SeatInventory Credits

section Requests

variable (texts : UserTexts) (cfg : SeatConfig)

/-- A request from start to end, without any other in between. -/
def Cashier.run (req : PaymentRequest) (ω : List (Entry Platform) → Env) (s : Cashier) :
    Final Platform Unhandled CreditAnswer Cashier :=
  (req.handler texts).exec (Cashier.server texts cfg Unit) () ω [] s

/-- Requests one after the other, with the answers to them. -/
def Cashier.serveAll : List (PaymentRequest × (List (Entry Platform) → Env)) → Cashier →
    List (Except Unhandled CreditAnswer) × Cashier
  | [], s => ([],s)
  | x :: rest, s =>
      let r := s.run texts cfg x.1 x.2
      let later := serveAll rest r.state
      (r.result :: later.1,later.2)

/-- A confirmation of the payment by its user, or a delivery of the event that it has succeeded. -/
def Redeems (p : PaymentIntentId) (u : UserId) (intent : StripeIntent) : PaymentRequest → Prop
  | .confirm userId paymentIntentId => userId = u ∧ paymentIntentId = some p
  | .webhook event => event = .ok ⟨"payment_intent.succeeded",p,intent.metadata⟩

/-- The answer to the first of them, which leaves this balance. -/
def credited (u : UserId) (n : Nat) (balance : Credits) : PaymentRequest → CreditAnswer
  | .confirm _ _ => .topup (.data 200 (.confirmed balance))
  | .webhook _ => .webhook (.data 200 (.credited u n))

/-- The answer to all others. -/
def repeated : PaymentRequest → CreditAnswer
  | .confirm _ _ => .topup (.data 200 .alreadyProcessed)
  | .webhook _ => .webhook (.data 200 .duplicate)

/-- The credits are on the balance, and in the ledger. -/
def Cashier.credit (s : Cashier) (p : PaymentIntentId) (u : UserId) (n : Nat) (b : Credits) :
    Cashier :=
  { s with
    world := { s.world with
      credits := s.world.credits.insert u (b+n)
      creditTransactions :=
        ⟨u,(n : Nat),.topup,some (.payment p)⟩ :: s.world.creditTransactions } }

/-- The payment is in the ledger. -/
def Cashier.logged (s : Cashier) (p : PaymentIntentId) : Bool :=
  s.world.creditTransactions.any fun d => d.referenceId = some (.payment p)

end Requests

section Calls

variable {texts : UserTexts} {cfg : SeatConfig} {ω : List (Entry Platform) → Env}
  {h : List (Entry Platform)} {s s' : Cashier} {p : PaymentIntentId} {u : UserId} {n : Nat}
  {b : Credits} {α : Type}

theorem exec_ok {q : Http} {v : q.Val} {f : Except String q.Val → Handler α}
    (hq : s.perform texts cfg (ω h) (.http q) = (.ok v,s')) :
    (callService q >>= f).exec (Cashier.server texts cfg Unit) () ω h s =
      (f (.ok v)).exec (Cashier.server texts cfg Unit) () ω (⟨.http q,.ok v⟩ :: h) s' := by
  have hserve : (Cashier.server texts cfg Unit).serve () (ω h) s (.http q) = (.ok v,s') := hq
  unfold callService
  rw [Prog.exec_bind_call hserve]
  rfl

theorem exec_error {q : Http} {code : String} {f : Except String q.Val → Handler α}
    (hq : s.perform texts cfg (ω h) (.http q) = (.error code,s')) :
    (callService q >>= f).exec (Cashier.server texts cfg Unit) () ω h s =
      (f (.error code)).exec (Cashier.server texts cfg Unit) () ω (⟨.http q,.error code⟩ :: h)
        s' := by
  have hserve : (Cashier.server texts cfg Unit).serve () (ω h) s (.http q) = (.error code,s') := hq
  unfold callService
  rw [Prog.exec_bind_call hserve]
  rfl

/-- While nothing fails, the credit service and the ledger do as they are told. -/
theorem creditUser_run (hω : ∀ h, (ω h).fault = none) {done : Credits → Response α}
    (hb : s.world.credits.lookup u = some b) : ∃ h',
    (creditUser u n (.payment p) done).exec (Cashier.server texts cfg Unit) () ω h s =
      ⟨.ok (done (b+n)),h',s.credit p u n b⟩ := by
  have hread (h) : s.perform texts cfg (ω h) (.http (.getCredits u)) =
      (.ok ⟨some b,none,none⟩,s) := by
    simp [Cashier.perform,World.perform,World.faulty,hω,World.serve,World.getCredits,hb,
      World.httpReply]
  let raised : Cashier :=
    { s with world := { s.world with credits := s.world.credits.insert u (b+n) } }
  have hwrite (h) : s.perform texts cfg (ω h) (.http (.patchCredits u (b+n))) = (.ok (),raised) := by
    simp [Cashier.perform,World.perform,World.faulty,hω,World.serve,World.patchCredits,hb,
      World.httpReply,raised]
  have hlog (h) : raised.perform texts cfg (ω h) (.http (.createCreditTransaction
      ⟨u,(n : Nat),.topup,some (.payment p)⟩)) =
      (.ok ⟨u,(n : Nat),.topup,some (.payment p)⟩,s.credit p u n b) := by
    simp [Cashier.perform,World.perform,World.faulty,hω,World.serve,World.createCreditTransaction,
      World.httpReply,Cashier.credit,raised]
  unfold creditUser
  rw [exec_ok (hread _)]
  simp only [currentBalance,Option.getD_some]
  rw [exec_ok (hwrite _)]
  simp only
  rw [exec_ok (hlog _)]
  exact ⟨_,rfl⟩

theorem alreadyLogged_run (hω : ∀ h, (ω h).fault = none) {f : Bool → Handler α} :
    ∃ x, (alreadyLogged (.payment p) >>= f).exec (Cashier.server texts cfg Unit) () ω h s =
      (f (s.logged p)).exec (Cashier.server texts cfg Unit) () ω (x :: h) s := by
  unfold alreadyLogged safeGet
  rw [Prog.bind_assoc,Prog.bind_assoc]
  cases hf : s.world.creditTransactions.find? (·.referenceId = some (.payment p)) with
  | none =>
    have hnone : s.logged p = false := by simpa [Cashier.logged] using hf
    have hmiss : s.perform texts cfg (ω h) (.http (.getCreditTransactionByReference (.payment p))) =
        (.error "TRANSACTION_NOT_FOUND",s) := by
      simp [Cashier.perform,World.perform,World.faulty,hω,World.serve,
        World.getCreditTransactionByReference,World.found,hf,World.httpReply]
    rw [exec_error hmiss,hnone]
    exact ⟨_,rfl⟩
  | some d =>
    have hsome : s.logged p = true :=
      List.any_eq_true.mpr ⟨d,List.mem_of_find?_eq_some hf,by simpa using List.find?_some hf⟩
    have hfind : s.perform texts cfg (ω h) (.http (.getCreditTransactionByReference (.payment p))) =
        (.ok d,s) := by
      simp [Cashier.perform,World.perform,World.faulty,hω,World.serve,
        World.getCreditTransactionByReference,World.found,hf,World.httpReply]
    rw [exec_ok hfind,hsome]
    exact ⟨_,rfl⟩

/-- The guard, and the credits if it lets the request through. -/
theorem guarded_run (hω : ∀ h, (ω h).fault = none) {known : Response α} {done : Credits → Response α}
    (hb : s.world.credits.lookup u = some b) : ∃ h',
    (alreadyLogged (.payment p) >>= fun found =>
      if found then pure known else creditUser u n (.payment p) done).exec
        (Cashier.server texts cfg Unit) () ω h s =
      ⟨.ok (if s.logged p then known else done (b+n)),h',
        if s.logged p then s else s.credit p u n b⟩ := by
  have hguard : ∃ x, (alreadyLogged (.payment p) >>= fun found =>
      if found then pure known else creditUser u n (.payment p) done).exec
        (Cashier.server texts cfg Unit) () ω h s =
      (if s.logged p then pure known else creditUser u n (.payment p) done : Handler _).exec
        (Cashier.server texts cfg Unit) () ω (x :: h) s := alreadyLogged_run hω
  obtain ⟨x,hx⟩ := hguard
  rw [hx]
  cases s.logged p with
  | true => exact ⟨_,rfl⟩
  | false =>
    simp only [Bool.false_eq_true,if_false]
    exact creditUser_run hω hb

end Calls

section Redeemed

variable {texts : UserTexts} (cfg : SeatConfig) {ω : List (Entry Platform) → Env} {s : Cashier}
  {p : PaymentIntentId} {u : UserId} {n : Nat} {intent : StripeIntent} {b : Credits}
  {req : PaymentRequest}

theorem confirmTopup_run (hω : ∀ h, (ω h).fault = none) (hp : s.intents.lookup p = some intent)
    (hs : intent.status = "succeeded") (hn : texts.payment intent.metadata = some (u,n))
    (hb : s.world.credits.lookup u = some b) : ∃ h',
    (confirmTopup u (some p)).exec (Cashier.server texts cfg Unit) () ω [] s =
      ⟨.ok (.data 200 (if s.logged p then .alreadyProcessed else .confirmed (b+n))),h',
        if s.logged p then s else s.credit p u n b⟩ := by
  have hretrieve (h) : s.perform texts cfg (ω h) (.http (.retrievePaymentIntent p)) =
      (.ok (some (u,n)),s) := by
    have hpayer : texts.payer (intent.metadata.lookup "userId")
        (intent.metadata.lookup "credits") = some (u,n) := hn
    simp [Cashier.perform,World.faulty,hω,StripeWrapper.retrievePaymentIntent,hp,hs,Except.map,
      World.httpReply,hpayer]
  unfold confirmTopup
  simp only
  rw [exec_ok (hretrieve _)]
  simp only [ne_eq,not_true_eq_false,if_false]
  have hguard := @guarded_run texts cfg ω [⟨.http (.retrievePaymentIntent p),.ok (some (u,n))⟩] s p u
    n b TopupStatus hω (.data 200 .alreadyProcessed)
    (fun newBalance => .data 200 (.confirmed newBalance)) hb
  cases hl : s.logged p <;> simpa [hl] using hguard

theorem stripeWebhook_run (hω : ∀ h, (ω h).fault = none)
    (hn : texts.payment intent.metadata = some (u,n)) (hb : s.world.credits.lookup u = some b) : ∃ h',
    (stripeWebhook (texts.delivery (.ok ⟨"payment_intent.succeeded",p,intent.metadata⟩))).exec
        (Cashier.server texts cfg Unit) () ω [] s =
      ⟨.ok (.data 200 (if s.logged p then .duplicate else .credited u n)),h',
        if s.logged p then s else s.credit p u n b⟩ := by
  have hdelivery : texts.delivery (.ok ⟨"payment_intent.succeeded",p,intent.metadata⟩) =
      ⟨true,some (p,some (u,n))⟩ := by simp [UserTexts.delivery,hn]
  have hverify (h) : s.perform texts cfg (ω h) (.http (.stripeWebhook ⟨true,some (p,some (u,n))⟩)) =
      (.ok ⟨some (u,n),some p,none⟩,s) := by
    simp [Cashier.perform,World.perform,World.faulty,hω,World.serve,World.stripeWebhook,
      World.httpReply]
  rw [hdelivery]
  unfold stripeWebhook
  rw [exec_ok (hverify _)]
  simp only [webhookReference]
  have hguard := @guarded_run texts cfg ω
    [⟨.http (.stripeWebhook ⟨true,some (p,some (u,n))⟩),.ok ⟨some (u,n),some p,none⟩⟩] s p u n b
    Receipt hω (.data 200 .duplicate) (fun _ => .data 200 (.credited u n)) hb
  cases hl : s.logged p <;> simpa [hl] using hguard

/-- A request for a payment that has been made. -/
theorem redeems_run (hω : ∀ h, (ω h).fault = none) (hp : s.intents.lookup p = some intent)
    (hs : intent.status = "succeeded") (hn : texts.payment intent.metadata = some (u,n))
    (hb : s.world.credits.lookup u = some b) (hreq : Redeems p u intent req) :
    (s.run texts cfg req ω).result =
        .ok (if s.logged p then repeated req else credited u n (b+n) req) ∧
      (s.run texts cfg req ω).state = if s.logged p then s else s.credit p u n b := by
  cases req with
  | confirm userId paymentIntentId =>
    obtain ⟨rfl,rfl⟩ := hreq
    obtain ⟨h',hrun⟩ := confirmTopup_run cfg hω hp hs hn hb
    have hanswer : (s.run texts cfg (.confirm userId (some p)) ω) = _ := Prog.exec_bind_ok hrun
    rw [hanswer]
    cases hl : s.logged p <;> exact ⟨rfl,rfl⟩
  | webhook event =>
    obtain rfl : event = _ := hreq
    obtain ⟨h',hrun⟩ := stripeWebhook_run cfg hω hn hb
    have hanswer : (s.run texts cfg (.webhook _) ω) = _ := Prog.exec_bind_ok hrun
    rw [hanswer]
    cases hl : s.logged p <;> exact ⟨rfl,rfl⟩

theorem credit_logged (s : Cashier) : (s.credit p u n b).logged p := by
  simp [Cashier.logged,Cashier.credit]

/-- Once the payment is in the ledger, requests for it change nothing. -/
theorem serveAll_repeated (hp : s.intents.lookup p = some intent) (hs : intent.status = "succeeded")
    (hn : texts.payment intent.metadata = some (u,n)) (hb : s.world.credits.lookup u = some b)
    (hlogged : s.logged p) (reqs : List (PaymentRequest × (List (Entry Platform) → Env)))
    (hreqs : ∀ x ∈ reqs, Redeems p u intent x.1 ∧ ∀ h, (x.2 h).fault = none) :
    s.serveAll texts cfg reqs = (reqs.map fun x => .ok (repeated x.1),s) := by
  induction reqs with
  | nil => rfl
  | cons x reqs ih =>
    obtain ⟨hx,hω⟩ := hreqs x List.mem_cons_self
    obtain ⟨hresult,hstate⟩ := redeems_run cfg hω hp hs hn hb hx
    rw [if_pos hlogged] at hresult hstate
    simp only [Cashier.serveAll,hresult,hstate,List.map_cons,
      ih fun y hy => hreqs y (List.mem_cons_of_mem _ hy)]

/-- Whatever has failed before, and however far other requests have come: when nothing fails, what a
user has asked for and paid is credited to him by the first confirmation or delivery that comes, a
credit for a hundred cents, and by none of those after it. -/
theorem payment_redeemed_once {ι : Type} [DecidableEq ι] (texts : UserTexts) (cfg : SeatConfig)
    (requests : ι → PaymentRequest) (w : World) (c : PaymentConfig ι)
    (hrun : PaymentRuns texts cfg requests w c) (p : PaymentIntentId) (u : UserId) (a : Amount)
    (intent : StripeIntent) (b : Credits) (hasked : (p,u,a) ∈ c.shared.asked)
    (hp : c.shared.intents.lookup p = some intent) (hs : intent.status = "succeeded")
    (hb : c.shared.world.credits.lookup u = some b) (hnew : c.shared.logged p = false)
    (x : PaymentRequest × (List (Entry Platform) → Env))
    (rest : List (PaymentRequest × (List (Entry Platform) → Env)))
    (hreqs : ∀ y ∈ x :: rest, Redeems p u intent y.1 ∧ ∀ h, (y.2 h).fault = none) :
    ∃ n : Nat, a.truncated = some (n : Int) ∧ intent.amount = (n : Int)*100 ∧
      c.shared.serveAll texts cfg (x :: rest) =
        (.ok (credited u n (b+n) x.1) :: rest.map fun y => .ok (repeated y.1),
          c.shared.credit p u n b) := by
  obtain ⟨n,hn,htruncated,hamount⟩ := (paid_reached hrun).kept.payment hp hasked
  obtain ⟨hx,hω⟩ := hreqs x List.mem_cons_self
  obtain ⟨hresult,hstate⟩ := redeems_run cfg hω hp hs hn hb hx
  simp only [hnew,Bool.false_eq_true,if_false] at hresult hstate
  have hlater := serveAll_repeated cfg (s := c.shared.credit p u n b) (b := b+n) hp hs hn
    (by simp [Cashier.credit]) (credit_logged c.shared) rest
    fun y hy => hreqs y (List.mem_cons_of_mem _ hy)
  exact ⟨n,htruncated,hamount,by simp only [Cashier.serveAll,hresult,hstate,hlater]⟩

end Redeemed

/-- The delivery comes first, the confirmation after it. -/
theorem payment_redeemed_once_delivered :
    ∃ n : Nat, (Amount.float (.finite (101*2^1073))).truncated = some (n : Int) ∧
      paidIntent.amount = (n : Int)*100 ∧
      paidUp.serveAll unaryTexts ⟨3,3,false⟩
          [(confirmAndDeliver false,fun _ => ⟨0,0,0,true,true,none⟩),
            (confirmAndDeliver true,fun _ => ⟨0,0,0,true,true,none⟩)] =
        ([.ok (credited 2 n (100+n) (confirmAndDeliver false)),
            .ok (repeated (confirmAndDeliver true))],
          paidUp.credit 7 2 n 100) := by
  have hasked : (7,2,Amount.float (.finite (101*2^1073))) ∈ paidUp.asked := by decide +kernel
  have hcredits : paidUp.world.credits.lookup 2 = some 100 := by decide +kernel
  refine payment_redeemed_once unaryTexts ⟨3,3,false⟩ confirmAndDeliver unpaidWorld beforeRequests
    beforeRequests_runs 7 2 _ paidIntent 100 hasked (by decide +kernel) rfl hcredits rfl _ _
    fun y hy => ?_
  rcases List.mem_cons.mp hy with rfl | hy
  · exact ⟨rfl,fun _ => rfl⟩
  · obtain rfl := List.mem_singleton.mp hy
    exact ⟨⟨rfl,rfl⟩,fun _ => rfl⟩

end TicketRemaster.Payments
