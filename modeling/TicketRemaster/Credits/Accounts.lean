import TicketRemaster.Credits.Handlers
import TicketRemaster.Lib.Interleaving
import TicketRemaster.Purchase.Confirm
import TicketRemaster.Services.Rules
import TicketRemaster.Transfer.Reads
set_option autoImplicit false

/-! What the requests that move credits do to the accounts of users when no call fails: each
moves the amount it reports, starting from the balance it has read, and logs the same amount. -/

namespace TicketRemaster.Credits

open Resumption SeatInventory

inductive CreditRequest where
  | confirmPurchase (req : Purchase.ConfirmRequest)
  | confirmTopup (userId : UserId) (paymentIntentId : Option PaymentIntentId)
  | stripeWebhook (delivery : StripeDelivery)
  | sellerVerify (sellerId : UserId) (transferId : TransferId) (otp : Option Nat)
  deriving DecidableEq, Repr

inductive CreditAnswer where
  | purchase (r : Purchase.ConfirmResponse)
  | topup (r : Response TopupStatus)
  | webhook (r : Response Receipt)
  | settlement (r : Response Transfer.SettledTransfer)
  deriving DecidableEq

def CreditRequest.handler : CreditRequest → Handler CreditAnswer
  | .confirmPurchase req => CreditAnswer.purchase <$> Purchase.confirmPurchase req
  | .confirmTopup userId paymentIntentId =>
      CreditAnswer.topup <$> Credits.confirmTopup userId paymentIntentId
  | .stripeWebhook delivery => CreditAnswer.webhook <$> Credits.stripeWebhook delivery
  | .sellerVerify sellerId transferId otp =>
      CreditAnswer.settlement <$> Transfer.sellerVerify sellerId transferId otp

/-- The credits of a payment, by its metadata. -/
def paymentCredits (w : World) (p : PaymentIntentId) : Credits :=
  (((w.paymentIntents.lookup p).bind (·.metadata)).map (fun m => (m.2 : Credits))).getD 0

/-- What a settled transfer adds to the balance of a user. -/
def transferDelta (t : Transfer) (u : UserId) : Credits :=
  (if u = t.sellerId then t.creditAmount else 0) - (if u = t.buyerId then t.creditAmount else 0)

/-- What a request that gave this answer has to add to the balance of a user. The rows it is
about are those of `w`. -/
def delta (w : World) (u : UserId) : CreditRequest → Option CreditAnswer → Credits
  | .confirmPurchase req, some (.purchase (.data _ c)) => if u = req.userId then -c.price else 0
  | .confirmTopup userId (some p), some (.topup (.data _ (.confirmed _))) =>
      if u = userId then paymentCredits w p else 0
  | .stripeWebhook _, some (.webhook (.data _ (.credited userId credits))) =>
      if u = userId then credits else 0
  | .sellerVerify _ transferId _, some (.settlement (.data _ _)) =>
      ((w.transfers.lookup transferId).map (transferDelta · u)).getD 0
  | _, _ => 0

/-- The dealings of one request with the account of one user: the balances it has read, newest
first, whether it has written the balance, how much it has moved it by, and the sum of the
ledger entries it has made. -/
structure Account where
  reads : List Credits
  wrote : Bool
  moved : Credits
  logged : Credits
  deriving DecidableEq

def Account.untouched : Account := ⟨[],false,0,0⟩

def Account.after (u : UserId) (a : Account) : (q : Call) → q.Ans → Account
  | .http (.getCredits i), .ok data =>
      if i = u then { a with reads := data.creditBalance.getD 0 :: a.reads } else a
  | .http (.patchCredits i b), .ok _ =>
      if i = u then { a with wrote := true, moved := a.moved+(b-a.reads.headD 0) } else a
  | .http (.createCreditTransaction data), .ok _ =>
      if data.userId = u then { a with logged := a.logged+data.delta } else a
  | _, _ => a

def account (u : UserId) : List (Entry Platform) → Account
  | [] => .untouched
  | entry :: h => (account u h).after u entry.1 entry.2

@[simp] theorem account_cons (u : UserId) (entry : Entry Platform) (h : List (Entry Platform)) :
    account u (entry :: h) = (account u h).after u entry.1 entry.2 := rfl

/-- The requests that store something; a `GET` may expire a transfer, but is none of them. -/
def stores : Http → Bool
  | .getTransfer _ => false
  | q => q.writes.isSome

/-- The call fails: no usable answer, or one that refuses to store something. -/
def callFails : Entry Platform → Bool
  | ⟨.http _,.raised⟩ => true
  | ⟨.http q,.error _⟩ => stores q
  | ⟨.seatRpc _ _,none⟩ => true
  | _ => false

/-- The parties and the amount of a transfer never change. -/
structure SameTerms (t t₀ : Transfer) : Prop where
  buyer : t.buyerId = t₀.buyerId
  seller : t.sellerId = t₀.sellerId
  amount : t.creditAmount = t₀.creditAmount

theorem SameTerms.refl (t : Transfer) : SameTerms t t := ⟨rfl,rfl,rfl⟩

theorem SameTerms.trans {t t' t'' : Transfer} (h : SameTerms t t') (h' : SameTerms t' t'') :
    SameTerms t t'' := ⟨h.buyer.trans h'.buyer,h.seller.trans h'.seller,h.amount.trans h'.amount⟩

section Discipline

/-- The request settles a transfer of a user to himself. -/
def SelfTransfer (w₀ : World) : CreditRequest → Prop
  | .sellerVerify _ i _ => ∃ t, w₀.transfers.lookup i = some t ∧ t.buyerId = t.sellerId
  | _ => False

/-- The request settles a transfer of a negative amount, if any. -/
def AmountNonneg (w₀ : World) : CreditRequest → Prop
  | .sellerVerify _ i _ => ∀ t, w₀.transfers.lookup i = some t → 0 ≤ t.creditAmount
  | _ => True

/-- A balance is written after it has been read; none is written twice, except by a transfer of a
user to himself; and no negative one unless one was read or the amount is negative. -/
def Sound (w₀ : World) (req : CreditRequest) (h : List (Entry Platform)) : Call → Prop
  | .http (.createTransfer _) | .http (.createListing _) => False
  | .http (.patchCredits i b) => (account i h).reads ≠ [] ∧
      ((account i h).wrote → SelfTransfer w₀ req) ∧
      ((∀ r ∈ (account i h).reads, 0 ≤ r) → AmountNonneg w₀ req → 0 ≤ b)
  | _ => True

/-- What is known about the answers. A write succeeds only where all balances read agree. -/
def Facts (w₀ : World) (h : List (Entry Platform)) : (q : Call) → q.Ans → Prop
  | .http (.getCredits _), .ok data => ∃ b, data = ⟨some b,none,none⟩
  | .http (.patchCredits i _), .ok _ =>
      ∀ r ∈ (account i h).reads, ∀ r' ∈ (account i h).reads, r = r'
  | .http (.retrievePaymentIntent p), .ok metadata =>
      ∃ intent, w₀.paymentIntents.lookup p = some intent ∧ metadata = intent.metadata
  | .http (.getTransfer i), .ok t => ∃ t₀, w₀.transfers.lookup i = some t₀ ∧ SameTerms t t₀
  | _, _ => True

def Answers (w₀ : World) (h : List (Entry Platform)) (q : Call) (a : q.Ans) : Prop :=
  callFails ⟨q,a⟩ = false ∧ Facts w₀ h q a

/-- The balance of each user has been moved by this much, and this much has been logged. -/
def Moved (f : UserId → Credits) (h : List (Entry Platform)) : Prop :=
  ∀ u, (account u h).moved = f u ∧ (account u h).logged = f u

abbrev Idle (h : List (Entry Platform)) : Prop := Moved (fun _ => 0) h

abbrev Handler.Sound {α : Type} (w₀ : World) (req : CreditRequest) (p : Handler α)
    (fin : α → List (Entry Platform) → Prop) (h : List (Entry Platform)) : Prop :=
  p.Follows (Credits.Sound w₀ req) (Answers w₀) fin (fun _ h => Idle h) h

variable {w₀ : World} {req : CreditRequest} {α : Type} {fin : α → List (Entry Platform) → Prop}
  {h : List (Entry Platform)}

theorem callService_sound {q : Http} {f : Except String q.Val → Handler α}
    (hq : Sound w₀ req h (.http q))
    (hok : ∀ v, Facts w₀ h (.http q) (.ok v) →
      Handler.Sound w₀ req (f (.ok v)) fin (⟨.http q,.ok v⟩ :: h))
    (herr : ∀ code, stores q = false → Handler.Sound w₀ req (f (.error code)) fin
      (⟨.http q,.error code⟩ :: h)) :
    Handler.Sound w₀ req (callService q >>= f) fin h := by
  refine ⟨hq,fun a ha => ?_⟩
  obtain ⟨hsucceeds,hfacts⟩ := ha
  cases a with
  | ok v => exact hok v hfacts
  | error code => exact herr code hsucceeds
  | raised => simp [callFails] at hsucceeds

/-- A call that is sure to be accepted. -/
theorem accepted_sound {q : Http} {f : Except String q.Val → Handler α}
    (hq : Sound w₀ req h (.http q)) (hstores : stores q)
    (hok : ∀ v, Facts w₀ h (.http q) (.ok v) →
      Handler.Sound w₀ req (f (.ok v)) fin (⟨.http q,.ok v⟩ :: h)) :
    Handler.Sound w₀ req (callService q >>= f) fin h := by
  refine callService_sound hq hok (fun code hno => ?_)
  rw [hstores] at hno
  cases hno

/-- The calls that have nothing to do with accounts. -/
def Neutral (q : Call) : Prop :=
  q.writes ≠ some .credits ∧ q.writes ≠ some .creditTransactions ∧
    (∀ i, q ≠ .http (.getCredits i)) ∧ (∀ d, q ≠ .http (.createTransfer d)) ∧
    ∀ d, q ≠ .http (.createListing d)

theorem Neutral.sound {q : Call} (hq : Neutral q) : Sound w₀ req h q := by
  cases q with
  | http q =>
    cases q with
    | createTransfer d => exact absurd rfl (hq.2.2.2.1 d)
    | createListing d => exact absurd rfl (hq.2.2.2.2 d)
    | patchCredits i b => exact absurd rfl hq.1
    | _ => trivial
  | _ => trivial

theorem Neutral.account {q : Call} (hq : Neutral q) (a : q.Ans) (u : UserId) :
    account u (⟨q,a⟩ :: h) = account u h := by
  cases q with
  | http q =>
    cases q with
    | getCredits i => exact absurd rfl (hq.2.2.1 i)
    | patchCredits i b => exact absurd rfl hq.1
    | createCreditTransaction d => exact absurd rfl hq.2.1
    | _ => rfl
  | _ => rfl

/-- A neutral call leaves the accounts as they are. -/
theorem neutral_sound {q : Http} {f : Except String q.Val → Handler α} (hq : Neutral (.http q))
    (hok : ∀ v h', (∀ u, account u h' = account u h) → Handler.Sound w₀ req (f (.ok v)) fin h')
    (herr : ∀ code h', stores q = false → (∀ u, account u h' = account u h) →
      Handler.Sound w₀ req (f (.error code)) fin h') :
    Handler.Sound w₀ req (callService q >>= f) fin h :=
  callService_sound hq.sound (fun v _ => hok v _ (fun u => hq.account _ u))
    (fun code hno => herr code _ hno (fun u => hq.account _ u))

/-- The handler makes neutral calls only, never raises, and returns results in `P` only. -/
def Handler.Aside {β : Type} (p : Handler β) (P : β → Prop) : Prop :=
  ∀ h, p.Follows (fun _ => Neutral) (fun _ _ _ => True) (fun b _ => P b) (fun _ _ => False) h

theorem aside_bind {β γ : Type} {p : Handler β} {f : β → Handler γ} {P : β → Prop} {Q : γ → Prop}
    (hp : Handler.Aside p P) (hf : ∀ b, P b → Handler.Aside (f b) Q) :
    Handler.Aside (p >>= f) Q := by
  intro h
  exact Prog.follows_bind.mpr ((hp h).mono (fun b h' hb => hf b hb h') (fun _ _ he => he))

/-- Such a part of a request can be skipped. -/
theorem aside_sound {β : Type} {p : Handler β} {P : β → Prop} {f : β → Handler α}
    (hp : Handler.Aside p P) (hf : ∀ b h', P b → (∀ u, account u h' = account u h) →
      Handler.Sound w₀ req (f b) fin h') : Handler.Sound w₀ req (p >>= f) fin h := by
  suffices hgo : ∀ h', (∀ u, account u h' = account u h) →
      p.Follows (fun _ => Neutral) (fun _ _ _ => True) (fun b _ => P b) (fun _ _ => False) h' →
      Handler.Sound w₀ req (p >>= f) fin h' from hgo h (fun _ => rfl) (hp h)
  clear hp
  intro h' hs hp
  induction p generalizing h' with
  | ret b => exact hf b h' hp hs
  | raise exc => exact hp.elim
  | call q k ih =>
    exact ⟨hp.1.sound,fun a _ => ih a _ (fun u => (hp.1.account a u).trans (hs u)) (hp.2 a trivial)⟩

end Discipline

/-- No account has been touched. -/
def Clean (h : List (Entry Platform)) : Prop := ∀ u, account u h = .untouched

theorem Clean.idle {h : List (Entry Platform)} (hc : Clean h) : Idle h := by
  intro u
  rw [hc u]
  exact ⟨rfl,rfl⟩

theorem clean_nil : Clean [] := fun _ => rfl

/-- One balance has been read, and nothing else has happened. -/
def HasRead (i : UserId) (b : Credits) (h : List (Entry Platform)) : Prop :=
  ∀ u, account u h = if u = i then ⟨[b],false,0,0⟩ else .untouched

theorem HasRead.idle {i : UserId} {b : Credits} {h : List (Entry Platform)} (hr : HasRead i b h) :
    Idle h := by
  intro u
  rw [hr u]
  split <;> exact ⟨rfl,rfl⟩

section Single

variable {w₀ : World} {req : CreditRequest} {α : Type} {fin : α → List (Entry Platform) → Prop}
  {h : List (Entry Platform)} {i : UserId} {b x : Credits}

theorem getCredits_sound {f : Except String CreditData → Handler α} (hc : Clean h)
    (hok : ∀ b h', HasRead i b h' → Handler.Sound w₀ req (f (.ok ⟨some b,none,none⟩)) fin h')
    (herr : ∀ code h', Clean h' → Handler.Sound w₀ req (f (.error code)) fin h') :
    Handler.Sound w₀ req (callService (.getCredits i) >>= f) fin h := by
  refine callService_sound trivial (fun data hd => ?_) (fun code _ => herr code _ hc)
  obtain ⟨b,rfl⟩ := hd
  refine hok b _ fun u => ?_
  rw [account_cons,hc u]
  by_cases hu : u = i
  · simp [Account.after,Account.untouched,hu]
  · simp [Account.after,hu,Ne.symm hu]

/-- The write moves the balance from what was read to what is written. -/
theorem HasRead.wrote (hr : HasRead i b h) (v : Unit) (u : UserId) :
    account u (⟨.http (.patchCredits i x),.ok v⟩ :: h) =
      if u = i then ⟨[b],true,x-b,0⟩ else .untouched := by
  rw [account_cons,hr u]
  by_cases hu : u = i
  · simp [Account.after,hu]
  · simp [Account.after,hu,Ne.symm hu]

theorem HasRead.sound (hr : HasRead i b h) (hx : 0 ≤ b → 0 ≤ x) :
    Sound w₀ req h (.http (.patchCredits i x)) := by
  have hi : account i h = ⟨[b],false,0,0⟩ := by rw [hr i,if_pos rfl]
  refine ⟨by simp [hi],by simp [hi],fun hreads _ => hx (hreads b ?_)⟩
  simp [hi]

/-- An accepted write and its ledger entry. -/
theorem writeAndLog_sound {d : CreditTransaction} {r : Response α} (hr : HasRead i b h)
    (hx : 0 ≤ b → 0 ≤ x) (hd : d.userId = i) (hdelta : d.delta = x-b)
    {f : Except String Unit → Handler (Response α)}
    (hf : f (.ok ()) = do let _ ← callService (.createCreditTransaction d); pure r) :
    Handler.Sound w₀ req (callService (.patchCredits i x) >>= f)
      (fun r' h' => r' = r ∧ Moved (fun u => if u = i then x-b else 0) h') h := by
  refine accepted_sound (hr.sound hx) rfl (fun v _ => ?_)
  rw [hf]
  refine accepted_sound trivial rfl (fun _ _ => ⟨rfl,fun u => ?_⟩)
  rw [account_cons,hr.wrote v u]
  by_cases hu : u = i
  · simp [Account.after,hd,hdelta,hu]
  · simp [Account.after,hd,hu,Ne.symm hu,Account.untouched]

end Single

end TicketRemaster.Credits
