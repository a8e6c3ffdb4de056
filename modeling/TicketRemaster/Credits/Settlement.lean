import TicketRemaster.Credits.Reports
import TicketRemaster.Transfer.Reads
set_option autoImplicit false

/-! A settlement takes from the buyer what it gives to the seller, and logs both. -/

namespace TicketRemaster.Credits

open Resumption Transfer
open Purchase (IsError)

variable {w₀ : World} {req : CreditRequest} {h : List (Entry Platform)}

section Accounts

variable {u i : UserId} {b : Credits} {d : CreditTransaction}

theorem account_read {data : CreditData} :
    account u (⟨.http (.getCredits i),.ok data⟩ :: h) =
      if i = u then { account u h with reads := data.creditBalance.getD 0 :: (account u h).reads }
      else account u h := rfl

theorem account_write {v : Unit} :
    account u (⟨.http (.patchCredits i b),.ok v⟩ :: h) =
      if i = u then { account u h with
        wrote := true, moved := (account u h).moved+(b-(account u h).reads.headD 0) }
      else account u h := rfl

theorem account_log {v : CreditTransaction} :
    account u (⟨.http (.createCreditTransaction d),.ok v⟩ :: h) =
      if d.userId = u then { account u h with logged := (account u h).logged+d.delta }
      else account u h := rfl

end Accounts

/-- What leaves the buyer in a saga, and what reaches the seller. -/
def paidBy (a : Saga) (u : UserId) : Credits := if u = a.buyerId then -a.creditAmount else 0

def paidTo (a : Saga) (u : UserId) : Credits := if u = a.sellerId then a.creditAmount else 0

def balancesRead (a : Saga) (u : UserId) : List Credits :=
  (if u = a.sellerId then [a.sellerBalance] else []) ++
    (if u = a.buyerId then [a.buyerBalance] else [])

/-- Both balances have been read, the buyer's first. -/
def Prepared (a : Saga) (h : List (Entry Platform)) : Prop :=
  ∀ u, account u h = ⟨balancesRead a u,false,0,0⟩

/-- The buyer has paid. -/
def BuyerPaid (a : Saga) (h : List (Entry Platform)) : Prop :=
  ∀ u, account u h = ⟨balancesRead a u,decide (u = a.buyerId),paidBy a u,0⟩

/-- Both balances have been written, and the ledger entries so far sum up to `logged`. -/
def Paid (a : Saga) (logged : UserId → Credits) (h : List (Entry Platform)) : Prop :=
  ∀ u, (account u h).moved = paidBy a u+paidTo a u ∧ (account u h).logged = logged u

section Steps

variable {a : Saga}

theorem Prepared.paid (hp : Prepared a h) (hagree : a.buyerId = a.sellerId →
    a.sellerBalance = a.buyerBalance) (v : Unit) :
    BuyerPaid a (⟨.http (a.request 0 .buyerDeducted),.ok v⟩ :: h) := by
  intro u
  refine (account_write (v := v)).trans ?_
  rw [hp u]
  by_cases hu : u = a.buyerId
  · have hhead : (balancesRead a u).headD 0 = a.buyerBalance := by
      subst hu
      by_cases hself : a.buyerId = a.sellerId
      · simp [balancesRead,hself,hagree hself]
      · simp [balancesRead,hself]
    rw [if_pos hu.symm,hhead]
    simp [hu,paidBy]
  · rw [if_neg (Ne.symm hu)]
    simp [hu,paidBy]

theorem BuyerPaid.paid (hp : BuyerPaid a h) (v : Unit) :
    Paid a (fun _ => 0) (⟨.http (a.request 0 .sellerCredited),.ok v⟩ :: h) := by
  intro u
  rw [show account u (⟨.http (a.request 0 .sellerCredited),.ok v⟩ :: h) = _ from
    account_write (v := v),hp u]
  by_cases hu : u = a.sellerId
  · simp [hu,balancesRead,paidTo]
  · simp [hu,Ne.symm hu,paidTo]

theorem Paid.logs {logged : UserId → Credits} (hp : Paid a logged h) (d v : CreditTransaction) :
    Paid a (fun u => logged u+(if u = d.userId then d.delta else 0))
      (⟨.http (.createCreditTransaction d),.ok v⟩ :: h) := by
  intro u
  rw [account_log]
  by_cases hu : u = d.userId
  · simp [hu.symm,hp u]
  · simp [hu,Ne.symm hu,hp u]

end Steps


section Run

variable {α : Type} {fin : α → List (Entry Platform) → Prop}
  {exc : Unhandled → List (Entry Platform) → Prop}

theorem request_stores (a : Saga) (now : Time) (step : SagaStep) :
    stores (a.request now step) = true := by cases step <;> rfl

/-- Where no call fails, a step of the saga is taken. -/
theorem attempt_follows {a : Saga} {f : Option Unhandled → Handler α} (step : SagaStep)
    {now : Time} (hq : Sound w₀ req h (.http (a.request now step)))
    (hok : ∀ v, Facts w₀ h (.http (a.request now step)) (.ok v) →
      (f none).Follows (Sound w₀ req) (Answers w₀) fin exc
        (⟨.http (a.request now step),.ok v⟩ :: h)) :
    (a.attempt now step >>= f).Follows (Sound w₀ req) (Answers w₀) fin exc h := by
  refine Prog.follows_bind.mpr (Prog.follows_bind.mpr (Prog.follows_handle.mpr ⟨hq,fun r hr => ?_⟩))
  obtain ⟨hsucceeds,hfacts⟩ := hr
  cases r with
  | ok v => exact hok v hfacts
  | error code => simp [callFails,request_stores] at hsucceeds
  | raised => simp [callFails] at hsucceeds

/-- What the saga leaves behind. -/
def settled (a : Saga) (u : UserId) : Credits := paidBy a u+paidTo a u

theorem executeSaga_follows {a : Saga} (hp : Prepared a h)
    (hbuyer : a.creditAmount ≤ a.buyerBalance)
    (hself : a.buyerId = a.sellerId → SelfTransfer w₀ req)
    (hamount : AmountNonneg w₀ req → 0 ≤ a.creditAmount) :
    (executeSaga a).Follows (Sound w₀ req) (Answers w₀) (fun _ h => Moved (settled a) h) exc h := by
  have hseller : a.sellerBalance ∈ balancesRead a a.sellerId := by simp [balancesRead]
  have hbuyerRead : a.buyerId = a.sellerId → a.buyerBalance ∈ balancesRead a a.sellerId := by
    intro hs
    simp [balancesRead,hs]
  refine Prog.follows_bind.mpr (attempt_follows .buyerDeducted ?_ fun v hagree => ?_)
  · exact ⟨by simp [hp a.buyerId,balancesRead],by simp [hp a.buyerId],
      fun _ _ => sub_nonneg.mpr hbuyer⟩
  have hagree' : a.buyerId = a.sellerId → a.sellerBalance = a.buyerBalance := by
    intro hs
    refine hagree a.sellerBalance ?_ a.buyerBalance ?_
    · rw [hp a.buyerId,hs]; exact hseller
    · rw [hp a.buyerId,hs]; exact hbuyerRead hs
  have hpaid := hp.paid hagree' v
  refine attempt_follows .sellerCredited ⟨?_,?_,fun hreads hnonneg => ?_⟩ fun v _ => ?_
  · rw [hpaid a.sellerId]
    exact List.ne_nil_of_mem hseller
  · intro hwrote
    refine hself ?_
    rw [hpaid a.sellerId] at hwrote
    exact (of_decide_eq_true hwrote).symm
  · rw [hpaid a.sellerId] at hreads
    exact add_nonneg (hreads _ hseller) (hamount hnonneg)
  have hboth := hpaid.paid v
  refine attempt_follows .buyerTxnLogged trivial fun buyerTxn _ => ?_
  refine attempt_follows .sellerTxnLogged trivial fun sellerTxn _ => ?_
  have hlogged := (hboth.logs
    ⟨a.buyerId,-a.creditAmount,.p2pSent,some (.transfer a.transferId)⟩ buyerTxn).logs
    ⟨a.sellerId,a.creditAmount,.p2pReceived,some (.transfer a.transferId)⟩ sellerTxn
  refine attempt_follows .ticketTransferred trivial fun _ _ => ?_
  refine attempt_follows .listingCompleted trivial fun _ _ => ?_
  refine ⟨trivial,fun now _ => ?_⟩
  refine attempt_follows .transferCompleted trivial fun _ _ => ?_
  intro u
  refine ⟨(hlogged u).1,(hlogged u).2.trans ?_⟩
  simp only [settled,paidBy,paidTo,zero_add]

end Run

section Settle

/-- The arguments of the saga are those of the transfer, and the buyer has the credits. -/
structure Agreed (w₀ : World) (transferId : TransferId) (a : Saga) : Prop where
  terms : ∃ t, w₀.transfers.lookup transferId = some t ∧ a.buyerId = t.buyerId ∧
    a.sellerId = t.sellerId ∧ a.creditAmount = t.creditAmount
  afford : a.creditAmount ≤ a.buyerBalance

/-- A settlement that is not refused has read both balances. -/
def Prepares (w₀ : World) (transferId : TransferId) :
    Except (Response SettledTransfer) (TicketRemaster.Transfer × Saga) →
      List (Entry Platform) → Prop
  | .error answer, h => IsError answer ∧ Idle h
  | .ok (_,a), h => Agreed w₀ transferId a ∧ Prepared a h

theorem safeGet_sound {α : Type} {q : Http} {f : Option q.Val → Handler α}
    {fin : α → List (Entry Platform) → Prop} (hq : Neutral (.http q))
    (hf : ∀ found h', (∀ u, account u h' = account u h) → Handler.Sound w₀ req (f found) fin h') :
    Handler.Sound w₀ req (safeGet q >>= f) fin h := by
  unfold safeGet
  rw [Prog.bind_assoc]
  exact neutral_sound hq (fun v h' hs => hf _ h' hs) (fun _ h' _ hs => hf _ h' hs)

theorem HasRead.second {b s : Credits} {buyer seller : UserId} (hr : HasRead buyer b h)
    (u : UserId) :
    account u (⟨.http (.getCredits seller),.ok ⟨some s,none,none⟩⟩ :: h) =
      ⟨(if u = seller then [s] else [])++(if u = buyer then [b] else []),false,0,0⟩ := by
  rw [account_read,hr u]
  by_cases hs : u = seller
  · rw [if_pos hs.symm,if_pos hs]
    split <;> rfl
  · rw [if_neg (Ne.symm hs),if_neg hs]
    split <;> rfl

theorem readBalances_sound {transferId : TransferId} {t t₀ : TicketRemaster.Transfer}
    {listing : Option Listing} (hc : Clean h) (ht₀ : w₀.transfers.lookup transferId = some t₀)
    (hterms : SameTerms t t₀) :
    Handler.Sound w₀ req (readBalances t.sellerId transferId t listing) (Prepares w₀ transferId)
      h := by
  have hfail {h : List (Entry Platform)} {r : Response SettledTransfer} (hr : IsError r)
      (hi : Idle h) : Handler.Sound w₀ req (do
        let _ ← callService (.patchTransfer transferId { status := some .failed })
        pure (.error r)) (Prepares w₀ transferId) h :=
    accepted_sound trivial rfl (fun _ _ => ⟨hr,hi⟩)
  refine getCredits_sound hc (fun b h' hr => ?_) (fun _ h' hc => hfail trivial hc.idle)
  show Handler.Sound w₀ req (if b < t.creditAmount then _ else _) _ h'
  split
  · exact hfail trivial hr.idle
  · rename_i hb
    refine callService_sound trivial (fun data hd => ?_) (fun _ _ => ⟨trivial,hr.idle⟩)
    obtain ⟨s,rfl⟩ := hd
    exact ⟨⟨⟨t₀,ht₀,hterms.buyer,hterms.seller,hterms.amount⟩,not_lt.mp hb⟩,hr.second⟩

theorem prepareSettlement_sound (sellerId : UserId) (transferId : TransferId) (otp : Option Nat) :
    Handler.Sound w₀ req (prepareSettlement sellerId transferId otp) (Prepares w₀ transferId)
      [] := by
  have hrefuse {h : List (Entry Platform)} {r : Response SettledTransfer} (hr : IsError r)
      (hc : Clean h) : Prepares w₀ transferId (.error r) h := ⟨hr,hc.idle⟩
  cases otp with
  | none => exact hrefuse trivial clean_nil
  | some otp =>
    refine callService_sound trivial (fun t ht => ?_) (fun _ _ => hrefuse trivial clean_nil)
    obtain ⟨t₀,ht₀,hterms⟩ := ht
    simp only
    split
    · exact hrefuse trivial clean_nil
    · rename_i hseller
      obtain rfl : t.sellerId = sellerId := not_not.mp hseller
      split
      · exact hrefuse trivial clean_nil
      · split
        · exact hrefuse trivial clean_nil
        · refine neutral_sound (by simp [Neutral,Call.writes,Http.writes]) (fun seller h₁ hs => ?_)
            (fun _ h₁ _ hs => hrefuse trivial (clean_nil.same hs))
          refine neutral_sound (by simp [Neutral,Call.writes,Http.writes])
            (fun verified h₂ hs₂ => ?_)
            (fun _ h₂ _ hs₂ => hrefuse trivial (clean_nil.same fun u => (hs₂ u).trans (hs u)))
          have hc₂ : Clean h₂ := clean_nil.same fun u => (hs₂ u).trans (hs u)
          cases verified with
          | false => exact hrefuse trivial hc₂
          | true =>
            refine neutral_sound (by simp [Neutral,Call.writes,Http.writes]) (fun _ h₃ hs₃ => ?_)
              (fun _ _ hno => by cases hno)
            refine safeGet_sound (by simp [Neutral,Call.writes,Http.writes])
              (fun listing h₄ hs₄ => ?_)
            exact readBalances_sound (hc₂.same fun u => (hs₄ u).trans (hs₃ u)) ht₀ hterms

/-- The lookups and notifications after a saga move nothing. -/
theorem reads_moved {β : Type} {p : Handler β} {f : UserId → Credits} (hp : Handler.Reads p)
    (hm : Moved f h) :
    p.Follows (Sound w₀ req) (Answers w₀) (fun _ h => Moved f h) (fun _ _ => False) h := by
  have hnever : ∀ (h : List (Entry Platform)) (q : Http), ¬ Answers w₀ h (.http q) .raised :=
    fun h q ha => Bool.noConfusion ha.1
  refine Prog.Follows.mono (Prog.Follows.keeps (J := Moved f)
    (hp (Answers w₀) (fun _ => False) h hnever) ?_ ?_ hm) (fun _ _ hJ => hJ) (fun _ _ he => he.1)
  · rintro h q (hq | ⟨i,rfl⟩) -
    · cases q with
      | http q => cases q <;> trivial
      | _ => trivial
    · trivial
  · rintro h q r (hq | ⟨i,rfl⟩) - hm u
    · cases q with
      | http q =>
        cases q with
        | getCredits i =>
          cases r with
          | ok data =>
            rw [account_read]
            split <;> exact hm u
          | error code => exact hm u
          | raised => exact hm u
        | patchCredits i b => simp [Call.writes,Http.writes] at hq
        | createCreditTransaction d => simp [Call.writes,Http.writes] at hq
        | _ => exact hm u
      | _ => exact hm u
    · exact hm u

theorem settle_sound {sellerId : UserId} {transferId : TransferId} {otp : Option Nat}
    {t : TicketRemaster.Transfer} {a : Saga} (hagreed : Agreed w₀ transferId a)
    (hp : Prepared a h) :
    Handler.Sound w₀ (.sellerVerify sellerId transferId otp) (settle t a)
      (fun r h => Reports w₀ (.sellerVerify sellerId transferId otp) (.settlement r) h) h := by
  obtain ⟨⟨t₀,ht₀,hbuyer,hseller,hamount⟩,hafford⟩ := hagreed
  have hsettled : ∀ u, transferDelta t₀ u = settled a u := by
    intro u
    simp only [transferDelta,settled,paidBy,paidTo,← hbuyer,← hseller,← hamount]
    split <;> split <;> ring
  refine Prog.follows_bind.mpr (Prog.follows_handle.mpr (Prog.follows_bind.mpr
    (Prog.follows_bind.mpr ?_)))
  refine (executeSaga_follows hp hafford ?_ ?_).mono (fun _ h' hm => ?_) (fun _ _ he => he)
  · intro hself
    exact ⟨t₀,ht₀,by rw [← hbuyer,← hseller,hself]⟩
  · intro hnonneg
    rw [hamount]
    exact hnonneg t₀ ht₀
  · refine Prog.follows_bind.mpr ((reads_moved (buildTransferNotificationPayload_reads _ _) hm).mono
      (fun payload h' hm => ?_) (fun _ _ hf => hf.elim))
    refine Prog.follows_bind.mpr ((reads_moved (broadcastNotification_reads _) hm).mono
      (fun _ h' hm => ?_) (fun _ _ hf => hf.elim))
    refine (reads_moved (broadcastNotification_reads _) hm).mono (fun _ h' hm => ?_)
      (fun _ _ hf => hf.elim)
    refine Prog.follows_bind.mpr ((reads_moved datetimeNow_reads hm).mono (fun _ h' hm => ?_)
      (fun _ _ hf => hf.elim))
    refine Prog.follows_bind.mpr ((reads_moved (loadEnrichedTransfer_reads _ _) hm).mono
      (fun _ h' hm => ?_) (fun _ _ hf => hf.elim))
    refine hm.congr (fun u => ?_)
    simp [delta,ht₀,hsettled u]

theorem sellerVerify_sound (sellerId : UserId) (transferId : TransferId) (otp : Option Nat) :
    Handler.Sound w₀ (.sellerVerify sellerId transferId otp) (sellerVerify sellerId transferId otp)
      (fun r h => Reports w₀ (.sellerVerify sellerId transferId otp) (.settlement r) h) [] := by
  refine Prog.follows_bind.mpr ((prepareSettlement_sound sellerId transferId otp).mono
    (fun prepared h' hprepared => ?_) (fun _ _ hi => hi))
  cases prepared with
  | error answer =>
    obtain ⟨herror,hi⟩ := hprepared
    cases answer with
    | error => exact hi
    | data => exact herror.elim
  | ok prepared => exact settle_sound hprepared.1 hprepared.2

theorem handler_sound (w₀ : World) (req : CreditRequest) :
    Handler.Sound w₀ req req.handler (Reports w₀ req) [] := by
  cases req with
  | confirmPurchase creq => exact Prog.follows_map.mpr (confirmPurchase_sound creq)
  | confirmTopup userId p => exact Prog.follows_map.mpr (confirmTopup_sound userId p)
  | stripeWebhook delivery => exact Prog.follows_map.mpr (stripeWebhook_sound delivery)
  | sellerVerify sellerId transferId otp =>
    exact Prog.follows_map.mpr (sellerVerify_sound sellerId transferId otp)

end Settle

end TicketRemaster.Credits
