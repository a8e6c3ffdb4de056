import Mathlib.Tactic.Ring
import TicketRemaster.Credits.Accounts
import TicketRemaster.Purchase.Atomicity
set_option autoImplicit false

/-! Each request that moves credits reports what it has moved. -/

namespace TicketRemaster.Credits

open Resumption SeatInventory
open Purchase (IsError)

section Handlers

variable {w₀ : World} {req : CreditRequest}

/-- The answer, and the accounts as it reports them. -/
def Reports (w₀ : World) (req : CreditRequest) (answer : CreditAnswer) (h : List (Entry Platform)) :
    Prop := Moved (fun u => delta w₀ u req (some answer)) h

/-- A top-up has been refused, or has credited the user and says so. -/
def Credited {δ : Type} (payer : UserId) (credits : Nat) (done : Credits → Response δ)
    (r : Response δ) (h : List (Entry Platform)) : Prop :=
  (IsError r ∧ Idle h) ∨
    (∃ b, r = done b) ∧ Moved (fun u => if u = payer then (credits : Credits) else 0) h

theorem creditUser_sound {δ : Type} {payer : UserId} {credits : Nat} {r : Reference}
    {done : Credits → Response δ} {h : List (Entry Platform)} (hc : Clean h) :
    Handler.Sound w₀ req (creditUser payer credits r done) (Credited payer credits done) h := by
  refine getCredits_sound hc (fun b h' hr => ?_) (fun code h' hc' => .inl ⟨trivial,hc'.idle⟩)
  have hx : (0 : Credits) ≤ b → 0 ≤ b+credits := fun hb => add_nonneg hb (Nat.cast_nonneg credits)
  have hdelta : (credits : Credits) = b+credits-b := by ring
  show Handler.Sound w₀ req (callService (.patchCredits payer (b+credits)) >>= _) _ h'
  refine (writeAndLog_sound (r := done (b+credits)) hr hx rfl hdelta rfl).mono ?_
    (fun _ _ he => he)
  rintro _ h'' ⟨rfl,hm⟩
  refine .inr ⟨⟨_,rfl⟩,?_⟩
  simpa using hm

theorem alreadyLogged_sound {α : Type} {r : Reference} {f : Bool → Handler α}
    {fin : α → List (Entry Platform) → Prop} {h : List (Entry Platform)} (hc : Clean h)
    (hf : ∀ found h', Clean h' → Handler.Sound w₀ req (f found) fin h') :
    Handler.Sound w₀ req (alreadyLogged r >>= f) fin h := by
  unfold alreadyLogged safeGet
  rw [Prog.bind_assoc,Prog.bind_assoc]
  refine callService_sound trivial (fun entry _ => ?_) (fun code _ => ?_)
  · exact hf _ _ hc
  · exact hf _ _ hc

theorem Moved.congr {f g : UserId → Credits} {h : List (Entry Platform)} (hm : Moved f h)
    (hfg : ∀ u, g u = f u) : Moved g h := fun u => by rw [hfg u]; exact hm u

theorem confirmTopup_sound (userId : UserId) (paymentIntentId : Option PaymentIntentId) :
    Handler.Sound w₀ req (confirmTopup userId paymentIntentId)
      (fun r h => Reports w₀ (.confirmTopup userId paymentIntentId) (.topup r) h) [] := by
  cases paymentIntentId with
  | none => exact clean_nil.idle
  | some p =>
    refine callService_sound trivial (fun metadata hm => ?_) (fun _ _ => clean_nil.idle)
    obtain ⟨intent,hp,rfl⟩ := hm
    cases hmeta : intent.metadata with
    | none => exact clean_nil.idle
    | some m =>
      obtain ⟨payer,credits⟩ := m
      have hcredits : paymentCredits w₀ p = credits := by simp [paymentCredits,hp,hmeta]
      simp only
      split
      · exact clean_nil.idle
      · rename_i huser
        obtain rfl : payer = userId := not_not.mp huser
        refine alreadyLogged_sound clean_nil (fun found h' hc => ?_)
        cases found
        · rw [if_neg Bool.false_ne_true]
          refine (creditUser_sound hc).mono ?_ (fun _ _ he => he)
          rintro r h'' (⟨he,hi⟩ | ⟨⟨b,rfl⟩,hm⟩)
          · cases r with
            | error => exact hi
            | data => exact he.elim
          · exact hm.congr (fun u => by simp only [delta,hcredits])
        · exact hc.idle

theorem stripeWebhook_sound (delivery : StripeDelivery) :
    Handler.Sound w₀ req (stripeWebhook delivery)
      (fun r h => Reports w₀ (.stripeWebhook delivery) (.webhook r) h) [] := by
  refine callService_sound trivial (fun result _ => ?_) (fun _ _ => clean_nil.idle)
  obtain ⟨metadata,paymentIntentId,eventId⟩ := result
  cases metadata with
  | none => exact clean_nil.idle
  | some m =>
    obtain ⟨payer,credits⟩ := m
    cases paymentIntentId with
    | none => exact clean_nil.idle
    | some p =>
      refine alreadyLogged_sound clean_nil (fun found h' hc => ?_)
      cases found
      · rw [if_neg Bool.false_ne_true]
        refine (creditUser_sound hc).mono ?_ (fun _ _ he => he)
        rintro r h'' (⟨he,hi⟩ | ⟨⟨b,rfl⟩,hm⟩)
        · cases r with
          | error => exact hi
          | data => exact he.elim
        · exact hm
      · exact hc.idle

section Purchase

open Purchase

variable {h : List (Entry Platform)}

/-- What a check of the hold refuses with is an error. -/
def Refusal (r : Option ConfirmResponse) : Prop := ∀ refusal ∈ r, IsError refusal

theorem datetimeNow_aside : Handler.Aside datetimeNow (fun _ => True) :=
  fun _ => ⟨by simp [Neutral,Call.writes],fun _ _ => trivial⟩

theorem validateHoldState_aside (status : SeatStatus) (heldUntil : HeldUntilText) :
    Handler.Aside (validateHoldState status heldUntil) Refusal := by
  unfold validateHoldState
  split
  · intro h
    show Refusal _
    split <;> simp [Refusal,IsError,seatUnavailable]
  · cases heldUntil with
    | «at» t =>
      refine aside_bind datetimeNow_aside (fun now _ => ?_)
      split <;> exact fun h => (by simp [Refusal,IsError] : Refusal _)
    | empty => exact fun h => (by simp [Refusal] : Refusal none)
    | unparsable => exact fun h => (by simp [Refusal] : Refusal none)

theorem getSeatStatus_aside (inventoryId : InventoryId) :
    Handler.Aside (getSeatStatus inventoryId) (fun _ => True) := by
  refine fun h => ⟨by simp [Neutral,Call.writes],fun a _ => ?_⟩
  dsimp only
  split <;> trivial

theorem sellSeat_aside (req : ConfirmRequest) : Handler.Aside (sellSeat req) (fun _ => True) := by
  refine fun h => ⟨by simp [Neutral,Call.writes],fun a _ => ?_⟩
  dsimp only
  split <;> trivial

theorem checkHold_aside (req : ConfirmRequest) : Handler.Aside (checkHold req) Refusal := by
  have hcached : Handler.Aside (getCachedHold req.inventoryId) (fun _ => True) :=
    fun _ => ⟨by simp [Neutral,Call.writes],fun _ _ => trivial⟩
  refine aside_bind hcached fun cached _ => ?_
  cases cached with
  | some hold =>
    simp only
    split
    · exact fun h => (by simp [Refusal,IsError,seatUnavailable] : Refusal _)
    · split
      · exact fun h => (by simp [Refusal,IsError,seatUnavailable] : Refusal _)
      · exact validateHoldState_aside _ _
  | none =>
    refine aside_bind (getSeatStatus_aside _) fun reply _ => ?_
    cases reply with
    | none => exact fun h => (by simp [Refusal,IsError,inventoryUnavailable] : Refusal _)
    | some seatStatus => exact validateHoldState_aside _ _

theorem Idle.refused {h : List (Entry Platform)} {creq : ConfirmRequest} {r : ConfirmResponse}
    (hi : Idle h) (hr : IsError r) : Reports w₀ (.confirmPurchase creq) (.purchase r) h := by
  cases r with
  | error => exact hi
  | data => exact hr.elim

theorem Clean.same {h h' : List (Entry Platform)} (hc : Clean h)
    (hs : ∀ u, account u h' = account u h) : Clean h' := fun u => (hs u).trans (hc u)

theorem HasRead.same {i : UserId} {b : Credits} {h h' : List (Entry Platform)} (hr : HasRead i b h)
    (hs : ∀ u, account u h' = account u h) : HasRead i b h' := fun u => (hs u).trans (hr u)

theorem confirmPurchase_sound (creq : ConfirmRequest) :
    Handler.Sound w₀ req (confirmPurchase creq)
      (fun r h => Reports w₀ (.confirmPurchase creq) (.purchase r) h) [] := by
  unfold confirmPurchase
  cases creq.eventId with
  | none => exact clean_nil.idle.refused trivial
  | some eventId =>
    refine aside_sound (checkHold_aside creq) (fun refusal h' hrefusal hs => ?_)
    have hc : Clean h' := clean_nil.same hs
    cases refusal with
    | some r => exact hc.idle.refused (hrefusal r rfl)
    | none =>
      refine callService_sound trivial (fun event _ => ?_) (fun _ _ => hc.idle.refused trivial)
      refine getCredits_sound hc (fun b h' hr => ?_) (fun _ _ hc => hc.idle.refused trivial)
      show Handler.Sound w₀ req (if b < event.price then _ else _) _ h'
      split
      · exact hr.idle.refused trivial
      · rename_i hprice
        refine aside_sound (sellSeat_aside creq) (fun sold h'' _ hs => ?_)
        have hr' : HasRead creq.userId b h'' := hr.same hs
        cases sold with
        | none => exact hr'.idle.refused trivial
        | some sold =>
          cases sold with
          | false => exact hr'.idle.refused trivial
          | true =>
            refine neutral_sound (by simp [Neutral,Call.writes,Http.writes])
              (fun created h₃ hs => ?_) (fun _ _ hno => by cases hno)
            replace hr' : HasRead creq.userId b h₃ := hr'.same hs
            have hdelta : -event.price = b-event.price-b := by ring
            have hx : 0 ≤ b → 0 ≤ b-event.price := fun _ => sub_nonneg.mpr (not_lt.mp hprice)
            refine (writeAndLog_sound hr' hx rfl hdelta rfl).mono ?_ (fun _ _ he => he)
            rintro _ h₄ ⟨rfl,hm⟩
            refine hm.congr (fun u => ?_)
            simp only [delta,hdelta]

end Purchase

end Handlers

end TicketRemaster.Credits
