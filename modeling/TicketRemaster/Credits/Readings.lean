import TicketRemaster.Credits.Handlers
import TicketRemaster.Purchase.Confirm
import TicketRemaster.Services.Json
import TicketRemaster.Services.Rules
import TicketRemaster.Transfer.Handlers
set_option autoImplicit false

/-! The balance that four handlers read from one response of the credit API. -/

namespace TicketRemaster.Credits

open Resumption

section Fields

/-- The JSON object that `GET /credits/<user_id>` returns. -/
abbrev CreditFields := List (String × Json)

def isNone : Json → Bool
  | .null => true
  | _ => false

/-- `float` of a number, or the number itself as an operand of `+`; anything else raises here. -/
def number : Json → Option Credits
  | .num q => some q
  | _ => none

/-- The first of the fields that is not `None`, or `0.0`. -/
def firstBalance (creditData : CreditFields) : List String → Json
  | [] => .num 0
  | field :: rest =>
      if isNone (Json.get creditData field) then firstBalance creditData rest
      else Json.get creditData field

def balanceFields : List String := ["creditBalance","CreditBalance","balance"]

/-- `balance` in `confirm_purchase`. -/
def confirmPurchaseBalance (creditData : CreditFields) : Option Credits :=
  number (firstBalance creditData balanceFields)

/-- `_get_credit_balance` of the transfer orchestrator. -/
def getCreditBalance (creditData : CreditFields) : Option Credits :=
  number (firstBalance creditData balanceFields)

/-- `value or 0` -/
def orZero (value : Json) : Json := if value.truthy then value else .num 0

/-- `current_balance` in `confirm_topup`. -/
def confirmTopupBalance (creditData : CreditFields) : Option Credits :=
  number (orZero (Json.get creditData "creditBalance"))

/-- `current_balance` in `stripe_webhook`. -/
def stripeWebhookBalance (creditData : CreditFields) : Option Credits :=
  number (orZero (Json.get creditData "creditBalance"))

/-- Each of the three fields is absent, null or a number. -/
def Numeric (creditData : CreditFields) : Prop :=
  ∀ field ∈ balanceFields, Json.get creditData field = .null ∨
    ∃ q, Json.get creditData field = .num q

/-- The four handlers read one balance. -/
def ReadAlike (creditData : CreditFields) : Prop :=
  ∃ balance, confirmPurchaseBalance creditData = some balance ∧
    getCreditBalance creditData = some balance ∧ confirmTopupBalance creditData = some balance ∧
    stripeWebhookBalance creditData = some balance

/-- The balance under the other two names, or zero. -/
def otherwise (creditData : CreditFields) : Option Credits :=
  number (firstBalance creditData ["CreditBalance","balance"])

variable {creditData : CreditFields}

theorem number_orZero {value : Json} (h : value = .null ∨ ∃ q, value = .num q) :
    number (orZero value) = some ((number value).getD 0) := by
  rcases h with rfl | ⟨q,rfl⟩
  · rfl
  · unfold orZero
    by_cases hq : q = 0
    · subst hq
      rfl
    · rw [if_pos (by simpa [Json.truthy] using hq)]
      rfl

theorem firstBalance_cons {field : String} {rest : List String}
    (h : Json.get creditData field = .null ∨ ∃ q, Json.get creditData field = .num q) :
    number (firstBalance creditData (field :: rest)) =
      (number (Json.get creditData field)).or (number (firstBalance creditData rest)) := by
  rcases h with h | ⟨q,h⟩ <;> simp [firstBalance,h,isNone,number]

/-- The handlers agree where the field that all of them know is there, or the fallback is zero. -/
theorem balances_read_alike_iff (creditData : CreditFields) (h : Numeric creditData) :
    ReadAlike creditData ↔
      (∃ q, Json.get creditData "creditBalance" = .num q) ∨ otherwise creditData = some 0 := by
  have hfirst := h "creditBalance" (by decide)
  have htopup := number_orZero hfirst
  have hpurchase : number (firstBalance creditData balanceFields) =
      (number (Json.get creditData "creditBalance")).or (otherwise creditData) :=
    firstBalance_cons hfirst
  unfold ReadAlike confirmPurchaseBalance getCreditBalance confirmTopupBalance stripeWebhookBalance
  rw [hpurchase,htopup]
  rcases hfirst with hnone | ⟨q,hsome⟩
  · simp only [hnone,number,Option.none_or,Option.getD_none]
    constructor
    · rintro ⟨balance,hother,-,hzero,-⟩
      exact .inr (hother.trans hzero.symm)
    · rintro (⟨q,hq⟩ | hother)
      · cases hq
      · exact ⟨0,hother,hother,rfl,rfl⟩
  · exact iff_of_true ⟨q,by simp [hsome,number]⟩ (.inl ⟨q,hsome⟩)

def otherName : CreditFields := [("creditBalance",.null),("balance",.num 100)]

theorem otherName_numeric : Numeric otherName := by
  intro field hfield
  simp only [balanceFields,List.mem_cons,List.not_mem_nil,or_false] at hfield
  rcases hfield with rfl | rfl | rfl
  · exact .inl rfl
  · exact .inl rfl
  · exact .inr ⟨100,rfl⟩

theorem balances_read_alike_iff_usualName : ReadAlike [("creditBalance",.num 80)] := by
  refine (balances_read_alike_iff _ fun field hfield => ?_).mpr (.inl ⟨80,rfl⟩)
  simp only [balanceFields,List.mem_cons,List.not_mem_nil,or_false] at hfield
  rcases hfield with rfl | rfl | rfl
  · exact .inr ⟨80,rfl⟩
  · exact .inl rfl
  · exact .inl rfl

/-- A purchase checks a balance of 100 where a top-up starts from zero, and overwrites it. -/
theorem topup_misses_other_name : Numeric otherName ∧ confirmPurchaseBalance otherName = some 100 ∧
    getCreditBalance otherName = some 100 ∧ confirmTopupBalance otherName = some 0 ∧
    stripeWebhookBalance otherName = some 0 ∧ ¬ ReadAlike otherName := by
  have hpurchase : confirmPurchaseBalance otherName = some 100 := rfl
  have htopup : confirmTopupBalance otherName = some 0 := rfl
  refine ⟨otherName_numeric,hpurchase,rfl,htopup,rfl,?_⟩
  rintro ⟨balance,hone,-,htwo,-⟩
  rw [hpurchase] at hone
  rw [htopup,← hone] at htwo
  exact absurd (Option.some.inj htwo) (by decide +kernel)

end Fields

section Handlers

/-- The fields as the handlers see them. -/
def creditDataOf (creditData : CreditFields) : CreditData :=
  ⟨number (Json.get creditData "creditBalance"),number (Json.get creditData "CreditBalance"),
    number (Json.get creditData "balance")⟩

variable {creditData : CreditFields} (h : Numeric creditData)

include h

theorem confirmPurchaseBalance_eq :
    confirmPurchaseBalance creditData = some (Purchase.rawBalance (creditDataOf creditData)) := by
  unfold confirmPurchaseBalance balanceFields
  rw [firstBalance_cons (h _ (by decide)),firstBalance_cons (h _ (by decide)),
    firstBalance_cons (h _ (by decide))]
  unfold Purchase.rawBalance creditDataOf
  cases number (Json.get creditData "creditBalance") <;>
    cases number (Json.get creditData "CreditBalance") <;>
      cases number (Json.get creditData "balance") <;> rfl

theorem getCreditBalance_eq :
    getCreditBalance creditData = some (Transfer.getCreditBalance (creditDataOf creditData)) :=
  confirmPurchaseBalance_eq h

theorem topupBalance_eq :
    confirmTopupBalance creditData = some (currentBalance (creditDataOf creditData)) ∧
      stripeWebhookBalance creditData = some (currentBalance (creditDataOf creditData)) :=
  ⟨number_orZero (h _ (by decide)),number_orZero (h _ (by decide))⟩

end Handlers

section Writes

def creditRead : Entry Platform → Option CreditData
  | ⟨.http (.getCredits _),.ok creditData⟩ => some creditData
  | _ => none

/-- The credit data that was read last. -/
def lastRead (h : List (Entry Platform)) : Option CreditData := h.findSome? creditRead

/-- A balance is only written from the credit data that was read last. -/
def WritesBack (newBalance : CreditData → Credits) (h : List (Entry Platform)) : Call → Prop
  | .http (.patchCredits _ balance) =>
      ∃ creditData, lastRead h = some creditData ∧ balance = newBalance creditData
  | _ => True

abbrev Handler.WritesBack {α : Type} (p : Handler α) (newBalance : CreditData → Credits)
    (h : List (Entry Platform)) : Prop :=
  p.Follows (Credits.WritesBack newBalance) (fun _ _ _ => True) (fun _ _ => True)
    (fun _ _ => True) h

/-- A top-up adds the credits to the balance it has read. -/
theorem creditUser_writesBack {δ : Type} (userId : UserId) (credits : Nat) (r : Reference)
    (done : Credits → Response δ) (h : List (Entry Platform)) :
    Handler.WritesBack (creditUser userId credits r done)
      (fun creditData => currentBalance creditData+credits) h := by
  refine ⟨trivial,fun reply _ => ?_⟩
  cases reply with
  | ok creditData =>
    refine ⟨⟨creditData,rfl,rfl⟩,fun reply _ => ?_⟩
    cases reply with
    | ok _ =>
      refine ⟨trivial,fun reply _ => ?_⟩
      cases reply <;> trivial
    | error code | raised => trivial
  | error code | raised => trivial

/-- Calls that leave the balances alone. -/
def KeepsBalances (q : Call) : Prop := q.writes ≠ some .credits

theorem KeepsBalances.writesBack {α : Type} {p : Handler α} {R : Unhandled → Prop}
    (hp : p.Calls KeepsBalances R) (newBalance : CreditData → Credits) (h : List (Entry Platform)) :
    Handler.WritesBack p newBalance h := by
  refine (hp.follows (J := fun _ => True) (fun h q hq _ => ?_) (fun _ _ _ _ _ => trivial)
    trivial).mono (fun _ _ _ => trivial) fun _ _ _ => trivial
  cases q with
  | http q =>
    cases q with
    | patchCredits userId balance => exact absurd rfl hq
    | _ => trivial
  | _ => trivial

theorem releaseSeat_keepsBalances (req : Purchase.ConfirmRequest) :
    (Purchase.releaseSeat req).Calls KeepsBalances (fun _ => False) := by
  refine ⟨by simp [KeepsBalances,Call.writes],fun reply => ?_⟩
  dsimp only
  split <;> trivial

theorem compensateDeduction_keepsBalances (req : Purchase.ConfirmRequest) (ticketId : TicketId) :
    (Purchase.compensateDeduction req ticketId).Calls KeepsBalances (fun _ => False) := by
  refine Prog.calls_bind (Prog.calls_handle (S := fun _ => True) ⟨?_,fun reply => ?_⟩
    fun _ _ => trivial) fun patched => Prog.calls_bind (releaseSeat_keepsBalances req)
      fun released => Prog.calls_ite trivial ⟨?_,fun _ => trivial⟩
  · simp [KeepsBalances,Call.writes,Http.writes]
  · cases reply <;> trivial
  · simp [KeepsBalances,Call.writes]

/-- A purchase writes the balance that it has checked, less the price. -/
theorem chargeAndSell_writesBack (req : Purchase.ConfirmRequest) (eventId : EventId) (event : Event)
    (h : List (Entry Platform)) :
    Handler.WritesBack (Purchase.chargeAndSell req eventId event)
      (fun creditData => Purchase.rawBalance creditData-event.price) h := by
  refine ⟨trivial,fun reply _ => ?_⟩
  cases reply with
  | ok creditData =>
    refine Prog.follows_ite (fun _ => trivial) fun _ => ⟨trivial,fun sold _ => ?_⟩
    rcases sold with - | reply
    · trivial
    · cases reply with
      | spend success =>
        cases success with
        | false => trivial
        | true =>
          refine ⟨trivial,fun reply _ => ?_⟩
          cases reply with
          | ok ticket =>
            refine ⟨⟨creditData,rfl,rfl⟩,fun reply _ => ?_⟩
            cases reply with
            | ok _ =>
              refine ⟨trivial,fun reply _ => ?_⟩
              cases reply <;> trivial
            | error code =>
              show Prog.Follows _ _ _ _ (Purchase.compensateDeduction req ticket.1 >>= fun _ => _) _
              refine KeepsBalances.writesBack (R := fun _ => False)
                (Prog.calls_bind (compensateDeduction_keepsBalances req _) fun _ => ?_) _ _
              trivial
            | raised => trivial
          | error code =>
            show Prog.Follows _ _ _ _ (Purchase.releaseSeat req >>= fun _ => _) _
            refine KeepsBalances.writesBack (R := fun _ => False)
              (Prog.calls_bind (releaseSeat_keepsBalances req) fun _ => ?_) _ _
            trivial
          | raised => trivial
      | _ => trivial
  | error code | raised => trivial

end Writes

end TicketRemaster.Credits
