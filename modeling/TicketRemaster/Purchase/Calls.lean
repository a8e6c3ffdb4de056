import TicketRemaster.Purchase.Holds
import TicketRemaster.Services.Rules
set_option autoImplicit false

/-! The calls that the requests of the ticket purchase orchestrator make, whatever the answers
are. -/

namespace TicketRemaster.Purchase

open Resumption SeatInventory

inductive ConfirmCall (req : ConfirmRequest) : Call → Prop
  | cache : ConfirmCall req (.getHoldCache req.inventoryId)
  | status : ConfirmCall req (.seatRpc req.inventoryId .getSeatStatus)
  | now : ConfirmCall req .now
  | event (eventId : EventId) : ConfirmCall req (.http (.getEvent eventId))
  | balance : ConfirmCall req (.http (.getCredits req.userId))
  | sell : ConfirmCall req (.seatRpc req.inventoryId (.sellSeat req.spend))
  | create (data : NewTicket) : ConfirmCall req (.http (.createTicket data))
  | deduct (balance : Credits) : ConfirmCall req (.http (.patchCredits req.userId balance))
  | logged (data : CreditTransaction) : ConfirmCall req (.http (.createCreditTransaction data))
  | fail (ticketId : TicketId) :
      ConfirmCall req (.http (.updateTicket (some ticketId) { status := some .paymentFailed }))
  | release : ConfirmCall req (.seatRpc req.inventoryId (.releaseSeat req.spend))
  | alert (ticketId : TicketId) (errors : List String) : ConfirmCall req
      (.publish (.purchaseCompensationFailed ticketId req.inventoryId req.userId errors))

/-- The calls of the other requests. -/
def SeatsOnly : Call → Prop
  | .seatRpc _ _ | .publish _ => True
  | _ => False

section Confirm

variable (req : ConfirmRequest) {α : Type}

theorem seatRpc_calls {P : Call → Prop} {inventoryId : InventoryId} {call : SeatCall}
    {k : Option SeatReply → Handler α} (hcall : P (.seatRpc inventoryId call))
    (hk : ∀ reply, (k reply).Calls P (fun _ => True)) :
    (Prog.call (.seatRpc inventoryId call) k : Handler α).Calls P (fun _ => True) := ⟨hcall,hk⟩

theorem validateHoldState_calls (status : SeatStatus) (heldUntil : HeldUntilText) :
    (validateHoldState status heldUntil).Calls (ConfirmCall req) (fun _ => True) := by
  unfold validateHoldState
  refine Prog.calls_ite trivial ?_
  cases heldUntil with
  | «at» t =>
    exact Prog.calls_bind ⟨.now,fun _ => trivial⟩ fun _ => Prog.calls_ite trivial trivial
  | _ => trivial

theorem checkHold_calls : (checkHold req).Calls (ConfirmCall req) (fun _ => True) := by
  refine Prog.calls_bind ⟨.cache,fun _ => trivial⟩ fun cached => ?_
  cases cached with
  | some cachedHold =>
    refine Prog.calls_ite trivial (Prog.calls_ite trivial ?_)
    exact validateHoldState_calls req _ _
  | none =>
    refine Prog.calls_bind (seatRpc_calls .status fun reply => ?_) fun seatStatus => ?_
    · split <;> trivial
    · cases seatStatus with
      | none => trivial
      | some seatStatus => exact validateHoldState_calls req _ _

theorem releaseSeat_confirmCalls : (releaseSeat req).Calls (ConfirmCall req) (fun _ => True) :=
  seatRpc_calls .release fun reply => by split <;> trivial

theorem issueTicket_calls (eventId : EventId) (event : Event) (balance : Credits) :
    (issueTicket req eventId event balance).Calls (ConfirmCall req) (fun _ => True) := by
  refine ask_calls (.create _) fun created => ?_
  cases created with
  | error code => exact Prog.calls_bind (releaseSeat_confirmCalls req) fun _ => trivial
  | ok v =>
    refine ask_calls (.deduct _) fun patched => ?_
    cases patched with
    | ok _ => exact ask_calls (.logged _) fun _ => trivial
    | error code =>
      refine Prog.calls_bind (Prog.calls_bind (Prog.calls_handle (S := fun _ => True) ?_
        fun _ _ => trivial) fun _ => ?_) fun _ => trivial
      · refine ask_calls (.fail _) fun marked => ?_
        cases marked <;> trivial
      · refine Prog.calls_bind (releaseSeat_confirmCalls req) fun released => ?_
        exact Prog.calls_ite trivial ⟨.alert _ _,fun _ => trivial⟩

theorem confirmPurchase_calls : (confirmPurchase req).Calls (ConfirmCall req) (fun _ => True) := by
  unfold confirmPurchase
  cases req.eventId with
  | none => trivial
  | some eventId =>
    refine Prog.calls_bind (checkHold_calls req) fun refusal => ?_
    cases refusal with
    | some r => trivial
    | none =>
      refine ask_calls (.event eventId) fun event => ?_
      cases event with
      | error code => trivial
      | ok event =>
        refine ask_calls .balance fun credits => ?_
        cases credits with
        | error code => trivial
        | ok creditData =>
          refine Prog.calls_ite trivial (Prog.calls_bind
            (seatRpc_calls .sell fun reply => by split <;> trivial) fun sold => ?_)
          match sold with
          | none => trivial
          | some false => trivial
          | some true => exact issueTicket_calls req eventId event _

end Confirm

section Others

variable {P : Call → Prop}

theorem getSeatStatus_calls {inventoryId : InventoryId}
    (hstatus : P (.seatRpc inventoryId .getSeatStatus)) :
    (getSeatStatus inventoryId).Calls P (fun _ => True) :=
  seatRpc_calls hstatus fun reply => by split <;> trivial

theorem requestRelease_calls {inventoryId : InventoryId} {userId : UserId} {holdToken : HoldToken}
    (hrelease : P (.seatRpc inventoryId (.releaseSeat ⟨userId,holdToken⟩))) :
    (requestRelease inventoryId userId holdToken).Calls P (fun _ => True) :=
  seatRpc_calls hrelease fun reply => by split <;> trivial

theorem releaseHold_calls {inventoryId : InventoryId} {userId : UserId} {holdToken : HoldToken}
    (hrelease : P (.seatRpc inventoryId (.releaseSeat ⟨userId,holdToken⟩))) :
    (releaseHold userId inventoryId holdToken).Calls P (fun _ => True) := by
  refine Prog.calls_bind (requestRelease_calls hrelease) fun released => ?_
  match released with
  | none => trivial
  | some false => trivial
  | some true => trivial

theorem onExpired_calls {inventoryId : InventoryId} {userId : UserId} {holdToken : HoldToken}
    (hrelease : P (.seatRpc inventoryId (.releaseSeat ⟨userId,holdToken⟩))) :
    (onExpired inventoryId userId holdToken).Calls P (fun _ => True) := by
  refine Prog.calls_bind (requestRelease_calls hrelease) fun released => ?_
  cases released <;> trivial

theorem holdSeat_calls (holdSeconds : Int) (userId : UserId) (inventoryId : InventoryId) :
    (holdSeat holdSeconds userId inventoryId).Calls SeatsOnly (fun _ => True) := by
  refine Prog.calls_bind (seatRpc_calls trivial fun reply => by split <;> trivial) fun resp => ?_
  cases resp with
  | none => trivial
  | some resp =>
    refine Prog.calls_ite (Prog.calls_bind ?_ fun _ => trivial) trivial
    unfold publishHoldTtl
    generalize 3 = n
    induction n with
    | zero => trivial
    | succ n ih =>
      exact Prog.calls_bind ⟨trivial,fun _ => trivial⟩ fun _ => Prog.calls_ite trivial ih

/-- All calls of the requests. -/
theorem handler_calls (holdSeconds : Int) (r : Request) : (r.handler holdSeconds).Calls
    (fun q => (∃ req, ConfirmCall req q) ∨ SeatsOnly q) (fun _ => True) := by
  cases r with
  | holdSeat userId inventoryId =>
    refine Prog.calls_bind ((holdSeat_calls holdSeconds userId inventoryId).mono ?_ ?_)
      fun _ => trivial
    · exact fun _ hq => .inr hq
    · exact fun _ _ => trivial
  | releaseHold userId inventoryId holdToken =>
    exact Prog.calls_bind (releaseHold_calls (.inr trivial)) fun _ => trivial
  | confirmPurchase req =>
    refine Prog.calls_bind ((confirmPurchase_calls req).mono ?_ ?_) fun _ => trivial
    · exact fun _ hq => .inl ⟨req,hq⟩
    · exact fun _ _ => trivial
  | expiredHold inventoryId userId holdToken =>
    exact Prog.calls_bind (onExpired_calls (.inr trivial)) fun _ => trivial
  | seatStatus inventoryId =>
    exact Prog.calls_bind (getSeatStatus_calls (.inr trivial)) fun _ => trivial

end Others

end TicketRemaster.Purchase
