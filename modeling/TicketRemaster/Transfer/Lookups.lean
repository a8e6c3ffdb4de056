import TicketRemaster.Transfer.Reads
set_option autoImplicit false

/-! Where the lookups around a transfer raise: at an answer that cannot be read, and nowhere else.
Only a broadcast can fail unnoticed. -/

namespace TicketRemaster.Transfer

open Resumption

/-- An answer to a lookup at which the client raises. -/
def unreadable : Entry Platform → Bool
  | ⟨.http (.broadcast _),_⟩ => false
  | ⟨.http _,.raised⟩ => true
  | _ => false

variable {α β : Type}

/-- The handler only reads, and raises where it gets an answer that it cannot read. -/
abbrev Handler.Loud (p : Handler α) : Prop := p.RaisesAt Call.Reads unreadable

theorem loud_bind {p : Handler α} {f : α → Handler β} (hp : Handler.Loud p)
    (hf : ∀ a, Handler.Loud (f a)) : Handler.Loud (p >>= f) := Prog.raisesAt_bind hp hf

theorem loud_ret (a : α) : Handler.Loud (.ret a) := trivial

theorem unreadable_answer (q : Http) {a : Reply q.Val} (ha : a ≠ .raised) :
    unreadable ⟨.http q,a⟩ = false := by
  cases a with
  | ok v => cases q <;> rfl
  | error code => cases q <;> rfl
  | raised => exact absurd rfl ha

theorem callService_loud {q : Http} (hq : Call.Reads (.http q))
    (hraised : unreadable ⟨.http q,.raised⟩ = true) : Handler.Loud (callService q) := by
  refine ⟨hq,fun a => ?_⟩
  cases a with
  | ok v => exact .inr ⟨unreadable_answer q (by simp),trivial⟩
  | error code => exact .inr ⟨unreadable_answer q (by simp),trivial⟩
  | raised => exact .inl ⟨hraised,_,rfl⟩

theorem safeGet_loud {q : Http} (hq : q.writes = none)
    (hraised : unreadable ⟨.http q,.raised⟩ = true) : Handler.Loud (safeGet q) := by
  refine loud_bind (callService_loud (.inl hq) hraised) fun answer => ?_
  cases answer
  · exact loud_ret _
  · exact loud_ret _

theorem lookupIf_loud {κ ρ : Type} {get : κ → Handler (Option ρ)}
    (hg : ∀ k, Handler.Loud (get k)) (id : Option κ) : Handler.Loud (lookupIf id get) := by
  cases id with
  | none => exact loud_ret _
  | some k => exact hg k

theorem findSeat_loud (eventId : Option EventId) (inventoryId : Option InventoryId)
    (venueId : Option VenueId) : Handler.Loud (findSeat eventId inventoryId venueId) := by
  refine lookupIf_loud (fun eventId => lookupIf_loud (fun inventoryId => ?_) _) _
  refine loud_bind (safeGet_loud rfl rfl) fun invData => ?_
  refine lookupIf_loud (fun venueId => lookupIf_loud (fun seatId => ?_) _) _
  exact loud_bind (safeGet_loud rfl rfl) fun _ => loud_ret _

theorem enrichTransfer_loud (t : TransferFields) : Handler.Loud (enrichTransfer t) := by
  refine loud_bind ?_ fun _ => loud_ret _
  refine loud_bind (lookupIf_loud (fun i => safeGet_loud (q := .getListing i) rfl rfl) _)
    fun listing => ?_
  refine loud_bind (lookupIf_loud (fun i => safeGet_loud (q := .getTicket i) rfl rfl) _)
    fun ticket => ?_
  refine loud_bind (lookupIf_loud (fun i => safeGet_loud (q := .getEvent i) rfl rfl) _)
    fun event => ?_
  refine loud_bind (lookupIf_loud (fun i => safeGet_loud (q := .getVenue i) rfl rfl) _)
    fun venue => ?_
  refine loud_bind (lookupIf_loud (fun i => safeGet_loud (q := .getUser i) rfl rfl) _)
    fun seller => ?_
  refine loud_bind (lookupIf_loud (fun i => safeGet_loud (q := .getUser i) rfl rfl) _)
    fun buyer => ?_
  exact loud_bind (findSeat_loud _ _ _) fun _ => loud_ret _

theorem loadEnrichedTransfer_loud (transferId : TransferId) (fallback : TransferFields) :
    Handler.Loud (loadEnrichedTransfer transferId fallback) := by
  refine loud_bind (callService_loud (.inr ⟨transferId,rfl⟩) rfl) fun answer => ?_
  cases answer with
  | error code => exact enrichTransfer_loud fallback
  | ok transfer => exact enrichTransfer_loud _

theorem broadcastNotification_loud (n : Notification) :
    Handler.Loud (broadcastNotification n) := by
  refine ⟨.inl rfl,fun a => .inr ⟨rfl,?_⟩⟩
  cases a <;> trivial

/-- What is left of the `try` of `seller_verify` when the saga has returned. -/
def announceSettled (a : Saga) : Handler Unit := do
  let payload ← buildTransferNotificationPayload "transfer_completed" {
    transferId := some a.transferId
    listingId := some a.listingId
    buyerId := some a.buyerId
    sellerId := some a.sellerId
    ticketId := a.ticketId
    status := some .completed }
  broadcastNotification (.transferUpdate payload)
  broadcastNotification (.ticketUpdate ⟨a.ticketId,a.buyerId,a.sellerId,a.transferId,payload.event⟩)

theorem runSaga_eq (a : Saga) : runSaga a = (executeSaga a >>= fun _ => announceSettled a) := rfl

theorem announceSettled_loud (a : Saga) : Handler.Loud (announceSettled a) := by
  refine loud_bind (loud_bind (enrichTransfer_loud _) fun _ => loud_ret _) fun payload => ?_
  exact loud_bind (broadcastNotification_loud _) fun _ => broadcastNotification_loud _

theorem reportSettled_loud (t : TicketRemaster.Transfer) (a : Saga) :
    Handler.Loud (reportSettled t a) := by
  refine loud_bind ⟨.inl rfl,fun _ => .inr ⟨rfl,trivial⟩⟩ fun completedAt => ?_
  exact loud_bind (loadEnrichedTransfer_loud _ _) fun _ => loud_ret _

end TicketRemaster.Transfer
