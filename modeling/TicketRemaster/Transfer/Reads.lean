import TicketRemaster.Lib.Interleaving
import TicketRemaster.Services.Rules
import TicketRemaster.Transfer.Handlers
set_option autoImplicit false

/-! The lookups and notifications around a transfer write nothing, except that reading a
transfer may expire it. -/

namespace TicketRemaster

open Resumption

def Call.Reads (q : Call) : Prop := q.writes = none ∨ ∃ i, q = .http (.getTransfer i)

/-- The handler only reads, and raises only where the client does, under any answers. -/
def Handler.Reads {α : Type} (p : Handler α) : Prop :=
  ∀ (feas : List (Entry Platform) → (q : Call) → q.Ans → Prop) (R : Unhandled → Prop)
    (h : List (Entry Platform)), (∀ h q, feas h (.http q) .raised → R .client) →
    p.Follows (fun _ => Call.Reads) feas (fun _ _ => True) (fun e _ => R e) h

section Lookups

variable {α β : Type}

theorem reads_ret (a : α) : Handler.Reads (.ret a) := fun _ _ _ _ => trivial

theorem reads_bind {p : Handler α} {f : α → Handler β} (hp : Handler.Reads p)
    (hf : ∀ a, Handler.Reads (f a)) : Handler.Reads (p >>= f) := by
  intro feas R h hR
  refine Prog.follows_bind.mpr ((hp feas R h hR).mono ?_ (fun _ _ he => he))
  exact fun a h' _ => hf a feas R h' hR

theorem reads_handle {p : Handler α} {f : Unhandled → Handler α} (hp : Handler.Reads p)
    (hf : ∀ exc, Handler.Reads (f exc)) : Handler.Reads (p.handle f) := by
  intro feas R h hR
  refine Prog.follows_handle.mpr ((hp feas (fun _ => True) h (fun _ _ _ => trivial)).mono
    (fun _ _ hq => hq) ?_)
  exact fun exc h' _ => hf exc feas R h' hR

theorem callService_reads {q : Http} (hq : Call.Reads (.http q)) :
    Handler.Reads (callService q) := by
  intro feas R h hR
  refine ⟨hq,fun a ha => ?_⟩
  cases a with
  | ok v => trivial
  | error code => trivial
  | raised => exact hR h q ha

theorem safeGet_reads {q : Http} (hq : q.writes = none) : Handler.Reads (safeGet q) := by
  refine reads_bind (callService_reads (.inl hq)) fun answer => ?_
  cases answer
  · exact reads_ret _
  · exact reads_ret _

theorem datetimeNow_reads : Handler.Reads datetimeNow :=
  fun _ _ _ _ => ⟨.inl rfl,fun _ _ => trivial⟩

theorem publishAttempts_reads (m : Message) (n : Nat) : Handler.Reads (publishAttempts m n) := by
  induction n with
  | zero => exact reads_ret _
  | succ n ih =>
    have hpublish : Handler.Reads (.call (.publish m) .ret : Handler Bool) :=
      fun _ _ _ _ => ⟨.inl rfl,fun _ _ => trivial⟩
    refine reads_bind hpublish fun published => ?_
    cases published
    · exact ih
    · exact reads_ret _

/-- Where the answers do not matter, a handler that reads is one whose calls are reads. -/
theorem Handler.Reads.calls {p : Handler α} (hp : Handler.Reads p) :
    p.Calls Call.Reads (fun _ => True) :=
  (hp (fun _ _ _ => True) (fun _ => True) [] (fun _ _ _ => trivial)).calls

theorem safeGet_calls {P : Call → Prop} {q : Http} (hq : P (.http q)) :
    (safeGet q).Calls P (fun _ => True) := by
  refine Prog.calls_bind (callService_calls hq trivial) fun answer => ?_
  cases answer <;> trivial

end Lookups

namespace Transfer

theorem lookupIf_reads {κ ρ : Type} {get : κ → Handler (Option ρ)}
    (hg : ∀ k, Handler.Reads (get k)) (id : Option κ) : Handler.Reads (lookupIf id get) := by
  cases id with
  | none => exact reads_ret _
  | some k => exact hg k

theorem findSeat_reads (eventId : Option EventId) (inventoryId : Option InventoryId)
    (venueId : Option VenueId) : Handler.Reads (findSeat eventId inventoryId venueId) := by
  refine lookupIf_reads (fun eventId => lookupIf_reads (fun inventoryId => ?_) _) _
  refine reads_bind (safeGet_reads rfl) fun invData => ?_
  refine lookupIf_reads (fun venueId => lookupIf_reads (fun seatId => ?_) _) _
  exact reads_bind (safeGet_reads rfl) fun _ => reads_ret _

theorem buildTransferContext_reads (t : TransferFields) :
    Handler.Reads (buildTransferContext t) := by
  refine reads_bind (lookupIf_reads (fun i => safeGet_reads (q := .getListing i) rfl) _)
    fun listing => ?_
  refine reads_bind (lookupIf_reads (fun i => safeGet_reads (q := .getTicket i) rfl) _)
    fun ticket => ?_
  refine reads_bind (lookupIf_reads (fun i => safeGet_reads (q := .getEvent i) rfl) _)
    fun event => ?_
  refine reads_bind (lookupIf_reads (fun i => safeGet_reads (q := .getVenue i) rfl) _)
    fun venue => ?_
  refine reads_bind (lookupIf_reads (fun i => safeGet_reads (q := .getUser i) rfl) _)
    fun seller => ?_
  refine reads_bind (lookupIf_reads (fun i => safeGet_reads (q := .getUser i) rfl) _)
    fun buyer => ?_
  exact reads_bind (findSeat_reads _ _ _) fun _ => reads_ret _

theorem enrichTransfer_reads (t : TransferFields) : Handler.Reads (enrichTransfer t) :=
  reads_bind (buildTransferContext_reads t) fun _ => reads_ret _

theorem buildTransferNotificationPayload_reads (eventType : String) (t : TransferFields) :
    Handler.Reads (buildTransferNotificationPayload eventType t) :=
  reads_bind (enrichTransfer_reads t) fun _ => reads_ret _

theorem loadEnrichedTransfer_reads (transferId : TransferId) (fallback : TransferFields) :
    Handler.Reads (loadEnrichedTransfer transferId fallback) := by
  refine reads_bind (callService_reads (.inr ⟨transferId,rfl⟩)) fun answer => ?_
  cases answer with
  | error code => exact enrichTransfer_reads fallback
  | ok transfer => exact enrichTransfer_reads _

theorem broadcastNotification_reads (n : Notification) :
    Handler.Reads (broadcastNotification n) :=
  reads_handle (reads_bind (callService_reads (.inl rfl)) fun _ => reads_ret _)
    fun _ => reads_ret _

theorem broadcastTransferNotification_reads (eventType : String) (t : TransferFields) :
    Handler.Reads (broadcastTransferNotification eventType t) :=
  reads_bind (buildTransferNotificationPayload_reads eventType t) fun _ =>
    broadcastNotification_reads _

theorem publishSellerNotification_reads (transferId : TransferId) (sellerId : UserId) :
    Handler.Reads (publishSellerNotification transferId sellerId) :=
  publishAttempts_reads _ 3

theorem publishTransferTimeout_reads (transferId : TransferId) (listingId : ListingId)
    (buyerId sellerId : UserId) :
    Handler.Reads (publishTransferTimeout transferId listingId buyerId sellerId) :=
  publishAttempts_reads _ 3

theorem reportSettled_reads (t : TicketRemaster.Transfer) (a : Saga) :
    Handler.Reads (reportSettled t a) :=
  reads_bind datetimeNow_reads fun _ =>
    reads_bind (loadEnrichedTransfer_reads _ _) fun _ => reads_ret _

end Transfer

end TicketRemaster
