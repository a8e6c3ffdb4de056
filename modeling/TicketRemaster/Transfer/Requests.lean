import TicketRemaster.Transfer.Calls
import TicketRemaster.Transfer.Timeout
set_option autoImplicit false

/-! The requests on transfers, and what each of their calls can do to the row of a transfer. -/

namespace TicketRemaster.Transfer

open Resumption SeatInventory

/-- A transfer is shown to its two parties. -/
def getTransfer (userId : UserId) (transferId : TransferId) :
    Handler (Response EnrichedTransfer) := do
  match ← callService (.getTransfer transferId) with
  | .error _ => pure transferNotFound
  | .ok transfer =>
      if userId ≠ transfer.buyerId ∧ userId ≠ transfer.sellerId then
        pure (.error "AUTH_FORBIDDEN" "Access denied." 403)
      else
        let enrichedTransfer ← enrichTransfer (toDict transferId transfer)
        pure (.data 200 enrichedTransfer)

/-- Everything that reads or changes transfers, each under the user who is authenticated; timeout
messages come from the queue. -/
inductive Request where
  | initiate (buyerId : UserId) (listingId : Option ListingId)
  | buyerVerify (buyerId : UserId) (transferId : TransferId) (otp : Option Nat)
  | sellerAccept (sellerId : UserId) (transferId : TransferId)
  | sellerReject (sellerId : UserId) (transferId : TransferId)
  | sellerVerify (sellerId : UserId) (transferId : TransferId) (otp : Option Nat)
  | resendOtp (userId : UserId) (transferId : TransferId)
  | cancelTransfer (userId : UserId) (transferId : TransferId)
  | getTransfer (userId : UserId) (transferId : TransferId)
  | timeoutMessage (transferId : TransferId) (listingId : ListingId)
  deriving DecidableEq

/-- Run a request, and keep the status of its answer. -/
def Request.handler : Request → Handler (Option Nat)
  | .initiate buyerId listingId => do
      return some (← Transfer.initiate buyerId listingId).status
  | .buyerVerify buyerId transferId otp => do
      return some (← Transfer.buyerVerify buyerId transferId otp).status
  | .sellerAccept sellerId transferId => do
      return some (← Transfer.sellerAccept sellerId transferId).status
  | .sellerReject sellerId transferId => do
      return some (← Transfer.sellerReject sellerId transferId).status
  | .sellerVerify sellerId transferId otp => do
      return some (← Transfer.sellerVerify sellerId transferId otp).status
  | .resendOtp userId transferId => do
      return some (← Transfer.resendOtp userId transferId).status
  | .cancelTransfer userId transferId => do
      return some (← Transfer.cancelTransfer userId transferId).status
  | .getTransfer userId transferId => do
      return some (← Transfer.getTransfer userId transferId).status
  | .timeoutMessage transferId listingId => do
      let _ ← onTimeoutMessage transferId listingId
      return none

theorem getTransfer_reads (u : UserId) (i : TransferId) : Handler.Reads (getTransfer u i) := by
  refine reads_bind (callService_reads (.inr ⟨i,rfl⟩)) fun transfer => ?_
  cases transfer with
  | error code => exact reads_ret _
  | ok t =>
    simp only
    split
    · exact reads_ret _
    · exact reads_bind (enrichTransfer_reads _) fun _ => reads_ret _

/-- What one call does to the row of transfer `i`. -/
inductive RowChange (e : Env) (i : TransferId) (q : Call) :
    Option TicketRemaster.Transfer → Option TicketRemaster.Transfer → Prop where
  | keep (r : Option TicketRemaster.Transfer) : RowChange e i q r r
  | expire (t : TicketRemaster.Transfer) : World.autoExpires t e.time →
      RowChange e i q (some t) (some (World.expire t))
  | patch (t : TicketRemaster.Transfer) (p : TransferPatch) : q = .http (.patchTransfer i p) →
      RowChange e i q (some t) (some (World.setTransfer p t))
  | create (d : NewTransfer) (t : TicketRemaster.Transfer) : q = .http (.createTransfer d) →
      t.buyerOtpVerified = false → t.sellerOtpVerified = false →
      t.status = .pendingSellerAcceptance → RowChange e i q none (some t)

section Rows

variable {cfg : SeatConfig} {e : Env} {w : World} {i : TransferId} {q : Call}

theorem insert_change {j : TransferId} {t t' : TicketRemaster.Transfer}
    (ht : w.transfers.lookup j = some t)
    (h : i = j → RowChange e i q (some t) (some t')) :
    RowChange e i q (w.transfers.lookup i) ((w.transfers.insert j t').lookup i) := by
  by_cases hi : i = j
  · subst hi
    rw [ht,AList.lookup_insert]
    exact h rfl
  · rw [AList.lookup_insert_ne hi]
    exact .keep _

theorem serve_change {q : Http} : RowChange e i (.http q) (w.transfers.lookup i)
    ((w.serve e q).2.transfers.lookup i) := by
  have hsame : q.writes ≠ some .transfers → RowChange e i (.http q) (w.transfers.lookup i)
      ((w.serve e q).2.transfers.lookup i) := by
    intro hw
    rw [(World.serve_frame e w q).transfers hw]
    exact .keep _
  cases q with
  | createTransfer d =>
    simp only [World.serve,World.createTransfer]
    split
    · exact .keep _
    · rename_i hnone
      by_cases hi : i = e.uuid
      · subst hi
        rw [AList.lookup_insert,Option.not_isSome_iff_eq_none.mp hnone]
        exact .create d _ rfl rfl rfl rfl
      · rw [AList.lookup_insert_ne hi]
        exact .keep _
  | getTransfer j =>
    simp only [World.serve,World.getTransfer]
    split
    · exact .keep _
    · rename_i t ht
      split
      · rename_i hexpires
        exact insert_change ht fun _ => .expire t hexpires
      · exact .keep _
  | patchTransfer j p =>
    simp only [World.serve,World.patchTransfer]
    split
    · exact .keep _
    · split
      · exact .keep _
      · split
        · exact .keep _
        · rename_i t ht
          split
          · rename_i hexpires
            exact insert_change ht fun _ => .expire t hexpires
          · exact insert_change ht fun hi => .patch t p (by rw [hi])
  | _ => exact hsame (by simp [Http.writes])

/-- Faulty calls included. -/
theorem perform_change (cfg : SeatConfig) (e : Env) (w : World) (i : TransferId) (q : Call) :
    RowChange e i q (w.transfers.lookup i) ((World.perform cfg e w q).2.transfers.lookup i) := by
  cases q with
  | http q =>
    rcases World.perform_http_cases cfg e w q with h | h <;> rw [h]
    · exact .keep _
    · exact serve_change
  | _ =>
    rw [(World.perform_frame _).transfers (by simp [Call.writes])]
    exact .keep _

/-- Reading a transfer shows its row, as it is after the call. -/
theorem getTransfer_answer {t : TicketRemaster.Transfer}
    (h : (World.perform cfg e w (.http (.getTransfer i))).1 = .ok t) :
    (World.perform cfg e w (.http (.getTransfer i))).2.transfers.lookup i = some t := by
  generalize hp : World.perform cfg e w (.http (.getTransfer i)) = r at h
  obtain ⟨a,w'⟩ := r
  obtain rfl : a = .ok t := h
  have hserve := World.perform_ok hp
  simp only [World.serve,World.getTransfer] at hserve
  split at hserve
  · cases hserve
  · rename_i r hr
    split at hserve <;> cases hserve
    · exact AList.lookup_insert _
    · exact hr

/-- A row lasts, and keeps its parties and its terms. -/
structure SameDeal (t t' : TicketRemaster.Transfer) : Prop where
  listing : t'.listingId = t.listingId
  buyer : t'.buyerId = t.buyerId
  seller : t'.sellerId = t.sellerId
  amount : t'.creditAmount = t.creditAmount

theorem SameDeal.refl (t : TicketRemaster.Transfer) : SameDeal t t := ⟨rfl,rfl,rfl,rfl⟩

theorem SameDeal.trans {t t' t'' : TicketRemaster.Transfer} (h : SameDeal t t')
    (h' : SameDeal t' t'') : SameDeal t t'' :=
  ⟨h'.listing.trans h.listing,h'.buyer.trans h.buyer,h'.seller.trans h.seller,
    h'.amount.trans h.amount⟩

theorem RowChange.lasts {t : TicketRemaster.Transfer} {r : Option TicketRemaster.Transfer}
    (h : RowChange e i q (some t) r) : ∃ t', r = some t' ∧ SameDeal t t' := by
  cases h with
  | keep => exact ⟨t,rfl,rfl,rfl,rfl,rfl⟩
  | expire => exact ⟨_,rfl,rfl,rfl,rfl,rfl⟩
  | patch _ p hq => exact ⟨_,rfl,rfl,rfl,rfl,rfl⟩

end Rows

end TicketRemaster.Transfer
