import TicketRemaster.Transfer.Compensation
import TicketRemaster.Transfer.Reads
set_option autoImplicit false

/-! The calls that each request on a transfer can make beside its lookups, whatever the answers
are: for each handler, what has to be allowed so that all of its calls are. -/

namespace TicketRemaster.Transfer

open Resumption

variable {α : Type} {P : Call → Prop} {i : TransferId} {u : UserId}

theorem reads_calls {p : Handler α} (hp : Handler.Reads p)
    (hr : ∀ q, Call.Reads q → P q) : p.Calls P (fun _ => True) :=
  hp.calls.mono (fun q hq => hr q hq) (fun _ _ => trivial)

/-- The one write of `openTransfer` after the new record is a PATCH of it. -/
theorem openTransfer_after (u : UserId) (l : ListingId) (listing : Listing) :
    ∃ f, openTransfer u l listing =
        callService (.createTransfer ⟨l,u,listing.sellerId,listing.price⟩) >>= f ∧
      ∀ (P : Call → Prop) answer, (∀ q, Call.Reads q → P q) →
        (∀ transfer, answer = .ok transfer → ∀ sid, P (.http (.patchTransfer transfer.transferId
          { buyerVerificationSid := some sid, status := some .pendingBuyerOtp }))) →
        (f answer).Calls P (fun _ => True) := by
  refine ⟨_,rfl,fun P answer hr hpatch => ?_⟩
  cases answer with
  | error code => trivial
  | ok transfer =>
    refine ask_calls (hr _ (.inl rfl)) fun buyer => ?_
    cases buyer with
    | error code => trivial
    | ok buyer =>
      refine ask_calls (hr _ (.inl rfl)) fun sid => ?_
      cases sid with
      | error code => trivial
      | ok sid =>
        refine ask_calls (hpatch _ rfl _) fun _ => reads_calls ?_ hr
        refine reads_bind (publishTransferTimeout_reads _ _ _ _) fun _ => ?_
        refine reads_bind (broadcastTransferNotification_reads _ _) fun _ => ?_
        exact reads_bind (enrichTransfer_reads _) fun _ => reads_ret _

theorem openTransfer_calls {l : ListingId} {listing : Listing} (hr : ∀ q, Call.Reads q → P q)
    (hcreate : P (.http (.createTransfer ⟨l,u,listing.sellerId,listing.price⟩)))
    (hpatch : ∀ j sid, P (.http (.patchTransfer j
      { buyerVerificationSid := some sid, status := some .pendingBuyerOtp }))) :
    (openTransfer u l listing).Calls P (fun _ => True) := by
  obtain ⟨f,hf,hafter⟩ := openTransfer_after u l listing
  rw [hf]
  exact ask_calls hcreate fun answer => hafter P answer hr fun _ _ _ => hpatch _ _

theorem initiate_calls {l : Option ListingId} (hr : ∀ q, Call.Reads q → P q)
    (hcreate : ∀ d, P (.http (.createTransfer d)))
    (hpatch : ∀ j sid, P (.http (.patchTransfer j
      { buyerVerificationSid := some sid, status := some .pendingBuyerOtp }))) :
    (initiate u l).Calls P (fun _ => True) := by
  cases l with
  | none => trivial
  | some l =>
    refine ask_calls (hr _ (.inl rfl)) fun listing => ?_
    cases listing with
    | error code => simp only; split <;> trivial
    | ok listing =>
      simp only
      split
      · trivial
      · split
        · trivial
        · refine ask_calls (hr _ (.inl rfl)) fun creditData => ?_
          cases creditData with
          | error code => trivial
          | ok creditData =>
            simp only
            split
            · trivial
            · exact openTransfer_calls hr (hcreate _) hpatch

theorem askSeller_calls {t : TicketRemaster.Transfer} (hr : ∀ q, Call.Reads q → P q)
    (hflag : P (.http (.patchTransfer i { buyerOtpVerified := some true })))
    (hstatus : ∀ sid, P (.http (.patchTransfer i {
      buyerOtpVerified := some true
      sellerVerificationSid := some sid
      status := some .pendingSellerOtp }))) : (askSeller u i t).Calls P (fun _ => True) := by
  refine ask_calls hflag fun _ => ask_calls (hr _ (.inl rfl)) fun seller => ?_
  cases seller with
  | error code => trivial
  | ok seller =>
    refine ask_calls (hr _ (.inl rfl)) fun sid => ?_
    cases sid with
    | error code => trivial
    | ok sid =>
      refine ask_calls (hstatus _) fun _ => reads_calls ?_ hr
      refine reads_bind (loadEnrichedTransfer_reads _ _) fun _ => ?_
      refine reads_bind (publishSellerNotification_reads _ _) fun _ => ?_
      exact reads_bind (broadcastTransferNotification_reads _ _) fun _ => reads_ret _

theorem buyerVerify_calls {otp : Option Nat} (hr : ∀ q, Call.Reads q → P q)
    (hflag : P (.http (.patchTransfer i { buyerOtpVerified := some true })))
    (hstatus : ∀ sid, P (.http (.patchTransfer i {
      buyerOtpVerified := some true
      sellerVerificationSid := some sid
      status := some .pendingSellerOtp }))) :
    (buyerVerify u i otp).Calls P (fun _ => True) := by
  cases otp with
  | none => trivial
  | some otp =>
    refine ask_calls (hr _ (.inr ⟨i,rfl⟩)) fun transfer => ?_
    cases transfer with
    | error code => trivial
    | ok t =>
      simp only
      split
      · trivial
      · split
        · trivial
        · split
          · trivial
          · refine ask_calls (hr _ (.inl rfl)) fun buyer => ?_
            cases buyer with
            | error code => trivial
            | ok buyer =>
              refine ask_calls (hr _ (.inl rfl)) fun verified => ?_
              split
              · exact askSeller_calls hr hflag hstatus
              · trivial

theorem sellerAccept_calls (hr : ∀ q, Call.Reads q → P q)
    (hpatch : ∀ sid, P (.http (.patchTransfer i
      { buyerVerificationSid := some sid, status := some .pendingBuyerOtp }))) :
    (sellerAccept u i).Calls P (fun _ => True) := by
  refine ask_calls (hr _ (.inr ⟨i,rfl⟩)) fun transfer => ?_
  cases transfer with
  | error code => trivial
  | ok t =>
    simp only
    split
    · trivial
    · split
      · trivial
      · refine ask_calls (hr _ (.inl rfl)) fun buyer => ?_
        cases buyer with
        | error code => trivial
        | ok buyer =>
          refine ask_calls (hr _ (.inl rfl)) fun sid => ?_
          cases sid with
          | error code => trivial
          | ok sid =>
            refine ask_calls (hpatch _) fun _ => reads_calls ?_ hr
            refine reads_bind (loadEnrichedTransfer_reads _ _) fun _ => ?_
            exact reads_bind (broadcastTransferNotification_reads _ _) fun _ => reads_ret _

/-- Once a transfer is cancelled, its listing and ticket go back on the market. -/
theorem reopen_calls {t : TicketRemaster.Transfer} {fields : TransferFields} {eventType : String}
    (hr : ∀ q, Call.Reads q → P q) (hlisting : P (.http (.updateListing t.listingId .active)))
    (hticket : ∀ j, P (.http (.updateTicket j { status := some .listed }))) :
    (do match ← callService (.getListing t.listingId) with
        | .error _ => pure ()
        | .ok listing =>
            let _ ← callService (.updateListing t.listingId .active)
            let _ ← callService (.updateTicket (some listing.ticketId) { status := some .listed })
        broadcastTransferNotification eventType fields : Handler Unit).Calls P
      (fun _ => True) := by
  have hbroadcast : (broadcastTransferNotification eventType fields).Calls P (fun _ => True) :=
    reads_calls (broadcastTransferNotification_reads _ _) hr
  refine ask_calls (hr _ (.inl rfl)) fun listing => ?_
  cases listing with
  | error code => exact hbroadcast
  | ok listing => exact ask_calls hlisting fun _ => ask_calls (hticket _) fun _ => hbroadcast

theorem closeTransfer_calls {t : TicketRemaster.Transfer} {eventType : String}
    (hr : ∀ q, Call.Reads q → P q)
    (hpatch : P (.http (.patchTransfer i { status := some .cancelled })))
    (hlisting : P (.http (.updateListing t.listingId .active)))
    (hticket : ∀ j, P (.http (.updateTicket j { status := some .listed }))) :
    (closeTransfer i t eventType).Calls P (fun _ => True) :=
  ask_calls hpatch fun _ => reopen_calls hr hlisting hticket

theorem sellerReject_calls (hr : ∀ q, Call.Reads q → P q)
    (hpatch : P (.http (.patchTransfer i { status := some .cancelled })))
    (hlisting : ∀ l, P (.http (.updateListing l .active)))
    (hticket : ∀ j, P (.http (.updateTicket j { status := some .listed }))) :
    (sellerReject u i).Calls P (fun _ => True) := by
  refine ask_calls (hr _ (.inr ⟨i,rfl⟩)) fun transfer => ?_
  cases transfer with
  | error code => trivial
  | ok t =>
    simp only
    split
    · trivial
    · split
      · trivial
      · exact Prog.calls_bind (closeTransfer_calls hr hpatch (hlisting _) hticket) fun _ => trivial

theorem cancelTransfer_calls (hr : ∀ q, Call.Reads q → P q)
    (hpatch : P (.http (.patchTransfer i { status := some .cancelled })))
    (hlisting : ∀ l, P (.http (.updateListing l .active)))
    (hticket : ∀ j, P (.http (.updateTicket j { status := some .listed }))) :
    (cancelTransfer u i).Calls P (fun _ => True) := by
  refine ask_calls (hr _ (.inr ⟨i,rfl⟩)) fun transfer => ?_
  cases transfer with
  | error code => trivial
  | ok t =>
    simp only
    split
    · trivial
    · split
      · trivial
      · split
        · trivial
        · exact Prog.calls_bind (closeTransfer_calls hr hpatch (hlisting _) hticket)
            fun _ => trivial

theorem resendTo_calls {record : Sid → TransferPatch} (hr : ∀ q, Call.Reads q → P q)
    (hpatch : ∀ sid, P (.http (.patchTransfer i (record sid)))) :
    (resendTo u i record).Calls P (fun _ => True) := by
  refine ask_calls (hr _ (.inl rfl)) fun user => ?_
  cases user with
  | error code => trivial
  | ok user =>
    refine ask_calls (hr _ (.inl rfl)) fun sid => ?_
    cases sid with
    | error code => trivial
    | ok sid => exact ask_calls (hpatch sid) fun _ => trivial

theorem resendOtp_calls (hr : ∀ q, Call.Reads q → P q)
    (hbuyer : ∀ sid, P (.http (.patchTransfer i { buyerVerificationSid := some sid })))
    (hseller : ∀ sid, P (.http (.patchTransfer i { sellerVerificationSid := some sid }))) :
    (resendOtp u i).Calls P (fun _ => True) := by
  refine ask_calls (hr _ (.inr ⟨i,rfl⟩)) fun transfer => ?_
  cases transfer with
  | error code => trivial
  | ok t =>
    simp only
    split
    · trivial
    · split
      · exact resendTo_calls hr hbuyer
      · split
        · exact resendTo_calls hr hseller
        · trivial

theorem forward_calls {a : Saga} {steps completed : List SagaStep} (hr : ∀ q, Call.Reads q → P q)
    (hstep : ∀ now, ∀ step ∈ steps, P (.http (a.request now step))) :
    (a.forward steps completed).Calls P (fun _ => True) := by
  induction steps generalizing completed with
  | nil => trivial
  | cons step rest ih =>
    have hattempt : ∀ now, (a.attempt now step).Calls P (fun _ => True) := by
      intro now
      refine Prog.calls_bind (tryService_calls (hstep now step (by simp))) fun answer => ?_
      rcases answer with exc | (code | v) <;> trivial
    have hrun : (a.run step).Calls P (fun _ => True) := by
      cases step with
      | transferCompleted =>
        exact Prog.calls_bind (reads_calls datetimeNow_reads hr) fun now => hattempt now
      | _ => exact hattempt 0
    refine Prog.calls_bind hrun fun failed => ?_
    cases failed with
    | none => exact ih (fun now s hs => hstep now s (List.mem_cons_of_mem _ hs))
    | some exc => trivial

theorem executeSaga_calls {a : Saga} (hr : ∀ q, Call.Reads q → P q)
    (hstep : ∀ now step, P (.http (a.request now step)))
    (hundo : ∀ c ∈ a.compensations, P (.http c.2.1))
    (hfailed : P (.http (.patchTransfer a.transferId { status := some .failed }))) :
    (executeSaga a).Calls P (fun _ => True) := by
  refine Prog.calls_bind (forward_calls hr fun now step _ => hstep now step) fun outcome => ?_
  obtain ⟨failed,completed⟩ := outcome
  cases failed with
  | none => trivial
  | some exc =>
    refine Prog.calls_bind ?_ fun _ => trivial
    exact rollBack_calls (fun c hc _ => hundo c hc) hfailed (fun _ => hr _ (.inl rfl))

theorem settle_calls {t : TicketRemaster.Transfer} {a : Saga} (hr : ∀ q, Call.Reads q → P q)
    (hstep : ∀ now step, P (.http (a.request now step)))
    (hundo : ∀ c ∈ a.compensations, P (.http c.2.1))
    (hfailed : P (.http (.patchTransfer a.transferId { status := some .failed }))) :
    (settle t a).Calls P (fun _ => True) := by
  have hsaga : (runSaga a).Calls P (fun _ => True) := by
    refine Prog.calls_bind (executeSaga_calls hr hstep hundo hfailed) fun _ => ?_
    refine reads_calls ?_ hr
    refine reads_bind (buildTransferNotificationPayload_reads _ _) fun _ => ?_
    exact reads_bind (broadcastNotification_reads _) fun _ => broadcastNotification_reads _
  refine Prog.calls_bind (Prog.calls_handle (S := fun _ => True) ?_ fun _ _ => trivial)
    fun settled => ?_
  · exact Prog.calls_bind hsaga fun _ => trivial
  · cases settled with
    | false => trivial
    | true => exact reads_calls (reportSettled_reads _ _) hr

section SellerVerify

variable {h : List (Entry Platform)} {fin : α → List (Entry Platform) → Prop}

/-- `ask_calls`, with what the handler ends in. -/
theorem ask_follows {q : Http} {f : Except String q.Val → Handler α} (hq : P (.http q))
    (hf : ∀ a h, (f a).Follows (fun _ => P) (fun _ _ _ => True) fin (fun _ _ => True) h) :
    (callService q >>= f).Follows (fun _ => P) (fun _ _ _ => True) fin (fun _ _ => True) h := by
  refine ⟨hq,fun a _ => ?_⟩
  cases a with
  | ok v => exact hf (.ok v) _
  | error code => exact hf (.error code) _
  | raised => trivial

/-- A saga is handed its arguments for the transfer of the request. -/
def ForTransfer (i : TransferId)
    (r : Except (Response SettledTransfer) (TicketRemaster.Transfer × Saga)) : Prop :=
  ∀ x, r = .ok x → x.2.transferId = i

theorem forTransfer_error {answer : Response SettledTransfer} : ForTransfer i (.error answer) :=
  fun _ hx => by cases hx

theorem readBalances_follows {t : TicketRemaster.Transfer} {listing : Option Listing}
    (hr : ∀ q, Call.Reads q → P q)
    (hfailed : P (.http (.patchTransfer i { status := some .failed }))) :
    (readBalances u i t listing).Follows (fun _ => P) (fun _ _ _ => True)
      (fun r _ => ForTransfer i r) (fun _ _ => True) h := by
  refine ask_follows (hr _ (.inl rfl)) fun buyerCredit h => ?_
  cases buyerCredit with
  | error code => exact ask_follows hfailed fun _ _ => forTransfer_error
  | ok buyerCredit =>
    simp only
    split
    · exact ask_follows hfailed fun _ _ => forTransfer_error
    · refine ask_follows (hr _ (.inl rfl)) fun sellerCredit h => ?_
      cases sellerCredit with
      | error code => exact forTransfer_error
      | ok sellerCredit => exact fun x hx => by cases hx; rfl

theorem confirmSeller_follows {t : TicketRemaster.Transfer} (hr : ∀ q, Call.Reads q → P q)
    (hflag : P (.http (.patchTransfer i { sellerOtpVerified := some true })))
    (hfailed : P (.http (.patchTransfer i { status := some .failed }))) :
    (confirmSeller u i t).Follows (fun _ => P) (fun _ _ _ => True)
      (fun r _ => ForTransfer i r) (fun _ _ => True) h := by
  refine ask_follows hflag fun _ h => Prog.follows_bind.mpr ?_
  refine ask_follows (hr _ (.inl rfl)) fun listing h => ?_
  cases listing with
  | error code => exact readBalances_follows hr hfailed
  | ok listing => exact readBalances_follows hr hfailed

theorem sellerVerify_calls {otp : Option Nat} (hr : ∀ q, Call.Reads q → P q)
    (hflag : P (.http (.patchTransfer i { sellerOtpVerified := some true })))
    (hfailed : P (.http (.patchTransfer i { status := some .failed })))
    (hstep : ∀ a : Saga, a.transferId = i → ∀ now step, P (.http (a.request now step)))
    (hundo : ∀ a : Saga, ∀ c ∈ a.compensations, P (.http c.2.1)) :
    (sellerVerify u i otp).Calls P (fun _ => True) := by
  have hprepare : (prepareSettlement u i otp).Follows (fun _ => P) (fun _ _ _ => True)
      (fun r _ => ForTransfer i r) (fun _ _ => True) [] := by
    cases otp with
    | none => exact forTransfer_error
    | some otp =>
      refine ask_follows (hr _ (.inr ⟨i,rfl⟩)) fun transfer h => ?_
      cases transfer with
      | error code => exact forTransfer_error
      | ok t =>
        simp only
        split
        · exact forTransfer_error
        · split
          · exact forTransfer_error
          · split
            · exact forTransfer_error
            · refine ask_follows (hr _ (.inl rfl)) fun seller h => ?_
              cases seller with
              | error code => exact forTransfer_error
              | ok seller =>
                refine ask_follows (hr _ (.inl rfl)) fun verified h => ?_
                split
                · exact confirmSeller_follows hr hflag hfailed
                · exact forTransfer_error
  have hverify : (sellerVerify u i otp).Follows (fun _ => P) (fun _ _ _ => True)
      (fun _ _ => True) (fun _ _ => True) [] := by
    refine Prog.follows_bind.mpr (hprepare.mono (fun r h hown => ?_) (fun _ _ hx => hx))
    cases r with
    | error answer => trivial
    | ok x =>
      obtain ⟨t,a⟩ := x
      obtain rfl : a.transferId = i := hown _ rfl
      refine ((settle_calls hr (hstep a rfl) (hundo a) hfailed).follows (J := fun _ => True)
        (fun _ _ hq _ => hq) (fun _ _ _ _ _ => trivial) trivial).mono (fun _ _ _ => trivial)
        (fun _ _ _ => trivial)
  exact hverify.calls

end SellerVerify

end TicketRemaster.Transfer
