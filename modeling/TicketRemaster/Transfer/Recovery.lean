import TicketRemaster.Transfer.DeadEnds
set_option autoImplicit false

/-! How the parties complete a transfer that awaits an OTP: a new OTP for the party it awaits, so
that there is one, and the verification of each party that is left. -/

namespace TicketRemaster.Transfer

open Resumption SeatInventory

/-- Every service is healthy, the OTP is right, and the transfer has not expired. -/
def InTime (t : TicketRemaster.Transfer) (_ : List (Entry Platform)) (e : Env) : Prop :=
  e.fault = none ∧ e.otpVerified = true ∧ World.isTransferExpired t e.time = false

/-- Both parties are known, the buyer can pay, and the ticket is still on offer. -/
structure Settleable (w : World) (t : TicketRemaster.Transfer) : Prop where
  buyer : (w.users.lookup t.buyerId).isSome
  seller : (w.users.lookup t.sellerId).isSome
  funds : ∃ b, w.credits.lookup t.buyerId = some b ∧ t.creditAmount ≤ b
  account : (w.credits.lookup t.sellerId).isSome
  offer : ∃ l, w.listings.lookup t.listingId = some l ∧ l.status = .active ∧
    (w.tickets.lookup l.ticketId).isSome

/-- The deal is the same, and so is its expiry. -/
structure Continues (t t' : TicketRemaster.Transfer) : Prop where
  deal : SameDeal t t'
  expiresAt : t'.expiresAt = t.expiresAt

/-- Nothing but transfers has changed since `w₀`, and transfer `i` has this row. -/
structure Reached (w₀ : World) (i : TransferId) (t : TicketRemaster.Transfer) (w : World) :
    Prop where
  row : w.transfers.lookup i = some t
  frame : World.Frame (some .transfers) w₀ w

section Rules

variable {cfg : SeatConfig} {α β : Type} {t₀ t : TicketRemaster.Transfer}
  {h : List (Entry Platform)} {w₀ w : World} {i : TransferId} {e : Env}
  {Q : α → List (Entry Platform) → World → Prop}
  {X : Unhandled → List (Entry Platform) → World → Prop}

theorem Continues.refl (t : TicketRemaster.Transfer) : Continues t t := ⟨.refl t,rfl⟩

theorem Continues.patched (ht : Continues t₀ t) (p : TransferPatch) :
    Continues t₀ (World.setTransfer p t) := ⟨ht.deal.trans ⟨rfl,rfl,rfl,rfl⟩,ht.expiresAt⟩

theorem InTime.live (he : InTime t₀ h e) (ht : Continues t₀ t) :
    World.autoExpires t e.time = false := by
  have hlive : World.isTransferExpired t e.time = false := by
    rw [World.isTransferExpired,ht.expiresAt]
    exact he.2.2
  simp [World.autoExpires,hlive]

/-- A call whose answer in time is known. -/
theorem answered_always {q : Http} {f : Except String q.Val → Handler α} {K : q.Val → World → Prop}
    (hs : ∀ e, InTime t₀ h e → ∃ v w', w.serve e q = (.ok v,w') ∧ K v w')
    (hf : ∀ v w', K v w' → Handler.Always cfg (InTime t₀) Q X (f (.ok v))
      (⟨.http q,.ok v⟩ :: h) w') :
    Handler.Always cfg (InTime t₀) Q X (callService q >>= f) h w := by
  refine served_always (fun e he => he.1) (fun e v w' he hserve => ?_)
    (fun e err w' he hserve => ?_)
  · obtain ⟨v',w'',hserve',hK⟩ := hs e he
    cases hserve.symm.trans hserve'
    exact hf v w' hK
  · obtain ⟨v',w'',hserve',-⟩ := hs e he
    cases hserve.symm.trans hserve'

theorem getUser_answered {u : UserId} {f : Except String User → Handler α}
    (hu : (w.users.lookup u).isSome)
    (hf : ∀ user reply, Handler.Always cfg (InTime t₀) Q X (f (.ok user)) (reply :: h) w) :
    Handler.Always cfg (InTime t₀) Q X (callService (.getUser u) >>= f) h w := by
  obtain ⟨user,hrow⟩ := Option.isSome_iff_exists.mp hu
  refine answered_always (K := fun v w' => w' = w) (fun e _ => ⟨user,w,?_,rfl⟩) fun v w' hw => ?_
  · simp [World.serve,World.getUser,hrow,World.found]
  · subst hw
    exact hf v _

theorem sendOtp_answered {phone : Phone} {f : Except String Sid → Handler α}
    (hf : ∀ sid reply, Handler.Always cfg (InTime t₀) Q X (f (.ok sid)) (reply :: h) w) :
    Handler.Always cfg (InTime t₀) Q X (sendOtp phone >>= f) h w := by
  refine answered_always (q := .sendOtp phone) (K := fun v w' => w' = w)
    (fun e _ => ⟨e.uuid,w,rfl,rfl⟩) fun v w' hw => ?_
  subst hw
  exact hf v _

theorem verifyOtp_answered {sid : Sid} {otp : Nat} {phone : Phone}
    {f : Except String Bool → Handler α}
    (hf : ∀ reply, Handler.Always cfg (InTime t₀) Q X (f (.ok true)) (reply :: h) w) :
    Handler.Always cfg (InTime t₀) Q X (verifyOtp sid otp phone >>= f) h w := by
  refine answered_always (q := .verifyOtp sid otp phone) (K := fun v w' => v = true ∧ w' = w)
    (fun e he => ⟨true,w,?_,rfl,rfl⟩) fun v w' hw => ?_
  · simp [World.serve,he.2.1]
  · obtain ⟨rfl,rfl⟩ := hw
    exact hf _

theorem getTransfer_answered {f : Except String TicketRemaster.Transfer → Handler α}
    (hrow : w.transfers.lookup i = some t) (ht : Continues t₀ t)
    (hf : ∀ reply, Handler.Always cfg (InTime t₀) Q X (f (.ok t)) (reply :: h) w) :
    Handler.Always cfg (InTime t₀) Q X (callService (.getTransfer i) >>= f) h w := by
  refine answered_always (K := fun v w' => v = t ∧ w' = w) (fun e he => ⟨t,w,?_,rfl,rfl⟩)
    fun v w' hw => ?_
  · simp [World.serve,World.getTransfer,hrow,he.live ht]
  · obtain ⟨rfl,rfl⟩ := hw
    exact hf _

theorem patchTransfer_served {p : TransferPatch} (hrow : w.transfers.lookup i = some t)
    (ht : Continues t₀ t) (hp : p ≠ {}) (hfields : p.otherFields = false) (he : InTime t₀ h e) :
    w.serve e (.patchTransfer i p) = (.ok (World.setTransfer p t),
      { w with transfers := w.transfers.insert i (World.setTransfer p t) }) := by
  simp [World.serve,World.patchTransfer,hp,hfields,hrow,he.live ht]

theorem patchTransfer_answered {p : TransferPatch}
    {f : Except String TicketRemaster.Transfer → Handler α} (hw : Reached w₀ i t w)
    (ht : Continues t₀ t) (hp : p ≠ {}) (hfields : p.otherFields = false)
    (hf : ∀ v reply w', Reached w₀ i (World.setTransfer p t) w' →
      Handler.Always cfg (InTime t₀) Q X (f (.ok v)) (reply :: h) w') :
    Handler.Always cfg (InTime t₀) Q X (callService (.patchTransfer i p) >>= f) h w := by
  refine answered_always (K := fun v w' => Reached w₀ i (World.setTransfer p t) w')
    (fun e he => ⟨_,_,patchTransfer_served hw.row ht hp hfields he,AList.lookup_insert _,?_⟩)
    fun v w' hw' => hf v _ w' hw'
  refine hw.frame.trans ?_
  constructor <;> simp

theorem reads_frame {q : Call} (hq : q.Reads) :
    World.Frame (some .transfers) w (World.perform cfg e w q).2 := by
  have hf : World.Frame q.writes w (World.perform cfg e w q).2 := World.perform_frame q
  rcases hq with hq | ⟨j,rfl⟩
  · rw [hq] at hf
    constructor
    · exact hf.users
    · exact hf.events
    · exact hf.paymentIntents
    · exact fun _ => hf.inventory (by simp)
    · exact fun _ => hf.tickets (by simp)
    · exact fun _ => hf.ticketLogs (by simp)
    · exact fun _ => hf.listings (by simp)
    · exact fun _ => hf.transfers (by simp)
    · exact fun _ => hf.credits (by simp)
    · exact fun _ => hf.creditTransactions (by simp)
    · exact fun _ => hf.scanLocks (by simp)
  · exact hf

/-- In time, a lookup does not even expire the transfer. -/
theorem reads_row {q : Call} (hq : q.Reads) (he : InTime t₀ h e) (ht : Continues t₀ t)
    (hrow : w.transfers.lookup i = some t) :
    (World.perform cfg e w q).2.transfers.lookup i = some t := by
  have hchange := perform_change cfg e w i q
  rw [hrow] at hchange
  generalize (World.perform cfg e w q).2.transfers.lookup i = r at hchange
  cases hchange with
  | keep => rfl
  | expire _ hexpires => rw [he.live ht] at hexpires; cases hexpires
  | patch _ p hp =>
    subst hp
    rcases hq with hq | ⟨j,hq⟩ <;> cases hq

theorem reads_reached {p : Handler α} (hp : Handler.Reads p) (hw : Reached w₀ i t w)
    (ht : Continues t₀ t) :
    Handler.Always cfg (InTime t₀) (fun _ _ => Reached w₀ i t) (fun _ _ => Reached w₀ i t)
      p h w := by
  refine (hp.calls.always (J := fun _ => Reached w₀ i t) ?_ hw).mono (fun _ _ _ hJ => hJ)
    (fun _ _ _ hJ => hJ.2)
  intro q hq h e w he hJ
  exact ⟨reads_row hq he ht hJ.row,hJ.frame.trans (reads_frame hq)⟩

end Rules

section Verification

variable {cfg : SeatConfig} {t₀ t : TicketRemaster.Transfer} {h : List (Entry Platform)}
  {w₀ w : World} {i : TransferId}

theorem Reached.users {u : UserId} (hw : Reached w₀ i t w) (hu : (w₀.users.lookup u).isSome) :
    (w.users.lookup u).isSome := by
  rwa [hw.frame.users]

theorem resendTo_reached {u : UserId} {record : Sid → TransferPatch} (hw : Reached w₀ i t w)
    (ht : Continues t₀ t) (hu : (w₀.users.lookup u).isSome)
    (hrecord : ∀ sid, record sid ≠ {} ∧ (record sid).otherFields = false) :
    Handler.Always cfg (InTime t₀)
      (fun _ _ w' => ∃ sid, Reached w₀ i (World.setTransfer (record sid) t) w')
      (fun _ _ w' => ∃ sid, Reached w₀ i (World.setTransfer (record sid) t) w')
      (resendTo u i record) h w := by
  refine getUser_answered (hw.users hu) fun user _ => ?_
  refine sendOtp_answered fun sid _ => ?_
  refine patchTransfer_answered hw ht (hrecord sid).1 (hrecord sid).2 fun _ _ w' hw' => ?_
  exact ⟨sid,hw'⟩

/-- The party whose OTP is awaited asks for a new one. -/
theorem resendOtp_buyer (hw : Reached w₀ i t w) (ht : Continues t₀ t)
    (hu : (w₀.users.lookup t.buyerId).isSome) (hs : t.status = .pendingBuyerOtp) :
    Handler.Always cfg (InTime t₀)
      (fun _ _ w' => ∃ sid, Reached w₀ i
        (World.setTransfer { buyerVerificationSid := some sid } t) w')
      (fun _ _ w' => ∃ sid, Reached w₀ i
        (World.setTransfer { buyerVerificationSid := some sid } t) w')
      (resendOtp t.buyerId i) h w := by
  refine getTransfer_answered hw.row ht fun _ => ?_
  simp only [ne_eq,not_true_eq_false,false_and,if_false,hs,and_self,if_true]
  exact resendTo_reached hw ht hu fun sid => ⟨by simp,rfl⟩

theorem resendOtp_seller (hw : Reached w₀ i t w) (ht : Continues t₀ t)
    (hu : (w₀.users.lookup t.sellerId).isSome) (hs : t.status = .pendingSellerOtp) :
    Handler.Always cfg (InTime t₀)
      (fun _ _ w' => ∃ sid, Reached w₀ i
        (World.setTransfer { sellerVerificationSid := some sid } t) w')
      (fun _ _ w' => ∃ sid, Reached w₀ i
        (World.setTransfer { sellerVerificationSid := some sid } t) w')
      (resendOtp t.sellerId i) h w := by
  refine getTransfer_answered hw.row ht fun _ => ?_
  simp only [ne_eq,not_true_eq_false,and_false,if_false,hs,reduceCtorEq,false_and,and_self,if_true]
  exact resendTo_reached hw ht hu fun sid => ⟨by simp,rfl⟩

/-- The row of a transfer whose buyer has just been verified. -/
def buyerVerified (sid : Sid) (t : TicketRemaster.Transfer) : TicketRemaster.Transfer :=
  World.setTransfer {
    buyerOtpVerified := some true
    sellerVerificationSid := some sid
    status := some .pendingSellerOtp } (World.setTransfer { buyerOtpVerified := some true } t)

theorem buyerVerify_reached {sid : Sid} {otp : Nat} (hw : Reached w₀ i t w) (ht : Continues t₀ t)
    (hbuyer : (w₀.users.lookup t.buyerId).isSome) (hseller : (w₀.users.lookup t.sellerId).isSome)
    (hs : t.status = .pendingBuyerOtp) (hflag : t.buyerOtpVerified = false)
    (hsid : t.buyerVerificationSid = some sid) :
    Handler.Always cfg (InTime t₀) (fun _ _ w' => ∃ sid, Reached w₀ i (buyerVerified sid t) w')
      (fun _ _ w' => ∃ sid, Reached w₀ i (buyerVerified sid t) w')
      (buyerVerify t.buyerId i (some otp)) h w := by
  refine getTransfer_answered hw.row ht fun _ => ?_
  simp only [ne_eq,not_true_eq_false,if_false,hsid,hs,hflag,Bool.false_eq_true,or_self]
  refine getUser_answered (hw.users hbuyer) fun buyer _ => ?_
  refine verifyOtp_answered fun _ => ?_
  refine patchTransfer_answered hw ht (by simp) rfl fun _ _ w₁ hw₁ => ?_
  refine getUser_answered (hw₁.users hseller) fun seller _ => ?_
  refine sendOtp_answered fun sid _ => ?_
  refine patchTransfer_answered hw₁ (ht.patched _) (by simp) rfl fun _ _ w₂ hw₂ => ?_
  refine Prog.Always.mono (reads_reached ?_ hw₂ ((ht.patched _).patched _))
    (fun _ _ _ hw' => ⟨sid,hw'⟩) (fun _ _ _ hw' => ⟨sid,hw'⟩)
  refine reads_bind (loadEnrichedTransfer_reads _ _) fun _ => ?_
  refine reads_bind (publishSellerNotification_reads _ _) fun _ => ?_
  exact reads_bind (broadcastTransferNotification_reads _ _) fun _ => reads_ret _

end Verification

section Settlement

variable {cfg : SeatConfig} {t₀ : TicketRemaster.Transfer} {h : List (Entry Platform)}
  {w w' : World} {a : Saga} {e : Env}

/-- The rows that the steps of a saga write to are there. -/
structure Payable (t₀ : TicketRemaster.Transfer) (a : Saga) (w : World) : Prop where
  buyer : (w.credits.lookup a.buyerId).isSome
  seller : (w.credits.lookup a.sellerId).isSome
  ticket : ∃ k, a.ticketId = some k ∧ (w.tickets.lookup k).isSome
  listing : (w.listings.lookup a.listingId).isSome
  transfer : ∃ t, w.transfers.lookup a.transferId = some t ∧ Continues t₀ t

theorem isSome_insert {κ ρ : Type} [DecidableEq κ] {T : Table κ ρ} {k k' : κ} {r : ρ}
    (hk : (T.lookup k).isSome) : ((T.insert k' r).lookup k).isSome := by
  by_cases h : k = k'
  · subst h
    simp
  · rwa [AList.lookup_insert_ne h]

theorem patchCredits_served {u : UserId} {b : Credits} (hu : (w.credits.lookup u).isSome) :
    w.serve e (.patchCredits u b) = (.ok (),{ w with credits := w.credits.insert u b }) := by
  simp [World.serve,World.patchCredits,hu]

theorem updateTicket_served {k : TicketId} {row : Ticket} {p : TicketPatch}
    (hk : w.tickets.lookup k = some row) (hstatus : p.status = some .active)
    (hqr : p.qrHash = none) : w.serve e (.updateTicket (some k) p) = (.ok (World.patchTicket p row),
      { w with tickets := w.tickets.insert k (World.patchTicket p row) }) := by
  have hp : p ≠ {} := fun h => by simp [h] at hstatus
  simp [World.serve,World.updateTicket,hp,hk,hstatus,hqr,World.allowedStatusValues]

theorem updateListing_served {l : ListingId} {row : Listing}
    (hl : w.listings.lookup l = some row) : w.serve e (.updateListing l .completed) =
      (.ok { row with status := .completed },
        { w with listings := w.listings.insert l { row with status := .completed } }) := by
  simp [World.serve,World.updateListing,hl,World.allowedStatuses]

/-- In time every step is served, and the rows stay; only the last step touches the transfer. -/
theorem step_served (hw : Payable t₀ a w) (he : InTime t₀ h e) (now : Time) (step : SagaStep) :
    ∃ v w', w.serve e (a.request now step) = (.ok v,w') ∧ Payable t₀ a w' ∧
      (if step = .transferCompleted then statusOf w' a.transferId = some .completed
        else w'.transfers = w.transfers) := by
  obtain ⟨k,hk,hticket⟩ := hw.ticket
  obtain ⟨t,hrow,ht⟩ := hw.transfer
  cases step with
  | buyerDeducted =>
    refine ⟨_,_,patchCredits_served hw.buyer,?_,rfl⟩
    exact ⟨isSome_insert hw.buyer,isSome_insert hw.seller,hw.ticket,hw.listing,hw.transfer⟩
  | sellerCredited =>
    refine ⟨_,_,patchCredits_served hw.seller,?_,rfl⟩
    exact ⟨isSome_insert hw.buyer,isSome_insert hw.seller,hw.ticket,hw.listing,hw.transfer⟩
  | buyerTxnLogged =>
    exact ⟨_,_,rfl,⟨hw.buyer,hw.seller,hw.ticket,hw.listing,hw.transfer⟩,rfl⟩
  | sellerTxnLogged =>
    exact ⟨_,_,rfl,⟨hw.buyer,hw.seller,hw.ticket,hw.listing,hw.transfer⟩,rfl⟩
  | ticketTransferred =>
    obtain ⟨row,hticketRow⟩ := Option.isSome_iff_exists.mp hticket
    cases a
    cases hk
    refine ⟨_,_,updateTicket_served hticketRow rfl rfl,?_,rfl⟩
    exact ⟨hw.buyer,hw.seller,⟨k,rfl,isSome_insert hticket⟩,hw.listing,hw.transfer⟩
  | listingCompleted =>
    obtain ⟨row,hlistingRow⟩ := Option.isSome_iff_exists.mp hw.listing
    refine ⟨_,_,updateListing_served hlistingRow,?_,rfl⟩
    exact ⟨hw.buyer,hw.seller,hw.ticket,isSome_insert hw.listing,hw.transfer⟩
  | transferCompleted =>
    refine ⟨_,_,patchTransfer_served hrow ht (by simp) rfl he,?_,?_⟩
    · exact ⟨hw.buyer,hw.seller,hw.ticket,hw.listing,_,AList.lookup_insert _,ht.patched _⟩
    · simp [statusOf,World.setTransfer]

theorem attempt_answered {α : Type} {Q : α → List (Entry Platform) → World → Prop}
    {X : Unhandled → List (Entry Platform) → World → Prop} {f : Option Unhandled → Handler α}
    (hw : Payable t₀ a w) (now : Time) (step : SagaStep)
    (hf : ∀ reply w', Payable t₀ a w' → (if step = .transferCompleted then
      statusOf w' a.transferId = some .completed else w'.transfers = w.transfers) →
      Handler.Always cfg (InTime t₀) Q X (f none) (reply :: h) w') :
    Handler.Always cfg (InTime t₀) Q X (a.attempt now step >>= f) h w := by
  refine attempt_always (fun h e he f hf => ?_) step (fun e v w₁ he hs => ?_)
    (fun e code w₁ he hp => ?_)
  · rw [he.1] at hf
    cases hf
  · obtain ⟨v',w',hserve,hw',hlast⟩ := step_served hw he now step
    cases hs.symm.trans hserve
    exact hf _ w₁ hw' hlast
  · obtain ⟨v',w',hserve,-⟩ := step_served hw he now step
    rw [Resale.healthy_perform he.1,hserve] at hp
    cases hp

/-- Completed, if the last step has been taken. -/
theorem forward_completes (steps completed : List SagaStep) (hw : Payable t₀ a w)
    (hdone : .transferCompleted ∉ steps → statusOf w a.transferId = some .completed)
    {X : Unhandled → List (Entry Platform) → World → Prop} :
    Handler.Always cfg (InTime t₀) (fun r _ w' => r.1 = none ∧ Payable t₀ a w' ∧
      statusOf w' a.transferId = some .completed) X (a.forward steps completed) h w := by
  induction steps generalizing completed h w with
  | nil => exact ⟨rfl,hw,hdone (by simp)⟩
  | cons step rest ih =>
    have hnext : ∀ w', Payable t₀ a w' → (if step = .transferCompleted then
        statusOf w' a.transferId = some .completed else w'.transfers = w.transfers) →
        .transferCompleted ∉ rest → statusOf w' a.transferId = some .completed := by
      intro w' hw' hlast hrest
      split at hlast
      · exact hlast
      · rename_i hstep
        rw [statusOf,hlast]
        refine hdone fun hmem => ?_
        rcases List.mem_cons.mp hmem with hs | hs
        · exact hstep hs.symm
        · exact hrest hs
    have hattempt : ∀ now h, Handler.Always cfg (InTime t₀) (fun r _ w' => r.1 = none ∧
        Payable t₀ a w' ∧ statusOf w' a.transferId = some .completed) X
        (a.attempt now step >>= a.goOn step rest completed) h w := fun now h =>
      attempt_answered hw now step fun _ w' hw' hlast => ih _ hw' (hnext w' hw' hlast)
    cases step with
    | transferCompleted => exact datetimeNow_always fun e he => hattempt e.time _
    | _ => exact hattempt 0 h

theorem reads_completed {α : Type} {E : List (Entry Platform) → Env → Prop} {p : Handler α}
    {i : TransferId} (hp : Handler.Reads p) (hs : StatusIn i [.completed] w) :
    Handler.Always cfg E (fun _ _ => StatusIn i [.completed]) (fun _ _ => StatusIn i [.completed])
      p h w := by
  refine (hp.calls.always (J := fun _ => StatusIn i [.completed]) ?_ hs).mono (fun _ _ _ hJ => hJ)
    (fun _ _ _ hJ => hJ.2)
  exact fun q hq h e w _ hs => statusIn_reads hq (by simp) hs

theorem runSaga_completes (hw : Payable t₀ a w) :
    Handler.Always cfg (InTime t₀) (fun _ _ => StatusIn a.transferId [.completed])
      (fun _ _ => StatusIn a.transferId [.completed]) (runSaga a) h w := by
  refine Prog.always_bind.mpr (Prog.always_bind.mpr ?_)
  refine (forward_completes sagaSteps [] hw (by simp [sagaSteps])).mono ?_ fun _ _ _ hx => hx
  rintro ⟨failed,completed⟩ h w ⟨hnone,-,hs⟩
  obtain rfl : failed = none := hnone
  refine reads_completed ?_ ⟨.completed,by simp,hs⟩
  refine reads_bind (buildTransferNotificationPayload_reads _ _) fun _ => ?_
  exact reads_bind (broadcastNotification_reads _) fun _ => broadcastNotification_reads _

theorem settle_completes (t : TicketRemaster.Transfer) (hw : Payable t₀ a w) :
    Handler.Always cfg (InTime t₀) (fun _ _ => StatusIn a.transferId [.completed])
      (fun _ _ => StatusIn a.transferId [.completed]) (settle t a) h w := by
  have hreport : ∀ (settled : Bool) h w, StatusIn a.transferId [.completed] w →
      Handler.Always cfg (InTime t₀) (fun _ _ => StatusIn a.transferId [.completed])
        (fun _ _ => StatusIn a.transferId [.completed])
        (if settled then reportSettled t a
          else pure (.error "INTERNAL_ERROR" "Transfer failed — no credits were charged." 500))
        h w := by
    intro settled h w hs
    cases settled with
    | false => exact hs
    | true => exact reads_completed (reportSettled_reads t a) hs
  refine Prog.always_bind.mpr (Prog.always_handle.mpr (Prog.always_bind.mpr ?_))
  exact (runSaga_completes hw).mono (fun _ h w hs => hreport true h w hs)
    (fun _ h w hs => hreport false h w hs)

variable {w₀ : World} {i : TransferId} {t : TicketRemaster.Transfer}

/-- With nobody but the seller left to verify, the saga gets all that it needs. -/
theorem prepareSettlement_reached {sid : Sid} {otp : Nat}
    {X : Unhandled → List (Entry Platform) → World → Prop} (hw : Reached w₀ i t w)
    (ht : Continues t₀ t) (hsettle : Settleable w₀ t) (hs : t.status = .pendingSellerOtp)
    (hbuyer : t.buyerOtpVerified = true) (hseller : t.sellerOtpVerified = false)
    (hsid : t.sellerVerificationSid = some sid) :
    Handler.Always cfg (InTime t₀)
      (fun r _ w' => ∃ a, r = .ok (t,a) ∧ a.transferId = i ∧ Payable t₀ a w') X
      (prepareSettlement t.sellerId i (some otp)) h w := by
  obtain ⟨b,hb,hfunds⟩ := hsettle.funds
  obtain ⟨b',hb'⟩ := Option.isSome_iff_exists.mp hsettle.account
  obtain ⟨l,hl,-,hticket⟩ := hsettle.offer
  refine getTransfer_answered hw.row ht fun _ => ?_
  simp only [ne_eq,not_true_eq_false,if_false,hsid,hs,hbuyer,hseller,Bool.false_eq_true,or_self]
  refine getUser_answered (hw.users hsettle.seller) fun seller _ => ?_
  refine verifyOtp_answered fun _ => ?_
  refine patchTransfer_answered hw ht (by simp) rfl fun _ _ w₁ hw₁ => ?_
  have hcredits : w₁.credits = w₀.credits := hw₁.frame.credits (by simp)
  have hlistings : w₁.listings = w₀.listings := hw₁.frame.listings (by simp)
  have htickets : w₁.tickets = w₀.tickets := hw₁.frame.tickets (by simp)
  refine Prog.always_bind.mpr (answered_always (K := fun v w' => v = l ∧ w' = w₁)
    (fun e _ => ⟨l,w₁,?_,rfl,rfl⟩) fun v w' hv => ?_)
  · simp [World.serve,World.getListing,hlistings,hl,World.found]
  obtain ⟨rfl,rfl⟩ := hv
  refine answered_always (K := fun v w'' => v = ⟨some b,none,none⟩ ∧ w'' = w')
    (fun e _ => ⟨_,w',?_,rfl,rfl⟩) fun v w'' hv => ?_
  · simp [World.serve,World.getCredits,hcredits,hb]
  obtain ⟨rfl,rfl⟩ := hv
  have hpays : ¬ getCreditBalance ⟨some b,none,none⟩ < t.creditAmount := by
    simpa [getCreditBalance] using hfunds
  simp only [hpays,if_false]
  refine answered_always (K := fun v w' => v = ⟨some b',none,none⟩ ∧ w' = w'')
    (fun e _ => ⟨_,w'',?_,rfl,rfl⟩) fun v w' hv => ?_
  · simp [World.serve,World.getCredits,hcredits,hb']
  obtain ⟨rfl,rfl⟩ := hv
  refine ⟨_,rfl,rfl,?_,?_,⟨v.ticketId,rfl,?_⟩,?_,_,hw₁.row,ht.patched _⟩
  · simp [hcredits,hb]
  · simp [hcredits,hb']
  · rwa [htickets]
  · simp [hlistings,hl]

theorem sellerVerify_reached {sid : Sid} {otp : Nat} (hw : Reached w₀ i t w)
    (ht : Continues t₀ t) (hsettle : Settleable w₀ t) (hs : t.status = .pendingSellerOtp)
    (hbuyer : t.buyerOtpVerified = true) (hseller : t.sellerOtpVerified = false)
    (hsid : t.sellerVerificationSid = some sid) :
    Handler.Always cfg (InTime t₀) (fun _ _ => StatusIn i [.completed])
      (fun _ _ => StatusIn i [.completed]) (sellerVerify t.sellerId i (some otp)) h w := by
  refine Prog.always_bind.mpr
    ((prepareSettlement_reached hw ht hsettle hs hbuyer hseller hsid).mono ?_ fun _ _ _ hx => hx)
  rintro r h w ⟨a,rfl,rfl,hpayable⟩
  exact settle_completes t hpayable

end Settlement

/-- The user who makes a request. -/
def Request.userId : Request → Option UserId
  | .initiate userId _ | .buyerVerify userId _ _ | .sellerAccept userId _ | .sellerReject userId _
  | .sellerVerify userId _ _ | .resendOtp userId _ | .cancelTransfer userId _
  | .getTransfer userId _ => some userId
  | .timeoutMessage _ _ => none

/-- There are requests by the buyer and the seller that complete the transfer, whenever they are
made in time. -/
def CanComplete (cfg : SeatConfig) (w : World) (i : TransferId) (t : TicketRemaster.Transfer) :
    Prop :=
  ∃ requests : List Request,
    (∀ req ∈ requests, req.userId = some t.buyerId ∨ req.userId = some t.sellerId) ∧
    ∀ turns : List Turn, turns.map Turn.request = requests →
      (∀ x ∈ turns, ∀ h, InTime t h (x.answers h)) →
      statusOf (serveAll cfg turns w) i = some .completed

section Completion

variable {cfg : SeatConfig} {w : World} {i : TransferId} {t : TicketRemaster.Transfer}

theorem Settleable.patched (hs : Settleable w t) (p : TransferPatch) :
    Settleable w (World.setTransfer p t) := ⟨hs.buyer,hs.seller,hs.funds,hs.account,hs.offer⟩

theorem turn_ends {x : Turn} {req : Request} {J : World → Prop} (hreq : x.request = req)
    (hx : ∀ h, InTime t h (x.answers h))
    (hp : Handler.Always cfg (InTime t) (fun _ _ => J) (fun _ _ => J) req.handler [] w) :
    J (x.serve cfg w) := by
  subst hreq
  exact runAlone_ends hp hx

theorem statusOf_completed (hs : StatusIn i [.completed] w) : statusOf w i = some .completed := by
  obtain ⟨s,hmem,hstatus⟩ := hs
  rwa [List.mem_singleton.mp hmem] at hstatus

theorem awaitsBuyer_canComplete (hrow : w.transfers.lookup i = some t) (hsettle : Settleable w t)
    (hs : t.status = .pendingBuyerOtp) (hbuyer : t.buyerOtpVerified = false)
    (hseller : t.sellerOtpVerified = false) : CanComplete cfg w i t := by
  refine ⟨[.resendOtp t.buyerId i,.buyerVerify t.buyerId i (some 0),
    .sellerVerify t.sellerId i (some 0)],by simp [Request.userId],fun turns hturns htime => ?_⟩
  obtain ⟨x,rest,rfl,hx,hrest⟩ := List.map_eq_cons_iff.mp hturns
  obtain ⟨y,rest,rfl,hy,hrest⟩ := List.map_eq_cons_iff.mp hrest
  obtain ⟨z,rest,rfl,hz,hrest⟩ := List.map_eq_cons_iff.mp hrest
  obtain rfl := List.map_eq_nil_iff.mp hrest
  have hstart : Reached w i t w := ⟨hrow,.refl _ w⟩
  obtain ⟨sid,h₁⟩ := turn_ends hx (htime x (by simp))
    (Prog.always_bind.mpr (resendOtp_buyer hstart (.refl t) hsettle.buyer hs))
  have ht₁ := (Continues.refl t).patched { buyerVerificationSid := some sid }
  have hverify := @buyerVerify_reached cfg t _ [] w _ i _ 0 h₁ ht₁ hsettle.buyer hsettle.seller
    hs hbuyer rfl
  obtain ⟨sid',h₂⟩ := turn_ends hy (htime y (by simp)) (Prog.always_bind.mpr hverify)
  have ht₂ : Continues t (buyerVerified sid' _) := (ht₁.patched _).patched _
  have hsettles := @sellerVerify_reached cfg t [] _ w i _ _ 0 h₂ ht₂
    (((hsettle.patched _).patched _).patched _) rfl rfl hseller rfl
  exact statusOf_completed (turn_ends hz (htime z (by simp)) (Prog.always_bind.mpr hsettles))

theorem awaitsSeller_canComplete (hrow : w.transfers.lookup i = some t) (hsettle : Settleable w t)
    (hs : t.status = .pendingSellerOtp) (hbuyer : t.buyerOtpVerified = true)
    (hseller : t.sellerOtpVerified = false) : CanComplete cfg w i t := by
  refine ⟨[.resendOtp t.sellerId i,.sellerVerify t.sellerId i (some 0)],by simp [Request.userId],
    fun turns hturns htime => ?_⟩
  obtain ⟨x,rest,rfl,hx,hrest⟩ := List.map_eq_cons_iff.mp hturns
  obtain ⟨y,rest,rfl,hy,hrest⟩ := List.map_eq_cons_iff.mp hrest
  obtain rfl := List.map_eq_nil_iff.mp hrest
  have hstart : Reached w i t w := ⟨hrow,.refl _ w⟩
  obtain ⟨sid,h₁⟩ := turn_ends hx (htime x (by simp))
    (Prog.always_bind.mpr (resendOtp_seller hstart (.refl t) hsettle.seller hs))
  have ht₁ := (Continues.refl t).patched { sellerVerificationSid := some sid }
  have hsettles := @sellerVerify_reached cfg t [] _ w i _ _ 0 h₁ ht₁ (hsettle.patched _) hs hbuyer
    hseller rfl
  exact statusOf_completed (turn_ends hy (htime y (by simp)) (Prog.always_bind.mpr hsettles))

theorem Awaits.canComplete (ht : Awaits t) (hrow : w.transfers.lookup i = some t)
    (hsettle : Settleable w t) : CanComplete cfg w i t := by
  rcases ht with ⟨hs,hbuyer,hseller⟩ | ⟨hs,hbuyer,hseller⟩
  · exact awaitsBuyer_canComplete hrow hsettle hs hbuyer hseller
  · exact awaitsSeller_canComplete hrow hsettle hs hbuyer hseller

/-- A dead end cannot be completed: there is a time before every expiry. -/
theorem DeadEnd.not_canComplete (hd : DeadEnd cfg w i) : ¬ CanComplete cfg w i t := by
  rintro ⟨requests,-,hcompletes⟩
  refine hd _ (hcompletes (requests.map fun req => ⟨req,fun _ => ⟨t.expiresAt,0,0,true,true,none⟩⟩)
    ?_ ?_)
  · simp [Function.comp_def]
  · intro x hx h
    obtain ⟨req,-,rfl⟩ := List.mem_map.mp hx
    exact ⟨rfl,rfl,by simp [World.isTransferExpired]⟩

end Completion

end TicketRemaster.Transfer
