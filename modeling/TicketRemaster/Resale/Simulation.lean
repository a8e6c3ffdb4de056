import TicketRemaster.Resale.Requests
import TicketRemaster.Verification.Calls
set_option autoImplicit false

/-! Each request simulated by one step of the resale market. -/

namespace TicketRemaster.Resale

open Resumption SeatInventory Transfer Verification

variable {cfg : SeatConfig} {T : Option TransferId} {m₀ : Market} {w : World}
  {h : List (Entry Platform)}

section Transfers

theorem quietStatus_open {i : TransferId} {d : Deal} {t : TicketRemaster.Transfer}
    (hd : m₀.deals i = some d) (hf : d.Follows (transferDeal t)) (ho : openStatus t.status)
    {s : TransferStatus} (hs : s ≠ .completed) : QuietStatus m₀ i s := by
  intro d' hd'
  obtain rfl : d = d' := Option.some.inj (hd.symm.trans hd')
  exact ⟨hs,(hf.open ho).1,fun _ => hf.open ho⟩

theorem quietStatus_closed {i : TransferId} {d : Deal} {t : TicketRemaster.Transfer}
    (hd : m₀.deals i = some d) (hf : d.Follows (transferDeal t)) (ht : t.status ≠ .completed)
    {s : TransferStatus} (hs : s ≠ .completed) (hc : ¬ openStatus s) : QuietStatus m₀ i s := by
  intro d' hd'
  obtain rfl : d = d' := Option.some.inj (hd.symm.trans hd')
  exact ⟨hs,fun h => ht (hf.completed.mpr h),fun h => absurd h hc⟩

theorem calls_reads {α : Type} {p : Handler α} (hp : Handler.Reads p) :
    p.Calls (QuietCall m₀) (fun _ => True) :=
  hp.calls.mono (fun _ h => quietCall_reads h) (fun _ _ => trivial)

theorem quietCall_read {q : Http} (hq : q.writes = none) : QuietCall m₀ (.http q) :=
  quietCall_reads (.inl hq)

theorem serve_createTransfer_ok {e : Env} {data : NewTransfer} {v : CreatedTransfer} {w' : World}
    (hs : w.serve e (.createTransfer data) = (.ok v,w')) : (market w).deals v.transferId = none ∧
      market w' = (market w).addDeal v.transferId
        ⟨data.listingId,data.sellerId,.pendingSellerAcceptance⟩ := by
  simp only [World.serve,World.createTransfer] at hs
  split at hs
  · cases hs
  · rename_i hnew
    cases hs
    refine ⟨?_,Market.ext rfl rfl (lookup_map_insert ..)⟩
    simpa [market] using hnew

theorem openTransfer_sim {buyerId : UserId} {l : ListingId} {listing : Listing}
    (hl : w.listings.lookup l = some listing) (ha : listing.status = .active) :
    Sim cfg T (market w) (openTransfer buyerId l listing) h w := by
  obtain ⟨f,hf,hafter⟩ := openTransfer_after buyerId l listing
  rw [hf]
  refine healthy_always (fun e v w' he hs => ?_) (fun e err w' he hs => ?_)
  · obtain ⟨hnew,hm⟩ := serve_createTransfer_ok hs
    have hdeal : (market w').deals v.transferId =
        some ⟨l,listing.sellerId,.pendingSellerAcceptance⟩ := by rw [hm]; exact addDeal_same
    have hact : Act (market w) (.openDeal v.transferId l) (market w') := by
      rw [hm]
      exact .openDeal (o := listingOffer listing) hnew (by simp [market,hl]) ha
    refine sim_act ?_ (.refl _) hact (by simp [Action.patch]) (by simp [Action.patch])
    refine hafter _ _ (fun _ => quietCall_reads) fun transfer ht sid => quietCall_patch ?_
    cases ht
    intro s hs d hd
    cases hs
    rw [hdeal] at hd
    cases hd
    exact ⟨by decide,by simp,fun _ => by simp [openStatus]⟩
  · have hw : w' = w := by
      simp only [World.serve,World.createTransfer] at hs
      split at hs <;> cases hs
      rfl
    subst hw
    refine sim_keep (hafter _ _ (fun _ => quietCall_reads) fun transfer ht => ?_) (.refl _)
    cases ht

theorem initiate_sim (buyerId : UserId) (listingId : Option ListingId) :
    Sim cfg T (market w) (initiate buyerId listingId) h w := by
  cases listingId with
  | none => exact simulates_keep (.refl _)
  | some l =>
    refine getListing_always (fun hl => ?_) (fun listing hl => ?_)
    · exact simulates_keep (.refl _)
    · simp only
      split
      · exact simulates_keep (.refl _)
      · rename_i hact
        split
        · exact simulates_keep (.refl _)
        · refine healthy_always (fun e v w' he hs => ?_) (fun e err w' he hs => ?_)
          · obtain ⟨rfl,-⟩ := World.serve_getCredits_ok hs
            simp only
            split
            · exact simulates_keep (.refl _)
            · exact openTransfer_sim hl (not_not.mp hact)
          · have hw : (w.serve e (.getCredits buyerId)).2 = w := World.serve_read rfl
            rw [hs] at hw
            subst hw
            exact simulates_keep (.refl _)

/-- Requests on a transfer that they have read, whose other calls do not show on the market. -/
theorem getTransfer_sim {i : TransferId} {β : Type}
    {f : Except String TicketRemaster.Transfer → Handler β}
    (herr : ∀ code, (f (.error code)).Calls (QuietCall (market w)) (fun _ => True))
    (hok : ∀ t d, (market w).deals i = some d → d.Follows (transferDeal t) →
      (f (.ok t)).Calls (QuietCall (market w)) (fun _ => True)) :
    Sim cfg T (market w) (callService (.getTransfer i) >>= f) h w :=
  getTransfer_always (.refl _) (fun code _ => sim_keep (herr code) (.refl _))
    (fun t d _ hq hd hf _ _ => sim_keep (hok t d hd hf) hq)

theorem buyerVerify_sim (buyerId : UserId) (i : TransferId) (otp : Option Nat) :
    Sim cfg T (market w) (buyerVerify buyerId i otp) h w := by
  cases otp with
  | none => exact simulates_keep (.refl _)
  | some otp =>
    refine getTransfer_sim (fun _ => trivial) (fun t d hd hf => ?_)
    simp only
    split
    · trivial
    · split
      · trivial
      · split
        · trivial
        · rename_i hs
          have hopen : openStatus t.status := by
            rw [not_not.mp (not_or.mp hs).1]
            decide
          refine ask_calls (quietCall_read rfl) fun buyer => ?_
          cases buyer with
          | error code => trivial
          | ok buyer =>
            refine ask_calls (quietCall_read rfl) fun verify => ?_
            split
            · refine askSeller_calls (fun _ => quietCall_reads) (quietCall_patch (by simp))
                fun sid => quietCall_patch fun s hs => ?_
              cases hs
              exact quietStatus_open hd hf hopen (by decide)
            · trivial

theorem sellerAccept_sim (sellerId : UserId) (i : TransferId) :
    Sim cfg T (market w) (sellerAccept sellerId i) h w := by
  refine getTransfer_sim (fun _ => trivial) (fun t d hd hf => ?_)
  simp only
  split
  · trivial
  · split
    · trivial
    · rename_i hs
      have hopen : openStatus t.status := by
        rw [not_not.mp hs]
        decide
      refine ask_calls (quietCall_read rfl) fun buyer => ?_
      cases buyer with
      | error code => trivial
      | ok buyer =>
        refine ask_calls (quietCall_read rfl) fun otp => ?_
        cases otp with
        | error code => trivial
        | ok sid =>
          refine ask_calls (quietCall_patch ?_) fun _ => ?_
          · intro s hs
            cases hs
            exact quietStatus_open hd hf hopen (by decide)
          refine Prog.calls_bind (calls_reads (loadEnrichedTransfer_reads _ _)) fun _ => ?_
          exact Prog.calls_bind (calls_reads (broadcastTransferNotification_reads _ _))
            fun _ => trivial

theorem resendOtp_sim (userId : UserId) (i : TransferId) :
    Sim cfg T (market w) (resendOtp userId i) h w := by
  refine getTransfer_sim (fun _ => trivial) (fun t d hd hf => ?_)
  simp only
  split
  · trivial
  · split
    · exact resendTo_calls (fun _ => quietCall_reads) (fun _ => quietCall_patch (by simp))
    · split
      · exact resendTo_calls (fun _ => quietCall_reads) (fun _ => quietCall_patch (by simp))
      · trivial

/-- To close a transfer puts its listing back on the market, if there is one. -/
theorem closeTransfer_sim {i : TransferId} {t : TicketRemaster.Transfer} {eventType : String}
    (hq : Quiet m₀ (market w)) (hc : QuietStatus m₀ i .cancelled) :
    Sim cfg none m₀ (closeTransfer i t eventType) h w := by
  refine ignored_always fun e reply he => ?_
  have hq₁ : Quiet m₀ (market (w.serve e (.patchTransfer i { status := some .cancelled })).2) :=
    serve_patchTransfer_quiet hq fun s hs => by cases hs; exact hc
  refine getListing_always (fun _ => ?_) (fun listing hl => ?_)
  · exact sim_keep (calls_reads (broadcastTransferNotification_reads _ _)) hq₁
  · refine ignored_always fun e' reply' he' => ignored_always fun e'' reply'' he'' => ?_
    have hm := serve_updateTicket_market (e := e'') (w := ((w.serve e (.patchTransfer i
      { status := some .cancelled })).2.serve e' (.updateListing t.listingId .active)).2)
      listing.ticketId (p := { status := some .listed }) (by decide)
      (by intro s hs; cases hs; decide) rfl
    rw [serve_updateListing_market t.listingId (by decide)] at hm
    refine sim_act (a := .reopen t.listingId listing.ticketId)
      (calls_reads (broadcastTransferNotification_reads _ _)) hq₁ ?_ ?_ (fun _ => rfl)
    · rw [hm]
      exact .reopen (o := listingOffer listing) (by simp [market,hl])
    · intro x hx
      cases hx
      simp [patchedListings,patchedListing]

theorem sellerReject_sim (sellerId : UserId) (i : TransferId) :
    Sim cfg none (market w) (sellerReject sellerId i) h w := by
  refine getTransfer_always (.refl _) (fun _ _ => simulates_keep (.refl _))
    (fun t d w' hq hd hf hrow hframe => ?_)
  simp only
  split
  · exact simulates_keep hq
  · split
    · exact simulates_keep hq
    · rename_i hs
      have hopen : openStatus t.status := by
        rw [not_not.mp hs]
        decide
      exact Prog.always_bind.mpr (closeTransfer_sim hq (quietStatus_open hd hf hopen (by decide)))

theorem cancelTransfer_sim (userId : UserId) (i : TransferId) :
    Sim cfg none (market w) (cancelTransfer userId i) h w := by
  refine getTransfer_always (.refl _) (fun _ _ => simulates_keep (.refl _))
    (fun t d w' hq hd hf hrow hframe => ?_)
  simp only
  split
  · exact simulates_keep hq
  · split
    · exact simulates_keep hq
    · rename_i hs
      split
      · exact simulates_keep hq
      · refine Prog.always_bind.mpr (closeTransfer_sim hq ?_)
        exact quietStatus_closed hd hf hs (by decide) (by decide)

end Transfers

section Settlement

/-- Where `seller_verify` stands when it starts the saga: the transfer was open when it was
read, and nothing but its progress has changed since. -/
structure Ready (m₀ : Market) (a : Saga) (w : World) : Prop where
  quiet : Quiet m₀ (market w)
  deal : ∃ m₁ d, Quiet m₀ m₁ ∧ m₁.deals a.transferId = some d ∧ openStatus d.status ∧
    d.listingId = a.listingId ∧ d.sellerId = a.sellerId ∧
    (market w).complete a.transferId = m₁.complete a.transferId
  ticket : a.ticketId = ((market w).listings a.listingId).map (·.ticketId)

/-- How `seller_verify` gets to its saga, or does not. -/
def Prepared (m₀ : Market) (i : TransferId)
    (r : Except (Response SettledTransfer) (TicketRemaster.Transfer × Saga)) (w : World) : Prop :=
  match r with
  | .error _ => Quiet m₀ (market w)
  | .ok (t,a) => Ready m₀ a w ∧ a.transferId = i ∧ t.sellerId = a.sellerId

theorem readBalances_always {i : TransferId} {t : TicketRemaster.Transfer}
    {listing : Option Listing} {X : Unhandled → List (Entry Platform) → World → Prop}
    (hq : Quiet m₀ (market w)) (hfailed : QuietStatus m₀ i .failed)
    (hready : ∀ b b', Ready m₀
      ⟨i,t.buyerId,t.sellerId,t.creditAmount,listing.map (·.ticketId),t.listingId,b,b'⟩ w) :
    Handler.Always cfg Healthy (fun r _ w' => Prepared m₀ i r w') X
      (readBalances t.sellerId i t listing) h w := by
  have hfail : ∀ (e : Env),
      Quiet m₀ (market (w.serve e (.patchTransfer i { status := some .failed })).2) :=
    fun e => serve_patchTransfer_quiet hq fun s hs => by cases hs; exact hfailed
  refine read_always rfl fun buyerCredit reply => ?_
  cases buyerCredit with
  | error code => exact ignored_always fun e reply he => hfail e
  | ok buyerCredit =>
    simp only
    split
    · exact ignored_always fun e reply he => hfail e
    · refine read_always rfl fun sellerCredit reply => ?_
      cases sellerCredit with
      | error code => exact hq
      | ok sellerCredit => exact ⟨hready _ _,rfl,rfl⟩

theorem confirmSeller_always {i : TransferId} {t : TicketRemaster.Transfer} {d : Deal}
    {X : Unhandled → List (Entry Platform) → World → Prop} (hq : Quiet m₀ (market w))
    (hd : m₀.deals i = some d) (hf : d.Follows (transferDeal t)) (hopen : openStatus t.status)
    (hrow : w.transfers.lookup i = some t) :
    Handler.Always cfg Healthy (fun r _ w' => Prepared m₀ i r w') X
      (confirmSeller t.sellerId i t) h w := by
  refine ignored_always fun e reply he => ?_
  have hcomplete := serve_patchTransfer_complete (e := e) (w := w) i
    { sellerOtpVerified := some true }
  have hq₂ : Quiet m₀
      (market (w.serve e (.patchTransfer i { sellerOtpVerified := some true })).2) :=
    serve_patchTransfer_quiet hq (by simp)
  generalize (w.serve e (.patchTransfer i { sellerOtpVerified := some true })).2 = w₂
    at hcomplete hq₂
  have hready : ∀ (listing : Option Listing) (b b' : Credits),
      w₂.listings.lookup t.listingId = listing → Ready m₀
        ⟨i,t.buyerId,t.sellerId,t.creditAmount,listing.map (·.ticketId),t.listingId,b,b'⟩ w₂ := by
    intro listing b b' hl
    refine ⟨hq₂,⟨market w,transferDeal t,hq,?_,hopen,rfl,rfl,hcomplete⟩,?_⟩
    · simp [market,hrow]
    · simp only [market,hl,Option.map_map]
      rfl
  refine Prog.always_bind.mpr (getListing_always (fun hl => ?_) (fun r hl => ?_))
  · exact readBalances_always hq₂ (quietStatus_open hd hf hopen (by decide))
      fun b b' => hready none b b' hl
  · exact readBalances_always hq₂ (quietStatus_open hd hf hopen (by decide))
      fun b b' => hready (some r) b b' hl

theorem prepareSettlement_always (sellerId : UserId) (i : TransferId) (otp : Option Nat)
    {X : Unhandled → List (Entry Platform) → World → Prop} :
    Handler.Always cfg Healthy (fun r _ w' => Prepared (market w) i r w') X
      (prepareSettlement sellerId i otp) h w := by
  cases otp with
  | none => exact Quiet.refl _
  | some otp =>
    refine getTransfer_always (.refl _) (fun _ _ => Quiet.refl _)
      (fun t d w' hq hd hf hrow hframe => ?_)
    simp only
    split
    · exact hq
    · rename_i hseller
      obtain rfl := not_not.mp hseller
      split
      · exact hq
      · split
        · exact hq
        · rename_i hs
          have hopen : openStatus t.status := by
            rw [not_not.mp (not_or.mp hs).1]
            decide
          refine read_always rfl fun seller reply => ?_
          cases seller with
          | error code => exact hq
          | ok seller =>
            refine read_always rfl fun verify reply => ?_
            split
            · exact confirmSeller_always hq hd hf hopen hrow
            · exact hq

/-- The steps of a saga that move credits. -/
def moneySteps : List SagaStep := [.buyerDeducted,.sellerCredited,.buyerTxnLogged,.sellerTxnLogged]

theorem forward_append (a : Saga) (l l' completed : List SagaStep) :
    a.forward (l ++ l') completed = a.forward l completed >>= fun r =>
      match r.1 with
      | none => a.forward l' r.2
      | some exc => pure (some exc,r.2) := by
  induction l generalizing completed with
  | nil => rfl
  | cons step rest ih =>
    rw [List.cons_append,Saga.forward,Saga.forward]
    refine Eq.trans ?_ (Prog.bind_assoc _ _ _).symm
    refine congrArg (a.run step >>= ·) (funext fun r => ?_)
    cases r with
    | none => exact ih _
    | some exc => rfl

theorem moneyStep_run {a : Saga} {step : SagaStep} (hs : step ∈ moneySteps) :
    a.run step = a.attempt 0 step := by
  simp only [moneySteps,List.mem_cons,List.not_mem_nil,or_false] at hs
  rcases hs with rfl | rfl | rfl | rfl <;> rfl

/-- Moving credits shows neither on tickets nor on listings nor on transfers. -/
theorem moneyStep_market {a : Saga} {step : SagaStep} {w' : World} (hs : step ∈ moneySteps)
    (hf : World.Frame (a.request 0 step).writes w w') : market w' = market w := by
  simp only [moneySteps,List.mem_cons,List.not_mem_nil,or_false] at hs
  rcases hs with rfl | rfl | rfl | rfl <;>
    exact market_frame hf (by simp [Saga.request,Http.writes]) (by simp [Saga.request,Http.writes])
      (by simp [Saga.request,Http.writes])

theorem forward_money {a : Saga} {l : List SagaStep} (hl : ∀ step ∈ l, step ∈ moneySteps)
    {m : Market} (completed : List SagaStep) {X : Unhandled → List (Entry Platform) → World → Prop}
    (hm : market w = m) :
    Handler.Always cfg Healthy (fun r _ w' => market w' = m ∧
      (r.1 = none → r.2 = completed ++ l) ∧ r.2 ⊆ completed ++ l) X
      (a.forward l completed) h w := by
  induction l generalizing completed h w with
  | nil => exact ⟨hm,fun _ => (List.append_nil _).symm,by simp⟩
  | cons step rest ih =>
    have hstep := hl step List.mem_cons_self
    rw [Saga.forward,moneyStep_run hstep]
    refine attempt_always healthy_definite _ (fun e v w' he hs => ?_) (fun e code w' he hp => ?_)
    · have hf := World.serve_frame e w (a.request 0 step)
      rw [hs] at hf
      refine (ih (fun s hs => hl s (List.mem_cons_of_mem _ hs)) (completed ++ [step])
        ((moneyStep_market hstep hf).trans hm)).mono ?_ (fun _ _ _ hX => hX)
      rintro r h' w'' ⟨hm',hnone,hsub⟩
      rw [List.append_assoc] at hnone hsub
      exact ⟨hm',hnone,hsub⟩
    · have hf := World.frame_of_perform hp
      exact ⟨(moneyStep_market hstep hf).trans hm,by simp,List.subset_append_left _ _⟩

/-- Where a saga has succeeded: the transfer is settled. -/
def Settled (m₀ : Market) (a : Saga) (h : List (Entry Platform)) (w : World) : Prop :=
  ∃ m₁ i, Quiet m₀ m₁ ∧ Act m₁ (.settle a.transferId a.listingId i) (market w) ∧
    (a.listingId,.completed) ∈ patchedListings h

theorem Ready.failedStatus {a : Saga} (hr : Ready m₀ a w) :
    QuietStatus m₀ a.transferId .failed := by
  obtain ⟨m₁,d₁,hq,hd₁,hopen,-⟩ := hr.deal
  intro d hd
  obtain ⟨d',hd',hf⟩ := hq.kept _ d hd
  rw [hd₁] at hd'
  cases hd'
  exact ⟨by decide,(hf.open hopen).1,fun _ => hf.open hopen⟩

/-- A saga that has only moved credits compensates with credits. -/
theorem rollBack_sim {a : Saga} {exc : Unhandled} {completed : List SagaStep}
    {Q : Unit → List (Entry Platform) → World → Prop}
    (hfailed : QuietStatus m₀ a.transferId .failed) (hq : Quiet m₀ (market w))
    (hc : completed ⊆ moneySteps) :
    Handler.Always cfg Healthy Q (fun _ => Simulates T m₀)
      (do a.rollBack completed; .raise exc : Handler Unit) h w := by
  refine Prog.always_bind.mpr (sim_keep (rollBack_calls ?_ (quietCall_patch ?_)
    (fun m => quietCall_reads (.inl rfl))) hq)
  · intro c hmem hstep
    simp only [Saga.compensations,List.mem_cons,List.not_mem_nil,or_false] at hmem
    rcases hmem with rfl | rfl | rfl | rfl | rfl | rfl
    · exact absurd (hc hstep) (by simp [moneySteps])
    · exact absurd (hc hstep) (by simp [moneySteps])
    all_goals exact ⟨by simp [Call.writes,Http.writes],by simp [Call.writes,Http.writes],
      by simp,by simp⟩
  · intro s hs
    cases hs
    exact hfailed

/-- A saga that knows its ticket knows it from the listing. -/
theorem Ready.offer {a : Saga} (hr : Ready m₀ a w) {i : TicketId} (ht : a.ticketId = some i) :
    ∃ o, (market w).listings a.listingId = some o ∧ o.ticketId = i := by
  have hticket := hr.ticket
  rw [ht] at hticket
  exact Option.map_eq_some_iff.mp hticket.symm

theorem ticketTransferred_market {a : Saga} {e : Env} {i : TicketId} {now : Time}
    {v : (a.request now .ticketTransferred).Val} {w' : World} (ht : a.ticketId = some i)
    (hs : w.serve e (a.request now .ticketTransferred) = (.ok v,w')) :
    market w' = (market w).setTicket i fun _ => ⟨a.buyerId,.active⟩ := by
  have hm := serve_updateTicket_market (e := e) (w := w) i
    (p := { ownerId := some a.buyerId, status := some .active }) (by simp)
    (by intro s hs; cases hs; decide) rfl
  rw [← ht] at hm
  rwa [show w.serve e (.updateTicket a.ticketId
    { ownerId := some a.buyerId, status := some .active }) = (.ok v,w') from hs] at hm

theorem listingCompleted_market {a : Saga} {e : Env} {now : Time}
    {v : (a.request now .listingCompleted).Val} {w' : World}
    (hs : w.serve e (a.request now .listingCompleted) = (.ok v,w')) :
    market w' = (market w).setListing a.listingId .completed := by
  have hm := serve_updateListing_market (e := e) (w := w) a.listingId (s := .completed) (by decide)
  rwa [show w.serve e (.updateListing a.listingId .completed) = (.ok v,w') from hs] at hm

/-- The ticket, the listing and the transfer: a settlement, a rollback of credits, or a refused
completion. -/
theorem handOver_sim {a : Saga} (hr : Ready m₀ a w) :
    Handler.Always cfg Healthy (fun _ => Settled m₀ a) (fun _ => Simulates (some a.transferId) m₀)
      (do match ← a.forward [.ticketTransferred,.listingCompleted,.transferCompleted]
              moneySteps with
        | (none,_) => pure ()
        | (some exc,completed) => do a.rollBack completed; .raise exc) h w := by
  obtain ⟨m₁,d,hq,hd,hopen,hlisting,hseller,hcomplete⟩ := hr.deal
  refine Prog.always_bind.mpr ?_
  refine attempt_always healthy_definite .ticketTransferred (fun e v w₅ he hs => ?_)
    (fun e code w₅ he hp => ?_)
  · cases ht : a.ticketId with
    | none =>
      simp only [Saga.request,ht,World.serve,World.updateTicket] at hs
      simp at hs
    | some i =>
      have hm₅ := ticketTransferred_market ht hs
      obtain ⟨o,ho,rfl⟩ := hr.offer ht
      refine attempt_always healthy_definite .listingCompleted (fun e v w₆ he hs => ?_)
        (fun e code w₆ he hp => ?_)
      · have hm₆ := listingCompleted_market hs
        refine datetimeNow_always fun e he => ?_
        refine attempt_always healthy_definite .transferCompleted (fun e v w₇ he hs => ?_)
          (fun e code w₇ he hp => ?_)
        · have hm₇ : market w₇ = m₁.settle a.transferId a.listingId o.ticketId a.buyerId := by
            have hsettle : market w₇ = ((market w).complete a.transferId |>.setTicket o.ticketId
                fun _ => ⟨a.buyerId,.active⟩).setListing a.listingId .completed := by
              rw [serve_patchTransfer_completed hs rfl,hm₆,hm₅]
              rfl
            rw [hsettle,hcomplete]
            rfl
          have hsame : (market w).listings = m₁.listings := congrArg (·.listings) hcomplete
          refine ⟨m₁,o.ticketId,hq,?_,?_⟩
          · rw [hm₇,← hlisting]
            rw [hsame,← hlisting] at ho
            exact .settle hd hopen ho
          · simp [patchedListings,patchedListing,Saga.request]
        · exact Prog.always_bind.mpr (sim_refused (by simp [completionRefused,Saga.request]))
      · -- the listing was there when it was read
        have hlist : (market w₅).listings = (market w).listings := by rw [hm₅]; rfl
        rw [← hlist] at ho
        obtain ⟨r,hr',-⟩ := Option.map_eq_some_iff.mp ho
        rw [healthy_perform he] at hp
        simp [Saga.request,World.serve,World.updateListing,hr',World.allowedStatuses,
          World.httpReply] at hp
  · have hw : w₅ = w := by
      have := definite_error (healthy_definite h e he) (by simp [Saga.request,Http.writes])
        (congrArg Prod.fst hp)
      rwa [hp] at this
    subst hw
    exact rollBack_sim hr.failedStatus hr.quiet (fun _ hs => hs)

theorem executeSaga_sim {a : Saga} (hr : Ready m₀ a w) :
    Handler.Always cfg Healthy (fun _ => Settled m₀ a) (fun _ => Simulates (some a.transferId) m₀)
      (executeSaga a) h w := by
  have hsteps : a.forward sagaSteps [] = a.forward moneySteps [] >>= fun r =>
      match r.1 with
      | none => a.forward [.ticketTransferred,.listingCompleted,.transferCompleted] r.2
      | some exc => pure (some exc,r.2) := forward_append a moneySteps _ []
  unfold executeSaga
  rw [hsteps]
  refine Prog.always_bind.mpr (Prog.always_bind.mpr ?_)
  refine (forward_money (fun _ hs => hs) [] rfl).mono ?_ (fun _ _ _ hX => hX)
  rintro ⟨r,completed⟩ h' w' ⟨hm,hnone,hsub⟩
  have hr' : Ready m₀ a w' := ⟨by rw [hm]; exact hr.quiet,by rw [hm]; exact hr.deal,
    by rw [hm]; exact hr.ticket⟩
  cases r with
  | none =>
    obtain rfl : completed = moneySteps := hnone rfl
    exact Prog.always_bind.mp (handOver_sim hr')
  | some exc => exact rollBack_sim hr.failedStatus hr'.quiet hsub

theorem settle_sim {a : Saga} (t : TicketRemaster.Transfer) (hr : Ready m₀ a w) :
    Sim cfg (some a.transferId) m₀ (settle t a) h w := by
  refine Prog.always_bind.mpr (Prog.always_handle.mpr (Prog.always_bind.mpr (Prog.always_bind.mpr
    ((executeSaga_sim hr).mono ?_ (fun _ _ _ hX => hX)))))
  rintro - h' w' ⟨m₁,i,hq,hact,hlist⟩
  have hs : Simulates (some a.transferId) m₀ h' w' :=
    .inr ⟨_,⟨m₁,_,hq,hact,.refl _⟩,fun x hx => by cases hx; exact hlist,fun _ => rfl⟩
  refine (quiet_always (m := market w') (Prog.calls_bind
    (calls_reads (buildTransferNotificationPayload_reads _ _)) fun payload =>
      Prog.calls_bind (calls_reads (broadcastNotification_reads _)) fun _ =>
        calls_reads (broadcastNotification_reads _)) (.refl _)).mono ?_ ?_
  · exact fun _ _ _ hJ => (quiet_always (calls_reads (reportSettled_reads t a)) hJ.2).mono
      (fun _ _ _ hJ' => hs.quiet (fun _ hx => hJ'.1 (hJ.1 hx)) hJ'.2)
      (fun _ _ _ hJ' => hs.quiet (fun _ hx => hJ'.1 (hJ.1 hx)) hJ'.2)
  · exact fun _ _ _ hJ => hs.quiet hJ.1 hJ.2

theorem sellerVerify_sim (sellerId : UserId) (i : TransferId) (otp : Option Nat) :
    Sim cfg (some i) (market w) (sellerVerify sellerId i otp) h w := by
  refine Prog.always_bind.mpr ((prepareSettlement_always sellerId i otp
    (X := fun _ => Simulates (some i) (market w))).mono ?_ (fun _ _ _ hX => hX))
  intro r h' w' hr
  cases r with
  | error answer => exact simulates_keep hr
  | ok ta =>
    obtain ⟨hready,hi,-⟩ := hr
    subst hi
    exact settle_sim ta.1 hready

end Settlement

section Listings

theorem serve_createListing_ok {e : Env} {data : NewListing} {v : ListingId × Listing} {w' : World}
    (hs : w.serve e (.createListing data) = (.ok v,w')) : (market w).listings v.1 = none ∧
      market w' = (market w).addListing v.1 ⟨data.ticketId,data.sellerId,.active⟩ := by
  simp only [World.serve,World.createListing] at hs
  split at hs
  · cases hs
  · rename_i hnew
    cases hs
    refine ⟨?_,Market.ext rfl (lookup_map_insert ..) rfl⟩
    simpa [market] using hnew

/-- To list a ticket and to take that back changes nothing. -/
theorem setTicket_back {m : Market} {i : TicketId} {u : UserId}
    (ht : m.tickets i = some ⟨u,.active⟩) :
    (m.setTicket i fun h => { h with status := .listed }).setTicket i
      (fun h => { h with status := .active }) = m := by
  refine Market.ext ?_ rfl rfl
  funext j
  by_cases hj : j = i
  · subst hj
    rw [setTicket_same,setTicket_same,ht]
    rfl
  · rw [setTicket_other hj,setTicket_other hj]

theorem listTicket_sim (userId : UserId) (ticketId : Option TicketId) (price : Option Credits) :
    Sim cfg T (market w) (Marketplace.listTicket userId ticketId price) h w := by
  cases ticketId with
  | none => exact simulates_keep (.refl _)
  | some i =>
    refine getTicket_always (fun _ => simulates_keep (.refl _)) (fun t ht => ?_)
    simp only
    split
    · exact simulates_keep (.refl _)
    · rename_i howner
      split
      · exact simulates_keep (.refl _)
      · rename_i hact
        have hrow : (market w).tickets i = some ⟨t.ownerId,.active⟩ := by
          simp [market,ht,ticketHolding,not_not.mp hact]
        have hset : ∀ e s, s ∈ World.allowedStatusValues → ∀ w : World,
            market (w.serve e (.updateTicket (some i) { status := some s })).2 =
              (market w).setTicket i fun h => { h with status := s } := fun e s hs w =>
          serve_updateTicket_market i (by simp) (by intro s' hs'; cases hs'; exact hs) rfl
        refine healthy_always (fun e v w₁ he hs => ?_) (fun e err w₁ he hs => ?_)
        · have hm₁ := hset e .listed (by decide) w
          rw [hs] at hm₁
          refine healthy_always (fun e v w₂ he hs => ?_) (fun e err w₂ he hs => ?_)
          · obtain ⟨hnew,hm₂⟩ := serve_createListing_ok hs
            refine sim_act (a := .list v.1 i) (by trivial) (.refl _) ?_ (by simp [Action.patch])
              (by simp [Action.patch])
            rw [hm₂,hm₁]
            rw [hm₁] at hnew
            obtain rfl := not_not.mp howner
            exact .list hrow rfl hnew
          · obtain rfl : w₂ = w₁ := by
              have := World.serve_error (q := .createListing _) (by simp [Http.writes])
                (congrArg Prod.fst hs)
              rwa [hs] at this
            refine ignored_always fun e reply he => simulates_keep ?_
            rw [hset e .active (by decide),hm₁,setTicket_back hrow]
            exact .refl _
        · obtain rfl : w₁ = w := by
            have := World.serve_error (q := .updateTicket _ _) (by simp [Http.writes])
              (congrArg Prod.fst hs)
            rwa [hs] at this
          exact simulates_keep (.refl _)

theorem delist_sim (userId : UserId) (l : ListingId) :
    Sim cfg none (market w) (Marketplace.delist userId l) h w := by
  refine getListing_always (fun _ => simulates_keep (.refl _)) (fun r hl => ?_)
  simp only
  split
  · exact simulates_keep (.refl _)
  · split
    · exact simulates_keep (.refl _)
    · rename_i hact
      refine healthy_always (fun e v w₁ he hs => ?_) (fun e err w₁ he hs => ?_)
      · have hm₁ := serve_updateListing_market (e := e) (w := w) l (s := .cancelled) (by decide)
        rw [hs] at hm₁
        refine ignored_always fun e reply he => ?_
        have hm₂ := serve_updateTicket_market (e := e) (w := w₁) r.ticketId
          (p := { status := some .active }) (by simp) (by intro s hs; cases hs; decide) rfl
        rw [hm₁] at hm₂
        refine sim_act (a := .delist l r.ticketId) (by trivial) (.refl _) ?_ ?_
          (fun _ => rfl)
        · rw [hm₂]
          exact .delist (o := listingOffer r) (by simp [market,hl]) (not_not.mp hact)
        · intro x hx
          cases hx
          simp [patchedListings,patchedListing]
      · obtain rfl : w₁ = w := by
          have := World.serve_error (q := .updateListing _ _) (by simp [Http.writes])
            (congrArg Prod.fst hs)
          rwa [hs] at this
        exact simulates_keep (.refl _)

end Listings

section CheckIns

/-- Writes to other tables do not show on the market. -/
theorem quietCall_other {q : Call} (ht : q.writes ≠ some .tickets) (hl : q.writes ≠ some .listings)
    (hd : q.writes ≠ some .transfers) : QuietCall m₀ q := by
  refine ⟨ht,hl,?_,?_⟩
  · rintro data rfl
    exact hd rfl
  · rintro i p s rfl
    exact absurd rfl hd

theorem quietCall_log (d : TicketLog) : QuietCall m₀ (.http (.createTicketLog d)) :=
  quietCall_other (by simp [Call.writes,Http.writes]) (by simp [Call.writes,Http.writes])
    (by simp [Call.writes,Http.writes])

/-- A refusal that is logged. -/
theorem refusal_sim {staff : Staff} {i : TicketId} {s : LogStatus} {α : Type} {r : α}
    (hq : Quiet m₀ (market w)) : Sim cfg T m₀ (do log staff i s; pure r) h w :=
  sim_keep (Prog.calls_bind (log_calls quietCall_log s) fun _ => trivial) hq

theorem markUsed_sim {staff : Staff} {i : TicketId} {t : Ticket} {event : Event}
    {seat : InventoryItem} (hq : Quiet m₀ (market w))
    (ht : (market w).tickets i = some (ticketHolding t)) (hact : t.status = .active) :
    Sim cfg T m₀ (markUsed staff i t event seat) h w := by
  refine ignored_always fun e reply he => ?_
  have hm := serve_updateTicket_market (e := e) (w := w) i (p := { status := some .used })
    (by simp) (by intro s hs; cases hs; decide) rfl
  refine sim_act (a := .checkIn i) ?_ hq ?_ (by simp [Action.patch]) (by simp [Action.patch])
  · refine Prog.calls_bind (log_calls quietCall_log _) fun _ => ?_
    exact Prog.calls_bind (now_calls fun _ => quietCall_reads) fun _ => trivial
  · rw [hm]
    exact .checkIn ht hact

theorem checkPlace_sim {staff : Staff} {i : TicketId} {t : Ticket} {event : Event}
    {seat : InventoryItem} (hq : Quiet m₀ (market w))
    (ht : (market w).tickets i = some (ticketHolding t)) (hact : t.status = .active) :
    Sim cfg T m₀ (checkPlace staff i t event seat) h w := by
  unfold checkPlace
  split
  · exact safeGet_always rfl fun _ _ => refusal_sim hq
  · split
    · split
      · exact refusal_sim hq
      · exact markUsed_sim hq ht hact
    · exact markUsed_sim hq ht hact

theorem checkTicket_sim {staff : Staff} {i : TicketId} {t : Ticket} (hq : Quiet m₀ (market w))
    (ht : (market w).tickets i = some (ticketHolding t)) :
    Sim cfg T m₀ (checkTicket staff i t) h w := by
  refine read_always rfl fun event reply => ?_
  cases event with
  | error code => exact refusal_sim hq
  | ok event =>
    refine safeGet_always rfl fun invData reply => ?_
    simp only
    split
    · exact refusal_sim hq
    · split
      · exact refusal_sim hq
      · split
        · exact refusal_sim hq
        · rename_i hact
          refine safeGet_always rfl fun logs reply => ?_
          simp only
          split
          · exact refusal_sim hq
          · exact checkPlace_sim hq ht (not_not.mp hact)

theorem manualVerify_sim (staff : Staff) (ticketId : Option TicketId) :
    Sim cfg T (market w) (manualVerify staff ticketId) h w := by
  cases ticketId with
  | none => exact simulates_keep (.refl _)
  | some i =>
    refine getTicket_always (fun _ => simulates_keep (.refl _)) (fun t ht => ?_)
    exact checkTicket_sim (.refl _) (by simp [market,ht])

theorem quietCall_lock {q : Call} (hq : q.writes = some .scanLocks ∨ q.writes = none) :
    QuietCall m₀ q := by
  rcases hq with h | h <;> exact quietCall_other (by simp [h]) (by simp [h]) (by simp [h])

theorem scanLocked_sim {v : VerifyConfig} {staff : Staff} {i : TicketId} {t : Ticket}
    (hq : Quiet m₀ (market w)) (ht : (market w).tickets i = some (ticketHolding t)) :
    Sim cfg T m₀ (scanLocked v staff i t) h w := by
  have hcheck : (checkQrTimestamp v staff i t.qrTimestamp).Calls (QuietCall (market w))
      (fun _ => True) :=
    checkQrTimestamp_calls v staff i (fun _ => quietCall_reads) quietCall_log t.qrTimestamp
  refine Prog.always_bind.mpr ((quiet_always hcheck (.refl (market w))).mono ?_
    (fun _ _ _ hJ => simulates_keep (hq.trans hJ.2)))
  intro refusal h' w' hJ
  cases refusal with
  | some r => exact simulates_keep (hq.trans hJ.2)
  | none => exact checkTicket_sim (hq.trans hJ.2) (by rw [hJ.2.tickets,ht])

theorem scan_sim (v : VerifyConfig) (staff : Staff) (qrHash : Option QrHash) :
    Sim cfg T (market w) (scan v staff qrHash) h w := by
  cases qrHash with
  | none => exact simulates_keep (.refl _)
  | some qrHash =>
    refine healthy_always (fun e r w₁ he hs => ?_) (fun e err w₁ he hs => ?_)
    · obtain ⟨rfl,hrow⟩ : w₁ = w ∧ w.tickets.lookup r.1 = some r.2 := by
        simp only [World.serve,World.getTicketByQrHash,World.found] at hs
        split at hs
        · cases hs
          rename_i hfind
          exact ⟨rfl,Table.findRow_lookup hfind⟩
        · cases hs
      have hlock : (acquireScanLock v r.1).Calls (QuietCall (market w₁)) (fun _ => True) :=
        acquireScanLock_calls (fun _ => quietCall_reads) fun _ _ => quietCall_lock (.inl rfl)
      refine Prog.always_bind.mpr ((quiet_always hlock (.refl (market w₁))).mono ?_
        (fun _ _ _ hJ => simulates_keep hJ.2))
      intro token h' w' hJ
      cases token with
      | none => exact simulates_keep hJ.2
      | some token =>
        have hrelease : ∀ m, (releaseScanLock r.1 token).Calls (QuietCall m) (fun _ => True) :=
          fun m => releaseScanLock_calls (fun _ => quietCall_reads)
            (fun _ => quietCall_lock (.inl rfl)) token
        refine Prog.always_ensuring.mpr ((scanLocked_sim (T := T) hJ.2 ?_).mono ?_ ?_)
        · rw [hJ.2.tickets]
          simp [market,hrow]
        all_goals
          exact fun _ h'' w'' hs => (quiet_always (hrelease _) (.refl (market w''))).mono
            (fun _ _ _ hJ' => hs.quiet hJ'.1 hJ'.2) (fun _ _ _ hJ' => hs.quiet hJ'.1 hJ'.2)
    · have hw : (w.serve e (.getTicketByQrHash qrHash)).2 = w := World.serve_read rfl
      rw [hs] at hw
      subst hw
      exact simulates_keep (.refl _)

theorem getQr_sim (qrTtl : Time) (userId : UserId) (i : TicketId) :
    Sim cfg T (market w) (getQr qrTtl userId i) h w := by
  refine getTicket_always (fun _ => simulates_keep (.refl _)) (fun t ht => ?_)
  simp only
  split
  · exact simulates_keep (.refl _)
  · split
    · exact simulates_keep (.refl _)
    · refine datetimeNow_always fun e₀ _ => ?_
      have hm : ∀ e, market (w.serve e (.updateTicket (some i) {
          qrHash := some (.sha256 i userId t.eventId t.venueId e₀.time)
          qrTimestamp := some e₀.time })).2 = market w :=
        fun e => serve_updateQr_market i rfl rfl
      refine healthy_always (fun e v w' he hs => ?_) (fun e err w' he hs => ?_)
      · have hw := hm e
        rw [hs] at hw
        refine sim_keep (Prog.calls_bind (safeGet_calls (quietCall_read rfl)) fun _ =>
          Prog.calls_bind (safeGet_calls (quietCall_read rfl)) fun _ => trivial) ?_
        rw [hw]
        exact .refl _
      · have hw := hm e
        rw [hs] at hw
        refine simulates_keep ?_
        rw [hw]
        exact .refl _

end CheckIns

/-- A complete, healthy request is one step of the market, unless its completion of a transfer
is refused. -/
theorem request_sim (cfg : SeatConfig) (v : VerifyConfig) (req : Request) (w : World) :
    Sim cfg req.settles (market w) (req.handler v) [] w := by
  cases req with
  | initiate buyerId listingId => exact sim_discard (initiate_sim buyerId listingId)
  | buyerVerify buyerId transferId otp => exact sim_discard (buyerVerify_sim buyerId transferId otp)
  | sellerAccept sellerId transferId => exact sim_discard (sellerAccept_sim sellerId transferId)
  | sellerReject sellerId transferId => exact sim_discard (sellerReject_sim sellerId transferId)
  | sellerVerify sellerId transferId otp =>
    exact sim_discard (sellerVerify_sim sellerId transferId otp)
  | resendOtp userId transferId => exact sim_discard (resendOtp_sim userId transferId)
  | cancelTransfer userId transferId => exact sim_discard (cancelTransfer_sim userId transferId)
  | listTicket userId ticketId price => exact sim_discard (listTicket_sim userId ticketId price)
  | delist userId listingId => exact sim_discard (delist_sim userId listingId)
  | scan staff qrHash => exact sim_discard (scan_sim v staff qrHash)
  | manualVerify staff ticketId => exact sim_discard (manualVerify_sim staff ticketId)
  | getQr userId ticketId => exact sim_discard (getQr_sim v.qrTtl userId ticketId)

end TicketRemaster.Resale
