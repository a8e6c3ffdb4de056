import TicketRemaster.Resale.Consistency
set_option autoImplicit false

/-! When a listing is sold at most once, and by the ticket's owner: as long as no listing is
taken off the market while another transfer of it is still open. -/

namespace TicketRemaster.Resale

open Resumption SeatInventory Relation Transfer

/-- A request reactivates only active listings, completes or cancels a listing only when no
transfer of it is open besides the one it settles, and no settlement compensates. -/
structure SellsAlone (req : Request) (w : World) (past : List (Entry Platform)) : Prop where
  reopens : ∀ p ∈ patchedListings past, p.2 = .active → onOffer w p.1
  ends : ∀ p ∈ patchedListings past, p.2 ≠ .active → ∀ row ∈ w.transfers.entries,
    row.2.listingId = p.1 → openStatus row.2.status → req.settles = some row.1
  completes : past.any completionRefused = false

variable {cfg : SeatConfig} {v : Verification.VerifyConfig} {w w' w₀ : World}

theorem deal_row {t : TransferId} {d : Deal} (h : (market w).deals t = some d) :
    ∃ r, w.transfers.lookup t = some r ∧ transferDeal r = d :=
  Option.map_eq_some_iff.mp h

theorem SellsAlone.alone {req : Request} {past : List (Entry Platform)} {a : Action}
    (hC : SellsAlone req w past) (hp : ∀ p, a.patch = some p → p ∈ patchedListings past)
    (hsettled : a.patch ≠ none → a.settled = req.settles) : a.Alone (market w) where
  reopens l hl := active_of_onOffer (hC.reopens _ (hp _ hl) rfl)
  ends l s hl hne t d hd ho hdl := by
    obtain ⟨r,hr,rfl⟩ := deal_row hd
    have hmem : ⟨t,r⟩ ∈ w.transfers.entries := AList.mem_lookup_iff.mp hr
    rw [hsettled (by rw [hl]; simp)]
    exact hC.ends _ (hp _ hl) hne _ hmem hdl ho

theorem Serves.sellsAlone (h : Serves cfg v SellsAlone w w') :
    ∃ a, Step a (market w) (market w') ∧ a.Alone (market w) := by
  cases h with
  | request req ω hω hC =>
    obtain ⟨a,hstep,hpatch,hsettled⟩ := run_simulates req hω hC.completes
    exact ⟨a,hstep,hC.alone hpatch hsettled⟩

/-- The invariant of the runs: a consistent market with exclusive sales. -/
def Sound (m : Market) : Prop := Consistent m ∧ Exclusive m

theorem Serves.sound (h : Serves cfg v SellsAlone w w') (hs : Sound (market w)) :
    Sound (market w') := by
  obtain ⟨a,hstep,hal⟩ := h.sellsAlone
  exact ⟨hstep.consistent (hstep.onOffer hal hs.2) hs.1,hstep.exclusive hal hs.2⟩

theorem sound_run (hs : Sound (market w)) (hrun : ReflTransGen (Serves cfg v SellsAlone) w w') :
    Sound (market w') := by
  induction hrun with
  | refl => exact hs
  | tail _ h ih => exact h.sound ih

theorem sound_empty (hl : w₀.listings = ∅) (ht : w₀.transfers = ∅) : Sound (market w₀) := by
  have hno : ∀ t, (market w₀).deals t = none := fun t => by simp [market,ht]
  refine ⟨consistent_empty hl,fun t d hd _ => ?_,fun t d hd _ => ?_,
    fun t t' d d' hd _ _ _ _ => ?_⟩ <;>
  · rw [hno] at hd
    cases hd

/-- A completed transfer is completed in every later state. -/
theorem completed_run (hrun : ReflTransGen (Serves cfg v SellsAlone) w w') {t : TransferId}
    {d : Deal} (hd : (market w).deals t = some d) (hc : d.status = .completed) :
    ∃ d', (market w').deals t = some d' ∧ d'.status = .completed ∧ d'.listingId = d.listingId := by
  induction hrun with
  | refl => exact ⟨d,hd,hc,rfl⟩
  | tail _ h ih =>
    obtain ⟨d₁,hd₁,hc₁,hl₁⟩ := ih
    obtain ⟨a,hstep,-⟩ := h.sellsAlone
    obtain ⟨d₂,hd₂,hc₂,hl₂⟩ := hstep.completed hd₁ hc₁
    exact ⟨d₂,hd₂,hc₂,hl₂.trans hl₁⟩

/-- No two transfers of one listing are ever completed, however far apart. -/
def SoldOnce (w w' : World) : Prop :=
  ∀ t t' d d', w.transfers.lookup t = some d → w'.transfers.lookup t' = some d' →
    d.status = .completed → d'.status = .completed → d.listingId = d'.listingId → t = t'

theorem soldOnce_run (hs : Sound (market w)) (hrun : ReflTransGen (Serves cfg v SellsAlone) w w') :
    SoldOnce w w' := by
  intro t t' d d' hd hd' hc hc' hl
  obtain ⟨d₁,hd₁,hc₁,hl₁⟩ :=
    completed_run hrun (t := t) (d := transferDeal d) (by simp [market,hd]) hc
  exact (sound_run hs hrun).2.once t t' d₁ (transferDeal d') hd₁ (by simp [market,hd']) hc₁ hc'
    (hl₁.trans hl)

/-- The state in which a saga starts: its listing is active, and the ticket is the seller's. -/
def SagaStart (transfer : TicketRemaster.Transfer) (a : Saga) (w : World) : Prop :=
  ∃ r, w.listings.lookup a.listingId = some r ∧ r.status = .active ∧
    ∃ t, w.tickets.lookup r.ticketId = some t ∧ t.ownerId = transfer.sellerId

theorem sagaStart_ready {a : Saga} {transfer : TicketRemaster.Transfer} (hs : Sound (market w))
    (hr : Ready (market w) a w') (hseller : transfer.sellerId = a.sellerId) :
    SagaStart transfer a w' := by
  obtain ⟨m₁,d,hq,hd,hopen,hlisting,hds,-⟩ := hr.deal
  obtain ⟨o,hact,hos⟩ := (hs.2.quiet hq).offered _ d hd hopen
  rw [hlisting,active_congr hq.listings,← active_congr hr.quiet.listings] at hact
  have ht := (hs.1.quiet hr.quiet).listed _ o hact
  obtain ⟨r,hr,rfl⟩ := Option.map_eq_some_iff.mp hact.1
  obtain ⟨t,ht,-,howner⟩ := ticket_row ht
  exact ⟨r,hr,hact.2,t,ht,by rw [howner,hos,hds,hseller]⟩

/-- From a state without listings and transfers, requests that take no listing off the market
while another transfer of it is open sell every listing at most once, and start every saga on
an active listing of the seller's ticket. -/
theorem listing_sold_once (cfg : SeatConfig) (v : Verification.VerifyConfig) (w₀ w : World)
    (hl : w₀.listings = ∅) (ht : w₀.transfers = ∅)
    (hrun : ReflTransGen (Serves cfg v SellsAlone) w₀ w) :
    (∀ w', ReflTransGen (Serves cfg v SellsAlone) w w' → SoldOnce w w') ∧
      ∀ sellerId transferId otp ω transfer a, (∀ h, Healthy h (ω h)) →
        ((prepareSettlement sellerId transferId otp).exec (World.server cfg Unit) () ω [] w).result
          = .ok (.ok (transfer,a)) →
        SagaStart transfer a
          ((prepareSettlement sellerId transferId otp).exec (World.server cfg Unit) () ω []
            w).state := by
  have hs := sound_run (sound_empty hl ht) hrun
  refine ⟨fun w' hrun' => soldOnce_run hs hrun',fun sellerId i otp ω transfer a hω hres => ?_⟩
  have hprepared : Handler.Always cfg Healthy (fun r _ w' => Prepared (market w) i r w')
      (fun _ _ _ => True) (prepareSettlement sellerId i otp) [] w :=
    prepareSettlement_always sellerId i otp
  obtain ⟨hready,-,hseller⟩ := (hprepared.exec ω hω).ok hres
  exact sagaStart_ready hs hready hseller

section SoldTwice

/-- Users 2 and 3 both open a transfer of listing 6, as transfers 8 and 9, and verify. -/
def contested : World :=
  (serveCalm (.buyerVerify 3 9 (some 1)) 0 (serveCalm (.buyerVerify 2 8 (some 1)) 0
    (serveCalm (.initiate 3 (some 6)) 9 offered).state).state).state

def soldFirst : World := (serveCalm (.sellerVerify 1 8 (some 1)) 0 contested).state

def soldSecond : World := (serveCalm (.sellerVerify 1 9 (some 1)) 0 soldFirst).state

/-- With one buyer only, who then lists the ticket again. -/
def soldAlone : World :=
  (serveCalm (.sellerVerify 1 8 (some 1)) 0
    (serveCalm (.buyerVerify 2 8 (some 1)) 0 offered).state).state

theorem listing_sold_once_relisted :
    SoldOnce soldAlone (serveCalm (.listTicket 2 (some 5) none) 10 soldAlone).state :=
  (listing_sold_once ⟨3,3,false⟩ ⟨seconds 60,seconds 300,seconds 5,3⟩ freshWorld soldAlone rfl rfl
    ((((Reaches.serve .refl (.listTicket 1 (some 5) none) 6
      ⟨by decide +kernel,by decide +kernel,by decide +kernel⟩).serve (.initiate 2 (some 6)) 8
      ⟨by decide +kernel,by decide +kernel,by decide +kernel⟩).serve (.buyerVerify 2 8 (some 1)) 0
      ⟨by decide +kernel,by decide +kernel,by decide +kernel⟩).serve (.sellerVerify 1 8 (some 1)) 0
      ⟨by decide +kernel,by decide +kernel,by decide +kernel⟩)).1 _
    (Reaches.serve .refl (.listTicket 2 (some 5) none) 10
      ⟨by decide +kernel,by decide +kernel,by decide +kernel⟩)

/-- Both transfers of the one listing are settled. -/
theorem listing_sold_twice : freshWorld.listings = ∅ ∧ freshWorld.transfers = ∅ ∧
    Reaches (fun _ _ _ => True) freshWorld soldSecond ∧ ¬ SoldOnce soldSecond soldSecond := by
  refine ⟨rfl,rfl,?_,fun hs => ?_⟩
  · exact ((((((Reaches.serve .refl (.listTicket 1 (some 5) none) 6 trivial).serve
      (.initiate 2 (some 6)) 8 trivial).serve (.initiate 3 (some 6)) 9 trivial).serve
      (.buyerVerify 2 8 (some 1)) 0 trivial).serve (.buyerVerify 3 9 (some 1)) 0 trivial).serve
      (.sellerVerify 1 8 (some 1)) 0 trivial).serve (.sellerVerify 1 9 (some 1)) 0 trivial
  · have h₁ : (soldSecond.transfers.lookup 8).map (fun d => (d.listingId,d.status)) =
        some (6,.completed) := by decide +kernel
    have h₂ : (soldSecond.transfers.lookup 9).map (fun d => (d.listingId,d.status)) =
        some (6,.completed) := by decide +kernel
    obtain ⟨d₁,hd₁,heq₁⟩ := Option.map_eq_some_iff.mp h₁
    obtain ⟨d₂,hd₂,heq₂⟩ := Option.map_eq_some_iff.mp h₂
    obtain ⟨hl₁,hc₁⟩ := Prod.mk.inj heq₁
    obtain ⟨hl₂,hc₂⟩ := Prod.mk.inj heq₂
    cases hs 8 9 d₁ d₂ hd₁ hd₂ hc₁ hc₂ (hl₁.trans hl₂.symm)

end SoldTwice

end TicketRemaster.Resale
