import TicketRemaster.Resale.Simulation
import Mathlib.Logic.Relation
set_option autoImplicit false

/-! When the marketplace stays consistent, and checked-in tickets stay checked in, over whole
runs of requests: as long as no request acts on a listing that is no longer on offer, and no
settlement has to compensate. -/

namespace TicketRemaster.Resale

open Resumption SeatInventory Relation

/-- A complete, uninterrupted run of a request. -/
def Request.run (cfg : SeatConfig) (v : Verification.VerifyConfig) (req : Request)
    (ω : List (Entry Platform) → Env) (w : World) : Final Platform Unhandled Unit World :=
  (req.handler v).exec (World.server cfg Unit) () ω [] w

/-- A state follows another by a complete, healthy request; the condition is on the request,
the state before it, and the calls it makes. -/
inductive Serves (cfg : SeatConfig) (v : Verification.VerifyConfig)
    (C : Request → World → List (Entry Platform) → Prop) (w : World) : World → Prop where
  | request (req : Request) (ω : List (Entry Platform) → Env) (hω : ∀ h, Healthy h (ω h))
      (hC : C req w (req.run cfg v ω w).past) : Serves cfg v C w (req.run cfg v ω w).state

variable {cfg : SeatConfig} {v : Verification.VerifyConfig} {w w' w₀ : World}

theorem run_simulates (req : Request) {ω : List (Entry Platform) → Env}
    (hω : ∀ h, Healthy h (ω h)) (hno : (req.run cfg v ω w).past.any completionRefused = false) :
    ∃ a, Step a (market w) (market (req.run cfg v ω w).state) ∧
      (∀ p, a.patch = some p → p ∈ patchedListings (req.run cfg v ω w).past) ∧
      (a.patch ≠ none → a.settled = req.settles) := by
  have hsim : Simulates req.settles (market w) (req.run cfg v ω w).past
      (req.run cfg v ω w).state := by
    have hmeets := (request_sim cfg v req w).exec ω hω
    cases hr : (req.run cfg v ω w).result with
    | ok r => exact hmeets.ok hr
    | error exc => exact hmeets.error hr
  rcases hsim with hrefused | hstep
  · rw [hno] at hrefused
    cases hrefused
  · exact hstep

/-- The listing is active. -/
def onOffer (w : World) (l : ListingId) : Bool := (w.listings.lookup l).any (·.status = .active)

theorem active_of_onOffer {l : ListingId} (h : onOffer w l = true) :
    ∃ o, (market w).Active l o := by
  unfold onOffer at h
  cases hl : w.listings.lookup l with
  | none => simp [hl] at h
  | some r => exact ⟨listingOffer r,by simp [market,hl],by simpa [hl,listingOffer] using h⟩

/-- A request PATCHes only listings that are active before it, and no settlement compensates. -/
structure ActsOnOffers (_ : Request) (w : World) (past : List (Entry Platform)) : Prop where
  listings : ∀ p ∈ patchedListings past, onOffer w p.1
  completes : past.any completionRefused = false

theorem Serves.step (h : Serves cfg v ActsOnOffers w w') :
    ∃ a, Step a (market w) (market w') ∧ a.OnOffer (market w) := by
  cases h with
  | request req ω hω hC =>
    obtain ⟨a,hstep,hpatch,-⟩ := run_simulates req hω hC.completes
    exact ⟨a,hstep,fun l s hp => active_of_onOffer (hC.listings (l,s) (hpatch _ hp))⟩

/-- An active listing is the only one of its ticket, which is listed and owned by the seller. -/
structure MarketplaceConsistent (w : World) : Prop where
  unique (l l' : ListingId) (r r' : Listing) : w.listings.lookup l = some r →
    w.listings.lookup l' = some r' → r.status = .active → r'.status = .active →
    r.ticketId = r'.ticketId → l = l'
  listed (l : ListingId) (r : Listing) : w.listings.lookup l = some r → r.status = .active →
    ∃ t, w.tickets.lookup r.ticketId = some t ∧ t.status = .listed ∧ t.ownerId = r.sellerId

theorem active_listing {l : ListingId} {r : Listing} (hl : w.listings.lookup l = some r)
    (ha : r.status = .active) : (market w).Active l (listingOffer r) := ⟨by simp [market,hl],ha⟩

theorem ticket_row {i : TicketId} {u : UserId} {s : TicketStatus}
    (h : (market w).tickets i = some ⟨u,s⟩) :
    ∃ t, w.tickets.lookup i = some t ∧ t.status = s ∧ t.ownerId = u := by
  obtain ⟨t,ht,heq⟩ := Option.map_eq_some_iff.mp h
  cases heq
  exact ⟨t,ht,rfl,rfl⟩

theorem Consistent.marketplace (hc : Consistent (market w)) : MarketplaceConsistent w where
  unique l l' _ _ hl hl' ha ha' ht :=
    hc.unique l l' _ _ (active_listing hl ha) (active_listing hl' ha') ht
  listed l _ hl ha := ticket_row (hc.listed l _ (active_listing hl ha))

theorem consistent_empty (h₀ : w₀.listings = ∅) : Consistent (market w₀) := by
  have hno : ∀ l o, ¬ (market w₀).Active l o := by
    intro l o ho
    have hl : (market w₀).listings l = none := by simp [market,h₀]
    rw [Market.Active,hl] at ho
    cases ho.1
  exact ⟨fun l o ho => absurd ho (hno l o),fun l _ o _ ho => absurd ho (hno l o)⟩

theorem consistent_run (hc : Consistent (market w))
    (hrun : ReflTransGen (Serves cfg v ActsOnOffers) w w') : Consistent (market w') := by
  induction hrun with
  | refl => exact hc
  | tail _ hs ih =>
    obtain ⟨a,hstep,hon⟩ := hs.step
    exact hstep.consistent hon ih

/-- From a state without listings, requests that act on active listings only, and settle
without compensation, keep the marketplace consistent. -/
theorem marketplace_consistent (cfg : SeatConfig) (v : Verification.VerifyConfig) (w₀ w : World)
    (h₀ : w₀.listings = ∅) (hrun : ReflTransGen (Serves cfg v ActsOnOffers) w₀ w) :
    MarketplaceConsistent w :=
  (consistent_run (consistent_empty h₀) hrun).marketplace

section Relisted

/-- User 1 holds the active ticket 5 of a sold seat; users 2 and 3 have 100 credits each. -/
def freshWorld : World where
  users := ((AList.singleton 1 ⟨"a@x.io",11⟩).insert 2 ⟨"b@x.io",12⟩).insert 3 ⟨"c@x.io",13⟩
  events := AList.singleton 1 ⟨1,"Concert",0,"",30⟩
  venues := ∅
  seats := ∅
  inventory := AList.singleton 4 ⟨1,1,.sold,none,none,none⟩
  holdCache := ∅
  released := ∅
  tickets := AList.singleton 5 ⟨4,1,1,1,30,.active,none,none,0⟩
  ticketLogs := []
  listings := ∅
  transfers := ∅
  credits := ((AList.singleton 1 0).insert 2 100).insert 3 100
  creditTransactions := []
  paymentIntents := ∅
  scanLocks := ∅

/-- Everything is healthy, and the next row gets this id. -/
def calm (id : Nat) (_ : List (Entry Platform)) : Env := ⟨0,id,id,true,true,none⟩

theorem calm_healthy (id : Nat) (h : List (Entry Platform)) : Healthy h (calm id h) := rfl

def serveCalm (req : Request) (id : Nat) (w : World) : Final Platform Unhandled Unit World :=
  req.run ⟨3,3,false⟩ ⟨seconds 60,seconds 300,seconds 5,3⟩ (calm id) w

def Reaches (C : Request → World → List (Entry Platform) → Prop) : World → World → Prop :=
  ReflTransGen (Serves ⟨3,3,false⟩ ⟨seconds 60,seconds 300,seconds 5,3⟩ C)

theorem Reaches.serve {C : Request → World → List (Entry Platform) → Prop} {w₀ w : World}
    (h : Reaches C w₀ w) (req : Request) (id : Nat) (hC : C req w (serveCalm req id w).past) :
    Reaches C w₀ (serveCalm req id w).state :=
  h.tail (.request req (calm id) (calm_healthy id) hC)

/-- User 1 lists the ticket as listing 6, and user 2 opens transfer 8 of it. -/
def offered : World :=
  (serveCalm (.initiate 2 (some 6)) 8
    (serveCalm (.listTicket 1 (some 5) none) 6 freshWorld).state).state

def withdrawn : World := (serveCalm (.delist 1 6) 0 offered).state

def relisted : World := (serveCalm (.listTicket 1 (some 5) none) 9 withdrawn).state

def cancelledLate : World := (serveCalm (.cancelTransfer 2 8) 0 relisted).state

theorem marketplace_consistent_cancelled :
    MarketplaceConsistent (serveCalm (.cancelTransfer 2 8) 0 offered).state :=
  marketplace_consistent ⟨3,3,false⟩ ⟨seconds 60,seconds 300,seconds 5,3⟩ freshWorld _ rfl
    (((Reaches.serve .refl (.listTicket 1 (some 5) none) 6
      ⟨by decide +kernel,by decide +kernel⟩).serve (.initiate 2 (some 6)) 8
      ⟨by decide +kernel,by decide +kernel⟩).serve (.cancelTransfer 2 8) 0
      ⟨by decide +kernel,by decide +kernel⟩)

/-- The transfer outlives its listing; to cancel it puts the ticket on offer a second time. -/
theorem cancel_offers_ticket_twice : freshWorld.listings = ∅ ∧
    Reaches (fun _ _ _ => True) freshWorld cancelledLate ∧
    ¬ MarketplaceConsistent cancelledLate := by
  refine ⟨rfl,?_,fun hc => ?_⟩
  · exact ((((Reaches.serve .refl (.listTicket 1 (some 5) none) 6 trivial).serve
      (.initiate 2 (some 6)) 8 trivial).serve (.delist 1 6) 0 trivial).serve
      (.listTicket 1 (some 5) none) 9 trivial).serve (.cancelTransfer 2 8) 0 trivial
  · have h₁ : cancelledLate.listings.lookup 6 = some ⟨5,1,30,.active,0⟩ := by decide +kernel
    have h₂ : cancelledLate.listings.lookup 9 = some ⟨5,1,30,.active,0⟩ := by decide +kernel
    have h := hc.unique 6 9 _ _ h₁ h₂ rfl rfl rfl
    cases h

end Relisted

/-- Under the same condition a ticket that is used stays used, and keeps its owner. -/
theorem used_final (cfg : SeatConfig) (v : Verification.VerifyConfig) (w₀ w w' : World)
    (h₀ : w₀.listings = ∅) (hrun : ReflTransGen (Serves cfg v ActsOnOffers) w₀ w)
    (hrun' : ReflTransGen (Serves cfg v ActsOnOffers) w w') (i : TicketId) (t : Ticket)
    (ht : w.tickets.lookup i = some t) (hu : t.status = .used) :
    ∃ t', w'.tickets.lookup i = some t' ∧ t'.status = .used ∧ t'.ownerId = t.ownerId := by
  have hrow : (market w).tickets i = some ⟨t.ownerId,.used⟩ := by simp [market,ht,ticketHolding,hu]
  have hc := consistent_run (consistent_empty h₀) hrun
  have hkept : (market w').tickets i = some ⟨t.ownerId,.used⟩ := by
    clear hrun
    induction hrun' with
    | refl => exact hrow
    | tail hpre hs ih =>
      obtain ⟨a,hstep,hon⟩ := hs.step
      exact hstep.used hon (consistent_run hc hpre) ih rfl
  exact ticket_row hkept

section Revived

def staff : Verification.Staff := ⟨70,none,none⟩

def checkedIn : World := (serveCalm (.manualVerify staff (some 5)) 0 withdrawn).state

def revived : World := (serveCalm (.cancelTransfer 2 8) 0 checkedIn).state

theorem used_final_checkedIn :
    ∃ t', (serveCalm (.listTicket 1 (some 5) none) 9 checkedIn).state.tickets.lookup 5 = some t' ∧
      t'.status = .used ∧ t'.ownerId = 1 :=
  used_final ⟨3,3,false⟩ ⟨seconds 60,seconds 300,seconds 5,3⟩ freshWorld checkedIn _ rfl
    ((((Reaches.serve .refl (.listTicket 1 (some 5) none) 6
      ⟨by decide +kernel,by decide +kernel⟩).serve (.initiate 2 (some 6)) 8
      ⟨by decide +kernel,by decide +kernel⟩).serve (.delist 1 6) 0
      ⟨by decide +kernel,by decide +kernel⟩).serve (.manualVerify staff (some 5)) 0
      ⟨by decide +kernel,by decide +kernel⟩)
    (Reaches.serve .refl (.listTicket 1 (some 5) none) 9 ⟨by decide +kernel,by decide +kernel⟩)
    5 ⟨4,1,1,1,30,.used,none,none,0⟩ (by decide +kernel) rfl

/-- The ticket was checked in; to cancel the transfer of its withdrawn listing lists it again. -/
theorem cancel_revives_used_ticket : freshWorld.listings = ∅ ∧
    Reaches (fun _ _ _ => True) freshWorld checkedIn ∧
    (checkedIn.tickets.lookup 5).map (·.status) = some .used ∧
    Reaches (fun _ _ _ => True) checkedIn revived ∧
    (revived.tickets.lookup 5).map (·.status) = some .listed := by
  refine ⟨rfl,?_,by decide +kernel,.serve .refl (.cancelTransfer 2 8) 0 trivial,by decide +kernel⟩
  exact ((((Reaches.serve .refl (.listTicket 1 (some 5) none) 6 trivial).serve
    (.initiate 2 (some 6)) 8 trivial).serve (.delist 1 6) 0 trivial).serve
    (.manualVerify staff (some 5)) 0 trivial)

end Revived

end TicketRemaster.Resale
