import TicketRemaster.Credits.Ledger
import TicketRemaster.Marketplace.Handlers
import TicketRemaster.Transfer.Calls
import TicketRemaster.Resale.Consistency
set_option autoImplicit false

/-! No balance becomes negative, as long as no ticket is listed at a negative price: the price in
the body of a listing is never checked. -/

namespace TicketRemaster.Credits

open Resumption SeatInventory Transfer Marketplace

/-- The requests around a resale that move no credits themselves. -/
inductive MarketRequest where
  | listTicket (userId : UserId) (ticketId : Option TicketId) (price : Option Credits)
  | delist (userId : UserId) (listingId : ListingId)
  | initiate (buyerId : UserId) (listingId : Option ListingId)
  | sellerAccept (sellerId : UserId) (transferId : TransferId)
  | buyerVerify (buyerId : UserId) (transferId : TransferId) (otp : Option Nat)
  | cancelTransfer (userId : UserId) (transferId : TransferId)

def MarketRequest.handler : MarketRequest → Handler Unit
  | .listTicket userId ticketId price => do let _ ← Marketplace.listTicket userId ticketId price
  | .delist userId listingId => do let _ ← Marketplace.delist userId listingId
  | .initiate buyerId listingId => do let _ ← Transfer.initiate buyerId listingId
  | .sellerAccept sellerId transferId => do let _ ← Transfer.sellerAccept sellerId transferId
  | .buyerVerify buyerId transferId otp => do let _ ← Transfer.buyerVerify buyerId transferId otp
  | .cancelTransfer userId transferId => do let _ ← Transfer.cancelTransfer userId transferId

def MarketRequest.run (cfg : SeatConfig) (req : MarketRequest) (ω : List (Entry Platform) → Env)
    (w : World) : Final Platform Unhandled Unit World :=
  req.handler.exec (World.server cfg Unit) () ω [] w

/-- A listing that the request can create has no negative price. -/
def MarketRequest.Priced : MarketRequest → World → Prop
  | .listTicket userId (some ticketId) price, w => ∀ t, w.tickets.lookup ticketId = some t →
      t.ownerId = userId → t.status = .active → 0 ≤ listingPrice price t
  | _, _ => True

/-- Nothing is negative: no balance, no price on the market, and no amount of a transfer; and no
transfer is to its own seller. -/
structure Solvent (w : World) : Prop where
  balances (u : UserId) (b : Credits) : w.credits.lookup u = some b → 0 ≤ b
  prices (l : ListingId) (r : Listing) : w.listings.lookup l = some r → 0 ≤ r.price
  amounts (i : TransferId) (t : TicketRemaster.Transfer) :
    w.transfers.lookup i = some t → 0 ≤ t.creditAmount
  parties : DistinctParties w

/-- Nothing negative is stored. -/
def Honest : Call → Prop
  | .http (.patchCredits _ b) => 0 ≤ b
  | .http (.createListing d) => 0 ≤ d.price
  | .http (.createTransfer d) => 0 ≤ d.creditAmount ∧ d.buyerId ≠ d.sellerId
  | _ => True

section Calls

variable {cfg : SeatConfig} {e : Env} {w : World} {q : Http}

theorem serve_balances (hs : Solvent w) (hq : Honest (.http q)) {u : UserId} {b : Credits}
    (hb : (w.serve e q).2.credits.lookup u = some b) : 0 ≤ b := by
  by_cases hw : q.writes = some .credits
  · cases q with
    | patchCredits i b' =>
      rcases World.serve_patchCredits_cases (w := w) e i b' with hkeep | ⟨-,hset⟩
      · exact hs.balances u b (hkeep ▸ hb)
      · rw [hset] at hb
        rcases Table.lookup_insert_cases hb with ⟨-,rfl⟩ | ⟨-,hb⟩
        · exact hq
        · exact hs.balances u b hb
    | _ => simp [Http.writes] at hw
  · rw [(World.serve_frame e w q).credits hw] at hb
    exact hs.balances u b hb

theorem serve_prices (hs : Solvent w) (hq : Honest (.http q)) {l : ListingId} {r : Listing}
    (hr : (w.serve e q).2.listings.lookup l = some r) : 0 ≤ r.price := by
  by_cases hw : q.writes = some .listings
  · cases q with
    | createListing d =>
      simp only [World.serve,World.createListing] at hr
      split at hr
      · exact hs.prices l r hr
      · rcases Table.lookup_insert_cases hr with ⟨-,rfl⟩ | ⟨-,hr⟩
        · exact hq
        · exact hs.prices l r hr
    | updateListing l' s =>
      rcases World.serve_updateListing_cases (w := w) e l' s with hkeep | ⟨listing,hl,hset⟩
      · exact hs.prices l r (hkeep ▸ hr)
      · rw [hset] at hr
        rcases Table.lookup_insert_cases hr with ⟨-,rfl⟩ | ⟨-,hr⟩
        · exact hs.prices l' listing hl
        · exact hs.prices l r hr
    | _ => simp [Http.writes] at hw
  · rw [(World.serve_frame e w q).listings hw] at hr
    exact hs.prices l r hr

/-- A transfer after the call is an honest new one, or has the terms of one before. -/
theorem serve_transfers (hq : Honest (.http q)) {i : TransferId} {t : TicketRemaster.Transfer}
    (ht : (w.serve e q).2.transfers.lookup i = some t) :
    (0 ≤ t.creditAmount ∧ t.buyerId ≠ t.sellerId) ∨
      ∃ t₀, w.transfers.lookup i = some t₀ ∧ SameTerms t t₀ := by
  cases q with
  | createTransfer d =>
    simp only [World.serve,World.createTransfer] at ht
    split at ht
    · exact .inr ⟨t,ht,.refl t⟩
    · rcases Table.lookup_insert_cases ht with ⟨-,rfl⟩ | ⟨-,ht⟩
      · exact .inl hq
      · exact .inr ⟨t,ht,.refl t⟩
  | _ => exact .inr (serve_terms (fun d hd => by cases hd) ht)

theorem Solvent.serve (hs : Solvent w) (hq : Honest (.http q)) : Solvent (w.serve e q).2 where
  balances _ _ hb := serve_balances hs hq hb
  prices _ _ hr := serve_prices hs hq hr
  amounts i t ht := by
    rcases serve_transfers hq ht with h | ⟨t₀,ht₀,hterms⟩
    · exact h.1
    · rw [hterms.amount]
      exact hs.amounts i t₀ ht₀
  parties i t ht := by
    rcases serve_transfers hq ht with h | ⟨t₀,ht₀,hterms⟩
    · exact h.2
    · rw [hterms.buyer,hterms.seller]
      exact hs.parties i t₀ ht₀

theorem Solvent.perform {q : Call} (hs : Solvent w) (hq : Honest q) :
    Solvent (World.perform cfg e w q).2 := by
  have hframe : World.Frame q.writes w (World.perform cfg e w q).2 := World.perform_frame q
  cases q with
  | http q =>
    rcases World.perform_http_cases cfg e w q with h | h
    · rw [h]; exact hs
    · rw [h]; exact hs.serve hq
  | _ =>
    have hc := hframe.credits (by simp [Call.writes])
    have hl := hframe.listings (by simp [Call.writes])
    have ht := hframe.transfers (by simp [Call.writes])
    exact ⟨fun u b hb => hs.balances u b (by rwa [hc] at hb),
      fun l r hr => hs.prices l r (by rwa [hl] at hr),
      fun i t hi => hs.amounts i t (by rwa [ht] at hi),
      fun i t hi => hs.parties i t (by rwa [ht] at hi)⟩

end Calls

section Handlers

variable {α : Type}

abbrev Handler.Honest (p : Handler α) : Prop := p.Calls Credits.Honest (fun _ => True)

theorem reads_honest {q : Call} (hq : Call.Reads q) : Honest q := by
  rcases hq with hq | ⟨i,rfl⟩
  · cases q with
    | http q => cases q <;> trivial
    | _ => trivial
  · trivial

theorem delist_honest (userId : UserId) (l : ListingId) : Handler.Honest (delist userId l) := by
  refine ask_calls trivial fun listing => ?_
  cases listing with
  | error code => simp only; split <;> trivial
  | ok listing =>
    simp only
    split
    · trivial
    · split
      · trivial
      · refine ask_calls trivial fun cancelled => ?_
        cases cancelled with
        | error code => trivial
        | ok _ => exact ask_calls trivial fun _ => trivial

end Handlers

section Requests

variable {cfg : SeatConfig} {w : World} {α : Type} {h : List (Entry Platform)}

/-- Under any answers, the handler keeps everything solvent from here. -/
abbrev StaysSolvent (cfg : SeatConfig) (p : Handler α) (h : List (Entry Platform)) (w : World) :
    Prop :=
  Handler.Always cfg (fun _ _ => True) (fun _ _ w => Solvent w) (fun _ _ w => Solvent w) p h w

theorem Handler.Honest.staysSolvent {p : Handler α} (hp : Handler.Honest p) (hs : Solvent w) :
    StaysSolvent cfg p h w :=
  (Prog.Calls.always (J := fun _ w => Solvent w) hp (fun _ hq _ _ _ _ hJ => hJ.perform hq) hs).mono
    (fun _ _ _ hJ => hJ) (fun _ _ _ hJ => hJ.2)

/-- A first call that stores nothing dishonest. -/
theorem ask_staysSolvent {q : Http} {f : Except String q.Val → Handler α} (hs : Solvent w)
    (hq : Honest (.http q))
    (hok : ∀ e v w', w.serve e q = (.ok v,w') → Solvent w' →
      StaysSolvent cfg (f (.ok v)) (⟨.http q,.ok v⟩ :: h) w')
    (herr : ∀ code h w', Solvent w' → StaysSolvent cfg (f (.error code)) h w') :
    StaysSolvent cfg (callService q >>= f) h w := by
  have hkept : ∀ e {r} {w'}, World.perform cfg e w (.http q) = (r,w') → Solvent w' := by
    intro e r w' hp
    have hs' : Solvent (World.perform cfg e w (.http q)).2 := hs.perform hq
    rwa [hp] at hs'
  exact callService_always (fun e v w' _ hp => hok e v w' (World.perform_ok hp) (hkept e hp))
    (fun e code w' _ hp => herr code _ w' (hkept e hp)) (fun e w' _ hp => hkept e hp)

theorem listTicket_staysSolvent {userId : UserId} {ticketId : Option TicketId}
    {price : Option Credits} (hs : Solvent w)
    (hp : (MarketRequest.listTicket userId ticketId price).Priced w) :
    StaysSolvent cfg (listTicket userId ticketId price) [] w := by
  cases ticketId with
  | none => exact hs
  | some ticketId =>
    refine ask_staysSolvent hs trivial (fun e t w' hserve hs' => ?_) (fun code h w' hs' => ?_)
    · have ht : w.tickets.lookup ticketId = some t := by
        simp only [World.serve,World.getTicket,World.found] at hserve
        split at hserve
        · rename_i r hr; cases hserve; exact hr
        · cases hserve
      simp only
      split
      · exact hs'
      · rename_i howner
        split
        · exact hs'
        · rename_i hactive
          have hprice : 0 ≤ listingPrice price t :=
            hp t ht (not_not.mp howner) (not_not.mp hactive)
          refine Handler.Honest.staysSolvent (ask_calls trivial fun listed => ?_) hs'
          cases listed with
          | error code => trivial
          | ok _ =>
            refine ask_calls hprice fun listing => ?_
            cases listing with
            | error code => exact ask_calls trivial fun _ => trivial
            | ok listing => trivial
    · simp only
      split <;> exact hs'

theorem initiate_staysSolvent (buyerId : UserId) (listingId : Option ListingId) (hs : Solvent w) :
    StaysSolvent cfg (initiate buyerId listingId) [] w := by
  cases listingId with
  | none => exact hs
  | some l =>
    refine ask_staysSolvent hs trivial (fun e listing w' hserve hs' => ?_) (fun code h w' hs' => ?_)
    · have hl : w.listings.lookup l = some listing := by
        simp only [World.serve,World.getListing,World.found] at hserve
        split at hserve
        · rename_i r hr; cases hserve; exact hr
        · cases hserve
      simp only
      split
      · exact hs'
      · split
        · exact hs'
        · rename_i hne
          refine Handler.Honest.staysSolvent (ask_calls trivial fun credit => ?_) hs'
          cases credit with
          | error code => trivial
          | ok credit =>
            simp only
            split
            · trivial
            · exact openTransfer_calls (fun _ => reads_honest)
                ⟨hs.prices l listing hl,Ne.symm hne⟩ (fun _ _ => trivial)
    · simp only
      split <;> exact hs'

theorem MarketRequest.staysSolvent (req : MarketRequest) (hs : Solvent w) (hp : req.Priced w) :
    StaysSolvent cfg req.handler [] w := by
  cases req with
  | listTicket userId ticketId price => exact Prog.always_bind.mpr (listTicket_staysSolvent hs hp)
  | initiate buyerId l => exact Prog.always_bind.mpr (initiate_staysSolvent buyerId l hs)
  | delist userId l =>
    exact Prog.always_bind.mpr (Handler.Honest.staysSolvent (delist_honest userId l) hs)
  | sellerAccept sellerId i =>
    refine Prog.always_bind.mpr (Handler.Honest.staysSolvent ?_ hs)
    exact sellerAccept_calls (fun _ => reads_honest) (fun _ => trivial)
  | buyerVerify buyerId i otp =>
    refine Prog.always_bind.mpr (Handler.Honest.staysSolvent ?_ hs)
    exact buyerVerify_calls (fun _ => reads_honest) trivial (fun _ => trivial)
  | cancelTransfer userId i =>
    refine Prog.always_bind.mpr (Handler.Honest.staysSolvent ?_ hs)
    exact cancelTransfer_calls (fun _ => reads_honest) trivial (fun _ => trivial) (fun _ => trivial)

theorem MarketRequest.solvent (req : MarketRequest) (ω : List (Entry Platform) → Env)
    (hs : Solvent w) (hp : req.Priced w) : Solvent (req.run cfg ω w).state := by
  have hmeets : (req.run cfg ω w).Meets _ _ := (req.staysSolvent hs hp).exec ω (fun _ => trivial)
  cases hr : (req.run cfg ω w).result with
  | ok r => exact hmeets.ok hr
  | error exc => exact hmeets.error hr

/-- The requests that move credits write no negative balance. -/
theorem Sound.honest {w' : World} {req : CreditRequest} {q : Call} (hs : Solvent w)
    (hf : Follows w w' h) (hq : Sound w req h q) (hs' : Solvent w') : Honest q := by
  cases q with
  | http q =>
    cases q with
    | patchCredits i b =>
      obtain ⟨-,hself,hnonneg⟩ := hq
      have hunwritten : (account i h).wrote = false :=
        Bool.eq_false_iff.mpr fun hwrote => hs.parties.notSelf req (hself hwrote)
      refine hnonneg (fun r hr => hs'.balances i r (hf.asRead i hunwritten r hr)) ?_
      cases req with
      | sellerVerify sellerId i otp => exact fun t ht => hs.amounts i t ht
      | _ => trivial
    | createTransfer d => exact hq.elim
    | createListing d => exact hq.elim
    | _ => trivial
  | _ => trivial

theorem CreditRequest.solvent (req : CreditRequest) (ω : List (Entry Platform) → Env)
    (hs : Solvent w) (hfree : FailureFree (req.run cfg ω w)) : Solvent (req.run cfg ω w).state :=
  (run_keeps (P := Solvent) (hs.parties.notSelf req) hfree hs
    fun _ _ _ _ hf hq hs' => hs'.perform (hq.honest hs hf hs')).2

end Requests

section Runs

open Relation

variable {cfg : SeatConfig} {w₀ w w' : World} {C : MarketRequest → World → Prop}

/-- A state follows another by a complete request in which no call fails; the condition is on the
requests that move no credits, and the state before them. -/
inductive Trades (cfg : SeatConfig) (C : MarketRequest → World → Prop) (w : World) :
    World → Prop where
  | credit (req : CreditRequest) (ω : List (Entry Platform) → Env)
      (hfree : FailureFree (req.run cfg ω w)) : Trades cfg C w (req.run cfg ω w).state
  | market (req : MarketRequest) (ω : List (Entry Platform) → Env)
      (hfree : FailureFree (req.run cfg ω w)) (hC : C req w) :
      Trades cfg C w (req.run cfg ω w).state

theorem solvent_run (hs : Solvent w₀)
    (hrun : ReflTransGen (Trades cfg MarketRequest.Priced) w₀ w) : Solvent w := by
  induction hrun with
  | refl => exact hs
  | tail _ hstep ih =>
    cases hstep with
    | credit req ω hfree => exact req.solvent ω ih hfree
    | market req ω hfree hpriced => exact req.solvent ω ih hpriced

/-- A settlement never raises the balance of the buyer. -/
theorem buyer_pays (hs : Solvent w) {sellerId : UserId} {i : TransferId} {otp : Option Nat}
    {ω : List (Entry Platform) → Env}
    (hfree : FailureFree ((CreditRequest.sellerVerify sellerId i otp).run cfg ω w))
    {t : TicketRemaster.Transfer} (ht : w.transfers.lookup i = some t) {b b' : Credits}
    (hb : w.credits.lookup t.buyerId = some b)
    (hb' : ((CreditRequest.sellerVerify sellerId i otp).run cfg ω w).state.credits.lookup
      t.buyerId = some b') : b' ≤ b := by
  have hf := run_accounted (hs.parties.notSelf (.sellerVerify sellerId i otp)) hfree
  rw [hf.balance t.buyerId,hb] at hb'
  rcases delta_sellerVerify w sellerId i otp
    ((CreditRequest.sellerVerify sellerId i otp).run cfg ω w).result.toOption with
    hzero | ⟨t',ht',hdelta⟩
  · rw [hzero] at hb'
    obtain rfl : b = b' := by simpa using hb'
    exact le_rfl
  · obtain rfl : t' = t := Option.some.inj (ht'.symm.trans ht)
    have hne := hs.parties i t' ht
    have hamount := hs.amounts i t' ht
    rw [hdelta] at hb'
    obtain rfl : b-t'.creditAmount = b' := by simpa [transferDelta,hne,sub_eq_add_neg] using hb'
    exact sub_le_self b hamount

/-- Complete requests in which no call fails keep every balance from becoming negative, and no
buyer gains by a settlement, as long as no listing is created at a negative price. -/
theorem balances_nonneg (cfg : SeatConfig) (w₀ w : World) (hs : Solvent w₀)
    (hrun : ReflTransGen (Trades cfg MarketRequest.Priced) w₀ w) :
    (∀ u b, w.credits.lookup u = some b → 0 ≤ b) ∧
    ∀ sellerId i otp ω, FailureFree ((CreditRequest.sellerVerify sellerId i otp).run cfg ω w) →
      ∀ t b b', w.transfers.lookup i = some t → w.credits.lookup t.buyerId = some b →
        ((CreditRequest.sellerVerify sellerId i otp).run cfg ω w).state.credits.lookup t.buyerId =
          some b' → b' ≤ b := by
  have hs' := solvent_run hs hrun
  exact ⟨hs'.balances,fun _ _ _ _ hfree _ _ _ ht hb hb' => buyer_pays hs' hfree ht hb hb'⟩

end Runs

section NegativePrice

open Resale (freshWorld calm)
open Relation

/-- User 1 lists ticket 5 at this price, and user 2 buys it. They start with 0 and 100 credits. -/
def listedAt (price : Credits) : World :=
  ((MarketRequest.listTicket 1 (some 5) (some price)).run ⟨3,3,false⟩ (calm 6) freshWorld).state

def requestedAt (price : Credits) : World :=
  ((MarketRequest.initiate 2 (some 6)).run ⟨3,3,false⟩ (calm 8) (listedAt price)).state

def verifiedAt (price : Credits) : World :=
  ((MarketRequest.buyerVerify 2 8 (some 1)).run ⟨3,3,false⟩ (calm 0) (requestedAt price)).state

def settlementAt (price : Credits) : Final Platform Unhandled CreditAnswer World :=
  (CreditRequest.sellerVerify 1 8 (some 1)).run ⟨3,3,false⟩ (calm 0) (verifiedAt price)

theorem fresh_solvent : Solvent freshWorld where
  balances u b hb := by
    rcases Table.lookup_insert_cases hb with ⟨-,rfl⟩ | ⟨-,hb⟩
    · decide
    · rcases Table.lookup_insert_cases hb with ⟨-,rfl⟩ | ⟨-,hb⟩
      · decide
      · rcases Table.lookup_insert_cases (t := ∅) hb with ⟨-,rfl⟩ | ⟨-,hb⟩
        · decide
        · cases hb
  prices l r hr := by cases hr
  amounts i t ht := by cases ht
  parties i t ht := by cases ht

theorem balances_nonneg_bought :
    (∀ u b, (settlementAt 40).state.credits.lookup u = some b → 0 ≤ b) ∧
      ∀ b b', (verifiedAt 40).credits.lookup 2 = some b →
        (settlementAt 40).state.credits.lookup 2 = some b' → b' ≤ b := by
  have hpriced : (MarketRequest.listTicket 1 (some 5) (some 40)).Priced freshWorld := by
    intro t _ _ _
    exact (by decide : (0 : Credits) ≤ 40)
  have hrun : ReflTransGen (Trades ⟨3,3,false⟩ MarketRequest.Priced) freshWorld (verifiedAt 40) :=
    ((ReflTransGen.single (.market (.listTicket 1 (some 5) (some 40)) (calm 6)
      (by decide +kernel) hpriced)).tail (.market (.initiate 2 (some 6)) (calm 8)
      (by decide +kernel) trivial)).tail (.market (.buyerVerify 2 8 (some 1)) (calm 0)
      (by decide +kernel) trivial)
  have hfree : FailureFree (settlementAt 40) := by decide +kernel
  have ht : (verifiedAt 40).transfers.lookup 8 = some ⟨6,2,1,.pendingSellerOtp,40,true,false,
      some 8,some 0,none,seconds 86400,0⟩ := by decide +kernel
  refine ⟨(balances_nonneg ⟨3,3,false⟩ freshWorld _ fresh_solvent
    (hrun.tail (.credit (.sellerVerify 1 8 (some 1)) (calm 0) hfree))).1,fun b b' hb hb' => ?_⟩
  exact (balances_nonneg ⟨3,3,false⟩ freshWorld _ fresh_solvent hrun).2 1 8 (some 1) (calm 0) hfree
    _ b b' ht hb hb'

/-- At a negative price the buyer is paid, out of a balance that becomes negative. -/
theorem negative_price_pays_buyer :
    Solvent freshWorld ∧
      ReflTransGen (Trades ⟨3,3,false⟩ fun _ _ => True) freshWorld (settlementAt (-40)).state ∧
      (settlementAt (-40)).state.credits.lookup 1 = some (-40) ∧
      (verifiedAt (-40)).transfers.lookup 8 = some ⟨6,2,1,.pendingSellerOtp,-40,true,false,
        some 8,some 0,none,seconds 86400,0⟩ ∧
      (verifiedAt (-40)).credits.lookup 2 = some 100 ∧
      (settlementAt (-40)).state.credits.lookup 2 = some 140 := by
  refine ⟨fresh_solvent,?_,by decide +kernel,by decide +kernel,by decide +kernel,by decide +kernel⟩
  exact (((ReflTransGen.single (.market (.listTicket 1 (some 5) (some (-40))) (calm 6)
    (by decide +kernel) trivial)).tail (.market (.initiate 2 (some 6)) (calm 8)
    (by decide +kernel) trivial)).tail (.market (.buyerVerify 2 8 (some 1)) (calm 0)
    (by decide +kernel) trivial)).tail (.credit (.sellerVerify 1 8 (some 1)) (calm 0)
    (by decide +kernel))

end NegativePrice

end TicketRemaster.Credits
