import TicketRemaster.Resale.Market
import TicketRemaster.Transfer.Reads
set_option autoImplicit false

/-! What the databases say about the resale market, and how each call shows on it. -/

namespace TicketRemaster.Resale

open Resumption SeatInventory Function

def ticketHolding (t : Ticket) : Holding := ⟨t.ownerId,t.status⟩

def listingOffer (l : Listing) : Offer := ⟨l.ticketId,l.sellerId,l.status⟩

def transferDeal (t : TicketRemaster.Transfer) : Deal := ⟨t.listingId,t.sellerId,t.status⟩

/-- What the three databases say about the market. -/
def market (w : World) : Market where
  tickets i := (w.tickets.lookup i).map ticketHolding
  listings l := (w.listings.lookup l).map listingOffer
  deals t := (w.transfers.lookup t).map transferDeal

section Databases

variable {cfg : SeatConfig} {e : Env} {w w' : World} {m₀ : Market}

theorem market_frame {T : Option TableName} (hf : World.Frame T w w') (ht : T ≠ some .tickets)
    (hl : T ≠ some .listings) (hd : T ≠ some .transfers) : market w' = market w := by
  unfold market
  rw [hf.tickets ht,hf.listings hl,hf.transfers hd]

theorem lookup_map_insert {ρ σ : Type} (t : Table Nat ρ) (k : Nat) (r : ρ) (g : ρ → σ) :
    (fun i => ((t.insert k r).lookup i).map g) =
      update (fun i => (t.lookup i).map g) k (some (g r)) := by
  funext i
  by_cases h : i = k
  · subst h
    rw [AList.lookup_insert,update_self,Option.map_some]
  · rw [AList.lookup_insert_ne h,update_of_ne h]

/-- To change a row that is not there changes nothing. -/
theorem update_map_none {κ ρ : Type} [DecidableEq κ] {g : κ → Option ρ} {k : κ} {f : ρ → ρ}
    (h : g k = none) : update g k ((g k).map f) = g := by
  rw [h,Option.map_none,← h,update_eq_self]

theorem serve_updateListing_market (l : ListingId) {s : ListingStatus}
    (hs : s ∈ World.allowedStatuses) :
    market (w.serve e (.updateListing l s)).2 = (market w).setListing l s := by
  simp only [World.serve,World.updateListing]
  cases hl : w.listings.lookup l with
  | none =>
    refine Market.ext rfl (update_map_none ?_).symm rfl
    simp [market,hl]
  | some r =>
    simp only [hs,not_true_eq_false,if_false]
    refine Market.ext rfl ((lookup_map_insert ..).trans ?_) rfl
    simp [market,hl,Market.setListing,listingOffer]

theorem serve_updateTicket_market (i : TicketId) {p : TicketPatch} (hne : p ≠ {})
    (hs : ∀ s, p.status = some s → s ∈ World.allowedStatusValues) (hq : p.qrHash = none) :
    market (w.serve e (.updateTicket (some i) p)).2 = (market w).setTicket i
      fun h => ⟨p.ownerId.getD h.ownerId,p.status.getD h.status⟩ := by
  have hallowed : p.status.any (· ∉ World.allowedStatusValues) = false := by
    cases hp : p.status with
    | none => rfl
    | some s => simp [hs s hp]
  simp only [World.serve,World.updateTicket,if_neg hne,Option.bind_some]
  cases ht : w.tickets.lookup i with
  | none =>
    refine Market.ext (update_map_none ?_).symm rfl rfl
    simp [market,ht]
  | some r =>
    simp only [Option.map_some,hallowed,hq,Option.any_none,Bool.false_eq_true,if_false]
    refine Market.ext ((lookup_map_insert ..).trans ?_) rfl rfl
    simp [market,ht,Market.setTicket,ticketHolding,World.patchTicket]

/-- A new QR hash shows neither in the owner nor in the status. -/
theorem serve_updateQr_market (i : TicketId) {p : TicketPatch} (hs : p.status = none)
    (ho : p.ownerId = none) : market (w.serve e (.updateTicket (some i) p)).2 = market w := by
  rcases World.serve_updateTicket_cases e (some i) p with hw | ⟨j,t,-,ht,hw⟩
  · rw [hw]
  · have hsame : ticketHolding (World.patchTicket p t) = ticketHolding t := by
      simp [ticketHolding,World.patchTicket,hs,ho]
    rw [hw]
    refine Market.ext ((lookup_map_insert ..).trans ?_) rfl rfl
    rw [hsame]
    refine (congrArg (update _ j) ?_).trans (update_eq_self j _)
    rw [ht]
    rfl

/-- The row of a transfer changes: everything else stays. -/
theorem quiet_insert {i : TransferId} {t' : TicketRemaster.Transfer} (hq : Quiet m₀ (market w))
    (hrow : (w.transfers.lookup i).isSome)
    (hf : ∀ d, m₀.deals i = some d → d.Follows (transferDeal t')) :
    Quiet m₀ (market { w with transfers := w.transfers.insert i t' }) := by
  have hsame : (market { w with transfers := w.transfers.insert i t' }).deals i =
      some (transferDeal t') := by simp [market]
  have hother : ∀ j, j ≠ i → (market { w with transfers := w.transfers.insert i t' }).deals j =
      (market w).deals j := fun j hj => by simp [market,AList.lookup_insert_ne hj]
  refine ⟨hq.tickets,hq.listings,fun j d hd => ?_,fun j d' hd' => ?_⟩
  · by_cases hj : j = i
    · subst hj
      exact ⟨_,hsame,hf d hd⟩
    · rw [hother j hj]
      exact hq.kept j d hd
  · by_cases hj : j = i
    · subst hj
      obtain ⟨t,ht⟩ := Option.isSome_iff_exists.mp hrow
      obtain ⟨d,hd,-⟩ := hq.old j (transferDeal t) (by simp [market,ht])
      rw [hsame] at hd'
      cases hd'
      exact ⟨d,hd,hf d hd⟩
    · rw [hother j hj] at hd'
      exact hq.old j d' hd'

theorem not_autoExpires {t : TicketRemaster.Transfer} {now : Time}
    (h : World.autoExpires t now = true) : t.status ≠ .completed := by
  unfold World.autoExpires at h
  intro hc
  simp [hc] at h

theorem follows_expire {t : TicketRemaster.Transfer} {now : Time} {d : Deal}
    (hf : d.Follows (transferDeal t)) (h : World.autoExpires t now = true) :
    d.Follows (transferDeal (World.expire t)) where
  listing := hf.listing
  seller := hf.seller
  «open» ho := absurd rfl ho.2.2.1
  completed := by
    refine iff_of_false (by simp [transferDeal,World.expire]) fun hc => ?_
    exact not_autoExpires h (hf.completed.mpr hc)

theorem row_follows {i : TransferId} {t : TicketRemaster.Transfer} (hq : Quiet m₀ (market w))
    (ht : w.transfers.lookup i = some t) : ∃ d, m₀.deals i = some d ∧ d.Follows (transferDeal t) :=
  hq.old i (transferDeal t) (by simp [market,ht])

/-- A status with which a request may PATCH a transfer without settling or reopening it. -/
def QuietStatus (m₀ : Market) (i : TransferId) (s : TransferStatus) : Prop :=
  ∀ d, m₀.deals i = some d →
    s ≠ .completed ∧ d.status ≠ .completed ∧ (openStatus s → openStatus d.status)

theorem follows_set {i : TransferId} {t : TicketRemaster.Transfer} {p : TransferPatch} {d : Deal}
    (hf : d.Follows (transferDeal t)) (hd : m₀.deals i = some d)
    (hp : ∀ s, p.status = some s → QuietStatus m₀ i s) :
    d.Follows (transferDeal (World.setTransfer p t)) := by
  cases hs : p.status with
  | none =>
    have hsame : transferDeal (World.setTransfer p t) = transferDeal t := by
      simp [transferDeal,World.setTransfer,hs]
    rwa [hsame]
  | some s =>
    obtain ⟨hc,hd',ho⟩ := hp s hs d hd
    have hstatus : (transferDeal (World.setTransfer p t)).status = s := by
      simp [transferDeal,World.setTransfer,hs]
    refine ⟨hf.listing,hf.seller,?_,?_⟩
    · rw [hstatus]
      exact ho
    · rw [hstatus]
      exact iff_of_false hc hd'

theorem serve_getTransfer_quiet {i : TransferId} (hq : Quiet m₀ (market w)) :
    Quiet m₀ (market (w.serve e (.getTransfer i)).2) := by
  simp only [World.serve,World.getTransfer]
  split
  · exact hq
  · rename_i t ht
    split
    · rename_i hexp
      refine quiet_insert hq (by rw [ht]; rfl) fun d hd => ?_
      obtain ⟨d',hd',hf⟩ := row_follows hq ht
      obtain rfl : d = d' := Option.some.inj (hd.symm.trans hd')
      exact follows_expire hf hexp
    · exact hq

theorem serve_patchTransfer_quiet {i : TransferId} {p : TransferPatch} (hq : Quiet m₀ (market w))
    (hp : ∀ s, p.status = some s → QuietStatus m₀ i s) :
    Quiet m₀ (market (w.serve e (.patchTransfer i p)).2) := by
  simp only [World.serve,World.patchTransfer]
  split
  · exact hq
  · split
    · exact hq
    · split
      · exact hq
      · rename_i t ht
        obtain ⟨d,hd,hf⟩ := row_follows hq ht
        have hinsert : ∀ t', d.Follows (transferDeal t') →
            Quiet m₀ (market { w with transfers := w.transfers.insert i t' }) := by
          intro t' hf'
          refine quiet_insert hq (by rw [ht]; rfl) fun d' hd' => ?_
          obtain rfl : d = d' := Option.some.inj (hd.symm.trans hd')
          exact hf'
        split
        · rename_i hexp
          exact hinsert _ (follows_expire hf hexp)
        · exact hinsert _ (follows_set hf hd hp)

/-- A PATCH touches no transfer but its own, and of that neither listing nor seller. -/
theorem serve_patchTransfer_complete (i : TransferId) (p : TransferPatch) :
    (market (w.serve e (.patchTransfer i p)).2).complete i = (market w).complete i := by
  have hinsert : ∀ t t', w.transfers.lookup i = some t → t'.listingId = t.listingId →
      t'.sellerId = t.sellerId →
      (market { w with transfers := w.transfers.insert i t' }).complete i =
        (market w).complete i := by
    intro t t' ht hl hs
    refine Market.ext rfl rfl ?_
    funext j
    by_cases hj : j = i
    · subst hj
      rw [complete_same,complete_same]
      simp [market,ht,transferDeal,hl,hs]
    · rw [complete_other hj,complete_other hj]
      simp [market,AList.lookup_insert_ne hj]
  simp only [World.serve,World.patchTransfer]
  split
  · rfl
  · split
    · rfl
    · split
      · rfl
      · rename_i t ht
        split
        · exact hinsert t _ ht rfl rfl
        · exact hinsert t _ ht rfl rfl

theorem serve_patchTransfer_completed {i : TransferId} {p : TransferPatch} {v : Transfer}
    (hs : w.serve e (.patchTransfer i p) = (.ok v,w')) (hp : p.status = some .completed) :
    market w' = (market w).complete i := by
  simp only [World.serve,World.patchTransfer] at hs
  split at hs
  · cases hs
  · split at hs
    · cases hs
    · split at hs
      · cases hs
      · rename_i t ht
        split at hs
        · cases hs
        · cases hs
          refine Market.ext rfl rfl ((lookup_map_insert ..).trans ?_)
          simp [market,ht,Market.complete,transferDeal,World.setTransfer,hp]

/-- A call that changes neither tickets nor listings, and no transfer by more than progress. -/
structure QuietCall (m₀ : Market) (q : Call) : Prop where
  tickets : q.writes ≠ some .tickets
  listings : q.writes ≠ some .listings
  create : ∀ data, q ≠ .http (.createTransfer data)
  patch : ∀ i p s, q = .http (.patchTransfer i p) → p.status = some s → QuietStatus m₀ i s

theorem quietCall_reads {q : Call} (hq : q.Reads) : QuietCall m₀ q := by
  rcases hq with hw | ⟨i,rfl⟩
  · refine ⟨by simp [hw],by simp [hw],?_,?_⟩
    · rintro data rfl; cases hw
    · rintro i p s rfl; cases hw
  · exact ⟨by simp [Call.writes,Http.writes],by simp [Call.writes,Http.writes],by simp,by simp⟩

theorem quietCall_patch {i : TransferId} {p : TransferPatch}
    (hp : ∀ s, p.status = some s → QuietStatus m₀ i s) :
    QuietCall m₀ (.http (.patchTransfer i p)) := by
  refine ⟨by simp [Call.writes,Http.writes],by simp [Call.writes,Http.writes],by simp,?_⟩
  rintro _ _ s h hs
  cases h
  exact hp s hs

theorem quiet_perform {q : Call} (hc : QuietCall m₀ q) (hq : Quiet m₀ (market w)) :
    Quiet m₀ (market (World.perform cfg e w q).2) := by
  by_cases ht : q.writes = some .transfers
  · have hserve : ∀ r, q = .http r → Quiet m₀ (market (w.serve e r).2) := by
      rintro r rfl
      cases r with
      | createTransfer data => exact absurd rfl (hc.create data)
      | getTransfer i => exact serve_getTransfer_quiet hq
      | patchTransfer i p => exact serve_patchTransfer_quiet hq fun s hs => hc.patch i p s rfl hs
      | _ => cases ht
    cases q with
    | http r =>
      rcases World.perform_http_cases cfg e w r with h | h
      · rw [h]; exact hq
      · rw [h]; exact hserve r rfl
    | _ => simp [Call.writes] at ht
  · rw [market_frame (World.perform_frame q) hc.tickets hc.listings ht]
    exact hq

end Databases

end TicketRemaster.Resale
