import TicketRemaster.Resale.Databases
import TicketRemaster.Transfer.Compensation
import TicketRemaster.Transfer.Handlers
import TicketRemaster.Marketplace.Handlers
import TicketRemaster.Verification.Handlers
import TicketRemaster.Verification.Qr
set_option autoImplicit false

/-! The requests that act on tickets, listings and transfers, and how a complete run of each
shows on the resale market. -/

namespace TicketRemaster.Resale

open Resumption SeatInventory Transfer Verification

inductive Request where
  | initiate (buyerId : UserId) (listingId : Option ListingId)
  | buyerVerify (buyerId : UserId) (transferId : TransferId) (otp : Option Nat)
  | sellerAccept (sellerId : UserId) (transferId : TransferId)
  | sellerReject (sellerId : UserId) (transferId : TransferId)
  | sellerVerify (sellerId : UserId) (transferId : TransferId) (otp : Option Nat)
  | resendOtp (userId : UserId) (transferId : TransferId)
  | cancelTransfer (userId : UserId) (transferId : TransferId)
  | listTicket (userId : UserId) (ticketId : Option TicketId) (price : Option Credits)
  | delist (userId : UserId) (listingId : ListingId)
  | scan (staff : Staff) (qrHash : Option QrHash)
  | manualVerify (staff : Staff) (ticketId : Option TicketId)
  | getQr (userId : UserId) (ticketId : TicketId)

def Request.handler (v : VerifyConfig) : Request → Handler Unit
  | .initiate buyerId listingId => do let _ ← Transfer.initiate buyerId listingId
  | .buyerVerify buyerId transferId otp => do let _ ← Transfer.buyerVerify buyerId transferId otp
  | .sellerAccept sellerId transferId => do let _ ← Transfer.sellerAccept sellerId transferId
  | .sellerReject sellerId transferId => do let _ ← Transfer.sellerReject sellerId transferId
  | .sellerVerify sellerId transferId otp => do
      let _ ← Transfer.sellerVerify sellerId transferId otp
  | .resendOtp userId transferId => do let _ ← Transfer.resendOtp userId transferId
  | .cancelTransfer userId transferId => do let _ ← Transfer.cancelTransfer userId transferId
  | .listTicket userId ticketId price => do let _ ← Marketplace.listTicket userId ticketId price
  | .delist userId listingId => do let _ ← Marketplace.delist userId listingId
  | .scan staff qrHash => do let _ ← Verification.scan v staff qrHash
  | .manualVerify staff ticketId => do let _ ← Verification.manualVerify staff ticketId
  | .getQr userId ticketId => do let _ ← Verification.getQr v.qrTtl userId ticketId

/-- The transfer a request settles. -/
def Request.settles : Request → Option TransferId
  | .sellerVerify _ transferId _ => some transferId
  | _ => none

/-- Every call of a request is served. -/
def Healthy (_ : List (Entry Platform)) (e : Env) : Prop := e.fault = none

/-- The listing that a call PATCHes, and the status it gives it. -/
def patchedListing : Entry Platform → Option (ListingId × ListingStatus)
  | ⟨.http (.updateListing l s),_⟩ => some (l,s)
  | _ => none

def patchedListings (h : List (Entry Platform)) : List (ListingId × ListingStatus) :=
  h.filterMap patchedListing

/-- transfer-service refuses to complete the transfer, so the saga compensates. -/
def completionRefused : Entry Platform → Bool
  | ⟨.http (.patchTransfer _ p),.error _⟩ => p.status = some .completed
  | _ => false

/-- Unless a completion was refused, the run shows on the market as one step. -/
def Simulates (T : Option TransferId) (m₀ : Market) (h : List (Entry Platform)) (w : World) :
    Prop :=
  h.any completionRefused ∨ ∃ a, Step a m₀ (market w) ∧
    (∀ p, a.patch = some p → p ∈ patchedListings h) ∧ (a.patch ≠ none → a.settled = T)

/-- Every uninterrupted, healthy run of a handler from here ends in a simulated step. -/
abbrev Sim (cfg : SeatConfig) {α : Type} (T : Option TransferId) (m₀ : Market) (p : Handler α)
    (h : List (Entry Platform)) (w : World) : Prop :=
  Handler.Always cfg Healthy (fun _ => Simulates T m₀) (fun _ => Simulates T m₀) p h w

section Rules

variable {cfg : SeatConfig} {α β : Type} {T : Option TransferId} {m₀ : Market} {w : World}
  {h h' : List (Entry Platform)} {Q : β → List (Entry Platform) → World → Prop}
  {X : Unhandled → List (Entry Platform) → World → Prop}

theorem healthy_perform {e : Env} (he : e.fault = none) (q : Http) :
    World.perform cfg e w (.http q) = (World.httpReply (w.serve e q).1,(w.serve e q).2) := by
  simp [World.perform,World.faulty,he]

theorem healthy_definite (h : List (Entry Platform)) (e : Env) (he : Healthy h e) : e.Definite := by
  intro f hf
  rw [show e.fault = none from he] at hf
  cases hf

theorem patchedListings_mono (hh : h ⊆ h') : patchedListings h ⊆ patchedListings h' := by
  intro p hp
  obtain ⟨entry,hmem,hentry⟩ := List.mem_filterMap.mp hp
  exact List.mem_filterMap.mpr ⟨entry,hh hmem,hentry⟩

/-- A healthy call is answered by its service. -/
theorem healthy_always {q : Http} {f : Except String q.Val → Handler β}
    (hok : ∀ e v w', e.fault = none → w.serve e q = (.ok v,w') →
      Handler.Always cfg Healthy Q X (f (.ok v)) (⟨.http q,.ok v⟩ :: h) w')
    (herr : ∀ e err w', e.fault = none → w.serve e q = (.error err,w') →
      Handler.Always cfg Healthy Q X (f (.error err.code)) (⟨.http q,.error err.code⟩ :: h) w') :
    Handler.Always cfg Healthy Q X (callService q >>= f) h w :=
  served_always (fun _ he => he) hok herr

/-- A call whose answer the handler ignores. -/
theorem ignored_always {q : Http} {f : Handler β}
    (hf : ∀ e reply, e.fault = none →
      Handler.Always cfg Healthy Q X f (⟨.http q,reply⟩ :: h) (w.serve e q).2) :
    Handler.Always cfg Healthy Q X (callService q >>= fun _ => f) h w := by
  refine healthy_always (fun e v w' he hs => ?_) (fun e err w' he hs => ?_)
  · have := hf e (.ok v) he
    rwa [hs] at this
  · have := hf e (.error err.code) he
    rwa [hs] at this

/-- A read leaves everything as it is. -/
theorem read_always {q : Http} {f : Except String q.Val → Handler β} (hq : q.writes = none)
    (hf : ∀ answer reply, Handler.Always cfg Healthy Q X (f answer) (⟨.http q,reply⟩ :: h) w) :
    Handler.Always cfg Healthy Q X (callService q >>= f) h w := by
  refine healthy_always (fun e v w' he hs => ?_) (fun e err w' he hs => ?_) <;>
  · have hw : (w.serve e q).2 = w := World.serve_read hq
    rw [hs] at hw
    subst hw
    exact hf _ _

/-- A read whose failure does not matter. -/
theorem safeGet_always {q : Http} {f : Option q.Val → Handler β} (hq : q.writes = none)
    (hf : ∀ data reply, Handler.Always cfg Healthy Q X (f data) (⟨.http q,reply⟩ :: h) w) :
    Handler.Always cfg Healthy Q X (safeGet q >>= f) h w := by
  refine Prog.always_bind.mpr (read_always hq fun answer reply => ?_)
  cases answer with
  | error code => exact hf none reply
  | ok data => exact hf (some data) reply

theorem simulates_keep (hq : Quiet m₀ (market w)) : Simulates T m₀ h w :=
  .inr ⟨.keep,⟨m₀,m₀,.refl m₀,.keep,hq⟩,by simp [Action.patch],by simp [Action.patch]⟩

/-- Transfers may go on after a simulated run. -/
theorem Simulates.quiet {w' : World} (hs : Simulates T m₀ h w) (hh : h ⊆ h')
    (hq : Quiet (market w) (market w')) : Simulates T m₀ h' w' := by
  rcases hs with hr | ⟨a,⟨m₁,m₂,hq₁,ha,hq₂⟩,hl,ht⟩
  · obtain ⟨entry,hmem,hentry⟩ := List.any_eq_true.mp hr
    exact .inl (List.any_eq_true.mpr ⟨entry,hh hmem,hentry⟩)
  · exact .inr ⟨a,⟨m₁,m₂,hq₁,ha,hq₂.trans hq⟩,fun x hx => patchedListings_mono hh (hl x hx),ht⟩

/-- What a stretch of quiet calls keeps. -/
theorem quiet_always {p : Handler α} {m : Market} (hp : p.Calls (QuietCall m) (fun _ => True))
    (hq : Quiet m (market w)) :
    Handler.Always cfg Healthy (fun _ h' w' => h ⊆ h' ∧ Quiet m (market w'))
      (fun _ h' w' => h ⊆ h' ∧ Quiet m (market w')) p h w := by
  refine (hp.always (J := fun h' w' => h ⊆ h' ∧ Quiet m (market w')) ?_
    ⟨fun _ hx => hx,hq⟩).mono (fun _ _ _ hJ => hJ) (fun _ _ _ hJ => hJ.2)
  exact fun q hc h' e w' _ hJ =>
    ⟨fun x hx => List.mem_cons_of_mem _ (hJ.1 hx),quiet_perform hc hJ.2⟩

/-- The rest of a run that only lets transfers go on. -/
theorem sim_keep {p : Handler α} (hp : p.Calls (QuietCall m₀) (fun _ => True))
    (hq : Quiet m₀ (market w)) : Sim cfg T m₀ p h w := by
  exact (quiet_always hp hq).mono (fun _ _ _ hJ => simulates_keep hJ.2)
    (fun _ _ _ hJ => simulates_keep hJ.2)

/-- The rest of a run once its action is taken. -/
theorem sim_act {p : Handler α} {a : Action} {m₁ : Market}
    (hp : p.Calls (QuietCall (market w)) (fun _ => True)) (hq : Quiet m₀ m₁)
    (ha : Act m₁ a (market w)) (hl : ∀ x, a.patch = some x → x ∈ patchedListings h)
    (ht : a.patch ≠ none → a.settled = T) : Sim cfg T m₀ p h w := by
  have hs : Simulates T m₀ h w := .inr ⟨a,⟨m₁,_,hq,ha,.refl _⟩,hl,ht⟩
  exact (quiet_always hp (.refl _)).mono (fun _ _ _ hJ => hs.quiet hJ.1 hJ.2)
    (fun _ _ _ hJ => hs.quiet hJ.1 hJ.2)

/-- A run after a refused completion. -/
theorem sim_refused {p : Handler α} (hr : h.any completionRefused) : Sim cfg T m₀ p h w := by
  refine (p.calls_true.always (J := fun h' _ => h'.any completionRefused) ?_ hr).mono
    (fun _ _ _ hJ => .inl hJ) (fun _ _ _ hJ => .inl hJ.2)
  intro q _ h' e w' _ hJ
  rw [List.any_cons,hJ,Bool.or_true]

theorem sim_discard {p : Handler α} (hp : Sim cfg T m₀ p h w) :
    Sim cfg T m₀ (do let _ ← p : Handler Unit) h w := Prog.always_bind.mpr hp

/-- Reading a transfer, at most expiring it. -/
theorem getTransfer_always {i : TransferId} {f : Except String TicketRemaster.Transfer → Handler β}
    (hq : Quiet m₀ (market w))
    (herr : ∀ code reply, Handler.Always cfg Healthy Q X (f (.error code)) (reply :: h) w)
    (hok : ∀ t d w', Quiet m₀ (market w') → m₀.deals i = some d → d.Follows (transferDeal t) →
      w'.transfers.lookup i = some t → World.Frame (some .transfers) w w' →
      Handler.Always cfg Healthy Q X (f (.ok t)) (⟨.http (.getTransfer i),.ok t⟩ :: h) w') :
    Handler.Always cfg Healthy Q X (callService (.getTransfer i) >>= f) h w := by
  refine healthy_always (fun e t w' he hs => ?_) (fun e err w' he hs => ?_)
  · have hw : w' = (w.serve e (.getTransfer i)).2 := by rw [hs]
    have hrow : w'.transfers.lookup i = some t := by
      simp only [World.serve,World.getTransfer] at hs
      split at hs
      · cases hs
      · rename_i t₀ ht₀
        split at hs
        · cases hs; exact AList.lookup_insert _
        · cases hs; exact ht₀
    have hq' : Quiet m₀ (market w') := by rw [hw]; exact serve_getTransfer_quiet hq
    have hf : World.Frame (some .transfers) w w' := by
      rw [hw]; exact World.serve_frame e w (.getTransfer i)
    obtain ⟨d,hd,hdf⟩ := row_follows hq' hrow
    exact hok t d w' hq' hd hdf hrow hf
  · have hw : w' = w := by
      simp only [World.serve,World.getTransfer] at hs
      split at hs
      · cases hs; rfl
      · split at hs <;> cases hs
    subst hw
    exact herr err.code _

theorem getListing_always {l : ListingId} {f : Except String Listing → Handler β}
    (hnone : w.listings.lookup l = none → Handler.Always cfg Healthy Q X
      (f (.error "LISTING_NOT_FOUND")) (⟨.http (.getListing l),.error "LISTING_NOT_FOUND"⟩ :: h) w)
    (hsome : ∀ r, w.listings.lookup l = some r → Handler.Always cfg Healthy Q X (f (.ok r))
      (⟨.http (.getListing l),.ok r⟩ :: h) w) :
    Handler.Always cfg Healthy Q X (callService (.getListing l) >>= f) h w := by
  refine healthy_always (fun e r w' he hs => ?_) (fun e err w' he hs => ?_) <;>
    simp only [World.serve,World.getListing,World.found] at hs <;> split at hs <;> cases hs
  · exact hsome _ ‹_›
  · exact hnone ‹_›

theorem getTicket_always {i : TicketId} {f : Except String Ticket → Handler β}
    (hnone : w.tickets.lookup i = none → Handler.Always cfg Healthy Q X
      (f (.error "TICKET_NOT_FOUND")) (⟨.http (.getTicket i),.error "TICKET_NOT_FOUND"⟩ :: h) w)
    (hsome : ∀ t, w.tickets.lookup i = some t → Handler.Always cfg Healthy Q X (f (.ok t))
      (⟨.http (.getTicket i),.ok t⟩ :: h) w) :
    Handler.Always cfg Healthy Q X (callService (.getTicket i) >>= f) h w := by
  refine healthy_always (fun e r w' he hs => ?_) (fun e err w' he hs => ?_) <;>
    simp only [World.serve,World.getTicket,World.found] at hs <;> split at hs <;> cases hs
  · exact hsome _ ‹_›
  · exact hnone ‹_›

end Rules

end TicketRemaster.Resale
