import TicketRemaster.Services.Records
set_option autoImplicit false

/-! The resale market, as the marketplace is meant to work: who holds which ticket, what is on
offer, and which transfers are under way. One step stands for one complete request. -/

namespace TicketRemaster.Resale

open Function

structure Holding where
  ownerId : UserId
  status : TicketStatus
  deriving DecidableEq

structure Offer where
  ticketId : TicketId
  sellerId : UserId
  status : ListingStatus
  deriving DecidableEq

structure Deal where
  listingId : ListingId
  sellerId : UserId
  status : TransferStatus
  deriving DecidableEq

@[ext] structure Market where
  tickets : TicketId → Option Holding
  listings : ListingId → Option Offer
  deals : TransferId → Option Deal

/-- A transfer that can still be settled. -/
def openStatus (s : TransferStatus) : Prop :=
  s ≠ .completed ∧ s ≠ .cancelled ∧ s ≠ .expired ∧ s ≠ .failed

instance (s : TransferStatus) : Decidable (openStatus s) :=
  inferInstanceAs (Decidable (_ ∧ _))

/-- What a request may do to a transfer besides settling it: not reopen it, nor complete it. -/
structure Deal.Follows (d d' : Deal) : Prop where
  listing : d'.listingId = d.listingId
  seller : d'.sellerId = d.sellerId
  «open» : openStatus d'.status → openStatus d.status
  completed : d'.status = .completed ↔ d.status = .completed

theorem Deal.Follows.refl (d : Deal) : d.Follows d := ⟨rfl,rfl,id,Iff.rfl⟩

theorem Deal.Follows.trans {d d' d'' : Deal} (h : d.Follows d') (h' : d'.Follows d'') :
    d.Follows d'' :=
  ⟨h'.listing.trans h.listing,h'.seller.trans h.seller,fun ho => h.open (h'.open ho),
    h'.completed.trans h.completed⟩

/-- Tickets and listings stay, and so do the transfers, give or take their progress. -/
structure Quiet (m m' : Market) : Prop where
  tickets : m'.tickets = m.tickets
  listings : m'.listings = m.listings
  kept : ∀ i d, m.deals i = some d → ∃ d', m'.deals i = some d' ∧ d.Follows d'
  old : ∀ i d', m'.deals i = some d' → ∃ d, m.deals i = some d ∧ d.Follows d'

theorem Quiet.refl (m : Market) : Quiet m m :=
  ⟨rfl,rfl,fun _ d h => ⟨d,h,.refl d⟩,fun _ d h => ⟨d,h,.refl d⟩⟩

theorem Quiet.trans {m₁ m₂ m₃ : Market} (h : Quiet m₁ m₂) (h' : Quiet m₂ m₃) : Quiet m₁ m₃ where
  tickets := h'.tickets.trans h.tickets
  listings := h'.listings.trans h.listings
  kept i d hd := by
    obtain ⟨d',hd',hf⟩ := h.kept i d hd
    obtain ⟨d'',hd'',hf'⟩ := h'.kept i d' hd'
    exact ⟨d'',hd'',hf.trans hf'⟩
  old i d'' hd := by
    obtain ⟨d',hd',hf'⟩ := h'.old i d'' hd
    obtain ⟨d,hd,hf⟩ := h.old i d' hd'
    exact ⟨d,hd,hf.trans hf'⟩

namespace Market

def setTicket (m : Market) (i : TicketId) (f : Holding → Holding) : Market :=
  { m with tickets := update m.tickets i ((m.tickets i).map f) }

def setListing (m : Market) (l : ListingId) (s : ListingStatus) : Market :=
  { m with listings := update m.listings l ((m.listings l).map fun o => { o with status := s }) }

def addListing (m : Market) (l : ListingId) (o : Offer) : Market :=
  { m with listings := update m.listings l (some o) }

def addDeal (m : Market) (t : TransferId) (d : Deal) : Market :=
  { m with deals := update m.deals t (some d) }

def complete (m : Market) (t : TransferId) : Market :=
  { m with deals := update m.deals t ((m.deals t).map fun d => { d with status := .completed }) }

/-- A transfer of the listing is settled: the ticket is the buyer's, and off the market. -/
def settle (m : Market) (t : TransferId) (l : ListingId) (i : TicketId) (buyerId : UserId) :
    Market :=
  ((m.setTicket i fun _ => ⟨buyerId,.active⟩).setListing l .completed).complete t

/-- A listing and its ticket are put on the market, whatever has become of them. -/
def reopen (m : Market) (l : ListingId) (i : TicketId) : Market :=
  (m.setListing l .active).setTicket i fun h => { h with status := .listed }

def delist (m : Market) (l : ListingId) (i : TicketId) : Market :=
  (m.setListing l .cancelled).setTicket i fun h => { h with status := .active }

def list (m : Market) (l : ListingId) (i : TicketId) (sellerId : UserId) : Market :=
  (m.setTicket i fun h => { h with status := .listed }).addListing l ⟨i,sellerId,.active⟩

def checkIn (m : Market) (i : TicketId) : Market :=
  m.setTicket i fun h => { h with status := .used }

end Market

/-- What a complete request can do to the market, beyond the progress of transfers. -/
inductive Action where
  | keep
  | openDeal (t : TransferId) (l : ListingId)
  | list (l : ListingId) (i : TicketId)
  | delist (l : ListingId) (i : TicketId)
  | reopen (l : ListingId) (i : TicketId)
  | settle (t : TransferId) (l : ListingId) (i : TicketId)
  | checkIn (i : TicketId)

/-- The status an action gives to an existing listing. -/
def Action.patch : Action → Option (ListingId × ListingStatus)
  | .delist l _ => some (l,.cancelled)
  | .reopen l _ => some (l,.active)
  | .settle _ l _ => some (l,.completed)
  | _ => none

/-- The guards the handlers check, and the effect behind them. -/
inductive Act (m : Market) : Action → Market → Prop where
  | keep : Act m .keep m
  | openDeal {t : TransferId} {l : ListingId} {o : Offer} (hnew : m.deals t = none)
      (hl : m.listings l = some o) (ha : o.status = .active) :
      Act m (.openDeal t l) (m.addDeal t ⟨l,o.sellerId,.pendingSellerAcceptance⟩)
  | list {l : ListingId} {i : TicketId} {h : Holding} (ht : m.tickets i = some h)
      (ha : h.status = .active) (hnew : m.listings l = none) :
      Act m (.list l i) (m.list l i h.ownerId)
  | delist {l : ListingId} {o : Offer} (hl : m.listings l = some o) (ha : o.status = .active) :
      Act m (.delist l o.ticketId) (m.delist l o.ticketId)
  | reopen {l : ListingId} {o : Offer} (hl : m.listings l = some o) :
      Act m (.reopen l o.ticketId) (m.reopen l o.ticketId)
  | settle {t : TransferId} {d : Deal} {o : Offer} {buyerId : UserId} (hd : m.deals t = some d)
      (ho : openStatus d.status) (hl : m.listings d.listingId = some o) :
      Act m (.settle t d.listingId o.ticketId) (m.settle t d.listingId o.ticketId buyerId)
  | checkIn {i : TicketId} {h : Holding} (ht : m.tickets i = some h) (ha : h.status = .active) :
      Act m (.checkIn i) (m.checkIn i)

/-- A complete request: one action, with transfers going on before and after it. -/
def Step (a : Action) (m m' : Market) : Prop :=
  ∃ m₁ m₂, Quiet m m₁ ∧ Act m₁ a m₂ ∧ Quiet m₂ m'

section Rows

variable {m : Market} {i j : TicketId} {l l' : ListingId} {f : Holding → Holding}
  {s : ListingStatus} {o o' : Offer}

@[simp] theorem setTicket_listings : (m.setTicket i f).listings = m.listings := rfl
@[simp] theorem setTicket_deals : (m.setTicket i f).deals = m.deals := rfl
@[simp] theorem setListing_tickets : (m.setListing l s).tickets = m.tickets := rfl
@[simp] theorem setListing_deals : (m.setListing l s).deals = m.deals := rfl
@[simp] theorem addListing_tickets : (m.addListing l o).tickets = m.tickets := rfl
@[simp] theorem addListing_deals : (m.addListing l o).deals = m.deals := rfl

theorem setTicket_same : (m.setTicket i f).tickets i = (m.tickets i).map f := update_self ..

theorem setTicket_other (h : j ≠ i) : (m.setTicket i f).tickets j = m.tickets j :=
  update_of_ne h ..

theorem setListing_same : (m.setListing l s).listings l =
    (m.listings l).map fun o => { o with status := s } := update_self ..

theorem setListing_other (h : l' ≠ l) : (m.setListing l s).listings l' = m.listings l' :=
  update_of_ne h ..

theorem addDeal_same {t : TransferId} {d : Deal} : (m.addDeal t d).deals t = some d :=
  update_self ..

theorem addDeal_other {t t' : TransferId} {d : Deal} (h : t' ≠ t) :
    (m.addDeal t d).deals t' = m.deals t' := update_of_ne h ..

theorem complete_same {t : TransferId} : (m.complete t).deals t =
    (m.deals t).map fun d => { d with status := .completed } := update_self ..

theorem complete_other {t t' : TransferId} (h : t' ≠ t) :
    (m.complete t).deals t' = m.deals t' := update_of_ne h ..

/-- The listing is on offer. -/
def Market.Active (m : Market) (l : ListingId) (o : Offer) : Prop :=
  m.listings l = some o ∧ o.status = .active

theorem active_congr {m' : Market} (h : m'.listings = m.listings) :
    m'.Active l o ↔ m.Active l o := by
  unfold Market.Active
  rw [h]

theorem active_setListing (hs : s ≠ .active) (ha : (m.setListing l s).Active l' o) :
    l' ≠ l ∧ m.Active l' o := by
  by_cases hl : l' = l
  · subst hl
    obtain ⟨ho,hact⟩ := ha
    rw [setListing_same] at ho
    obtain ⟨o₀,-,rfl⟩ := Option.map_eq_some_iff.mp ho
    exact absurd hact hs
  · exact ⟨hl,(setListing_other hl).symm.trans ha.1,ha.2⟩

theorem active_addListing (ha : (m.addListing l o').Active l' o) :
    (l' = l ∧ o = o') ∨ (l' ≠ l ∧ m.Active l' o) := by
  by_cases hl : l' = l
  · subst hl
    exact .inl ⟨rfl,Option.some.inj ((update_self ..).symm.trans ha.1).symm⟩
  · exact .inr ⟨hl,(update_of_ne hl ..).symm.trans ha.1,ha.2⟩

/-- To put a listing on the market that is there already changes nothing. -/
theorem reopen_active {i : TicketId} {u : UserId} (ha : m.Active l o)
    (ht : m.tickets i = some ⟨u,.listed⟩) : m.reopen l i = m := by
  have hl : (m.setListing l .active).listings = m.listings := by
    refine (congrArg (update m.listings l) ?_).trans (update_eq_self l m.listings)
    rw [ha.1,← ha.2]
    rfl
  have hi : (m.reopen l i).tickets = m.tickets := by
    refine (congrArg (update m.tickets i) ?_).trans (update_eq_self i m.tickets)
    rw [setListing_tickets,ht]
    rfl
  exact Market.ext hi hl rfl

end Rows

section Consistency

variable {m m' : Market} {a : Action}

/-- A listing on offer is the only one of its ticket, which is listed and the seller's. -/
structure Consistent (m : Market) : Prop where
  listed : ∀ l o, m.Active l o → m.tickets o.ticketId = some ⟨o.sellerId,.listed⟩
  unique : ∀ l l' o o', m.Active l o → m.Active l' o' → o.ticketId = o'.ticketId → l = l'

/-- A market with fewer listings on offer, and the same tickets behind them. -/
theorem Consistent.shrink (hc : Consistent m) (ha : ∀ l o, m'.Active l o → m.Active l o)
    (ht : ∀ l o, m'.Active l o → m'.tickets o.ticketId = m.tickets o.ticketId) :
    Consistent m' where
  listed l o h := (ht l o h).trans (hc.listed l o (ha l o h))
  unique l l' o o' h h' := hc.unique l l' o o' (ha l o h) (ha l' o' h')

theorem Consistent.quiet (hc : Consistent m) (hq : Quiet m m') : Consistent m' :=
  hc.shrink (fun _ _ h => (active_congr hq.listings).mp h) (fun _ _ _ => by rw [hq.tickets])

/-- Another listing on offer is of another ticket. -/
theorem Consistent.other (hc : Consistent m) {l l' : ListingId} {o o' : Offer}
    (h : m.Active l o) (h' : m.Active l' o') (hne : l' ≠ l) : o'.ticketId ≠ o.ticketId :=
  fun ht => hne (hc.unique l' l o' o h' h ht)

/-- A ticket on offer is neither active nor used. -/
theorem Consistent.not_offered (hc : Consistent m) {i : TicketId} {h : Holding}
    (ht : m.tickets i = some h) (hs : h.status ≠ .listed) {l : ListingId} {o : Offer}
    (ho : m.Active l o) : o.ticketId ≠ i := by
  rintro rfl
  rw [hc.listed l o ho] at ht
  cases ht
  exact hs rfl

/-- Whether the action leaves listings alone that are no longer on offer. -/
def Action.OnOffer (a : Action) (m : Market) : Prop :=
  ∀ l s, a.patch = some (l,s) → ∃ o, m.Active l o

theorem Act.consistent (ha : Act m a m') (hon : a.OnOffer m) (hc : Consistent m) :
    Consistent m' := by
  cases ha with
  | keep => exact hc
  | openDeal hnew hl ha => exact hc.shrink (fun _ _ h => h) (fun _ _ _ => rfl)
  | @list l i h ht hact hnew =>
    have hfree : ∀ l' o, m.Active l' o → o.ticketId ≠ i :=
      fun l' o ho => hc.not_offered ht (by rw [hact]; decide) ho
    constructor
    · intro l' o ho
      rcases active_addListing ho with ⟨-,rfl⟩ | ⟨-,hold⟩
      · exact setTicket_same.trans (by rw [ht]; rfl)
      · exact (setTicket_other (hfree l' o hold)).trans (hc.listed l' o hold)
    · intro l₁ l₂ o₁ o₂ h₁ h₂ heq
      rcases active_addListing h₁ with ⟨rfl,rfl⟩ | ⟨-,hold₁⟩ <;>
        rcases active_addListing h₂ with ⟨rfl,rfl⟩ | ⟨-,hold₂⟩
      · rfl
      · exact absurd heq.symm (hfree _ _ hold₂)
      · exact absurd heq (hfree _ _ hold₁)
      · exact hc.unique _ _ _ _ hold₁ hold₂ heq
  | @delist l o hl hact =>
    refine hc.shrink (fun l' o' h' => (active_setListing (by decide) h').2) (fun l' o' h' => ?_)
    obtain ⟨hne,hold⟩ := active_setListing (by decide) h'
    exact setTicket_other (hc.other ⟨hl,hact⟩ hold hne)
  | @reopen l o hl =>
    obtain ⟨o₁,ho₁⟩ := hon l _ rfl
    obtain rfl : o = o₁ := Option.some.inj (hl.symm.trans ho₁.1)
    rw [reopen_active ho₁ (hc.listed l o ho₁)]
    exact hc
  | @settle t d o buyerId hd ho hl =>
    obtain ⟨o₁,ho₁⟩ := hon _ _ rfl
    obtain rfl : o = o₁ := Option.some.inj (hl.symm.trans ho₁.1)
    refine hc.shrink (fun l' o' h' => (active_setListing (by decide) h').2) (fun l' o' h' => ?_)
    obtain ⟨hne,hold⟩ := active_setListing (by decide) h'
    exact setTicket_other (hc.other ho₁ hold hne)
  | @checkIn i h ht hact =>
    refine hc.shrink (fun _ _ h => h) (fun l o ho => ?_)
    exact setTicket_other (hc.not_offered ht (by rw [hact]; decide) ho)

theorem Action.OnOffer.quiet (hon : a.OnOffer m) (hq : Quiet m m') : a.OnOffer m' := by
  intro l s hp
  obtain ⟨o,ho⟩ := hon l s hp
  exact ⟨o,(active_congr hq.listings).mpr ho⟩

/-- A request that acts on listings on offer only keeps the market consistent. -/
theorem Step.consistent (hs : Step a m m') (hon : a.OnOffer m) (hc : Consistent m) :
    Consistent m' := by
  obtain ⟨m₁,m₂,hq,ha,hq'⟩ := hs
  exact (ha.consistent (hon.quiet hq) (hc.quiet hq)).quiet hq'

theorem Act.used (ha : Act m a m') (hon : a.OnOffer m) (hc : Consistent m) {i : TicketId}
    {h : Holding} (ht : m.tickets i = some h) (hu : h.status = .used) : m'.tickets i = some h := by
  cases ha with
  | keep => exact ht
  | openDeal hnew hl ha => exact ht
  | @list l j h' ht' hact hnew =>
    refine (setTicket_other ?_).trans ht
    rintro rfl
    rw [ht] at ht'
    cases ht'
    rw [hu] at hact
    cases hact
  | @delist l o hl hact =>
    refine (setTicket_other (Ne.symm ?_)).trans ht
    exact hc.not_offered ht (by rw [hu]; decide) ⟨hl,hact⟩
  | @reopen l o hl =>
    obtain ⟨o₁,ho₁⟩ := hon l _ rfl
    obtain rfl : o = o₁ := Option.some.inj (hl.symm.trans ho₁.1)
    exact (setTicket_other (hc.not_offered ht (by rw [hu]; decide) ho₁).symm).trans ht
  | @settle t d o buyerId hd ho hl =>
    obtain ⟨o₁,ho₁⟩ := hon _ _ rfl
    obtain rfl : o = o₁ := Option.some.inj (hl.symm.trans ho₁.1)
    exact (setTicket_other (hc.not_offered ht (by rw [hu]; decide) ho₁).symm).trans ht
  | @checkIn j h' ht' hact =>
    refine (setTicket_other ?_).trans ht
    rintro rfl
    rw [ht] at ht'
    cases ht'
    rw [hu] at hact
    cases hact

theorem Step.used (hs : Step a m m') (hon : a.OnOffer m) (hc : Consistent m) {i : TicketId}
    {h : Holding} (ht : m.tickets i = some h) (hu : h.status = .used) : m'.tickets i = some h := by
  obtain ⟨m₁,m₂,hq,ha,hq'⟩ := hs
  rw [hq'.tickets]
  exact ha.used (hon.quiet hq) (hc.quiet hq) (by rw [hq.tickets,ht]) hu

end Consistency

section Exclusivity

variable {m m' : Market} {a : Action}

/-- Only listings on offer have open transfers, and a listing is sold once and for all. -/
structure Exclusive (m : Market) : Prop where
  offered : ∀ t d, m.deals t = some d → openStatus d.status →
    ∃ o, m.Active d.listingId o ∧ o.sellerId = d.sellerId
  sold : ∀ t d, m.deals t = some d → d.status = .completed →
    ∃ o, m.listings d.listingId = some o ∧ o.status ≠ .active
  once : ∀ t t' d d', m.deals t = some d → m.deals t' = some d' → d.status = .completed →
    d'.status = .completed → d.listingId = d'.listingId → t = t'

/-- The transfer an action settles. -/
def Action.settled : Action → Option TransferId
  | .settle t _ _ => some t
  | _ => none

/-- Whether the action leaves listings alone that are no longer on offer, and takes none off
the market while another transfer of it is open. -/
structure Action.Alone (a : Action) (m : Market) : Prop where
  reopens : ∀ l, a.patch = some (l,.active) → ∃ o, m.Active l o
  ends : ∀ l s, a.patch = some (l,s) → s ≠ .active → ∀ t d, m.deals t = some d →
    openStatus d.status → d.listingId = l → a.settled = some t

theorem Action.Alone.quiet (hal : a.Alone m) (hq : Quiet m m') : a.Alone m' where
  reopens l hp := by
    obtain ⟨o,ho⟩ := hal.reopens l hp
    exact ⟨o,(active_congr hq.listings).mpr ho⟩
  ends l s hp hs t d' hd' ho hl := by
    obtain ⟨d,hd,hf⟩ := hq.old t d' hd'
    exact hal.ends l s hp hs t d hd (hf.open ho) (hf.listing.symm.trans hl)

theorem Exclusive.quiet (he : Exclusive m) (hq : Quiet m m') : Exclusive m' where
  offered t d' hd' ho := by
    obtain ⟨d,hd,hf⟩ := hq.old t d' hd'
    obtain ⟨o,hact,hseller⟩ := he.offered t d hd (hf.open ho)
    refine ⟨o,?_,hseller.trans hf.seller.symm⟩
    rw [hf.listing]
    exact (active_congr hq.listings).mpr hact
  sold t d' hd' hc := by
    obtain ⟨d,hd,hf⟩ := hq.old t d' hd'
    rw [hq.listings,hf.listing]
    exact he.sold t d hd (hf.completed.mp hc)
  once t t' d₁ d₂ h₁ h₂ hc₁ hc₂ hl := by
    obtain ⟨d,hd,hf⟩ := hq.old t d₁ h₁
    obtain ⟨d',hd',hf'⟩ := hq.old t' d₂ h₂
    refine he.once t t' d d' hd hd' (hf.completed.mp hc₁) (hf'.completed.mp hc₂) ?_
    rw [← hf.listing,hl,hf'.listing]

/-- The same transfers, with the same listings behind those that matter. -/
theorem Exclusive.congr (he : Exclusive m) (hd : m'.deals = m.deals)
    (ho : ∀ t d o, m.deals t = some d → openStatus d.status → m.listings d.listingId = some o →
      m'.listings d.listingId = some o)
    (hs : ∀ t d o, m.deals t = some d → m.listings d.listingId = some o → o.status ≠ .active →
      ∃ o', m'.listings d.listingId = some o' ∧ o'.status ≠ .active) : Exclusive m' where
  offered t d hdeal hopen := by
    rw [hd] at hdeal
    obtain ⟨o,hact,hseller⟩ := he.offered t d hdeal hopen
    exact ⟨o,⟨ho t d o hdeal hopen hact.1,hact.2⟩,hseller⟩
  sold t d hdeal hc := by
    rw [hd] at hdeal
    obtain ⟨o,hl,hna⟩ := he.sold t d hdeal hc
    exact hs t d o hdeal hl hna
  once t t' d d' h h' := he.once t t' d d' (hd ▸ h) (hd ▸ h')

theorem setListing_inactive {l l' : ListingId} {s : ListingStatus} {o : Offer} (hs : s ≠ .active)
    (hl : m.listings l' = some o) (ho : o.status ≠ .active) :
    ∃ o', (m.setListing l s).listings l' = some o' ∧ o'.status ≠ .active := by
  by_cases h : l' = l
  · subst h
    exact ⟨_,setListing_same.trans (by rw [hl]; rfl),hs⟩
  · exact ⟨o,(setListing_other h).trans hl,ho⟩

theorem Exclusive.addDeal (he : Exclusive m) {t : TransferId} {l : ListingId} {o : Offer}
    {s : TransferStatus} (hact : m.Active l o) (hs : s ≠ .completed) :
    Exclusive (m.addDeal t ⟨l,o.sellerId,s⟩) := by
  have hother : ∀ t' d, (m.addDeal t ⟨l,o.sellerId,s⟩).deals t' = some d →
      (t' = t ∧ d = ⟨l,o.sellerId,s⟩) ∨ m.deals t' = some d := by
    intro t' d hd
    by_cases ht : t' = t
    · subst ht
      exact .inl ⟨rfl,(Option.some.inj (addDeal_same.symm.trans hd)).symm⟩
    · exact .inr ((addDeal_other ht).symm.trans hd)
  constructor
  · intro t' d hd hopen
    rcases hother t' d hd with ⟨-,rfl⟩ | hold
    · exact ⟨o,hact,rfl⟩
    · exact he.offered t' d hold hopen
  · intro t' d hd hc
    rcases hother t' d hd with ⟨-,rfl⟩ | hold
    · exact absurd hc hs
    · exact he.sold t' d hold hc
  · intro t₁ t₂ d₁ d₂ h₁ h₂ hc₁ hc₂ hl
    rcases hother t₁ d₁ h₁ with ⟨-,rfl⟩ | hold₁
    · exact absurd hc₁ hs
    rcases hother t₂ d₂ h₂ with ⟨-,rfl⟩ | hold₂
    · exact absurd hc₂ hs
    exact he.once t₁ t₂ d₁ d₂ hold₁ hold₂ hc₁ hc₂ hl

theorem complete_deals {t t' : TransferId} {d : Deal} (hd : (m.complete t).deals t' = some d) :
    (t' = t ∧ ∃ d₀, m.deals t = some d₀ ∧ d = { d₀ with status := .completed }) ∨
      (t' ≠ t ∧ m.deals t' = some d) := by
  by_cases ht : t' = t
  · subst ht
    obtain ⟨d₀,hd₀,heq⟩ := Option.map_eq_some_iff.mp (complete_same.symm.trans hd)
    exact .inl ⟨rfl,d₀,hd₀,heq.symm⟩
  · exact .inr ⟨ht,(complete_other ht).symm.trans hd⟩

/-- To settle the only open transfer of a listing on offer sells it for good. -/
theorem Exclusive.settle (he : Exclusive m) {t : TransferId} {d : Deal} {i : TicketId}
    {buyerId : UserId} (hd : m.deals t = some d) (hopen : openStatus d.status)
    (honly : ∀ t' d', m.deals t' = some d' → openStatus d'.status → d'.listingId = d.listingId →
      t' = t) : Exclusive (m.settle t d.listingId i buyerId) := by
  obtain ⟨o,hact,-⟩ := he.offered t d hd hopen
  have hlist : (m.settle t d.listingId i buyerId).listings =
      (m.setListing d.listingId .completed).listings := rfl
  constructor
  · intro t' d' hd' ho'
    rcases complete_deals hd' with ⟨-,d₀,-,rfl⟩ | ⟨hne,hold⟩
    · exact absurd rfl ho'.1
    · obtain ⟨o',hact',hseller⟩ := he.offered t' d' hold ho'
      have hl : d'.listingId ≠ d.listingId := fun hl => hne (honly t' d' hold ho' hl)
      refine ⟨o',⟨?_,hact'.2⟩,hseller⟩
      rw [hlist]
      exact (setListing_other hl).trans hact'.1
  · intro t' d' hd' hc
    rw [hlist]
    rcases complete_deals hd' with ⟨-,d₀,hd₀,rfl⟩ | ⟨-,hold⟩
    · obtain rfl : d = d₀ := Option.some.inj (hd.symm.trans hd₀)
      exact ⟨_,setListing_same.trans (by rw [hact.1]; rfl),by simp⟩
    · obtain ⟨o',hl',hna⟩ := he.sold t' d' hold hc
      exact setListing_inactive (by decide) hl' hna
  · have hfree : ∀ t' d', m.deals t' = some d' → d'.status = .completed →
        d'.listingId ≠ d.listingId := by
      intro t' d' hd' hc hl
      obtain ⟨o',hl',hna⟩ := he.sold t' d' hd' hc
      rw [hl,hact.1] at hl'
      cases hl'
      exact hna hact.2
    intro t₁ t₂ d₁ d₂ h₁ h₂ hc₁ hc₂ hl
    rcases complete_deals h₁ with ⟨rfl,d₀,hd₀,rfl⟩ | ⟨-,hold₁⟩ <;>
      rcases complete_deals h₂ with ⟨rfl,d₀',hd₀',rfl⟩ | ⟨-,hold₂⟩
    · rfl
    · obtain rfl : d = d₀ := Option.some.inj (hd.symm.trans hd₀)
      exact absurd hl.symm (hfree _ _ hold₂ hc₂)
    · obtain rfl : d = d₀' := Option.some.inj (hd.symm.trans hd₀')
      exact absurd hl (hfree _ _ hold₁ hc₁)
    · exact he.once t₁ t₂ d₁ d₂ hold₁ hold₂ hc₁ hc₂ hl

theorem Act.exclusive (ha : Act m a m') (hal : a.Alone m) (he : Exclusive m) : Exclusive m' := by
  cases ha with
  | keep => exact he
  | openDeal hnew hl hact => exact he.addDeal ⟨hl,hact⟩ (by decide)
  | @list l i h ht hact hnew =>
    have hother : ∀ l' o, m.listings l' = some o → (m.list l i h.ownerId).listings l' = some o := by
      intro l' o hl'
      refine (update_of_ne ?_ ..).trans hl'
      rintro rfl
      rw [hnew] at hl'
      cases hl'
    exact he.congr rfl (fun _ _ _ _ _ hl => hother _ _ hl)
      (fun _ _ o _ hl hna => ⟨o,hother _ _ hl,hna⟩)
  | @delist l o hl hact =>
    refine he.congr rfl (fun t d o' hd ho hl' => ?_)
      (fun t d o' hd hl' hna => setListing_inactive (by decide) hl' hna)
    have hne : d.listingId ≠ l := fun h => by cases hal.ends l _ rfl (by decide) t d hd ho h
    exact (setListing_other hne).trans hl'
  | @reopen l o hl =>
    obtain ⟨o₁,ho₁⟩ := hal.reopens l rfl
    have hsame : (m.reopen l o.ticketId).listings = m.listings := by
      refine (congrArg (update m.listings l) ?_).trans (update_eq_self l m.listings)
      rw [ho₁.1,← ho₁.2]
      rfl
    exact he.congr rfl (fun _ _ _ _ _ h => by rw [hsame,h])
      (fun _ _ o' _ h hna => ⟨o',by rw [hsame,h],hna⟩)
  | @settle t d o buyerId hd hopen hl =>
    refine he.settle hd hopen (fun t' d' hd' ho' hl' => ?_)
    exact (Option.some.inj (hal.ends _ _ rfl (by decide) t' d' hd' ho' hl')).symm
  | checkIn ht hact => exact ⟨he.offered,he.sold,he.once⟩

/-- A request that takes listings off the market only when no other transfer of them is open
keeps sales exclusive. -/
theorem Step.exclusive (hs : Step a m m') (hal : a.Alone m) (he : Exclusive m) : Exclusive m' := by
  obtain ⟨m₁,m₂,hq,ha,hq'⟩ := hs
  exact (ha.exclusive (hal.quiet hq) (he.quiet hq)).quiet hq'

/-- Where sales are exclusive, settlements act on listings on offer. -/
theorem Act.onOffer (ha : Act m a m') (hal : a.Alone m) (he : Exclusive m) : a.OnOffer m := by
  intro l s hp
  cases ha with
  | @delist l₀ o hl hact => cases hp; exact ⟨o,hl,hact⟩
  | reopen hl => cases hp; exact hal.reopens _ rfl
  | @settle t d o buyerId hd hopen hl =>
    cases hp
    obtain ⟨o',hact,-⟩ := he.offered t d hd hopen
    exact ⟨o',hact⟩
  | _ => cases hp

theorem Step.onOffer (hs : Step a m m') (hal : a.Alone m) (he : Exclusive m) : a.OnOffer m := by
  obtain ⟨m₁,m₂,hq,ha,-⟩ := hs
  intro l s hp
  obtain ⟨o,ho⟩ := ha.onOffer (hal.quiet hq) (he.quiet hq) l s hp
  exact ⟨o,(active_congr hq.listings).mp ho⟩

/-- A completed transfer stays completed. -/
theorem Step.completed (hs : Step a m m') {t : TransferId} {d : Deal} (hd : m.deals t = some d)
    (hc : d.status = .completed) :
    ∃ d', m'.deals t = some d' ∧ d'.status = .completed ∧ d'.listingId = d.listingId := by
  obtain ⟨m₁,m₂,hq,ha,hq'⟩ := hs
  obtain ⟨d₁,hd₁,hf₁⟩ := hq.kept t d hd
  have hkept : ∃ d₂, m₂.deals t = some d₂ ∧ d₂.status = .completed ∧
      d₂.listingId = d₁.listingId := by
    have hc₁ := hf₁.completed.mpr hc
    cases ha with
    | @openDeal t' l o hnew hl hact =>
      refine ⟨d₁,(update_of_ne ?_ ..).trans hd₁,hc₁,rfl⟩
      rintro rfl
      rw [hnew] at hd₁
      cases hd₁
    | @settle t' d' o buyerId hd' hopen hl =>
      refine ⟨d₁,(update_of_ne ?_ ..).trans hd₁,hc₁,rfl⟩
      rintro rfl
      rw [hd₁] at hd'
      cases hd'
      exact hopen.1 hc₁
    | _ => exact ⟨d₁,hd₁,hc₁,rfl⟩
  obtain ⟨d₂,hd₂,hc₂,hl₂⟩ := hkept
  obtain ⟨d₃,hd₃,hf₃⟩ := hq'.kept t d₂ hd₂
  exact ⟨d₃,hd₃,hf₃.completed.mpr hc₂,by rw [hf₃.listing,hl₂,hf₁.listing]⟩

end Exclusivity

end TicketRemaster.Resale
