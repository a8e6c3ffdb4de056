import TicketRemaster.Resale.Consistency
set_option autoImplicit false

/-! Listing and delisting when any call can fail. A ticket whose return to the status active fails
is left on no listing, and nobody can take it off the market again. -/

namespace TicketRemaster.Resale

open Resumption SeatInventory

/-- What a request to list or delist does to the market, and whether it failed to make the ticket
active again. -/
inductive Move (m : Market) : Bool → Market → Prop where
  | keep : Move m false m
  | list {l : ListingId} {i : TicketId} {h : Holding} (ht : m.tickets i = some h)
      (ha : h.status = .active) (hnew : m.listings l = none) : Move m false (m.list l i h.ownerId)
  | delist {l : ListingId} {o : Offer} (hl : m.Active l o) : Move m false (m.delist l o.ticketId)
  | unlisted {i : TicketId} {h : Holding} (ht : m.tickets i = some h) (ha : h.status = .active) :
      Move m true (m.setTicket i fun h => { h with status := .listed })
  | withdrawn {l : ListingId} {o : Offer} (hl : m.Active l o) :
      Move m true (m.setListing l .cancelled)

/-- The ticket is listed, and on no listing that is still on offer. -/
def Stranded (m : Market) (i : TicketId) : Prop :=
  (∃ u, m.tickets i = some ⟨u,.listed⟩) ∧ ∀ l o, m.Active l o → o.ticketId ≠ i

section Market

variable {m m' : Market} {i j : TicketId} {failed : Bool}

theorem listed_inj {h : Holding} (hi : ∃ u, m.tickets i = some ⟨u,.listed⟩)
    (hj : m.tickets j = some h) (ha : h.status = .active) : i ≠ j := by
  rintro rfl
  obtain ⟨u,hu⟩ := hi
  rw [hu] at hj
  cases hj
  cases ha

theorem Move.consistent (hm : Move m failed m') (hc : Consistent m) : Consistent m' := by
  cases hm with
  | keep => exact hc
  | list ht ha hnew =>
    exact (Act.list ht ha hnew).consistent (by simp [Action.OnOffer,Action.patch]) hc
  | @delist l o hl =>
    refine (Act.delist hl.1 hl.2).consistent (fun l' s hp => ?_) hc
    cases hp
    exact ⟨o,hl⟩
  | unlisted ht ha =>
    refine hc.shrink (fun _ _ h => h) (fun l o ho => setTicket_other ?_)
    exact hc.not_offered ht (by rw [ha]; decide) ho
  | withdrawn hl =>
    exact hc.shrink (fun _ _ h => (active_setListing (by decide) h).2) (fun _ _ _ => rfl)

/-- Nothing brings a stranded ticket back. -/
theorem Move.stranded (hm : Move m failed m') (hs : Stranded m i) : Stranded m' i := by
  obtain ⟨hi,hfree⟩ := hs
  cases hm with
  | keep => exact ⟨hi,hfree⟩
  | list ht ha hnew =>
    have hne := listed_inj hi ht ha
    refine ⟨?_,fun l o ho => ?_⟩
    · obtain ⟨u,hu⟩ := hi
      exact ⟨u,(setTicket_other hne).trans hu⟩
    · rcases active_addListing ho with ⟨-,rfl⟩ | ⟨-,hold⟩
      · exact hne.symm
      · exact hfree l o hold
  | delist hl =>
    refine ⟨?_,fun l o ho => hfree l o (active_setListing (by decide) ho).2⟩
    obtain ⟨u,hu⟩ := hi
    exact ⟨u,(setTicket_other (hfree _ _ hl).symm).trans hu⟩
  | unlisted ht ha =>
    refine ⟨?_,hfree⟩
    obtain ⟨u,hu⟩ := hi
    exact ⟨u,(setTicket_other (listed_inj ⟨u,hu⟩ ht ha)).trans hu⟩
  | withdrawn hl => exact ⟨hi,fun l o ho => hfree l o (active_setListing (by decide) ho).2⟩

/-- A failed return strands a ticket. -/
theorem Move.strands (hm : Move m true m') (hc : Consistent m) : ∃ i, Stranded m' i := by
  cases hm with
  | @unlisted i h ht ha =>
    refine ⟨i,⟨h.ownerId,?_⟩,fun l o ho => hc.not_offered ht (by rw [ha]; decide) ho⟩
    exact setTicket_same.trans (by rw [ht]; rfl)
  | @withdrawn l o hl =>
    refine ⟨o.ticketId,⟨o.sellerId,hc.listed l o hl⟩,fun l' o' ho => ?_⟩
    obtain ⟨hne,hold⟩ := active_setListing (by decide) ho
    exact hc.other hl hold hne

/-- Otherwise no more tickets are stranded than before. -/
theorem Move.strands_none (hm : Move m false m') (hc : Consistent m) (hs : Stranded m' i) :
    Stranded m i := by
  obtain ⟨⟨u,hu⟩,hfree⟩ := hs
  cases hm with
  | keep => exact ⟨⟨u,hu⟩,hfree⟩
  | @list l j h ht ha hnew =>
    have hne : j ≠ i := hfree l ⟨j,h.ownerId,.active⟩ ⟨Function.update_self ..,rfl⟩
    refine ⟨⟨u,(setTicket_other hne.symm).symm.trans hu⟩,fun l' o ho => ?_⟩
    refine hfree l' o ⟨(Function.update_of_ne ?_ ..).trans ho.1,ho.2⟩
    rintro rfl
    rw [ho.1] at hnew
    cases hnew
  | @delist l o hl =>
    have hne : i ≠ o.ticketId := by
      rintro rfl
      have hset : (m.delist l o.ticketId).tickets o.ticketId = some ⟨o.sellerId,.active⟩ :=
        setTicket_same.trans (by rw [setListing_tickets,hc.listed l o hl]; rfl)
      rw [hu] at hset
      cases hset
    refine ⟨⟨u,(setTicket_other hne).symm.trans hu⟩,fun l' o' ho => ?_⟩
    by_cases hl' : l' = l
    · subst hl'
      obtain rfl : o' = o := Option.some.inj (ho.1.symm.trans hl.1)
      exact hne.symm
    · exact hfree l' o' ⟨(setListing_other hl').trans ho.1,ho.2⟩

end Market

/-- Calls may fail, without effect and with an error. -/
def Definitely (_ : List (Entry Platform)) (e : Env) : Prop := e.Definite

/-- A ticket could not be made active again. -/
def returnFailed : Entry Platform → Bool
  | ⟨.http (.updateTicket _ p),.error _⟩ => p.status = some .active
  | _ => false

/-- What a run has done to the market so far. -/
def Moves (m₀ : Market) (h : List (Entry Platform)) (w : World) : Prop :=
  Move m₀ (h.any returnFailed) (market w)

section Handlers

variable {cfg : SeatConfig} {w : World} {h : List (Entry Platform)}

theorem moves_keep {entry : Entry Platform} {m : Market} (hm : market w = m)
    (hr : h.any returnFailed = false) (he : returnFailed entry = false) :
    Moves m (entry :: h) w := by
  rw [Moves,List.any_cons,he,hr,hm]
  exact .keep

/-- A ticket is made active again, or that fails and it stays as it is. -/
theorem return_always {i : TicketId} {α : Type} {a : α} {m₀ : Market}
    (hr : h.any returnFailed = false)
    (hok : Move m₀ false ((market w).setTicket i fun h => { h with status := .active }))
    (herr : Move m₀ true (market w)) :
    Handler.Always cfg Definitely (fun _ => Moves m₀) (fun _ => Moves m₀)
      (do let _ ← callService (.updateTicket (some i) { status := some .active })
          pure a) h w := by
  refine callService_definite (fun _ _ he => he) (by simp [Http.writes])
    (fun e v w' he hs => ?_) (fun code => ?_)
  · have hset := serve_updateTicket_market (e := e) (w := w) i (p := { status := some .active })
      (by simp) (by intro s hs; cases hs; decide) rfl
    rw [hs] at hset
    simp only [Prog.pure_eq,Prog.always_ret,Moves,List.any_cons,hr,returnFailed,Bool.or_false]
    rw [hset]
    exact hok
  · simp only [Prog.pure_eq,Prog.always_ret,Moves,List.any_cons,hr,returnFailed,Bool.or_false]
    exact herr

theorem listTicket_moves (userId : UserId) (ticketId : Option TicketId) (price : Option Credits) :
    Handler.Always cfg Definitely (fun _ => Moves (market w)) (fun _ => Moves (market w))
      (Marketplace.listTicket userId ticketId price) [] w := by
  cases ticketId with
  | none => exact .keep
  | some i =>
    refine callService_definite (fun _ _ he => he) (by simp [Http.writes])
      (fun e t w₁ he hs => ?_) (fun code => ?_)
    case refine_2 =>
      simp only
      split <;> exact moves_keep rfl rfl rfl
    obtain ⟨ht,rfl⟩ : w.tickets.lookup i = some t ∧ w₁ = w := by
      simp only [World.serve,World.getTicket,World.found] at hs
      split at hs <;> cases hs
      exact ⟨‹_›,rfl⟩
    simp only
    split
    · exact moves_keep rfl rfl rfl
    · rename_i howner
      split
      · exact moves_keep rfl rfl rfl
      · rename_i hact
        have hrow : (market w₁).tickets i = some ⟨t.ownerId,.active⟩ := by
          simp [market,ht,ticketHolding,not_not.mp hact]
        refine callService_definite (fun _ _ he => he) (by simp [Http.writes])
          (fun e v w₂ he hs => ?_) (fun code => moves_keep rfl rfl rfl)
        have hm₂ := serve_updateTicket_market (e := e) (w := w₁) i
          (p := { status := some .listed }) (by simp) (by intro s hs; cases hs; decide) rfl
        rw [hs] at hm₂
        refine callService_definite (fun _ _ he => he) (by simp [Http.writes])
          (fun e v w₃ he hs => ?_) (fun code => ?_)
        · obtain ⟨hnew,hm₃⟩ := serve_createListing_ok hs
          obtain rfl := not_not.mp howner
          rw [hm₂] at hnew
          simp only [Prog.pure_eq,Prog.always_ret,Moves]
          rw [hm₃,hm₂]
          exact .list hrow rfl hnew
        · refine return_always rfl ?_ ?_
          · rw [hm₂]
            refine (setTicket_back hrow).symm ▸ ?_
            exact .keep
          · rw [hm₂]
            exact .unlisted hrow rfl

theorem delist_moves (userId : UserId) (l : ListingId) :
    Handler.Always cfg Definitely (fun _ => Moves (market w)) (fun _ => Moves (market w))
      (Marketplace.delist userId l) [] w := by
  refine callService_definite (fun _ _ he => he) (by simp [Http.writes])
    (fun e r w₁ he hs => ?_) (fun code => ?_)
  case refine_2 =>
    simp only
    split <;> exact moves_keep rfl rfl rfl
  obtain ⟨hl,rfl⟩ : w.listings.lookup l = some r ∧ w₁ = w := by
    simp only [World.serve,World.getListing,World.found] at hs
    split at hs <;> cases hs
    exact ⟨‹_›,rfl⟩
  simp only
  split
  · exact moves_keep rfl rfl rfl
  · split
    · exact moves_keep rfl rfl rfl
    · rename_i hact
      have hactive := active_listing hl (not_not.mp hact)
      refine callService_definite (fun _ _ he => he) (by simp [Http.writes])
        (fun e v w₂ he hs => ?_) (fun code => moves_keep rfl rfl rfl)
      have hm₂ := serve_updateListing_market (e := e) (w := w₁) l (s := .cancelled) (by decide)
      rw [hs] at hm₂
      refine return_always rfl ?_ ?_
      · rw [hm₂]
        exact .delist hactive
      · rw [hm₂]
        exact .withdrawn hactive

end Handlers

inductive ListingRequest where
  | listTicket (userId : UserId) (ticketId : Option TicketId) (price : Option Credits)
  | delist (userId : UserId) (listingId : ListingId)

def ListingRequest.userId : ListingRequest → UserId
  | .listTicket userId _ _ => userId
  | .delist userId _ => userId

def ListingRequest.handler : ListingRequest → Handler Unit
  | .listTicket userId ticketId price => do let _ ← Marketplace.listTicket userId ticketId price
  | .delist userId listingId => do let _ ← Marketplace.delist userId listingId

/-- A request, with everything the outside chooses while it runs. -/
structure Attempt where
  request : ListingRequest
  choices : List (Entry Platform) → Env

namespace Attempt

def Definite (a : Attempt) : Prop := ∀ h, (a.choices h).Definite

def Healthy (a : Attempt) : Prop := ∀ h, Resale.Healthy h (a.choices h)

def run (cfg : SeatConfig) (a : Attempt) (w : World) : Final Platform Unhandled Unit World :=
  a.request.handler.exec (World.server cfg Unit) () a.choices [] w

end Attempt

/-- The state after one request after another. -/
def after (cfg : SeatConfig) : World → List Attempt → World
  | w, [] => w
  | w, a :: run => after cfg (a.run cfg w).state run

/-- In no request of the run does the return of a ticket to active fail. -/
def ReturnsSucceed (cfg : SeatConfig) : World → List Attempt → Prop
  | _, [] => True
  | w, a :: run => (a.run cfg w).past.any returnFailed = false ∧
      ReturnsSucceed cfg (a.run cfg w).state run

section Runs

variable (cfg : SeatConfig) {w : World} {i : TicketId}

theorem Attempt.Healthy.definite {a : Attempt} (ha : a.Healthy) : a.Definite :=
  fun h => healthy_definite h _ (ha h)

theorem attempt_moves {a : Attempt} (ha : a.Definite) :
    Moves (market w) (a.run cfg w).past (a.run cfg w).state := by
  have hrun : Handler.Always cfg Definitely (fun _ => Moves (market w)) (fun _ => Moves (market w))
      a.request.handler [] w := by
    cases a.request with
    | listTicket userId ticketId price =>
      exact Prog.always_bind.mpr (listTicket_moves userId ticketId price)
    | delist userId listingId => exact Prog.always_bind.mpr (delist_moves userId listingId)
  have hmeets := hrun.exec a.choices ha
  cases hr : (a.run cfg w).result with
  | ok r => exact hmeets.ok hr
  | error exc => exact hmeets.error hr

theorem stranded_after {run : List Attempt} (hd : ∀ a ∈ run, a.Definite)
    (hs : Stranded (market w) i) : Stranded (market (after cfg w run)) i := by
  induction run generalizing w with
  | nil => exact hs
  | cons a run ih =>
    refine ih (fun b hb => hd b (List.mem_cons_of_mem a hb)) ?_
    exact (attempt_moves cfg (hd a List.mem_cons_self)).stranded hs

theorem consistent_after {run : List Attempt} (hd : ∀ a ∈ run, a.Definite)
    (hc : Consistent (market w)) : Consistent (market (after cfg w run)) := by
  induction run generalizing w with
  | nil => exact hc
  | cons a run ih =>
    refine ih (fun b hb => hd b (List.mem_cons_of_mem a hb)) ?_
    exact (attempt_moves cfg (hd a List.mem_cons_self)).consistent hc

/-- From a consistent market without stranded tickets, a run strands none if and only if every
return succeeds. -/
theorem none_stranded_iff {run : List Attempt} (hd : ∀ a ∈ run, a.Definite)
    (hc : Consistent (market w)) (hnone : ∀ i, ¬ Stranded (market w) i) :
    (∀ i, ¬ Stranded (market (after cfg w run)) i) ↔ ReturnsSucceed cfg w run := by
  induction run generalizing w with
  | nil => exact ⟨fun _ => trivial,fun _ => hnone⟩
  | cons a run ih =>
    have hrest : ∀ b ∈ run, b.Definite := fun b hb => hd b (List.mem_cons_of_mem a hb)
    have hm : Move (market w) ((a.run cfg w).past.any returnFailed)
        (market (a.run cfg w).state) := attempt_moves cfg (hd a List.mem_cons_self)
    have hc' := hm.consistent hc
    cases hf : (a.run cfg w).past.any returnFailed with
    | false =>
      rw [hf] at hm
      refine (ih hrest hc' (fun i hs => hnone i (hm.strands_none hc hs))).trans ?_
      simp only [ReturnsSucceed,hf,true_and]
    | true =>
      rw [hf] at hm
      obtain ⟨i,hi⟩ := hm.strands hc
      have hlost := stranded_after cfg hrest hi
      refine ⟨fun h => absurd hlost (h i),fun h => ?_⟩
      rw [ReturnsSucceed,hf] at h
      cases h.1

end Runs

/-- Some requests of the user, if all goes well, make the ticket active. -/
def Recoverable (cfg : SeatConfig) (w : World) (i : TicketId) (userId : UserId) : Prop :=
  ∃ reqs : List ListingRequest, (∀ r ∈ reqs, r.userId = userId) ∧
    ∀ run : List Attempt, run.map (·.request) = reqs → (∀ a ∈ run, a.Healthy) →
      ((after cfg w run).tickets.lookup i).map (·.status) = some .active

/-- Consistent, and every listed ticket is on offer. -/
structure Intact (w : World) : Prop extends MarketplaceConsistent w where
  offered (i : TicketId) (t : Ticket) : w.tickets.lookup i = some t → t.status = .listed →
    ∃ l r, w.listings.lookup l = some r ∧ r.status = .active ∧ r.ticketId = i

section Recovery

variable (cfg : SeatConfig) {w : World} {i : TicketId}

theorem listing_of_active {l : ListingId} {o : Offer} (h : (market w).Active l o) :
    ∃ r, w.listings.lookup l = some r ∧ listingOffer r = o ∧ r.status = .active := by
  obtain ⟨r,hr,rfl⟩ := Option.map_eq_some_iff.mp h.1
  exact ⟨r,hr,rfl,h.2⟩

theorem MarketplaceConsistent.market (h : MarketplaceConsistent w) :
    Consistent (Resale.market w) where
  listed l o ho := by
    obtain ⟨r,hr,rfl,ha⟩ := listing_of_active ho
    obtain ⟨t,ht,hs,hu⟩ := h.listed l r hr ha
    simp [Resale.market,listingOffer,ticketHolding,ht,hs,hu]
  unique l l' o o' ho ho' heq := by
    obtain ⟨r,hr,rfl,ha⟩ := listing_of_active ho
    obtain ⟨r',hr',rfl,ha'⟩ := listing_of_active ho'
    exact h.unique l l' r r' hr hr' ha ha' heq

theorem Intact.none_stranded (h : Intact w) : ¬ Stranded (market w) i := by
  rintro ⟨⟨u,hu⟩,hfree⟩
  obtain ⟨t,ht,hs,-⟩ := ticket_row hu
  obtain ⟨l,r,hl,ha,hr⟩ := h.offered i t ht hs
  exact hfree l _ (active_listing hl ha) hr

/-- The seller of an active listing takes the ticket off the market. -/
theorem delist_returns {l : ListingId} {r : Listing} {h : List (Entry Platform)}
    (hl : w.listings.lookup l = some r) (ha : r.status = .active)
    (ht : (market w).tickets r.ticketId = some ⟨r.sellerId,.listed⟩) :
    Handler.Always cfg Healthy
      (fun _ _ w' => (market w').tickets r.ticketId = some ⟨r.sellerId,.active⟩)
      (fun _ _ _ => False) (Marketplace.delist r.sellerId l) h w := by
  refine getListing_always (fun hnone => ?_) (fun r' hr' => ?_)
  · rw [hl] at hnone
    cases hnone
  obtain rfl : r' = r := Option.some.inj (hr'.symm.trans hl)
  simp only [ne_eq,not_true_eq_false,if_false,ha]
  refine healthy_always (fun e v w₁ he hs => ?_) (fun e err w₁ he hs => ?_)
  · have hm₁ := serve_updateListing_market (e := e) (w := w) l (s := .cancelled) (by decide)
    rw [hs] at hm₁
    refine ignored_always fun e reply he => Prog.always_ret.mpr ?_
    rw [serve_updateTicket_market _ (by simp) (by intro s hs; cases hs; decide) rfl,
      setTicket_same,hm₁,setListing_tickets,ht]
    rfl
  · simp [World.serve,World.updateListing,hl,World.allowedStatuses] at hs

theorem delist_run {l : ListingId} {r : Listing} {choices : List (Entry Platform) → Env}
    (hc : Consistent (market w)) (hl : w.listings.lookup l = some r) (ha : r.status = .active)
    (hhealthy : ∀ h, Healthy h (choices h)) :
    (market ((Attempt.mk (.delist r.sellerId l) choices).run cfg w).state).tickets r.ticketId =
      some ⟨r.sellerId,.active⟩ := by
  have hreturns : Handler.Always cfg Healthy
      (fun _ _ w' => (market w').tickets r.ticketId = some ⟨r.sellerId,.active⟩)
      (fun _ _ _ => False) (ListingRequest.delist r.sellerId l).handler [] w :=
    Prog.always_bind.mpr (delist_returns cfg hl ha (hc.listed l _ (active_listing hl ha)))
  have hmeets := hreturns.exec choices hhealthy
  cases hr : ((Attempt.mk (.delist r.sellerId l) choices).run cfg w).result with
  | ok u => exact hmeets.ok hr
  | error exc => exact (hmeets.error hr).elim

theorem recoverable_of_active {l : ListingId} {r : Listing} (hc : Consistent (market w))
    (hl : w.listings.lookup l = some r) (ha : r.status = .active) :
    Recoverable cfg w r.ticketId r.sellerId := by
  refine ⟨[.delist r.sellerId l],by simp [ListingRequest.userId],fun run hrun hhealthy => ?_⟩
  obtain ⟨⟨req,choices⟩,rest,rfl,hreq,hrest⟩ := List.map_eq_cons_iff.mp hrun
  obtain rfl := List.map_eq_nil_iff.mp hrest
  obtain rfl : req = .delist r.sellerId l := hreq
  obtain ⟨t,ht,hs,-⟩ := ticket_row (delist_run cfg hc hl ha
    (hhealthy _ List.mem_cons_self))
  have hrow : (after cfg w [⟨.delist r.sellerId l,choices⟩]).tickets.lookup r.ticketId =
    some t := ht
  rw [hrow,Option.map_some,hs]

/-- A stranded ticket does not become active, whoever asks and however often. -/
theorem Stranded.never_active {run : List Attempt} (hs : Stranded (market w) i)
    (hd : ∀ a ∈ run, a.Definite) :
    ((after cfg w run).tickets.lookup i).map (·.status) = some .listed := by
  obtain ⟨⟨u,hu⟩,-⟩ := stranded_after cfg hd hs
  obtain ⟨t,ht,hstatus,-⟩ := ticket_row hu
  rw [ht,Option.map_some,hstatus]

theorem Stranded.not_recoverable {u : UserId} (hs : Stranded (market w) i) :
    ¬ Recoverable cfg w i u := by
  intro ⟨reqs,_,hrun⟩
  let run : List Attempt := reqs.map (⟨·,calm 0⟩)
  have hhealthy : ∀ a ∈ run, a.Healthy := by
    intro a ha
    obtain ⟨req,-,rfl⟩ := List.mem_map.mp ha
    exact calm_healthy 0
  have hreqs : run.map (·.request) = reqs := by simp [run,Function.comp_def]
  have hactive := hrun run hreqs hhealthy
  rw [hs.never_active cfg (fun a ha => (hhealthy a ha).definite)] at hactive
  cases hactive

end Recovery

/-- Where any call may fail: every listed ticket can be taken off the market by its owner, if and
only if no attempt to make a ticket active again failed. -/
theorem listed_recoverable_iff (cfg : SeatConfig) (w₀ : World) (h₀ : Intact w₀)
    (run : List Attempt) (hd : ∀ a ∈ run, a.Definite) :
    (∀ i t, (after cfg w₀ run).tickets.lookup i = some t → t.status = .listed →
      Recoverable cfg (after cfg w₀ run) i t.ownerId) ↔ ReturnsSucceed cfg w₀ run := by
  have hc := consistent_after cfg hd h₀.market
  rw [← none_stranded_iff cfg hd h₀.market (fun _ => h₀.none_stranded)]
  constructor
  · rintro hall i hs
    obtain ⟨u,hu⟩ := hs.1
    obtain ⟨t,ht,hstatus,-⟩ := ticket_row hu
    exact hs.not_recoverable cfg (hall i t ht hstatus)
  · intro hnone i t ht hstatus
    have hrow : (market (after cfg w₀ run)).tickets i = some ⟨t.ownerId,.listed⟩ := by
      simp [market,ht,ticketHolding,hstatus]
    obtain ⟨l,o,ho,hi⟩ : ∃ l o, (market (after cfg w₀ run)).Active l o ∧ o.ticketId = i := by
      by_contra hno
      refine hnone i ⟨⟨_,hrow⟩,fun l o ho hi => hno ⟨l,o,ho,hi⟩⟩
    obtain ⟨r,hr,rfl,ha⟩ := listing_of_active ho
    have hseller : r.sellerId = t.ownerId := by
      have hlisted := hc.listed l _ ho
      rw [hi,hrow] at hlisted
      exact (congrArg Holding.ownerId (Option.some.inj hlisted)).symm
    have hrec := recoverable_of_active cfg hc hr ha
    rwa [hseller,show r.ticketId = i from hi] at hrec

section Examples

theorem not_active_entry {w : World} {l : ListingId} {o : Offer}
    (hall : ∀ e ∈ w.listings.entries, e.2.status ≠ .active) : ¬ (market w).Active l o := by
  intro ho
  obtain ⟨r,hr,-,ha⟩ := listing_of_active ho
  exact hall ⟨l,r⟩ (AList.mem_lookup_iff.mp hr) ha

theorem freshWorld_intact : Intact freshWorld where
  toMarketplaceConsistent := (consistent_empty rfl).marketplace
  offered i t ht hs := by
    have hall : ∀ e ∈ freshWorld.tickets.entries, e.2.status ≠ .listed := by decide
    exact absurd hs (hall ⟨i,t⟩ (AList.mem_lookup_iff.mp ht))

/-- The call after the first `n` fails. -/
def failingAt (n id : Nat) (h : List (Entry Platform)) : Env :=
  { calm id h with
    fault := if h.length = n then some ⟨false,some "SERVICE_UNAVAILABLE"⟩ else none }

theorem failingAt_definite (req : ListingRequest) (n id : Nat) :
    (Attempt.mk req (failingAt n id)).Definite := by
  intro h f hf
  simp only [failingAt] at hf
  split at hf <;> cases hf
  exact ⟨rfl,rfl⟩

/-- User 1 lists the ticket as listing 6, and takes it off again; the `n`-th call of that fails. -/
def delisting (n : Nat) : List Attempt :=
  [⟨.listTicket 1 (some 5) none,calm 6⟩,⟨.delist 1 6,failingAt n 0⟩]

theorem delisting_definite (n : Nat) : ∀ a ∈ delisting n, a.Definite := by
  intro a ha
  rcases List.mem_cons.mp ha with rfl | ha
  · exact Attempt.Healthy.definite (calm_healthy 6)
  · obtain rfl := List.mem_singleton.mp ha
    exact failingAt_definite _ n 0

/-- The listing could not be cancelled. -/
theorem listed_recoverable_iff_delisting :
    Recoverable ⟨3,3,false⟩ (after ⟨3,3,false⟩ freshWorld (delisting 1)) 5 1 :=
  (listed_recoverable_iff ⟨3,3,false⟩ freshWorld freshWorld_intact (delisting 1)
    (delisting_definite 1)).mpr ⟨by decide +kernel,by decide +kernel,trivial⟩ 5
    ⟨4,1,1,1,30,.listed,none,none,0⟩ (by decide +kernel) rfl

/-- The listing is cancelled, and the ticket stays listed for good. -/
theorem delisting_strands_ticket : Intact freshWorld ∧ (∀ a ∈ delisting 2, a.Definite) ∧
    ((after ⟨3,3,false⟩ freshWorld (delisting 2)).tickets.lookup 5).map (·.status) =
      some .listed ∧
    ∀ u, ¬ Recoverable ⟨3,3,false⟩ (after ⟨3,3,false⟩ freshWorld (delisting 2)) 5 u := by
  have hrow : (market (after ⟨3,3,false⟩ freshWorld (delisting 2))).tickets 5 =
      some ⟨1,.listed⟩ := by decide +kernel
  have hnone : ∀ e ∈ (after ⟨3,3,false⟩ freshWorld (delisting 2)).listings.entries,
      e.2.status ≠ .active := by decide +kernel
  have hs : Stranded (market (after ⟨3,3,false⟩ freshWorld (delisting 2))) 5 :=
    ⟨⟨1,hrow⟩,fun l o ho => absurd ho (not_active_entry hnone)⟩
  exact ⟨freshWorld_intact,delisting_definite 2,by decide +kernel,
    fun u => hs.not_recoverable ⟨3,3,false⟩⟩

end Examples

end TicketRemaster.Resale
