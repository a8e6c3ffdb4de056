import TicketRemaster.Transfer.Recovery
set_option autoImplicit false

/-! The records that a settlement reads and writes are there for every transfer that requests have
opened, if the listings and accounts were in order to begin with. -/

namespace TicketRemaster.Transfer

open Resumption SeatInventory

/-- Accounts belong to users; a listing is of a ticket, by someone with an account. -/
structure InOrder (w : World) : Prop where
  account (u : UserId) : (w.credits.lookup u).isSome → (w.users.lookup u).isSome
  seller (l : ListingId) (r : Listing) : w.listings.lookup l = some r →
    (w.credits.lookup r.sellerId).isSome
  ticket (l : ListingId) (r : Listing) : w.listings.lookup l = some r →
    (w.tickets.lookup r.ticketId).isSome

section Accounts

variable {cfg : SeatConfig} {w w' w₀ : World}

/-- Nobody registers, and no account is opened or closed. -/
structure SameAccounts (w w' : World) : Prop where
  users : w'.users = w.users
  credits (u : UserId) : (w'.credits.lookup u).isSome = (w.credits.lookup u).isSome

theorem perform_accounts {e : Env} (q : Call) : SameAccounts w (World.perform cfg e w q).2 := by
  refine ⟨(World.perform_frame q).users,fun u => ?_⟩
  by_cases hq : q.writes = some .credits
  · have hpatch : ∃ v b, q = .http (.patchCredits v b) := by
      cases q with
      | http q => cases q <;> simp_all [Call.writes,Http.writes]
      | _ => simp [Call.writes] at hq
    obtain ⟨v,b,rfl⟩ := hpatch
    rcases World.perform_patchCredits_cases cfg e w v b with hkeep | ⟨hv,hset⟩
    · rw [hkeep]
    · rw [hset]
      by_cases huv : u = v
      · subst huv
        simp [hv]
      · simp [AList.lookup_insert_ne huv]
  · rw [(World.perform_frame q).credits hq]

theorem SameAccounts.trans {w'' : World} (h : SameAccounts w w') (h' : SameAccounts w' w'') :
    SameAccounts w w'' :=
  ⟨h'.users.trans h.users,fun u => (h'.credits u).trans (h.credits u)⟩

end Accounts

/-- Transfers are of listings that were there at the start, and listings and tickets stay. -/
structure Carried (w₀ w : World) : Prop where
  accounts : SameAccounts w₀ w
  listings (l : ListingId) (r : Listing) : w.listings.lookup l = some r →
    ∃ r₀, w₀.listings.lookup l = some r₀ ∧ r₀.sellerId = r.sellerId ∧ r₀.ticketId = r.ticketId
  tickets (k : TicketId) : (w₀.tickets.lookup k).isSome → (w.tickets.lookup k).isSome
  transfers (i : TransferId) (t : TicketRemaster.Transfer) : w.transfers.lookup i = some t →
    ∃ r₀, w₀.listings.lookup t.listingId = some r₀ ∧ r₀.sellerId = t.sellerId

/-- No new listings and tickets, and a new transfer only of a listing. -/
def Carries (w₀ : World) : Call → Prop
  | .http (.createListing _) | .http (.createTicket _) => False
  | .http (.createTransfer d) =>
      ∃ r₀, w₀.listings.lookup d.listingId = some r₀ ∧ r₀.sellerId = d.sellerId
  | _ => True

section Calls

variable {cfg : SeatConfig} {w w₀ : World} {e : Env} {q : Call}

theorem carries_reads (q : Call) (hq : q.Reads) : Carries w₀ q := by
  rcases hq with hq | ⟨i,rfl⟩
  · cases q with
    | http q => cases q <;> simp_all [Carries,Call.writes,Http.writes]
    | _ => trivial
  · trivial

theorem Carried.settleable {i : TransferId} {t : TicketRemaster.Transfer} (hc : Carried w₀ w)
    (ho : InOrder w₀) (ht : w.transfers.lookup i = some t)
    (hfunds : ∃ b, w.credits.lookup t.buyerId = some b ∧ t.creditAmount ≤ b)
    (hactive : ∃ l, w.listings.lookup t.listingId = some l ∧ l.status = .active) :
    Settleable w t := by
  obtain ⟨b,hb,hamount⟩ := hfunds
  obtain ⟨l,hl,hstatus⟩ := hactive
  obtain ⟨r₀,hr₀,hseller⟩ := hc.transfers i t ht
  obtain ⟨r₁,hr₁,-,hticket⟩ := hc.listings _ _ hl
  have haccount : (w₀.credits.lookup t.sellerId).isSome := by
    rw [← hseller]
    exact ho.seller _ _ hr₀
  refine ⟨?_,?_,⟨b,hb,hamount⟩,?_,⟨l,hl,hstatus,?_⟩⟩
  · rw [hc.accounts.users]
    refine ho.account _ ?_
    rw [← hc.accounts.credits,hb]
    rfl
  · rw [hc.accounts.users]
    exact ho.account _ haccount
  · rw [hc.accounts.credits]
    exact haccount
  · rw [← hticket]
    exact hc.tickets _ (ho.ticket _ _ hr₁)

theorem Carried.listing_after (hc : Carried w₀ w) (hq : Carries w₀ q) {l : ListingId} {r : Listing}
    (hl : (World.perform cfg e w q).2.listings.lookup l = some r) :
    ∃ r₀, w₀.listings.lookup l = some r₀ ∧ r₀.sellerId = r.sellerId ∧ r₀.ticketId = r.ticketId := by
  by_cases hw : q.writes = some .listings
  · have hupdate : ∃ k s, q = .http (.updateListing k s) := by
      cases q with
      | http q => cases q <;> simp_all [Call.writes,Http.writes,Carries]
      | _ => simp [Call.writes] at hw
    obtain ⟨k,s,rfl⟩ := hupdate
    rcases World.perform_http_cases cfg e w (.updateListing k s) with hp | hp <;> rw [hp] at hl
    · exact hc.listings l r hl
    · rcases World.serve_updateListing_cases (w := w) e k s with hkeep | ⟨r',hr',hset⟩
      · exact hc.listings l r (hkeep ▸ hl)
      · rw [hset] at hl
        rcases Table.lookup_insert_cases hl with ⟨rfl,rfl⟩ | ⟨-,hl⟩
        · exact hc.listings _ r' hr'
        · exact hc.listings l r hl
  · rw [(World.perform_frame q).listings hw] at hl
    exact hc.listings l r hl

theorem Carried.ticket_after (hc : Carried w₀ w) (hq : Carries w₀ q) {k : TicketId}
    (hk : (w₀.tickets.lookup k).isSome) :
    ((World.perform cfg e w q).2.tickets.lookup k).isSome := by
  have hthere := hc.tickets k hk
  by_cases hw : q.writes = some .tickets
  · have hupdate : ∃ j p, q = .http (.updateTicket j p) := by
      cases q with
      | http q => cases q <;> simp_all [Call.writes,Http.writes,Carries]
      | _ => simp [Call.writes] at hw
    obtain ⟨j,p,rfl⟩ := hupdate
    rcases World.perform_http_cases cfg e w (.updateTicket j p) with hp | hp <;> rw [hp]
    · exact hthere
    · rcases World.serve_updateTicket_cases (w := w) e j p with hkeep | ⟨i,t,-,-,hw'⟩
      · rwa [hkeep]
      · rw [hw']
        exact isSome_insert hthere
  · rwa [(World.perform_frame q).tickets hw]

theorem Carried.transfer_after (hc : Carried w₀ w) (hq : Carries w₀ q) {i : TransferId}
    {t : TicketRemaster.Transfer}
    (ht : (World.perform cfg e w q).2.transfers.lookup i = some t) :
    ∃ r₀, w₀.listings.lookup t.listingId = some r₀ ∧ r₀.sellerId = t.sellerId := by
  cases hr : w.transfers.lookup i with
  | some t₀ =>
    have hchange := perform_change cfg e w i q
    rw [hr] at hchange
    obtain ⟨t',ht',hdeal⟩ := hchange.lasts
    obtain rfl : t = t' := Option.some.inj (ht.symm.trans ht')
    rw [hdeal.listing,hdeal.seller]
    exact hc.transfers i t₀ hr
  | none =>
    have hchange := perform_change cfg e w i q
    rw [hr,ht] at hchange
    cases hchange with
    | create d t hqd =>
      subst hqd
      rcases World.perform_http_cases cfg e w (.createTransfer d) with hp | hp <;> rw [hp] at ht
      · rw [hr] at ht
        cases ht
      · simp only [World.serve,World.createTransfer] at ht
        split at ht
        · rw [hr] at ht
          cases ht
        · rcases Table.lookup_insert_cases ht with ⟨-,rfl⟩ | ⟨-,ht⟩
          · exact hq
          · rw [hr] at ht
            cases ht

theorem Carried.perform (hc : Carried w₀ w) (hq : Carries w₀ q) :
    Carried w₀ (World.perform cfg e w q).2 where
  accounts := hc.accounts.trans (perform_accounts q)
  listings _ _ hl := hc.listing_after hq hl
  tickets _ hk := hc.ticket_after hq hk
  transfers _ _ ht := hc.transfer_after hq ht

end Calls

section Runs

variable {cfg : SeatConfig} {w w₀ : World} {E : List (Entry Platform) → Env → Prop}
  {h : List (Entry Platform)}

theorem calls_carried {α : Type} {p : Handler α} (hp : p.Calls (Carries w₀) (fun _ => True))
    (hc : Carried w₀ w) :
    Handler.Always cfg E (fun _ _ => Carried w₀) (fun _ _ => Carried w₀) p h w := by
  refine (hp.always (J := fun _ => Carried w₀) ?_ hc).mono (fun _ _ _ hJ => hJ)
    (fun _ _ _ hJ => hJ.2)
  exact fun q hq h e w _ hJ => hJ.perform hq

/-- The seller of a new transfer is the seller of its listing. -/
theorem initiate_carried (u : UserId) (l : Option ListingId) (hc : Carried w₀ w) :
    Handler.Always cfg E (fun _ _ => Carried w₀) (fun _ _ => Carried w₀) (initiate u l) h w := by
  cases l with
  | none => exact hc
  | some l =>
    have hafter : ∀ e a w', World.perform cfg e w (.http (.getListing l)) = (a,w') →
        Carried w₀ w' := by
      intro e a w' hp
      have hw : Carried w₀ (World.perform cfg e w (.http (.getListing l))).2 :=
        hc.perform (carries_reads _ (.inl rfl))
      rwa [hp] at hw
    refine callService_always (fun e listing w' _ hp => ?_) (fun e code w' _ hp => ?_)
      (fun e w' _ hp => ?_)
    · have hs := World.perform_ok hp
      simp only [World.serve,World.getListing,World.found] at hs
      split at hs
      · rename_i r hr
        cases hs
        obtain ⟨r₀,hr₀,hseller,-⟩ := hc.listings l listing hr
        have hcreate : Carries w₀
            (.http (.createTransfer ⟨l,u,listing.sellerId,listing.price⟩)) :=
          ⟨r₀,hr₀,hseller⟩
        refine calls_carried ?_ hc
        refine Prog.calls_ite trivial (Prog.calls_ite trivial ?_)
        refine ask_calls (carries_reads _ (.inl rfl)) fun creditData => ?_
        cases creditData with
        | error code => trivial
        | ok creditData =>
          exact Prog.calls_ite trivial (openTransfer_calls carries_reads hcreate fun _ _ => trivial)
      · cases hs
    · have hw := hafter e _ w' hp
      simp only
      split <;> exact hw
    · exact hafter e _ w' hp

theorem serve_carried (x : Turn) (hc : Carried w₀ w) : Carried w₀ (x.serve cfg w) := by
  refine runAlone_ends (E := fun _ _ => True) ?_ fun _ => trivial
  cases hn : x.request.names with
  | none =>
    cases hreq : x.request with
    | initiate u l => exact Prog.always_bind.mpr (initiate_carried u l hc)
    | _ => simp [hreq,Request.names] at hn
  | some j =>
    exact calls_carried (handler_calls hn carries_reads (fun _ => trivial) (fun _ _ => trivial)
      (fun _ _ => trivial) (fun _ _ => trivial) (fun _ => trivial) fun _ => trivial) hc

theorem carried_start (h₀ : w₀.transfers = ∅) : Carried w₀ w₀ := by
  refine ⟨⟨rfl,fun _ => rfl⟩,fun _ r hr => ⟨r,hr,rfl,rfl⟩,fun _ hk => hk,fun i t ht => ?_⟩
  rw [h₀] at ht
  cases ht

theorem serveAll_carried (turns : List Turn) (h₀ : w₀.transfers = ∅) :
    Carried w₀ (serveAll cfg turns w₀) :=
  serveAll_keeps (C := fun _ => True) (fun x _ _ hw => serve_carried x hw) turns
    (fun _ _ => trivial) (carried_start h₀)

end Runs

end TicketRemaster.Transfer
