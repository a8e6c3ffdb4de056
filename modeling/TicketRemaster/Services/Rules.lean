import TicketRemaster.Services.SeatRpc
set_option autoImplicit false

/-! What a call can change, and how a handler goes on after one. -/

namespace TicketRemaster

open Resumption SeatInventory

inductive TableName where
  | inventory
  | tickets
  | ticketLogs
  | listings
  | transfers
  | credits
  | creditTransactions
  | scanLocks
  deriving DecidableEq, Repr

/-- The table a request can write to. A `GET` on a transfer may expire it. -/
def Http.writes : Http → Option TableName
  | .createTicket _ | .updateTicket _ _ => some .tickets
  | .createTicketLog _ => some .ticketLogs
  | .createListing _ | .updateListing _ _ => some .listings
  | .createTransfer _ | .getTransfer _ | .patchTransfer _ _ => some .transfers
  | .patchCredits _ _ => some .credits
  | .createCreditTransaction _ => some .creditTransactions
  | _ => none

def Call.writes : Call → Option TableName
  | .http q => q.writes
  | .seatRpc _ _ => some .inventory
  | .lockSet _ _ _ | .lockRelease _ _ => some .scanLocks
  | _ => none

/-- `w'` agrees with `w` on every table but the named one. -/
structure World.Frame (T : Option TableName) (w w' : World) : Prop where
  users : w'.users = w.users
  events : w'.events = w.events
  paymentIntents : w'.paymentIntents = w.paymentIntents
  inventory : T ≠ some .inventory → w'.inventory = w.inventory
  tickets : T ≠ some .tickets → w'.tickets = w.tickets
  ticketLogs : T ≠ some .ticketLogs → w'.ticketLogs = w.ticketLogs
  listings : T ≠ some .listings → w'.listings = w.listings
  transfers : T ≠ some .transfers → w'.transfers = w.transfers
  credits : T ≠ some .credits → w'.credits = w.credits
  creditTransactions : T ≠ some .creditTransactions →
    w'.creditTransactions = w.creditTransactions
  scanLocks : T ≠ some .scanLocks → w'.scanLocks = w.scanLocks

namespace World

section Frame

variable {cfg : SeatConfig} {e : Env} {w : World}

theorem Frame.refl (T : Option TableName) (w : World) : Frame T w w := by
  constructor <;> simp

theorem Frame.trans {T : Option TableName} {w₁ w₂ w₃ : World} (h : Frame T w₁ w₂)
    (h' : Frame T w₂ w₃) : Frame T w₁ w₃ := by
  constructor
  · exact h'.users.trans h.users
  · exact h'.events.trans h.events
  · exact h'.paymentIntents.trans h.paymentIntents
  · exact fun hT => (h'.inventory hT).trans (h.inventory hT)
  · exact fun hT => (h'.tickets hT).trans (h.tickets hT)
  · exact fun hT => (h'.ticketLogs hT).trans (h.ticketLogs hT)
  · exact fun hT => (h'.listings hT).trans (h.listings hT)
  · exact fun hT => (h'.transfers hT).trans (h.transfers hT)
  · exact fun hT => (h'.credits hT).trans (h.credits hT)
  · exact fun hT => (h'.creditTransactions hT).trans (h.creditTransactions hT)
  · exact fun hT => (h'.scanLocks hT).trans (h.scanLocks hT)

/-- Either nothing changes, or the request is a writer that succeeds (a request to
transfer-service may also expire the transfer and refuse). -/
theorem serve_cases (e : Env) (w : World) (q : Http) : (w.serve e q).2 = w ∨
    (Frame q.writes w (w.serve e q).2 ∧ q.writes ≠ none ∧
      (q.writes = some .transfers ∨ ∃ v, (w.serve e q).1 = .ok v)) := by
  cases q with
  | createTicket data =>
    simp only [serve,createTicket]
    split
    · exact .inl rfl
    · split
      · exact .inl rfl
      · exact .inr ⟨by constructor <;> simp [Http.writes],by simp [Http.writes],.inr ⟨_,rfl⟩⟩
  | updateTicket ticketId data =>
    simp only [serve,updateTicket]
    split
    · exact .inl rfl
    · split
      · exact .inl rfl
      · split
        · exact .inl rfl
        · split
          · exact .inl rfl
          · exact .inr ⟨by constructor <;> simp [Http.writes],by simp [Http.writes],.inr ⟨_,rfl⟩⟩
  | createTicketLog data =>
    exact .inr ⟨by constructor <;> simp [Http.writes,serve,createTicketLog],by simp [Http.writes],
      .inr ⟨_,rfl⟩⟩
  | createListing data =>
    simp only [serve,createListing]
    split
    · exact .inl rfl
    · exact .inr ⟨by constructor <;> simp [Http.writes],by simp [Http.writes],.inr ⟨_,rfl⟩⟩
  | updateListing listingId status =>
    simp only [serve,updateListing]
    split
    · exact .inl rfl
    · split
      · exact .inl rfl
      · exact .inr ⟨by constructor <;> simp [Http.writes],by simp [Http.writes],.inr ⟨_,rfl⟩⟩
  | createTransfer data =>
    simp only [serve,createTransfer]
    split
    · exact .inl rfl
    · exact .inr ⟨by constructor <;> simp [Http.writes],by simp [Http.writes],.inl rfl⟩
  | getTransfer transferId =>
    simp only [serve,getTransfer]
    split
    · exact .inl rfl
    · split
      · exact .inr ⟨by constructor <;> simp [Http.writes],by simp [Http.writes],.inl rfl⟩
      · exact .inl rfl
  | patchTransfer transferId data =>
    simp only [serve,patchTransfer]
    split
    · exact .inl rfl
    · split
      · exact .inl rfl
      · split
        · exact .inl rfl
        · split <;>
            exact .inr ⟨by constructor <;> simp [Http.writes],by simp [Http.writes],.inl rfl⟩
  | patchCredits userId creditBalance =>
    simp only [serve,patchCredits]
    split
    · exact .inr ⟨by constructor <;> simp [Http.writes],by simp [Http.writes],.inr ⟨_,rfl⟩⟩
    · exact .inl rfl
  | createCreditTransaction data =>
    exact .inr ⟨by constructor <;> simp [Http.writes,serve,createCreditTransaction],
      by simp [Http.writes],.inr ⟨_,rfl⟩⟩
  | retrievePaymentIntent p =>
    simp only [serve,retrievePaymentIntent]
    split
    · exact .inl rfl
    · split <;> exact .inl rfl
  | stripeWebhook d => simp only [serve,stripeWebhook]; split <;> exact .inl rfl
  | _ => exact .inl rfl

theorem serve_frame (e : Env) (w : World) (q : Http) : Frame q.writes w (w.serve e q).2 := by
  rcases serve_cases e w q with h | ⟨h,-,-⟩
  · rw [h]; exact .refl _ w
  · exact h

theorem serve_read {q : Http} (hq : q.writes = none) : (w.serve e q).2 = w := by
  rcases serve_cases e w q with h | ⟨-,hw,-⟩
  · exact h
  · exact absurd hq hw

/-- Outside transfer-service an error answer leaves everything as it was. -/
theorem serve_error {q : Http} {err : ServiceError} (hq : q.writes ≠ some .transfers)
    (h : (w.serve e q).1 = .error err) : (w.serve e q).2 = w := by
  rcases serve_cases e w q with hw | ⟨-,-,ht | ⟨v,hv⟩⟩
  · exact hw
  · exact absurd ht hq
  · rw [h] at hv; cases hv

section Answers

variable {w' : World}

theorem serve_patchCredits_ok {userId : UserId} {b : Credits} {v : Unit}
    (h : w.serve e (.patchCredits userId b) = (.ok v,w')) :
    (w.credits.lookup userId).isSome ∧ w' = { w with credits := w.credits.insert userId b } := by
  simp only [serve,patchCredits] at h
  split at h
  · rename_i hs; cases h; exact ⟨hs,rfl⟩
  · cases h

theorem serve_getCredits_ok {userId : UserId} {d : CreditData}
    (h : w.serve e (.getCredits userId) = (.ok d,w')) :
    w' = w ∧ ∃ b, w.credits.lookup userId = some b ∧ d = ⟨some b,none,none⟩ := by
  simp only [serve,getCredits] at h
  split at h
  · rename_i b hb; cases h; exact ⟨rfl,b,hb,rfl⟩
  · cases h

theorem serve_getEvent_ok {eventId : EventId} {event : Event}
    (h : w.serve e (.getEvent eventId) = (.ok event,w')) :
    w' = w ∧ w.events.lookup eventId = some event := by
  simp only [serve,getEvent,found] at h
  split at h
  · rename_i r hr; cases h; exact ⟨rfl,hr⟩
  · cases h

/-- The ticket that a `POST /tickets` stores. -/
def newTicketRow (now : Time) (hex : Nat) (data : NewTicket) : Ticket where
  inventoryId := data.inventoryId
  ownerId := data.ownerId
  venueId := data.venueId
  eventId := data.eventId
  price := data.price
  status := data.status
  qrHash := some (.uuidHex hex)
  qrTimestamp := some now
  createdAt := now

theorem serve_createTicket_ok {data : NewTicket} {v : TicketId × Ticket}
    (h : w.serve e (.createTicket data) = (.ok v,w')) :
    v = (e.uuid,newTicketRow e.time e.hex data) ∧ w.tickets.lookup v.1 = none ∧
      w' = { w with tickets := w.tickets.insert v.1 v.2 } := by
  simp only [serve,createTicket] at h
  split at h
  · cases h
  · split at h
    · cases h
    · rename_i hnew
      cases h
      simp only [Bool.or_eq_true,not_or,Option.isSome_iff_ne_none,ne_eq,not_not] at hnew
      exact ⟨rfl,hnew.1,rfl⟩

end Answers

theorem serve_createTicket_cases (e : Env) (data : NewTicket) :
    (w.serve e (.createTicket data)).2 = w ∨ w.tickets.lookup e.uuid = none ∧
      (w.serve e (.createTicket data)).2 =
        { w with tickets := w.tickets.insert e.uuid (newTicketRow e.time e.hex data) } := by
  cases h : (w.serve e (.createTicket data)).1 with
  | error err => exact .inl (serve_error (by simp [Http.writes]) h)
  | ok v =>
    obtain ⟨rfl,hnew,hw⟩ := serve_createTicket_ok (Prod.ext h rfl)
    exact .inr ⟨hnew,hw⟩

/-- A PATCH of a ticket changes nothing, or the row of the ticket it names. -/
theorem serve_updateTicket_cases (e : Env) (j : Option TicketId) (p : TicketPatch) :
    (w.serve e (.updateTicket j p)).2 = w ∨ ∃ i t, j = some i ∧ w.tickets.lookup i = some t ∧
      (w.serve e (.updateTicket j p)).2 =
        { w with tickets := w.tickets.insert i (patchTicket p t) } := by
  simp only [serve,updateTicket]
  split
  · exact .inl rfl
  · split
    · exact .inl rfl
    · rename_i i t hfound
      obtain ⟨k,hk,hrow⟩ := Option.bind_eq_some_iff.mp hfound
      obtain ⟨t',ht,hpair⟩ := Option.map_eq_some_iff.mp hrow
      cases hpair
      split
      · exact .inl rfl
      · split
        · exact .inl rfl
        · exact .inr ⟨i,t,hk,ht,rfl⟩

theorem serve_updateListing_cases (e : Env) (l : ListingId) (s : ListingStatus) :
    (w.serve e (.updateListing l s)).2 = w ∨ ∃ r, w.listings.lookup l = some r ∧
      (w.serve e (.updateListing l s)).2 =
        { w with listings := w.listings.insert l { r with status := s } } := by
  simp only [serve,updateListing]
  split
  · exact .inl rfl
  · rename_i r hr
    split
    · exact .inl rfl
    · exact .inr ⟨r,hr,rfl⟩

/-- Only an account that exists can be set. -/
theorem serve_patchCredits_cases (e : Env) (u : UserId) (b : Credits) :
    (w.serve e (.patchCredits u b)).2 = w ∨ (w.credits.lookup u).isSome ∧
      (w.serve e (.patchCredits u b)).2 = { w with credits := w.credits.insert u b } := by
  simp only [serve,patchCredits]
  split
  · rename_i hu
    exact .inr ⟨hu,rfl⟩
  · exact .inl rfl

theorem perform_http_cases (cfg : SeatConfig) (e : Env) (w : World) (q : Http) :
    (perform cfg e w (.http q)).2 = w ∨
    (perform cfg e w (.http q)).2 = (w.serve e q).2 := by
  simp only [perform,faulty]
  split
  · split
    · exact .inr rfl
    · exact .inl rfl
  · exact .inr rfl

/-- Whatever fails, the account is set as it was to be, or all is as before. -/
theorem perform_patchCredits_cases (cfg : SeatConfig) (e : Env) (w : World) (u : UserId)
    (b : Credits) :
    (perform cfg e w (.http (.patchCredits u b))).2 = w ∨ (w.credits.lookup u).isSome ∧
      (perform cfg e w (.http (.patchCredits u b))).2 =
        { w with credits := w.credits.insert u b } := by
  rcases perform_http_cases cfg e w (.patchCredits u b) with h | h
  · exact .inl h
  · rw [h]
    exact serve_patchCredits_cases e u b

theorem perform_read {q : Http} {a : Reply q.Val} {w' : World} (hq : q.writes = none)
    (hp : perform cfg e w (.http q) = (a,w')) : w' = w := by
  have hcases := perform_http_cases cfg e w q
  rw [hp,serve_read hq] at hcases
  exact hcases.elim id id

theorem perform_frame (q : Call) : Frame q.writes w (perform cfg e w q).2 := by
  cases q with
  | http q =>
    rcases perform_http_cases cfg e w q with h | h
    · rw [h]; exact .refl _ w
    · rw [h]; exact serve_frame e w q
  | seatRpc inventoryId call =>
    have hrpc : Frame (some .inventory) w (w.seatRpc cfg e inventoryId call).2 := by
      constructor <;> simp [seatRpc,setSeatDb]
    simp only [perform,faulty]
    split
    · split
      · exact hrpc
      · exact .refl _ w
    · exact hrpc
  | lockSet ticketId token ttl =>
    simp only [perform,lockSet]
    split
    · split
      · exact .refl _ w
      · constructor <;> simp [Call.writes]
    · exact .refl _ w
  | lockRelease ticketId token =>
    simp only [perform,lockRelease]
    split
    · constructor <;> simp [Call.writes]
    · exact .refl _ w
  | _ => exact .refl _ w

theorem frame_of_perform {q : Call} {a : q.Ans} {w' : World} (h : perform cfg e w q = (a,w')) :
    Frame q.writes w w' := by
  rw [show w' = (perform cfg e w q).2 by rw [h]]
  exact perform_frame q

/-- A success answer means that the request was served, without a fault. -/
theorem perform_ok {q : Http} {v : q.Val} {w' : World}
    (h : perform cfg e w (.http q) = (.ok v,w')) : w.serve e q = (.ok v,w') := by
  simp only [perform,faulty] at h
  split at h
  · rename_i f hf
    simp only [httpFault] at h
    split at h <;> simp at h
  · simp only [Prod.mk.injEq] at h
    obtain ⟨ha,hw⟩ := h
    cases hs : (w.serve e q).1 with
    | ok a =>
      rw [hs] at ha
      obtain rfl : a = v := by simpa [httpReply] using ha
      exact Prod.ext hs hw
    | error err => rw [hs] at ha; simp [httpReply] at ha

end Frame

end World

section Definite

/-- A call takes effect and reports success, or has no effect and reports an error. -/
def Env.Definite (e : Env) : Prop := ∀ f, e.fault = some f → f.applied = false ∧ f.code.isSome

/-- A call that fails reports an error code, whether or not it took effect. -/
def Env.Reporting (e : Env) : Prop := ∀ f, e.fault = some f → f.code.isSome

variable {cfg : SeatConfig} {e : Env} {w : World} {q : Http}

theorem reporting_not_raised (he : e.Reporting) :
    (World.perform cfg e w (.http q)).1 ≠ .raised := by
  simp only [World.perform,World.faulty]
  split
  · rename_i f hf
    obtain ⟨code,hc⟩ := Option.isSome_iff_exists.mp (he f hf)
    simp [World.httpFault,hc]
  · cases (w.serve e q).1 <;> simp [World.httpReply]

theorem definite_not_raised (he : e.Definite) : (World.perform cfg e w (.http q)).1 ≠ .raised :=
  reporting_not_raised fun f hf => (he f hf).2

theorem definite_error (he : e.Definite) (hq : q.writes ≠ some .transfers) {code : String}
    (h : (World.perform cfg e w (.http q)).1 = .error code) :
    (World.perform cfg e w (.http q)).2 = w := by
  simp only [World.perform,World.faulty] at h ⊢
  split at h
  · rename_i f hf
    simp [(he f hf).1]
  · cases hs : (w.serve e q).1 with
    | ok v => rw [hs] at h; simp [World.httpReply] at h
    | error err => exact World.serve_error hq hs

/-- A remote call fails, or gives the reply of its procedure. -/
theorem rpc_cases {inventoryId : InventoryId} {call : SeatCall} {a : Option SeatReply}
    {w' : World} (h : World.perform cfg e w (.seatRpc inventoryId call) = (a,w')) :
    a = none ∨ w.seatRpc cfg e inventoryId call = (a,w') := by
  simp only [World.perform,World.faulty] at h
  split at h
  · cases h; exact .inl rfl
  · exact .inr h

theorem rpc_definite {inventoryId : InventoryId} {call : SeatCall} (he : e.Definite)
    {w' : World} (h : World.perform cfg e w (.seatRpc inventoryId call) = (none,w'))
    (hreply : (w.seatRpc cfg e inventoryId call).1 ≠ none) : w' = w := by
  simp only [World.perform,World.faulty] at h
  split at h
  · rename_i f hf
    simp only [(he f hf).1] at h
    cases h
    rfl
  · exact absurd (congrArg Prod.fst h) hreply

end Definite

section Sequential

variable {cfg : SeatConfig} {α β : Type} {E : List (Entry Platform) → Env → Prop}
  {Q : β → List (Entry Platform) → World → Prop}
  {X : Unhandled → List (Entry Platform) → World → Prop}
  {h : List (Entry Platform)} {w : World}

/-- An uninterrupted run of a handler: every call is answered under `E`, and the run ends in
`Q` if it returns and in `X` if it raises. -/
abbrev Handler.Always (cfg : SeatConfig) (E : List (Entry Platform) → Env → Prop)
    (Q : α → List (Entry Platform) → World → Prop)
    (X : Unhandled → List (Entry Platform) → World → Prop) (p : Handler α)
    (h : List (Entry Platform)) (w : World) : Prop :=
  Prog.Always (World.server cfg Unit) () E Q X p h w

theorem call_always {q : Call} {k : q.Ans → Handler β}
    (hk : ∀ e a w', E h e → World.perform cfg e w q = (a,w') →
      Handler.Always cfg E Q X (k a) (⟨q,a⟩ :: h) w') :
    Handler.Always cfg E Q X (.call q k) h w := fun e he => hk e _ _ he rfl

theorem datetimeNow_always {f : Time → Handler β}
    (hf : ∀ e, E h e → Handler.Always cfg E Q X (f e.time) (⟨.now,e.time⟩ :: h) w) :
    Handler.Always cfg E Q X (datetimeNow >>= f) h w := fun e he => hf e he

theorem callService_always {q : Http} {f : Except String q.Val → Handler β}
    (hok : ∀ e v w', E h e → World.perform cfg e w (.http q) = (.ok v,w') →
      Handler.Always cfg E Q X (f (.ok v)) (⟨.http q,.ok v⟩ :: h) w')
    (herr : ∀ e code w', E h e → World.perform cfg e w (.http q) = (.error code,w') →
      Handler.Always cfg E Q X (f (.error code)) (⟨.http q,.error code⟩ :: h) w')
    (hraised : ∀ e w', E h e → World.perform cfg e w (.http q) = (.raised,w') →
      X .client (⟨.http q,.raised⟩ :: h) w') :
    Handler.Always cfg E Q X (callService q >>= f) h w := by
  intro e he
  cases hp : World.perform cfg e w (.http q) with
  | mk a w' =>
    have hserve : (World.server cfg Unit).serve () e w (.http q) = (a,w') := hp
    rw [hserve]
    cases a with
    | ok v => exact hok e v w' he hp
    | error code => exact herr e code w' he hp
    | raised => exact hraised e w' he hp

/-- Where every call is definite, an error answer leaves everything as it was. -/
theorem callService_definite (hE : ∀ h e, E h e → e.Definite) {q : Http}
    (hq : q.writes ≠ some .transfers) {f : Except String q.Val → Handler β}
    (hok : ∀ e v w', E h e → w.serve e q = (.ok v,w') →
      Handler.Always cfg E Q X (f (.ok v)) (⟨.http q,.ok v⟩ :: h) w')
    (herr : ∀ code, Handler.Always cfg E Q X (f (.error code)) (⟨.http q,.error code⟩ :: h) w) :
    Handler.Always cfg E Q X (callService q >>= f) h w := by
  refine callService_always ?_ ?_ ?_
  · exact fun e v w' he hp => hok e v w' he (World.perform_ok hp)
  · intro e code w' he hp
    obtain rfl : w' = w := by
      have hw := definite_error (hE h e he) hq (congrArg Prod.fst hp)
      rwa [hp] at hw
    exact herr code
  · intro e w' he hp
    exact absurd (congrArg Prod.fst hp) (definite_not_raised (hE h e he))

/-- A call without a fault is answered by its service. -/
theorem served_always {q : Http} {f : Except String q.Val → Handler β}
    (hE : ∀ e, E h e → e.fault = none)
    (hok : ∀ e v w', E h e → w.serve e q = (.ok v,w') →
      Handler.Always cfg E Q X (f (.ok v)) (⟨.http q,.ok v⟩ :: h) w')
    (herr : ∀ e err w', E h e → w.serve e q = (.error err,w') →
      Handler.Always cfg E Q X (f (.error err.code)) (⟨.http q,.error err.code⟩ :: h) w') :
    Handler.Always cfg E Q X (callService q >>= f) h w := by
  refine callService_always (fun e v w' he hp => hok e v w' he (World.perform_ok hp)) ?_ ?_
  · intro e code w' he hp
    simp only [World.perform,World.faulty,hE e he,Prod.mk.injEq] at hp
    cases hs : w.serve e q with
    | mk r w'' =>
      rw [hs] at hp
      obtain ⟨hr,rfl⟩ := hp
      cases r with
      | ok v => simp [World.httpReply] at hr
      | error err =>
        obtain rfl : err.code = code := by simpa [World.httpReply] using hr
        exact herr e err w'' he hs
  · intro e w' he hp
    have hdefinite : e.Definite := fun f hf => by rw [hE e he] at hf; cases hf
    exact absurd (congrArg Prod.fst hp) (definite_not_raised hdefinite)

end Sequential

theorem callService_calls {P : Call → Prop} {R : Unhandled → Prop} {q : Http} (hq : P (.http q))
    (hR : R .client) : (callService q).Calls P R := by
  refine ⟨hq,fun a => ?_⟩
  cases a with
  | ok v => trivial
  | error code => trivial
  | raised => exact hR

/-- A call to a service, whatever it answers. -/
theorem ask_calls {α : Type} {P : Call → Prop} {q : Http} {f : Except String q.Val → Handler α}
    (hq : P (.http q)) (hf : ∀ a, (f a).Calls P (fun _ => True)) :
    (callService q >>= f).Calls P (fun _ => True) :=
  Prog.calls_bind (callService_calls hq trivial) hf

end TicketRemaster
