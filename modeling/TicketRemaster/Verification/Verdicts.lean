import TicketRemaster.Verification.Calls
import TicketRemaster.Verification.Exclusion
set_option autoImplicit false

/-! What a check-in decides from what it looks up, whichever of its lookups fail. A scan whose code
is in time and a manual check-in decide alike, and leave the same trace. -/

namespace TicketRemaster.Verification

open Resumption SeatInventory

section Outage

inductive Lookup where
  | ticket
  | event
  | inventory
  | logs
  | venue
  deriving DecidableEq, Repr

def lookupOf : Http → Option Lookup
  | .getTicketByQrHash _ | .getTicket _ => some .ticket
  | .getEvent _ => some .event
  | .listInventoryByEvent _ => some .inventory
  | .getTicketLogs _ => some .logs
  | .getVenue _ => some .venue
  | _ => none

/-- The lookups that fail, each with its error code. -/
abbrev Outage := Lookup → Option String

def Outage.fault (outage : Outage) (e : Env) : Call → Option Fault
  | .http q =>
      match lookupOf q with
      | some l => (outage l).map fun code => ⟨false,some code⟩
      | none => e.fault
  | _ => e.fault

/-- The services under an outage. Calls that look nothing up go as the environment has them. -/
def Outage.server (cfg : SeatConfig) (outage : Outage) : Server Platform Unit Env World where
  ready _ _ _ _ := true
  serve _ e w q := World.perform cfg { e with fault := outage.fault e q } w q

/-- An environment for requests that do not depend on it. -/
def idle : Env := ⟨0,0,0,true,true,none⟩

def Outage.find (outage : Outage) (w : World) (q : Http) : Except String q.Val :=
  match (lookupOf q).bind outage with
  | some code => .error code
  | none => (w.serve idle q).1.mapError (·.code)

variable {cfg : SeatConfig} {outage : Outage} {α β : Type}
  {Q : β → List (Entry Platform) → World → Prop}
  {X : Unhandled → List (Entry Platform) → World → Prop} {h : List (Entry Platform)} {w : World}

abbrev Handler.UnderOutage (cfg : SeatConfig) (outage : Outage)
    (Q : α → List (Entry Platform) → World → Prop)
    (X : Unhandled → List (Entry Platform) → World → Prop) (p : Handler α)
    (h : List (Entry Platform)) (w : World) : Prop :=
  Prog.Always (outage.server cfg) () (fun _ e => e.Reporting) Q X p h w

theorem lookup_writes {q : Http} {l : Lookup} (hq : lookupOf q = some l) : q.writes = none := by
  cases q <;> first | rfl | cases hq

/-- The answer of `call_service` behind what it passes on. -/
def told {α : Type} : Except String α → Reply α
  | .ok v => .ok v
  | .error code => .error code

theorem serve_lookup {q : Http} {l : Lookup} (hq : lookupOf q = some l) (e : Env) :
    w.serve e q = w.serve idle q := by
  cases q <;> first | rfl | cases hq

theorem Outage.serve_lookup {q : Http} {l : Lookup} (hq : lookupOf q = some l) (e : Env) :
    (outage.server cfg).serve () e w (.http q) = (told (outage.find w q),w) := by
  have hread : ∀ e, (w.serve e q).2 = w := fun e => World.serve_read (lookup_writes hq)
  unfold Outage.server World.perform World.faulty Outage.find
  simp only [Outage.fault,hq,Option.bind_some]
  cases outage l with
  | some code => rfl
  | none =>
    simp only [Option.map_none,hread,Verification.serve_lookup hq]
    cases (w.serve idle q).1 <;> rfl

theorem lookup_always {q : Http} {l : Lookup} (hq : lookupOf q = some l)
    {f : Except String q.Val → Handler β}
    (hf : ∀ a, Handler.UnderOutage cfg outage Q X (f (outage.find w q)) (⟨.http q,a⟩ :: h) w) :
    Handler.UnderOutage cfg outage Q X (callService q >>= f) h w := by
  intro e _
  rw [Outage.serve_lookup hq]
  have hf' := hf (told (outage.find w q))
  cases hfind : outage.find w q with
  | ok v => rwa [hfind] at hf'
  | error code => rwa [hfind] at hf'

theorem safeGet_lookup {q : Http} {l : Lookup} (hq : lookupOf q = some l)
    {f : Option q.Val → Handler β}
    (hf : ∀ a, Handler.UnderOutage cfg outage Q X (f (outage.find w q).toOption)
      (⟨.http q,a⟩ :: h) w) :
    Handler.UnderOutage cfg outage Q X (safeGet q >>= f) h w := by
  unfold safeGet
  rw [Prog.bind_assoc]
  refine lookup_always hq fun a => ?_
  have ha := hf a
  cases hfind : outage.find w q with
  | ok v => rwa [hfind] at ha
  | error code => rwa [hfind] at ha

/-- A write that reports an error has its answer ignored all the same. -/
theorem write_always {q : Http} (hq : lookupOf q = none) {f : Except String q.Val → Handler β}
    (hf : ∀ r a w', Handler.UnderOutage cfg outage Q X (f r) (⟨.http q,a⟩ :: h) w') :
    Handler.UnderOutage cfg outage Q X (callService q >>= f) h w := by
  intro e he
  have hfault : outage.fault e (.http q) = e.fault := by simp [Outage.fault,hq]
  cases hp : (outage.server cfg).serve () e w (.http q) with
  | mk a w' =>
    cases a with
    | ok v => exact hf _ _ _
    | error code => exact hf _ _ _
    | raised =>
      unfold Outage.server at hp
      simp only [hfault] at hp
      exact absurd (congrArg Prod.fst hp) (reporting_not_raised he)

theorem log_always {staff : Staff} {i : TicketId} {s : LogStatus} {f : Unit → Handler β}
    (hf : ∀ a w', Handler.UnderOutage cfg outage Q X (f ())
      (⟨.http (.createTicketLog ⟨i,staff.staffId,s⟩),a⟩ :: h) w') :
    Handler.UnderOutage cfg outage Q X (log staff i s >>= f) h w := by
  unfold log
  rw [Prog.bind_assoc]
  exact write_always rfl fun _ => hf

end Outage

section Verdict

/-- What the lookups on a ticket give; `none` where one fails. -/
structure Findings where
  event : Option Event
  inventory : Option (List InventoryItem)
  logs : Option (List TicketLog)
  venue : Option Venue

def findings (outage : Outage) (w : World) (i : TicketId) (ticket : Ticket) : Findings where
  event := (outage.find w (.getEvent ticket.eventId)).toOption
  inventory := (outage.find w (.listInventoryByEvent ticket.eventId)).toOption
  logs := (outage.find w (.getTicketLogs i)).toOption
  venue := (outage.find w (.getVenue ticket.venueId)).toOption

/-- The verdict on a ticket for which only the venue and the event are left to check. -/
def placeVerdict (venue : Option Venue) (staff : Staff) (i : TicketId) (ticket : Ticket)
    (event : Event) (seat : InventoryItem) (scannedAt : Time) : Verdict :=
  if staff.staffVenueId.any (· ≠ ticket.venueId) then
    .error "WRONG_HALL" "This ticket is for a different venue." 400 (.correctVenue venue)
  else
    match staff.selectedEventId.filter (ticket.eventId ≠ ·) with
    | some selectedEventId =>
        .error "WRONG_EVENT" "This ticket is for a different event." 400
          (.events ticket.eventId selectedEventId)
    | none => .success ⟨i,scannedAt,event.name,event.date,seat.seatId,ticket.ownerId⟩

def Findings.verdict (f : Findings) (staff : Staff) (i : TicketId) (ticket : Ticket)
    (scannedAt : Time) : Verdict :=
  match f.event,(f.inventory.getD []).find? (·.inventoryId = ticket.inventoryId) with
  | none,_ => refuse "TICKET_NOT_FOUND" "Associated event not found." 400
  | some _,none => refuse "TICKET_NOT_FOUND" "Seat is not marked as sold." 400
  | some event,some seat =>
      if seat.status ≠ .sold then refuse "TICKET_NOT_FOUND" "Seat is not marked as sold." 400
      else if ticket.status ≠ .active then
        refuse "QR_INVALID"
          ("Ticket status is '" ++ ticket.status.text ++ "' — not valid for entry.") 400
      else if (f.logs.getD []).any (·.status = .checkedIn) then
        refuse "ALREADY_CHECKED_IN" "This ticket has already been used." 409
      else placeVerdict f.venue staff i ticket event seat scannedAt

def Verdict.timeless : Verdict → Verdict
  | .success c => .success { c with scannedAt := 0 }
  | verdict => verdict

/-- The log entry that corresponds to a verdict on a ticket. -/
def Verdict.logStatus : Verdict → LogStatus
  | .success _ => .checkedIn
  | .error code _ _ _ =>
      if code = "ALREADY_CHECKED_IN" then .duplicate
      else if code = "WRONG_HALL" then .wrongVenue
      else if code = "WRONG_EVENT" then .wrongEvent
      else .invalid

def updates (h : List (Entry Platform)) : List (Option TicketId × TicketPatch) :=
  h.filterMap fun x =>
    match x.1 with
    | .http (.updateTicket i data) => some (i,data)
    | _ => none

def posted (h : List (Entry Platform)) : List TicketLog :=
  h.filterMap fun x =>
    match x.1 with
    | .http (.createTicketLog data) => some data
    | _ => none

theorem isSuccess_of_timeless {a b : Verdict} (h : a.timeless = b.timeless) :
    a.isSuccess = b.isSuccess := by
  cases a <;> cases b <;> first | rfl | cases h

theorem timeless_verdict (f : Findings) (staff : Staff) (i : TicketId) (ticket : Ticket)
    (s s' : Time) :
    (f.verdict staff i ticket s).timeless = (f.verdict staff i ticket s').timeless := by
  unfold Findings.verdict
  split
  · rfl
  · rfl
  · unfold placeVerdict
    repeat' split
    all_goals rfl

/-- The check-in has ended with the verdict that its findings call for, the ticket is updated if
that is a success, and one log entry says which verdict it is. -/
def Decided (f : Findings) (staff : Staff) (i : TicketId) (ticket : Ticket)
    (h : List (Entry Platform)) (verdict : Verdict) (h' : List (Entry Platform)) : Prop :=
  (∃ scannedAt, verdict = f.verdict staff i ticket scannedAt) ∧
    updates h' =
      (if verdict.isSuccess then [(some i,{ status := some .used })] else []) ++ updates h ∧
    posted h' = ⟨i,staff.staffId,verdict.logStatus⟩ :: posted h

variable {cfg : SeatConfig} {outage : Outage} {staff : Staff} {i : TicketId} {ticket : Ticket}
  {f : Findings} {h h' : List (Entry Platform)} {w : World}

abbrev Handler.Decides (cfg : SeatConfig) (outage : Outage) (f : Findings) (staff : Staff)
    (i : TicketId) (ticket : Ticket) (h : List (Entry Platform)) (p : Handler Verdict)
    (h' : List (Entry Platform)) (w : World) : Prop :=
  Handler.UnderOutage cfg outage (fun verdict h' _ => Decided f staff i ticket h verdict h')
    (fun _ _ _ => False) p h' w

/-- So far the check-in has neither updated the ticket nor logged anything. -/
def Silent (h h' : List (Entry Platform)) : Prop := updates h' = updates h ∧ posted h' = posted h

theorem refuse_decides {verdict : Verdict} {s : LogStatus} (hs : Silent h h')
    (hv : f.verdict staff i ticket 0 = verdict) (hlog : verdict.logStatus = s)
    (hfail : verdict.isSuccess = false) :
    Handler.Decides cfg outage f staff i ticket h (do log staff i s; pure verdict) h' w := by
  refine log_always fun a w' => ⟨⟨0,hv.symm⟩,?_,?_⟩
  · simpa [hfail,updates] using hs.1
  · simpa [hlog,posted] using hs.2

theorem markUsed_decides {event : Event} {seat : InventoryItem} (hs : Silent h h')
    (hv : ∀ t, f.verdict staff i ticket t =
      .success ⟨i,t,event.name,event.date,seat.seatId,ticket.ownerId⟩) :
    Handler.Decides cfg outage f staff i ticket h (markUsed staff i ticket event seat) h' w := by
  refine write_always rfl fun r a w' => log_always fun a' w'' => ?_
  intro e _
  refine ⟨⟨e.time,(hv _).symm⟩,?_,?_⟩
  · simpa [Verdict.isSuccess,updates] using hs.1
  · simpa [Verdict.logStatus,posted] using hs.2

theorem silent_cons {x : Entry Platform} (hs : Silent h h') (hu : updates [x] = [])
    (hp : posted [x] = []) : Silent h (x :: h') := by
  constructor
  · rw [← hs.1]
    exact (List.filterMap_append (l := [x])).trans (congrArg (· ++ updates h') hu)
  · rw [← hs.2]
    exact (List.filterMap_append (l := [x])).trans (congrArg (· ++ posted h') hp)

theorem checkPlace_decides {event : Event} {seat : InventoryItem} (hs : Silent h h')
    (hv : ∀ t, f.verdict staff i ticket t =
      placeVerdict (outage.find w (.getVenue ticket.venueId)).toOption staff i ticket event
        seat t) :
    Handler.Decides cfg outage f staff i ticket h (checkPlace staff i ticket event seat) h' w := by
  unfold checkPlace
  split
  · rename_i hvenue
    simp only [placeVerdict,if_pos hvenue] at hv
    refine safeGet_lookup rfl fun a => ?_
    replace hs := silent_cons (x := ⟨.http (.getVenue ticket.venueId),a⟩) hs rfl rfl
    exact refuse_decides hs (hv 0) rfl rfl
  · rename_i hvenue
    simp only [placeVerdict,if_neg hvenue] at hv
    split
    · rename_i selectedEventId hselected
      simp only [hselected] at hv
      split
      · rename_i hevent
        simp only [Option.filter_some,if_pos (decide_eq_true hevent)] at hv
        exact refuse_decides hs (hv 0) rfl rfl
      · rename_i hevent
        simp only [Option.filter_some,if_neg (mt of_decide_eq_true hevent)] at hv
        exact markUsed_decides hs hv
    · rename_i hselected
      simp only [hselected] at hv
      exact markUsed_decides hs hv

/-- Both endpoints go on with a ticket they have read as the findings on it call for. -/
theorem checkTicket_decides (hs : Silent h h') :
    Handler.Decides cfg outage (findings outage w i ticket) staff i ticket h
      (checkTicket staff i ticket) h' w := by
  refine lookup_always rfl fun a => ?_
  replace hs := silent_cons (x := ⟨.http (.getEvent ticket.eventId),a⟩) hs rfl rfl
  cases hevent : outage.find w (.getEvent ticket.eventId) with
  | error code =>
    refine refuse_decides hs ?_ rfl rfl
    simp [Findings.verdict,findings,hevent,Except.toOption]
  | ok event =>
    have hfound : (outage.find w (.getEvent ticket.eventId)).toOption = some event := by
      rw [hevent]; rfl
    refine safeGet_lookup rfl fun a => ?_
    replace hs := silent_cons (x := ⟨.http (.listInventoryByEvent ticket.eventId),a⟩) hs rfl rfl
    split
    · rename_i hseat
      refine refuse_decides hs ?_ rfl rfl
      simp only [Findings.verdict,findings,hfound,hseat]
    · rename_i seat hseat
      split
      · rename_i hsold
        refine refuse_decides hs ?_ rfl rfl
        simp only [Findings.verdict,findings,hfound,hseat,if_pos hsold]
      · rename_i hsold
        split
        · rename_i hactive
          refine refuse_decides hs ?_ rfl rfl
          simp only [Findings.verdict,findings,hfound,hseat,if_neg hsold,if_pos hactive]
        · rename_i hactive
          refine safeGet_lookup rfl fun a => ?_
          replace hs := silent_cons (x := ⟨.http (.getTicketLogs i),a⟩) hs rfl rfl
          split
          · rename_i hlogged
            refine refuse_decides hs ?_ rfl rfl
            simp only [Findings.verdict,findings,hfound,hseat,if_neg hsold,if_neg hactive,
              if_pos hlogged]
          · rename_i hlogged
            refine checkPlace_decides hs fun t => ?_
            simp only [Findings.verdict,findings,hfound,hseat,if_neg hsold,if_neg hactive,
              if_neg hlogged]

end Verdict

section Prelude

/-- The databases that the verdict depends on are the same. -/
structure SameData (w w' : World) : Prop where
  events : w'.events = w.events
  venues : w'.venues = w.venues
  inventory : w'.inventory = w.inventory
  ticketLogs : w'.ticketLogs = w.ticketLogs

/-- The calls around the checks: reads, and the ones on the lock. -/
def AroundChecks (q : Call) : Prop := Call.Reads q ∨ q.writes = some .scanLocks

variable {cfg : SeatConfig} {outage : Outage} {v : VerifyConfig} {staff : Staff} {i : TicketId}
  {h₀ h : List (Entry Platform)} {w₀ w : World} {e : Env} {q : Call}

theorem SameData.findings (hw : SameData w₀ w) (ticket : Ticket) :
    findings outage w i ticket = findings outage w₀ i ticket := by
  obtain ⟨hevents,hvenues,hinventory,hlogs⟩ := hw
  simp only [Verification.findings,Outage.find,World.serve,World.getEvent,World.getVenue,
    World.listInventoryByEvent,World.getTicketLogs,hevents,hvenues,hinventory,hlogs]

theorem AroundChecks.writes (hq : AroundChecks q) :
    q.writes = none ∨ q.writes = some .transfers ∨ q.writes = some .scanLocks := by
  rcases hq with (hread | ⟨j,rfl⟩) | hlock
  · exact .inl hread
  · exact .inr (.inl rfl)
  · exact .inr (.inr hlock)

theorem perform_sameData (hq : AroundChecks q) : SameData w (World.perform cfg e w q).2 := by
  cases q with
  | http q =>
    rcases World.perform_http_cases cfg e w q with hw | hw
    · rw [hw]; exact ⟨rfl,rfl,rfl,rfl⟩
    · rw [hw]
      rcases hq with (hread | ⟨j,hj⟩) | hlock
      · rw [World.serve_read hread]; exact ⟨rfl,rfl,rfl,rfl⟩
      · cases hj
        simp only [World.serve,World.getTransfer]
        repeat' split
        all_goals exact ⟨rfl,rfl,rfl,rfl⟩
      · exact absurd hlock (by cases q <;> simp [Call.writes,Http.writes])
  | seatRpc inventoryId call => exact absurd hq.writes (by simp [Call.writes])
  | lockSet ticketId token ttl =>
    simp only [World.perform,World.lockSet]
    repeat' split
    all_goals exact ⟨rfl,rfl,rfl,rfl⟩
  | lockRelease ticketId token =>
    simp only [World.perform,World.lockRelease]
    split <;> exact ⟨rfl,rfl,rfl,rfl⟩
  | _ => exact ⟨rfl,rfl,rfl,rfl⟩

theorem silent_around {a : q.Ans} (hq : AroundChecks q) (hs : Silent h₀ h) :
    Silent h₀ (⟨q,a⟩ :: h) := by
  cases q with
  | http q =>
    cases q with
    | updateTicket j data => exact absurd hq.writes (by simp [Call.writes,Http.writes])
    | createTicketLog data => exact absurd hq.writes (by simp [Call.writes,Http.writes])
    | _ => exact silent_cons hs rfl rfl
  | _ => exact silent_cons hs rfl rfl

/-- The check-in is still on the data of `w₀`, and has left no trace since `h₀`. -/
def Pending (h₀ : List (Entry Platform)) (w₀ : World) (h : List (Entry Platform)) (w : World) :
    Prop := Silent h₀ h ∧ SameData w₀ w

theorem pending_step (hq : AroundChecks q) (hp : Pending h₀ w₀ h w) :
    Pending h₀ w₀ (⟨q,((outage.server cfg).serve () e w q).1⟩ :: h)
      ((outage.server cfg).serve () e w q).2 := by
  refine ⟨silent_around hq hp.1,?_⟩
  have hw : SameData w ((outage.server cfg).serve () e w q).2 := perform_sameData hq
  exact ⟨hw.events.trans hp.2.events,hw.venues.trans hp.2.venues,
    hw.inventory.trans hp.2.inventory,hw.ticketLogs.trans hp.2.ticketLogs⟩

theorem acquireScanLock_pending (hp : Pending h₀ w₀ h w) :
    Handler.UnderOutage cfg outage (fun _ h' w' => Pending h₀ w₀ h' w')
      (fun _ h' w' => True ∧ Pending h₀ w₀ h' w') (acquireScanLock v i) h w :=
  (acquireScanLock_calls (P := AroundChecks) (fun _ => .inl) (fun _ _ => .inr rfl)).always
    (fun _ hq _ _ _ _ => pending_step hq) hp

theorem checkQrTimestamp_pending {qrTimestamp : Option Time} (hp : Pending h₀ w₀ h w) :
    Handler.UnderOutage cfg outage (fun refusal h' w' => refusal = none → Pending h₀ w₀ h' w')
      (fun _ _ _ => False) (checkQrTimestamp v staff i qrTimestamp) h w := by
  cases qrTimestamp with
  | none => exact fun _ => hp
  | some ts =>
    intro e _
    change Handler.UnderOutage cfg outage _ _ (ite _ _ _) _ _
    split
    · exact log_always fun a w' hrefusal => nomatch hrefusal
    · intro e' _
      change Handler.UnderOutage cfg outage _ _ (ite _ _ _) _ _
      split
      · exact log_always fun a w' hrefusal => nomatch hrefusal
      · exact fun _ => pending_step (.inl (.inl rfl)) (pending_step (.inl (.inl rfl)) hp)

theorem releaseScanLock_pending {token : LockToken} (hp : Pending h₀ w₀ h w) :
    Handler.UnderOutage cfg outage (fun _ h' w' => Pending h₀ w₀ h' w') (fun _ _ _ => False)
      (releaseScanLock i token) h w := by
  cases token with
  | noLock => exact hp
  | held token =>
    intro e _
    change Handler.UnderOutage cfg outage _ _ (ite _ _ _) _ _
    split
    · exact fun e' _ => pending_step (.inr rfl) (pending_step (.inl (.inl rfl)) hp)
    · exact pending_step (.inl (.inl rfl)) hp

end Prelude

section Alike

/-- A handler alone, from what has been reached. -/
abbrev goesOn {α : Type} (cfg : SeatConfig) (outage : Outage)
    (ω : List (Entry Platform) → Env) (p : Handler α) (h : List (Entry Platform)) (w : World) :
    Final Platform Unhandled α World :=
  p.exec (outage.server cfg) () ω h w

variable (cfg : SeatConfig) (outage : Outage) (v : VerifyConfig) (staff : Staff)
  (ω : List (Entry Platform) → Env) (w : World) (qrHash : QrHash) (i : TicketId) (ticket : Ticket)

def ticketFound : Final Platform Unhandled (Except String (TicketId × Ticket)) World :=
  goesOn cfg outage ω (callService (.getTicketByQrHash qrHash)) [] w

def lockTaken : Final Platform Unhandled (Option LockToken) World :=
  let f := ticketFound cfg outage ω w qrHash
  goesOn cfg outage ω (acquireScanLock v i) f.past f.state

def codeChecked : Final Platform Unhandled (Option Verdict) World :=
  let f := lockTaken cfg outage v ω w qrHash i
  goesOn cfg outage ω (checkQrTimestamp v staff i ticket.qrTimestamp) f.past f.state

/-- The scan finds the ticket, acquires its lock, and finds its code in time. -/
structure Cleared : Prop where
  found : (ticketFound cfg outage ω w qrHash).result = .ok (.ok (i,ticket))
  locked : ∃ token, (lockTaken cfg outage v ω w qrHash i).result = .ok (some token)
  inTime : (codeChecked cfg outage v staff ω w qrHash i ticket).result = .ok none

/-- A check-in has answered with the verdict, and logged that verdict and nothing else. -/
def EndsWith (f : Final Platform Unhandled Verdict World) (verdict : Verdict) : Prop :=
  f.result = .ok verdict ∧ posted f.past = [⟨i,staff.staffId,verdict.logStatus⟩]

variable {cfg outage v staff ω w qrHash i ticket}

theorem lookup_goesOn {q : Http} {l : Lookup} (hq : lookupOf q = some l)
    {h : List (Entry Platform)} :
    goesOn cfg outage ω (callService q) h w =
      ⟨.ok (outage.find w q),⟨.http q,told (outage.find w q)⟩ :: h,w⟩ := by
  refine (Prog.exec_call (Outage.serve_lookup hq _)).trans ?_
  cases outage.find w q <;> rfl

theorem Cleared.find_hash (hc : Cleared cfg outage v staff ω w qrHash i ticket) :
    outage.find w (.getTicketByQrHash qrHash) = .ok (i,ticket) := by
  have hfound := hc.found
  rw [ticketFound,lookup_goesOn rfl] at hfound
  exact Except.ok.inj hfound

/-- The ticket with the scanned hash is found under its id, as the outage spares the tickets. -/
theorem Cleared.find_id (hc : Cleared cfg outage v staff ω w qrHash i ticket) :
    outage.find w (.getTicket i) = .ok ticket := by
  have hfind := hc.find_hash
  unfold Outage.find at hfind ⊢
  simp only [lookupOf,Option.bind_some] at hfind ⊢
  cases hout : outage .ticket with
  | some code => rw [hout] at hfind; cases hfind
  | none =>
    simp only [hout,World.serve,World.getTicketByQrHash,World.getTicket,World.found] at hfind ⊢
    split at hfind
    · rename_i row hrow
      cases hfind
      rw [Table.findRow_lookup hrow]
      rfl
    · cases hfind

/-- The release of the lock on the way out shows neither in the verdict nor in the trace. -/
theorem releaseScanLock_goesOn (token : LockToken) {verdict : Verdict}
    {h : List (Entry Platform)} (hω : ∀ h, (ω h).Reporting) :
    ∃ h' w', goesOn cfg outage ω (releaseScanLock i token >>= fun _ => .ret verdict) h w =
      ⟨.ok verdict,h',w'⟩ ∧ Silent h h' := by
  have hrelease : Handler.UnderOutage cfg outage (fun _ h' w' => Pending h w h' w')
      (fun _ _ _ => False) (releaseScanLock i token) h w :=
    releaseScanLock_pending ⟨⟨rfl,rfl⟩,⟨rfl,rfl,rfl,rfl⟩⟩
  obtain ⟨u,hrun,hp⟩ := (hrelease.exec ω hω).returns
  exact ⟨_,_,Prog.exec_bind_ok hrun,hp.1⟩

theorem Cleared.scan_decided (hω : ∀ h, (ω h).Reporting)
    (hc : Cleared cfg outage v staff ω w qrHash i ticket) :
    ∃ verdict, (goesOn cfg outage ω (scan v staff (some qrHash)) [] w).result = .ok verdict ∧
      Decided (findings outage w i ticket) staff i ticket [] verdict
        (goesOn cfg outage ω (scan v staff (some qrHash)) [] w).past := by
  obtain ⟨token,hlocked⟩ := hc.locked
  have hpending : Pending [] w (ticketFound cfg outage ω w qrHash).past
      (ticketFound cfg outage ω w qrHash).state := by
    rw [ticketFound,lookup_goesOn rfl]
    exact ⟨⟨rfl,rfl⟩,⟨rfl,rfl,rfl,rfl⟩⟩
  replace hpending := ((acquireScanLock_pending hpending).exec ω hω).ok hlocked
  replace hpending := ((checkQrTimestamp_pending hpending).exec ω hω).ok hc.inTime rfl
  have hchecks : Handler.Decides cfg outage (findings outage w i ticket) staff i ticket []
      (checkTicket staff i ticket) (codeChecked cfg outage v staff ω w qrHash i ticket).past
      (codeChecked cfg outage v staff ω w qrHash i ticket).state := by
    rw [← hpending.2.findings]
    exact checkTicket_decides hpending.1
  obtain ⟨verdict,hverdict,hd⟩ := (hchecks.exec ω hω).returns
  obtain ⟨h',w',hreleased,hs⟩ := releaseScanLock_goesOn (i := i) token hω
  have hrun : goesOn cfg outage ω (scan v staff (some qrHash)) [] w = ⟨.ok verdict,h',w'⟩ := by
    refine (Prog.exec_bind_ok (Final.of_result hc.found)).trans ?_
    refine (Prog.exec_bind_ok (Final.of_result hlocked)).trans ?_
    refine (Prog.exec_ensuring_ok ?_).trans hreleased
    exact (Prog.exec_bind_ok (Final.of_result hc.inTime)).trans hverdict
  rw [hrun]
  exact ⟨verdict,rfl,hd.1,hs.1.trans hd.2.1,hs.2.trans hd.2.2⟩

theorem manual_decided (hω : ∀ h, (ω h).Reporting)
    (hfind : outage.find w (.getTicket i) = .ok ticket) :
    ∃ verdict, (goesOn cfg outage ω (manualVerify staff (some i)) [] w).result = .ok verdict ∧
      Decided (findings outage w i ticket) staff i ticket [] verdict
        (goesOn cfg outage ω (manualVerify staff (some i)) [] w).past := by
  have hlookup : goesOn cfg outage ω (callService (.getTicket i)) [] w =
      ⟨.ok (.ok ticket),[⟨.http (.getTicket i),.ok ticket⟩],w⟩ := by
    rw [lookup_goesOn rfl,hfind]
    rfl
  have hrun : goesOn cfg outage ω (manualVerify staff (some i)) [] w =
      goesOn cfg outage ω (checkTicket staff i ticket) [⟨.http (.getTicket i),.ok ticket⟩] w :=
    Prog.exec_bind_ok hlookup
  have hchecks : Handler.Decides cfg outage (findings outage w i ticket) staff i ticket []
      (checkTicket staff i ticket) [⟨.http (.getTicket i),.ok ticket⟩] w :=
    checkTicket_decides ⟨rfl,rfl⟩
  obtain ⟨verdict,hverdict,hd⟩ := (hchecks.exec ω hω).returns
  rw [hrun]
  exact ⟨verdict,congrArg Final.result hverdict,hd⟩

/-- A scan whose code is in time and a manual check-in, each alone from the same state, give the
same answer but for its time, make the same update, and log their answer once. -/
theorem scan_manualVerify_alike (ω' : List (Entry Platform) → Env) (hω : ∀ h, (ω h).Reporting)
    (hω' : ∀ h, (ω' h).Reporting) (hc : Cleared cfg outage v staff ω w qrHash i ticket) :
    ∃ a b, EndsWith staff i (goesOn cfg outage ω (scan v staff (some qrHash)) [] w) a ∧
      EndsWith staff i (goesOn cfg outage ω' (manualVerify staff (some i)) [] w) b ∧
      a.timeless = b.timeless ∧
      updates (goesOn cfg outage ω (scan v staff (some qrHash)) [] w).past =
        updates (goesOn cfg outage ω' (manualVerify staff (some i)) [] w).past := by
  obtain ⟨a,ha,⟨s,hs⟩,hupdates,hposted⟩ := hc.scan_decided hω
  obtain ⟨b,hb,⟨s',hs'⟩,hupdates',hposted'⟩ := manual_decided hω' hc.find_id
  have hab : a.timeless = b.timeless := by
    rw [hs,hs']
    exact timeless_verdict _ _ _ _ _ _
  refine ⟨a,b,⟨ha,hposted⟩,⟨hb,hposted'⟩,hab,?_⟩
  rw [hupdates,hupdates',isSuccess_of_timeless hab]

/-- Nobody can tell whether the ticket has been used, and the update of the ticket times out. -/
def logsDown : Outage
  | .logs => some "SERVICE_TIMEOUT"
  | _ => none

def timingOut (_ : List (Entry Platform)) : Env :=
  ⟨seconds 1,0,0,true,true,some ⟨true,some "SERVICE_TIMEOUT"⟩⟩

def gateScan : Final Platform Unhandled Verdict World :=
  goesOn ⟨3,3,false⟩ logsDown timingOut
    (scan ⟨seconds 60,seconds 300,seconds 5,3⟩ ⟨70,none,some 1⟩ (some (.uuidHex 9))) []
    unscannedWorld

def gateManual : Final Platform Unhandled Verdict World :=
  goesOn ⟨3,3,false⟩ logsDown timingOut (manualVerify ⟨70,none,some 1⟩ (some 5)) [] unscannedWorld

theorem scan_manualVerify_alike_logsDown :
    ∃ a b, EndsWith ⟨70,none,some 1⟩ 5 gateScan a ∧ EndsWith ⟨70,none,some 1⟩ 5 gateManual b ∧
      a.timeless = b.timeless ∧ updates gateScan.past = updates gateManual.past := by
  have hreport : ∀ h, (timingOut h).Reporting := fun _ f hf => by cases hf; rfl
  exact scan_manualVerify_alike timingOut hreport hreport
    ⟨rfl,⟨.held (seconds 1),rfl⟩,rfl⟩

end Alike

end TicketRemaster.Verification
