import Mathlib.Data.Fintype.Basic
import TicketRemaster.Lib.Interleaving
import TicketRemaster.Services.Rules
import TicketRemaster.Verification.Handlers
set_option autoImplicit false

/-! When a ticket is checked in once, over every interleaving of scans and manual checks: as
long as no request reads the ticket's log while another is about to write its check-in, the lock
taking care of the case that both are scans. -/

namespace TicketRemaster.Verification

open Resumption SeatInventory

inductive CheckInRequest where
  | scan (staff : Staff) (qrHash : Option QrHash)
  | manual (staff : Staff) (ticketId : Option TicketId)
  deriving DecidableEq, Repr

namespace CheckInRequest

def handler (v : VerifyConfig) : CheckInRequest → Handler Verdict
  | .scan staff qrHash => Verification.scan v staff qrHash
  | .manual staff ticketId => manualVerify staff ticketId

def staff : CheckInRequest → Staff
  | .scan staff _ => staff
  | .manual staff _ => staff

def isScan : CheckInRequest → Bool
  | .scan _ _ => true
  | .manual _ _ => false

end CheckInRequest

/-- The checks of the venue and of the selected event let the ticket pass. -/
def Staff.admits (staff : Staff) (ticket : Ticket) : Bool :=
  !staff.staffVenueId.any (· ≠ ticket.venueId) && !staff.selectedEventId.any (ticket.eventId ≠ ·)

/-- How far a request has come: the ticket it read, the lock it holds, the ticket whose log it
found free of check-ins and has not written to since, and the ticket it checked in. -/
structure Progress where
  ticket : Option (TicketId × Ticket)
  lock : Option (TicketId × Time)
  unlogged : Option TicketId
  entered : Option TicketId
  deriving DecidableEq

namespace Progress

def after (p : Progress) : (q : Call) → q.Ans → Progress
  | .http (.getTicketByQrHash _), .ok row => { p with ticket := some row }
  | .http (.getTicket i), .ok t => { p with ticket := some (i,t) }
  | .lockSet i token _, some true => { p with lock := some (i,token) }
  | .lockRelease _ _, _ => { p with lock := none }
  | .http (.getTicketLogs i), .ok logs =>
      { p with unlogged := if logs.any (·.status = .checkedIn) then none else some i }
  | .http (.createTicketLog data), .ok _ =>
      { p with
        unlogged := none
        entered := if data.status = .checkedIn then some data.ticketId else p.entered }
  | _, _ => p

/-- The venue and the event of the ticket that was read are right. -/
def passes (staff : Staff) (p : Progress) (i : TicketId) : Bool :=
  p.ticket.any (fun row => row.1 = i && staff.admits row.2)

/-- The request has found the ticket free of check-ins, and nothing keeps it from checking the
ticket in any more. -/
def Entering (staff : Staff) (p : Progress) (i : TicketId) : Prop :=
  p.unlogged = some i ∧ p.passes staff i
  deriving Decidable

theorem passes_row {staff : Staff} {p : Progress} {i : TicketId} {ticket : Ticket}
    (ht : p.ticket = some (i,ticket)) (ha : staff.admits ticket) : p.passes staff i := by
  simp [passes,ht,ha]

end Progress

def progress : List (Entry Platform) → Progress
  | [] => ⟨none,none,none,none⟩
  | entry :: h => (progress h).after entry.1 entry.2

@[simp] theorem progress_cons (entry : Entry Platform) (h : List (Entry Platform)) :
    progress (entry :: h) = (progress h).after entry.1 entry.2 := rfl

section Discipline

/-- The order in which a request locks, reads, logs and unlocks. -/
def Orderly (req : CheckInRequest) (h : List (Entry Platform)) : Call → Prop
  | .http (.getTicketByQrHash _) | .http (.getTicket _) => (progress h).unlogged = none
  | .lockSet _ _ _ => (progress h).lock = none
  | .lockRelease i token => (progress h).lock = some (i,token) ∧ (progress h).unlogged = none
  | .http (.getTicketLogs i) => req.isScan → ∃ token, (progress h).lock = some (i,token)
  | .http (.createTicketLog data) =>
      data.status = .checkedIn → (progress h).Entering req.staff data.ticketId
  | _ => True

/-- The answers of calls that do not fail, with Redis up. -/
def Answered (_ : List (Entry Platform)) : (q : Call) → q.Ans → Prop
  | .lockPing, up => up = true
  | .http (.getTicketLogs _), reply => ∃ logs, reply = .ok logs
  | .http (.createTicketLog _), reply => reply = .ok ()
  | .http _, reply => reply ≠ .raised
  | _, _ => True

/-- A request that keeps to the order; no exception can leave it. -/
abbrev Handler.Orderly {α : Type} (req : CheckInRequest) (p : Handler α)
    (fin : α → List (Entry Platform) → Prop) (h : List (Entry Platform)) : Prop :=
  p.Follows (Verification.Orderly req) Answered fin (fun _ _ => False) h

/-- A request that is past its checks holds the same lock, owes no log entry, and reports a
success only for the ticket it has checked in. -/
def Ended (lock : Option (TicketId × Time)) (verdict : Verdict) (h : List (Entry Platform)) :
    Prop :=
  (progress h).lock = lock ∧ (progress h).unlogged = none ∧
    ∀ c, verdict = .success c → (progress h).entered = some c.ticketId

variable {α : Type} {req : CheckInRequest} {fin : α → List (Entry Platform) → Prop}
  {h : List (Entry Platform)}

theorem callService_orderly {q : Http} {f : Except String q.Val → Handler α}
    (hq : Orderly req h (.http q))
    (hok : ∀ v, Handler.Orderly req (f (.ok v)) fin (⟨.http q,.ok v⟩ :: h))
    (herr : ∀ code, Answered h (.http q) (.error code) →
      Handler.Orderly req (f (.error code)) fin (⟨.http q,.error code⟩ :: h)) :
    Handler.Orderly req (callService q >>= f) fin h := by
  refine ⟨hq,fun a ha => ?_⟩
  cases a with
  | ok v => exact hok v
  | error code => exact herr code ha
  | raised =>
    have hno : ¬ Answered h (.http q) .raised := by cases q <;> simp [Answered]
    exact absurd ha hno

theorem safeGet_orderly {q : Http} {f : Option q.Val → Handler α} (hq : Orderly req h (.http q))
    (hok : ∀ v, Handler.Orderly req (f (some v)) fin (⟨.http q,.ok v⟩ :: h))
    (herr : ∀ code, Answered h (.http q) (.error code) →
      Handler.Orderly req (f none) fin (⟨.http q,.error code⟩ :: h)) :
    Handler.Orderly req (safeGet q >>= f) fin h := by
  unfold safeGet
  rw [Prog.bind_assoc]
  exact callService_orderly hq hok herr

theorem datetimeNow_orderly {f : Time → Handler α}
    (hf : ∀ t, Handler.Orderly req (f t) fin (⟨.now,t⟩ :: h)) :
    Handler.Orderly req (datetimeNow >>= f) fin h := ⟨trivial,fun t _ => hf t⟩

theorem log_orderly {staff : Staff} {i : TicketId} {status : LogStatus} {f : Unit → Handler α}
    (hs : status = .checkedIn → (progress h).Entering req.staff i)
    (hf : Handler.Orderly req (f ()) fin
      (⟨.http (.createTicketLog ⟨i,staff.staffId,status⟩),.ok ()⟩ :: h)) :
    Handler.Orderly req (log staff i status >>= f) fin h := by
  refine ⟨hs,fun a ha => ?_⟩
  obtain rfl : a = .ok () := ha
  exact hf

/-- A lookup that says nothing about the progress can be skipped. -/
theorem lookup_orderly {q : Http} (ho : Orderly req h (.http q))
    (hq : ∀ p a, Progress.after p (.http q) a = p) {f : Option q.Val → Handler α}
    (hf : ∀ d h', progress h' = progress h → Handler.Orderly req (f d) fin h') :
    Handler.Orderly req (safeGet q >>= f) fin h :=
  safeGet_orderly ho (fun _ => hf _ _ (hq _ _)) (fun _ _ => hf _ _ (hq _ _))

/-- A refusal that has been logged. -/
theorem refusal_orderly {staff : Staff} {i : TicketId} {status : LogStatus}
    {lock : Option (TicketId × Time)} (hl : (progress h).lock = lock) {verdict : Verdict}
    (hv : verdict.isSuccess = false) (hs : status ≠ .checkedIn) :
    Handler.Orderly req (do log staff i status; pure verdict) (Ended lock) h := by
  refine log_orderly (fun hc => absurd hc hs) ⟨hl,rfl,fun c hc => ?_⟩
  rw [hc] at hv
  cases hv

end Discipline

section CheckIn

variable {req : CheckInRequest} {h : List (Entry Platform)} {i : TicketId} {ticket : Ticket}
  {event : Event} {seat : InventoryItem} {lock : Option (TicketId × Time)}

theorem markUsed_orderly (hl : (progress h).lock = lock)
    (he : (progress h).Entering req.staff i) :
    Handler.Orderly req (markUsed req.staff i ticket event seat) (Ended lock) h := by
  refine callService_orderly trivial (fun v => ?_) (fun code _ => ?_)
  all_goals
    refine log_orderly (fun _ => he) (datetimeNow_orderly fun t => ?_)
    refine ⟨hl,rfl,fun c hc => ?_⟩
    cases hc
    rfl

theorem checkPlace_orderly (hl : (progress h).lock = lock) (hu : (progress h).unlogged = some i)
    (ht : (progress h).ticket = some (i,ticket)) :
    Handler.Orderly req (checkPlace req.staff i ticket event seat) (Ended lock) h := by
  unfold checkPlace
  split
  · refine lookup_orderly (q := .getVenue _) trivial (fun _ _ => rfl) fun venue h' hh => ?_
    exact refusal_orderly (by rw [hh,hl]) rfl (by decide)
  · rename_i hv
    split
    · rename_i selected hsel
      split
      · exact refusal_orderly hl rfl (by decide)
      · exact markUsed_orderly hl ⟨hu,Progress.passes_row ht (by simp_all [Staff.admits])⟩
    · exact markUsed_orderly hl ⟨hu,Progress.passes_row ht (by simp_all [Staff.admits])⟩

theorem checkDuplicate_orderly (hl : (progress h).lock = lock)
    (hs : req.isScan → ∃ token, lock = some (i,token))
    (ht : (progress h).ticket = some (i,ticket)) :
    Handler.Orderly req (checkDuplicate req.staff i ticket event seat) (Ended lock) h := by
  refine safeGet_orderly (fun hscan => hl ▸ hs hscan) (fun logs => ?_) (fun code hc => ?_)
  · have hl' : (progress (⟨.http (.getTicketLogs i),.ok logs⟩ :: h)).lock = lock := hl
    simp only [Option.getD_some]
    split
    · exact refusal_orderly hl' rfl (by decide)
    · rename_i hfree
      have hu : (progress (⟨.http (.getTicketLogs i),.ok logs⟩ :: h)).unlogged = some i := by
        simp [Progress.after,hfree]
      exact checkPlace_orderly hl' hu ht
  · obtain ⟨logs,hlogs⟩ := hc
    cases hlogs

theorem checkTicket_orderly (hl : (progress h).lock = lock)
    (hs : req.isScan → ∃ token, lock = some (i,token))
    (ht : (progress h).ticket = some (i,ticket)) :
    Handler.Orderly req (checkTicket req.staff i ticket) (Ended lock) h := by
  refine callService_orderly trivial (fun event => ?_) (fun code _ => ?_)
  case refine_2 =>
    have hl' : (progress (⟨.http (.getEvent ticket.eventId),.error code⟩ :: h)).lock = lock := hl
    exact refusal_orderly hl' rfl (by decide)
  refine lookup_orderly (q := .listInventoryByEvent _) trivial (fun _ _ => rfl)
    fun invData h' hh => ?_
  replace hl : (progress h').lock = lock := by rw [hh]; exact hl
  replace ht : (progress h').ticket = some (i,ticket) := by rw [hh]; exact ht
  split
  · exact refusal_orderly hl rfl (by decide)
  · split
    · exact refusal_orderly hl rfl (by decide)
    · split
      · exact refusal_orderly hl rfl (by decide)
      · exact checkDuplicate_orderly hl hs ht

end CheckIn

section Scan

variable {v : VerifyConfig} {req : CheckInRequest} {h : List (Entry Platform)}

/-- The QR check refuses, or leaves the progress as it is. -/
theorem checkQrTimestamp_orderly {staff : Staff} {i : TicketId} {qrTimestamp : Option Time} :
    Handler.Orderly req (checkQrTimestamp v staff i qrTimestamp)
      (fun refusal h' => match refusal with
        | some verdict => Ended (progress h).lock verdict h'
        | none => progress h' = progress h) h := by
  cases qrTimestamp with
  | none => exact rfl
  | some ts =>
    refine datetimeNow_orderly fun now => ?_
    split
    · refine log_orderly (by simp) ⟨rfl,rfl,fun c hc => ?_⟩
      cases hc
    · refine datetimeNow_orderly fun now => ?_
      split
      · refine log_orderly (by simp) ⟨rfl,rfl,fun c hc => ?_⟩
        cases hc
      · exact rfl

theorem scanLocked_orderly {i : TicketId} {token : Time} {ticket : Ticket}
    (hl : (progress h).lock = some (i,token)) (ht : (progress h).ticket = some (i,ticket)) :
    Handler.Orderly req (scanLocked v req.staff i ticket) (Ended (some (i,token))) h := by
  refine Prog.follows_bind.mpr (checkQrTimestamp_orderly.mono ?_ (fun _ _ hf => hf))
  intro refusal h' hr
  cases refusal with
  | some verdict => rw [← hl]; exact hr
  | none =>
    refine checkTicket_orderly ?_ (fun _ => ⟨token,rfl⟩) ?_
    · rw [hr,hl]
    · rw [hr,ht]

/-- Either every attempt fails, or the lock is held. -/
theorem lockAttempts_orderly {i : TicketId} {token : Time} (n : Nat)
    (hl : (progress h).lock = none) :
    Handler.Orderly req (lockAttempts v i token n)
      (fun lock h' => match lock with
        | some lockToken => lockToken = .held token ∧
            progress h' = { progress h with lock := some (i,token) }
        | none => progress h' = progress h) h := by
  induction n generalizing h with
  | zero => exact rfl
  | succ n ih =>
    refine ⟨hl,fun a _ => ?_⟩
    rcases a with _ | _ | _
    · exact ih (h := ⟨.lockSet i token v.lockTtl,none⟩ :: h) hl
    · exact ih (h := ⟨.lockSet i token v.lockTtl,some false⟩ :: h) hl
    · exact ⟨rfl,rfl⟩

theorem acquireScanLock_orderly {i : TicketId} (hl : (progress h).lock = none) :
    Handler.Orderly req (acquireScanLock v i)
      (fun lock h' => match lock with
        | some lockToken => ∃ token, lockToken = .held token ∧
            progress h' = { progress h with lock := some (i,token) }
        | none => progress h' = progress h) h := by
  refine ⟨trivial,fun up hup => ?_⟩
  obtain rfl : up = true := hup
  refine datetimeNow_orderly fun token => ?_
  refine (lockAttempts_orderly (h := ⟨.now,token⟩ :: ⟨.lockPing,true⟩ :: h) _ hl).mono ?_
    (fun _ _ hf => hf)
  intro lock h' hh
  cases lock with
  | some lockToken => exact ⟨token,hh⟩
  | none => exact hh

/-- What holds when a request has answered. -/
def Reported (verdict : Verdict) (h : List (Entry Platform)) : Prop :=
  ∀ c, verdict = .success c → (progress h).entered = some c.ticketId

theorem reported_refusal {code message : String} {n : Nat} {detail : RefusalDetail} :
    Reported (.error code message n detail) h := by
  intro c hc
  cases hc

theorem releaseScanLock_orderly {i : TicketId} {token : Time} {verdict : Verdict}
    (he : Ended (some (i,token)) verdict h) :
    Handler.Orderly req (releaseScanLock i (.held token)) (fun _ => Reported verdict) h := by
  refine ⟨trivial,fun up hup => ?_⟩
  obtain rfl : up = true := hup
  exact ⟨⟨he.1,he.2.1⟩,fun _ _ => he.2.2⟩

theorem scan_orderly {staff : Staff} (hs : req.staff = staff) (qrHash : Option QrHash) :
    Handler.Orderly req (scan v staff qrHash) Reported [] := by
  subst hs
  cases qrHash with
  | none => exact reported_refusal
  | some qrHash =>
    refine callService_orderly rfl (fun row => ?_) (fun code _ => reported_refusal)
    obtain ⟨i,ticket⟩ := row
    refine Prog.follows_bind.mpr ((acquireScanLock_orderly rfl).mono ?_ (fun _ _ hf => hf))
    intro lock h' hh
    cases lock with
    | none => exact reported_refusal
    | some lockToken =>
      obtain ⟨token,rfl,hh⟩ := hh
      have hl : (progress h').lock = some (i,token) := by rw [hh]
      have ht : (progress h').ticket = some (i,ticket) := by rw [hh]; rfl
      refine Prog.follows_ensuring.mpr ((scanLocked_orderly hl ht).mono ?_ (fun _ _ hf => hf.elim))
      exact fun verdict h'' he => releaseScanLock_orderly he

theorem manualVerify_orderly {staff : Staff} (hs : req.staff = staff) (hm : ¬ req.isScan)
    (ticketId : Option TicketId) :
    Handler.Orderly req (manualVerify staff ticketId) Reported [] := by
  subst hs
  cases ticketId with
  | none => exact reported_refusal
  | some i =>
    refine callService_orderly rfl (fun ticket => ?_) (fun code _ => reported_refusal)
    refine (checkTicket_orderly rfl (fun hscan => absurd hscan hm) rfl).mono ?_ (fun _ _ hf => hf)
    exact fun verdict h he => he.2.2

theorem handler_orderly (v : VerifyConfig) (req : CheckInRequest) :
    Handler.Orderly req (req.handler v) Reported [] := by
  cases req with
  | scan staff qrHash => exact scan_orderly rfl qrHash
  | manual staff ticketId =>
    exact manualVerify_orderly rfl (by simp [CheckInRequest.isScan]) ticketId

end Scan

section Exclusion

variable {ι : Type} {req : ι → CheckInRequest}

/-- The claims of the requests on tickets and locks do not overlap, and the databases bear
them out. -/
structure Exclusive (req : ι → CheckInRequest) (w : World) (p : ι → Progress) : Prop where
  locked (j : ι) (i : TicketId) (token : Time) : (p j).lock = some (i,token) →
    ∃ expiry, w.scanLocks.lookup i = some (token,expiry)
  owner (j k : ι) (i : TicketId) (token token' : Time) : (p j).lock = some (i,token) →
    (p k).lock = some (i,token') → j = k
  scans (j : ι) (i : TicketId) : (req j).isScan → (p j).unlogged = some i →
    ∃ token, (p j).lock = some (i,token)
  single (j k : ι) (i : TicketId) : (p j).Entering (req j).staff i →
    (p k).Entering (req k).staff i → j = k
  fresh (j : ι) (i : TicketId) : (p j).Entering (req j).staff i →
    ∀ entry ∈ w.ticketLogs, entry.ticketId = i → entry.status ≠ .checkedIn
  logged (j : ι) (i : TicketId) : (p j).entered = some i →
    ∃ entry ∈ w.ticketLogs, entry.ticketId = i ∧ entry.status = .checkedIn
  once (j k : ι) (i : TicketId) : (p j).entered = some i → (p k).entered = some i → j = k

theorem exclusive_start (req : ι → CheckInRequest) (w : World) :
    Exclusive req w (progress ∘ fun _ => []) := by
  constructor <;> simp [progress,Progress.Entering]

/-- No call fails, Redis can be reached, and no scan outlives its lock. -/
structure Unhindered (w : World) (past : ι → List (Entry Platform)) (e : Env) : Prop where
  succeeds : e.fault = none
  redis : e.redisUp
  outlived : ∀ j, ∀ held ∈ (progress (past j)).lock, ∀ key ∈ w.scanLocks.lookup held.1,
    held.2 = key.1 → e.time < key.2

/-- The ticket whose log the call reads. -/
def looksUp : Call → Option TicketId
  | .http (.getTicketLogs i) => some i
  | _ => none

/-- Moreover, no request that nothing else keeps from checking the ticket in reads its log while
another is about to write its check-in, unless both are scans. -/
structure Apart (req : ι → CheckInRequest) (w : World) (past : ι → List (Entry Platform)) (k : ι)
    (e : Env) (q : Call) : Prop extends Unhindered w past e where
  apart : ∀ j, j ≠ k → ∀ i ∈ looksUp q, (progress (past j)).Entering (req j).staff i →
    (progress (past k)).passes (req k).staff i → (req j).isScan ∧ (req k).isScan

section Step

variable [DecidableEq ι] {w w' : World} {p : ι → Progress} {k : ι}

theorem Exclusive.same (hx : Exclusive req w p) {p' : Progress} (hp : p' = p k)
    (hl : w'.scanLocks = w.scanLocks) (hlog : w'.ticketLogs = w.ticketLogs) :
    Exclusive req w' (Function.update p k p') := by
  subst hp
  rw [Function.update_eq_self]
  obtain ⟨hlocked,howner,hscans,hsingle,hfresh,hlogged,honce⟩ := hx
  exact ⟨hl ▸ hlocked,howner,hscans,hsingle,hlog ▸ hfresh,hlog ▸ hlogged,honce⟩

theorem Exclusive.reads (hx : Exclusive req w p) (hu : (p k).unlogged = none)
    (row : Option (TicketId × Ticket)) :
    Exclusive req w (Function.update p k { p k with ticket := row }) := by
  obtain ⟨hlocked,howner,hscans,hsingle,hfresh,hlogged,honce⟩ := hx
  constructor <;> grind [Function.update_apply,Progress.Entering,Progress.passes]

theorem Exclusive.locks (hx : Exclusive req w p) {i : TicketId} {token expiry : Time}
    (hl : (p k).lock = none) (hno : ∀ j t, (p j).lock ≠ some (i,t)) :
    Exclusive req { w with scanLocks := w.scanLocks.insert i (token,expiry) }
      (Function.update p k { p k with lock := some (i,token) }) := by
  obtain ⟨hlocked,howner,hscans,hsingle,hfresh,hlogged,honce⟩ := hx
  constructor
  case locked =>
    intro j i' token' hj
    by_cases hjk : j = k
    · subst hjk
      simp only [Function.update_self,Option.some.injEq,Prod.mk.injEq] at hj
      obtain ⟨rfl,rfl⟩ := hj
      exact ⟨expiry,AList.lookup_insert _⟩
    · rw [Function.update_of_ne hjk] at hj
      have hne : i' ≠ i := fun h => hno j token' (h ▸ hj)
      rw [AList.lookup_insert_ne hne]
      exact hlocked j i' token' hj
  all_goals grind [Function.update_apply,Progress.Entering,Progress.passes]

theorem Exclusive.unlocks (hx : Exclusive req w p) {i : TicketId} {token : Time}
    (hl : (p k).lock = some (i,token)) (hu : (p k).unlogged = none) :
    Exclusive req { w with scanLocks := w.scanLocks.erase i }
      (Function.update p k { p k with lock := none }) := by
  obtain ⟨hlocked,howner,hscans,hsingle,hfresh,hlogged,honce⟩ := hx
  constructor
  case locked =>
    intro j i' token' hj
    by_cases hjk : j = k
    · subst hjk
      simp at hj
    · rw [Function.update_of_ne hjk] at hj
      have hne : i' ≠ i := fun h => hjk (howner j k i' token' token hj (h ▸ hl))
      rw [AList.lookup_erase_ne hne]
      exact hlocked j i' token' hj
  all_goals grind [Function.update_apply,Progress.Entering,Progress.passes]

/-- The key that the release finds is the one its own request has set. -/
theorem Exclusive.released (hx : Exclusive req w p) {i : TicketId} {token : Time}
    (hl : (p k).lock = some (i,token)) (hu : (p k).unlogged = none) {cfg : SeatConfig} {e : Env} :
    Exclusive req (World.perform cfg e w (.lockRelease i token)).2
      (Function.update p k { p k with lock := none }) := by
  simp only [World.perform,World.lockRelease]
  split
  · exact hx.unlocks hl hu
  · obtain ⟨hlocked,howner,hscans,hsingle,hfresh,hlogged,honce⟩ := hx
    constructor <;> grind [Function.update_apply,Progress.Entering,Progress.passes]

theorem Exclusive.looks (hx : Exclusive req w p) {i : TicketId}
    (hl : (req k).isScan → ∃ token, (p k).lock = some (i,token))
    (hfree : ∀ entry ∈ w.ticketLogs, entry.ticketId = i → entry.status ≠ .checkedIn)
    (hno : ∀ j, j ≠ k → (p j).Entering (req j).staff i → ¬ (p k).passes (req k).staff i) :
    Exclusive req w (Function.update p k { p k with unlogged := some i }) := by
  obtain ⟨hlocked,howner,hscans,hsingle,hfresh,hlogged,honce⟩ := hx
  constructor <;> grind [Function.update_apply,Progress.Entering,Progress.passes]

/-- A look that finds a check-in. -/
theorem Exclusive.passes (hx : Exclusive req w p) :
    Exclusive req w (Function.update p k { p k with unlogged := none }) := by
  obtain ⟨hlocked,howner,hscans,hsingle,hfresh,hlogged,honce⟩ := hx
  constructor <;> grind [Function.update_apply,Progress.Entering,Progress.passes]

theorem Exclusive.logs (hx : Exclusive req w p) (data : TicketLog)
    (he : data.status = .checkedIn → (p k).Entering (req k).staff data.ticketId) :
    Exclusive req { w with ticketLogs := data :: w.ticketLogs }
      (Function.update p k { p k with
        unlogged := none
        entered := if data.status = .checkedIn then some data.ticketId else (p k).entered }) := by
  obtain ⟨hlocked,howner,hscans,hsingle,hfresh,hlogged,honce⟩ := hx
  constructor
  case logged =>
    intro j i hj
    have hkept : (p j).entered = some i →
        ∃ entry ∈ data :: w.ticketLogs, entry.ticketId = i ∧ entry.status = .checkedIn := by
      intro hj
      obtain ⟨entry,hmem,hentry⟩ := hlogged j i hj
      exact ⟨entry,List.mem_cons_of_mem _ hmem,hentry⟩
    by_cases hjk : j = k
    · subst hjk
      simp only [Function.update_self] at hj
      split at hj
      · rename_i hs
        exact ⟨data,List.mem_cons_self,Option.some.inj hj,hs⟩
      · exact hkept hj
    · rw [Function.update_of_ne hjk] at hj
      exact hkept hj
  all_goals grind [Function.update_apply,Progress.Entering,Progress.passes]

end Step

instance [Fintype ι] (w : World) (past : ι → List (Entry Platform)) (e : Env) :
    Decidable (Unhindered w past e) :=
  decidable_of_iff (e.fault = none ∧ e.redisUp ∧ ∀ j, ∀ held ∈ (progress (past j)).lock,
      ∀ key ∈ w.scanLocks.lookup held.1, held.2 = key.1 → e.time < key.2)
    ⟨fun h => ⟨h.1,h.2.1,h.2.2⟩,fun h => ⟨h.succeeds,h.redis,h.outlived⟩⟩

instance [Fintype ι] [DecidableEq ι] (req : ι → CheckInRequest) (w : World)
    (past : ι → List (Entry Platform)) (k : ι) (e : Env) (q : Call) :
    Decidable (Apart req w past k e q) :=
  decidable_of_iff (Unhindered w past e ∧ ∀ j, j ≠ k → ∀ i ∈ looksUp q,
      (progress (past j)).Entering (req j).staff i → (progress (past k)).passes (req k).staff i →
        (req j).isScan ∧ (req k).isScan)
    ⟨fun h => ⟨h.1,h.2⟩,fun h => ⟨h.toUnhindered,h.apart⟩⟩

variable [DecidableEq ι] {cfg : SeatConfig}

/-- Without a fault the answer is the service's own. -/
theorem perform_http {e : Env} (he : e.fault = none) (w : World) (q : Http) :
    World.perform cfg e w (.http q) = (World.httpReply (w.serve e q).1,(w.serve e q).2) := by
  simp only [World.perform,World.faulty,he]

theorem httpReply_ne_raised {α : Type} (a : Except ServiceError α) :
    World.httpReply a ≠ .raised := by
  cases a <;> simp [World.httpReply]

theorem exclusive_keeps (req : ι → CheckInRequest) :
    Keeps (World.server cfg ι) (Apart req) (fun k => Orderly (req k)) (fun _ => Answered)
      (fun w past => Exclusive req w (progress ∘ past)) := by
  intro w past k e q hx _ hc ho
  have hframe : World.Frame q.writes w (World.perform cfg e w q).2 := World.perform_frame q
  have hsame : ∀ {p' : Progress} {w' : World}, p' = progress (past k) →
      World.Frame q.writes w w' → q.writes ≠ some .scanLocks → q.writes ≠ some .ticketLogs →
      Exclusive req w' (Function.update (progress ∘ past) k p') :=
    fun hp hf hl hlog => hx.same hp (hf.scanLocks hl) (hf.ticketLogs hlog)
  simp only [World.server,Function.comp_update,progress_cons]
  cases q with
  | http q =>
    rw [perform_http hc.succeeds] at hframe ⊢
    have hanswer := httpReply_ne_raised (w.serve e q).1
    cases q with
    | getTicket i =>
      refine ⟨hanswer,?_⟩
      simp only [World.serve,World.getTicket,World.found]
      split
      · exact hx.reads ho _
      · exact hx.same rfl rfl rfl
    | getTicketByQrHash hash =>
      refine ⟨hanswer,?_⟩
      simp only [World.serve,World.getTicketByQrHash,World.found]
      split
      · exact hx.reads ho _
      · exact hx.same rfl rfl rfl
    | getTicketLogs i =>
      refine ⟨⟨_,rfl⟩,?_⟩
      simp only [World.serve,World.getTicketLogs,World.httpReply,Progress.after]
      split
      · exact hx.passes
      · rename_i hfree
        refine hx.looks ho ?_ ?_
        · intro entry hmem hi hs
          exact hfree (List.any_eq_true.mpr ⟨entry,by simp [hmem,hi],by simp [hs]⟩)
        · -- one of the two would be manual, as the lock cannot be held twice
          intro j hjk hj hk
          obtain ⟨hsj,hsk⟩ := hc.apart j hjk i rfl hj hk
          obtain ⟨t,ht⟩ := hx.scans j i hsj hj.1
          obtain ⟨t',ht'⟩ := ho hsk
          exact hjk (hx.owner j k i t t' ht ht')
    | createTicketLog data => exact ⟨rfl,hx.logs data ho⟩
    | _ => exact ⟨hanswer,hsame rfl hframe (by simp [Call.writes,Http.writes])
        (by simp [Call.writes,Http.writes])⟩
  | seatRpc i call =>
    exact ⟨trivial,hsame rfl hframe (by simp [Call.writes]) (by simp [Call.writes])⟩
  | lockPing => exact ⟨hc.redis,hsame rfl hframe (by simp [Call.writes]) (by simp [Call.writes])⟩
  | lockSet i token ttl =>
    refine ⟨trivial,?_⟩
    simp only [World.perform,World.lockSet,hc.redis,if_true]
    split
    · exact hx.same rfl rfl rfl
    · rename_i hfree
      refine hx.locks ho fun j t hj => hfree ?_
      obtain ⟨expiry,hkey⟩ := hx.locked j i t hj
      simp [SeatDb.alive,hkey,hc.outlived j (i,t) hj (t,expiry) hkey rfl]
  | lockRelease i token => exact ⟨trivial,hx.released ho.1 ho.2⟩
  | _ => exact ⟨trivial,hsame rfl hframe (by simp [Call.writes]) (by simp [Call.writes])⟩

abbrev CheckInConfig (ι : Type) : Type := Config ι Platform Unhandled Verdict World

/-- No two requests have answered `SUCCESS` for one ticket. -/
def CheckedInOnce (c : CheckInConfig ι) : Prop :=
  ∀ j k a b, c.result j = some (.success a) → c.result k = some (.success b) →
    a.ticketId = b.ticketId → j = k

/-- Whatever scans and manual checks run side by side: if the steps keep check-ins apart, a
ticket is checked in by one request at most. -/
theorem checked_in_once (cfg : SeatConfig) (v : VerifyConfig) (req : ι → CheckInRequest)
    (w : World) (c : CheckInConfig ι)
    (hrun : Config.Reach (World.server cfg ι) (Apart req)
      (Config.start w (fun i => (req i).handler v)) c) : CheckedInOnce c := by
  have hstart : (Config.start w (fun i => (req i).handler v)).Disciplined
      (fun k => Orderly (req k)) (fun _ => Answered) (fun _ => Reported) (fun _ _ _ => False)
      (fun w past => Exclusive req w (progress ∘ past)) :=
    Config.disciplined_start (exclusive_start req w) (fun i => handler_orderly v (req i))
  have hc := hstart.reach (exclusive_keeps req) hrun
  intro j k a b hj hk hab
  have hj' := hc.result hj a rfl
  have hk' := hc.result hk b rfl
  rw [← hab] at hk'
  exact hc.1.once j k a.ticketId hj' hk'

end Exclusion

section Overlap

/-- User 1 holds the active ticket 5 of a sold seat; it has not been checked in. -/
def unscannedWorld : World where
  users := ∅
  events := AList.singleton 1 ⟨1,"Concert",0,"",30⟩
  venues := ∅
  seats := ∅
  inventory := AList.singleton 4 ⟨1,1,.sold,none,none,none⟩
  holdCache := ∅
  released := ∅
  tickets := AList.singleton 5 ⟨4,1,1,1,30,.active,some (.uuidHex 9),some 0,0⟩
  ticketLogs := []
  listings := ∅
  transfers := ∅
  credits := ∅
  creditTransactions := []
  paymentIntents := ∅
  scanLocks := ∅

/-- One scan and one manual check of the ticket. -/
def scanAndManual : Bool → CheckInRequest
  | true => .scan ⟨70,none,none⟩ (some (.uuidHex 9))
  | false => .manual ⟨71,none,none⟩ (some 5)

def atTheDoor : CheckInConfig Bool :=
  .start unscannedWorld
    (fun i => (scanAndManual i).handler ⟨seconds 60,seconds 300,seconds 5,3⟩)

def turns (i : Bool) (n : Nat) : List (Bool × Env) :=
  List.replicate n (i,⟨seconds 1,0,0,true,true,none⟩)

/-- The manual check reads the ticket, and goes on when the scan has run to its end. -/
def scanFirst : CheckInConfig Bool :=
  atTheDoor.schedule (World.server ⟨3,3,false⟩ Bool)
    (fun w past k e q => decide (Apart scanAndManual w past k e q))
    (turns false 1 ++ turns true 14 ++ turns false 4)

theorem checked_in_once_scanFirst :
    scanFirst.result true = some (.success ⟨5,seconds 1,"Concert",0,1,1⟩) ∧
      scanFirst.result false =
        some (refuse "ALREADY_CHECKED_IN" "This ticket has already been used." 409) ∧
      CheckedInOnce scanFirst := by
  refine ⟨by decide +kernel,by decide +kernel,?_⟩
  exact checked_in_once ⟨3,3,false⟩ ⟨seconds 60,seconds 300,seconds 5,3⟩ scanAndManual
    unscannedWorld _ (Config.reach_schedule (fun _ _ _ _ _ h => of_decide_eq_true h) _ _)

/-- The manual check runs between the log read of the scan and its check-in. -/
def manualBetween : CheckInConfig Bool :=
  atTheDoor.schedule (World.server ⟨3,3,false⟩ Bool)
    (fun w past _ e _ => decide (Unhindered w past e))
    (turns true 9 ++ turns false 7 ++ turns true 5)

/-- Both requests answer `SUCCESS`. -/
theorem scan_and_manual_both_succeed :
    Config.Reach (World.server ⟨3,3,false⟩ Bool) (fun w past _ e _ => Unhindered w past e) atTheDoor
      manualBetween ∧ ¬ CheckedInOnce manualBetween := by
  refine ⟨Config.reach_schedule (fun _ _ _ _ _ h => of_decide_eq_true h) _ _,fun honce => ?_⟩
  have hscan : manualBetween.result true =
      some (.success ⟨5,seconds 1,"Concert",0,1,1⟩) := by decide +kernel
  have hmanual : manualBetween.result false =
      some (.success ⟨5,seconds 1,"Concert",0,1,1⟩) := by decide +kernel
  exact absurd (honce true false _ _ hscan hmanual rfl) (by decide)

end Overlap

end TicketRemaster.Verification
