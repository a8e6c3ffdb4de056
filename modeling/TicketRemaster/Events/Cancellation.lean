import TicketRemaster.Events.Routes
set_option autoImplicit false

/-! Cancelling an event: no request ever does it, since the time of the cancellation cannot be
computed; an event that has been cancelled otherwise stays so. -/

namespace TicketRemaster.EventService

inductive AdminRequest where
  | update (data : Json)
  | delete
  | cancel (data : Json)
  | publish

namespace AdminRequest

/-- `DELETE` and `cancel`. -/
def cancels : AdminRequest → Bool
  | .delete | .cancel _ => true
  | .update _ | .publish => false

/-- A body that is neither empty nor an object. -/
def malformed : AdminRequest → Bool
  | .update (.obj _) => false
  | .update data => data.truthy
  | .delete | .cancel _ | .publish => false

end AdminRequest

variable (cols : EventColumns) (eventId : EventId)

def serve (db : Events) (clock : Time) : AdminRequest → Answered
  | .update data => updateEvent cols db eventId data
  | .delete => deleteEvent db clock eventId
  | .cancel data => cancelEvent db clock eventId data
  | .publish => publishEvent db clock eventId

def run (db : Events) : List (Time × AdminRequest) → Events
  | [] => db
  | m :: rest => run (serve cols eventId db m.1 m.2).2 rest

def status : Answered → Nat
  | (.ok _,_) => 200
  | (.error e,_) => e.status

/-- What one request does, if cancelling works, is final and rules publishing out. -/
structure Proper (db : Events) (clock : Time) (r : AdminRequest) : Prop where
  cancelled : ∀ e, db.lookup eventId = some e → e.cancelledAt = none → r.cancels →
    status (serve cols eventId db clock r) = 200 ∧
      ∃ e' t, (serve cols eventId db clock r).2.lookup eventId = some e' ∧ e'.cancelledAt = some t
  final : ∀ e, db.lookup eventId = some e → e.cancelledAt.isSome →
    status (serve cols eventId db clock r) = 400 ∧
      (serve cols eventId db clock r).2.lookup eventId = some e
  published : ∀ e, db.lookup eventId = some e → e.cancelledAt = none → r = .publish →
    (status (serve cols eventId db clock r) = 200 ↔ clock ≤ e.date)

/-- The request does not have to compute the current time for a success. -/
structure Timeless (db : Events) (clock : Time) (r : AdminRequest) : Prop where
  cancelled : ∀ e, db.lookup eventId = some e → e.cancelledAt = none → r.cancels = false
  published : ∀ e, db.lookup eventId = some e → e.cancelledAt = none → r = .publish → e.date < clock
  wellFormed : ∀ e, db.lookup eventId = some e → e.cancelledAt.isSome → r.malformed = false

section Step

variable {cols eventId} {db : Events} {clock : Time} {e : Event}

/-- An event that is not cancelled is not cancelled now, either. -/
theorem serve_cancels_fails (he : db.lookup eventId = some e) (hopen : e.cancelledAt = none)
    {r : AdminRequest} (hr : r.cancels) : status (serve cols eventId db clock r) = 500 := by
  cases r with
  | update data => cases hr
  | publish => cases hr
  | delete => simp [serve,deleteEvent,he,hopen,cancelNow,nowInUtc,status,unhandledError]
  | cancel data =>
    simp only [serve,cancelEvent,he,hopen,Option.isSome_none,Bool.false_eq_true,if_false]
    split <;> rfl

theorem serve_publish_fails (he : db.lookup eventId = some e) (hopen : e.cancelledAt = none) :
    status (serve cols eventId db clock .publish) = 500 := by
  simp only [serve,publishEvent,he,hopen]
  rfl

/-- To a cancelled event nothing happens, and unless its body is malformed, the request is told. -/
theorem serve_final (he : db.lookup eventId = some e) (hcancelled : e.cancelledAt.isSome)
    (r : AdminRequest) : (serve cols eventId db clock r).2 = db ∧
      status (serve cols eventId db clock r) = if r.malformed then 500 else 400 := by
  cases r with
  | delete => simp [serve,deleteEvent,he,hcancelled,status,alreadyCancelled,AdminRequest.malformed]
  | cancel data =>
    simp [serve,cancelEvent,he,hcancelled,status,alreadyCancelled,AdminRequest.malformed]
  | publish => simp [serve,publishEvent,he,hcancelled,status,AdminRequest.malformed]
  | update data =>
    by_cases hempty : data.truthy
    · cases data with
      | obj fields =>
        by_cases hsupported : unsupported fields = []
        · simp [serve,updateEvent,hempty,hsupported,he,hcancelled,status,AdminRequest.malformed]
        · simp [serve,updateEvent,hempty,hsupported,status,validationError,
            AdminRequest.malformed]
      | _ => simp_all [serve,updateEvent,status,unhandledError,AdminRequest.malformed]
    · have hmalformed : (AdminRequest.update data).malformed = false := by
        cases data <;> simp_all [AdminRequest.malformed]
      simp [serve,updateEvent,hempty,status,validationError,hmalformed]

theorem proper_iff_timeless {r : AdminRequest} :
    Proper cols eventId db clock r ↔ Timeless eventId db clock r := by
  constructor
  · intro h
    refine ⟨fun e he hopen => ?_,fun e he hopen hr => ?_,fun e he hcancelled => ?_⟩
    · by_contra hr
      have hr' : r.cancels := by simpa using hr
      have hok := (h.cancelled e he hopen hr').1
      rw [serve_cancels_fails he hopen hr'] at hok
      cases hok
    · subst hr
      by_contra hlate
      have hok := (h.published e he hopen rfl).mpr (not_lt.mp hlate)
      rw [serve_publish_fails he hopen] at hok
      cases hok
    · have hstatus := (h.final e he hcancelled).1
      rw [(serve_final he hcancelled r).2] at hstatus
      by_contra hr
      rw [if_pos (by simpa using hr)] at hstatus
      cases hstatus
  · intro h
    refine ⟨fun e he hopen hr => ?_,fun e he hcancelled => ?_,fun e he hopen hr => ?_⟩
    · rw [h.cancelled e he hopen] at hr
      cases hr
    · obtain ⟨hsame,hstatus⟩ : (serve cols eventId db clock r).2 = db ∧ _ :=
        serve_final he hcancelled r
      rw [h.wellFormed e he hcancelled] at hstatus
      exact ⟨hstatus,by rw [hsame]; exact he⟩
    · subst hr
      have hpast := h.published e he hopen rfl
      rw [serve_publish_fails he hopen]
      simp [hpast]

end Step

section Run

theorem run_final {db : Events} {e : Event} (he : db.lookup eventId = some e)
    (hcancelled : e.cancelledAt.isSome) (reqs : List (Time × AdminRequest)) :
    (run cols eventId db reqs).lookup eventId = some e := by
  induction reqs generalizing db with
  | nil => exact he
  | cons m rest ih =>
    refine ih ?_
    rw [(serve_final he hcancelled m.2).1]
    exact he

/-- Every request of the run is answered as it should be, and what is cancelled stays as it is. -/
def CancelledForGood (db : Events) (reqs : List (Time × AdminRequest)) : Prop :=
  ∀ before m after, reqs = before ++ m :: after →
    Proper cols eventId (run cols eventId db before) m.1 m.2 ∧
      ∀ e, (run cols eventId db before).lookup eventId = some e → e.cancelledAt.isSome →
        (run cols eventId (run cols eventId db before) (m :: after)).lookup eventId = some e

/-- Cancelling works once and for good exactly in the runs in which nobody cancels an event, or
publishes one that is still to come, and no body of an update to a cancelled event is malformed. -/
theorem cancelled_for_good_iff (db : Events) (reqs : List (Time × AdminRequest)) :
    CancelledForGood cols eventId db reqs ↔
      ∀ before m after, reqs = before ++ m :: after →
        Timeless eventId (run cols eventId db before) m.1 m.2 := by
  constructor
  · intro h before m after hreqs
    exact proper_iff_timeless.mp (h before m after hreqs).1
  · intro h before m after hreqs
    exact ⟨proper_iff_timeless.mpr (h before m after hreqs),
      fun e he hcancelled => run_final cols eventId he hcancelled (m :: after)⟩

/-- An event on the next day, at instant 0. -/
def tomorrow : Events :=
  (∅ : Events).insert 1 ⟨"ven_1","Gala",seconds 86400,none,"concert",none,10,none,0⟩

def plainColumns : EventColumns := ⟨.plain,fun _ => none⟩

/-- Neither can the event be cancelled, in either way, nor can it be published. -/
theorem uncancelled_tomorrow :
    status (serve plainColumns 1 tomorrow 0 .delete) = 500 ∧
      status (serve plainColumns 1 tomorrow 0 (.cancel .null)) = 500 ∧
      status (serve plainColumns 1 tomorrow 0 .publish) = 500 ∧
      ¬ CancelledForGood plainColumns 1 tomorrow [(0,.delete)] := by
  refine ⟨by decide,by decide,by decide,fun h => ?_⟩
  have hproper := (h [] (0,.delete) [] rfl).1
  have hok := (hproper.cancelled _ (by rfl) rfl rfl).1
  revert hok
  decide

end Run

end TicketRemaster.EventService
