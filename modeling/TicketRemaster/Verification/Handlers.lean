import TicketRemaster.Services.Platform
set_option autoImplicit false

/-! The two check-in endpoints of the ticket verification orchestrator, `POST /verify/scan` and
`POST /verify/manual`. -/

namespace TicketRemaster.Verification

open Resumption

structure VerifyConfig where
  qrTtl : Time
  clockSkew : Time
  lockTtl : Time
  maxLockRetries : Nat

/-- The member of staff, from the token, and the event selected in the body. -/
structure Staff where
  staffId : UserId
  staffVenueId : Option VenueId
  selectedEventId : Option EventId
  deriving DecidableEq, Repr

/-- What some refusals carry besides their message. -/
inductive RefusalDetail where
  | nothing
  | correctVenue (venue : Option Venue)
  | events (ticketEventId selectedEventId : EventId)
  deriving DecidableEq, Repr

structure CheckedIn where
  ticketId : TicketId
  scannedAt : Time
  eventName : String
  eventDate : Time
  seatId : SeatId
  ownerId : UserId
  deriving DecidableEq, Repr

inductive Verdict where
  | error (code message : String) (status : Nat) (detail : RefusalDetail)
  | success (c : CheckedIn)
  deriving DecidableEq, Repr

def Verdict.isSuccess : Verdict → Bool
  | .success _ => true
  | .error _ _ _ _ => false

def refuse (code message : String) (status : Nat) : Verdict := .error code message status .nothing

/-- The log is written whether or not ticket-log-service takes it. -/
def log (staff : Staff) (ticketId : TicketId) (status : LogStatus) : Handler Unit := do
  let _ ← callService (.createTicketLog ⟨ticketId,staff.staffId,status⟩)

section ScanLock

inductive LockToken where
  | noLock
  | held (token : Time)
  deriving DecidableEq, Repr

def lockPing : Handler Bool := .call .lockPing .ret

/-- `SET NX EX` until it succeeds; a busy key and an error both count as one attempt. -/
def lockAttempts (cfg : VerifyConfig) (ticketId : TicketId) (token : Time) :
    Nat → Handler (Option LockToken)
  | 0 => pure none
  | n+1 => do
      match ← (.call (.lockSet ticketId token cfg.lockTtl) .ret : Handler (Option Bool)) with
      | some true => pure (some (.held token))
      | _ => lockAttempts cfg ticketId token n

/-- Without Redis the scan goes on without a lock. -/
def acquireScanLock (cfg : VerifyConfig) (ticketId : TicketId) : Handler (Option LockToken) := do
  if ← lockPing then
    let token ← datetimeNow
    lockAttempts cfg ticketId token cfg.maxLockRetries
  else pure (some .noLock)

def releaseScanLock (ticketId : TicketId) : LockToken → Handler Unit
  | .noLock => pure ()
  | .held token => do
      if ← lockPing then .call (.lockRelease ticketId token) .ret
      else pure ()

end ScanLock

section CheckIn

/-- All checks passed: mark the ticket as used, and log it. -/
def markUsed (staff : Staff) (ticketId : TicketId) (ticket : Ticket) (event : Event)
    (seat : InventoryItem) : Handler Verdict := do
  let _ ← callService (.updateTicket (some ticketId) { status := some .used })
  log staff ticketId .checkedIn
  let scannedAt ← datetimeNow
  pure (.success ⟨ticketId,scannedAt,event.name,event.date,seat.seatId,ticket.ownerId⟩)

/-- The venue is the one in the token, never one in the request body. -/
def checkPlace (staff : Staff) (ticketId : TicketId) (ticket : Ticket) (event : Event)
    (seat : InventoryItem) : Handler Verdict := do
  if staff.staffVenueId.any (· ≠ ticket.venueId) then
    let correctVenue ← safeGet (.getVenue ticket.venueId)
    log staff ticketId .wrongVenue
    pure (.error "WRONG_HALL" "This ticket is for a different venue." 400
      (.correctVenue correctVenue))
  else
    match staff.selectedEventId with
    | some selectedEventId =>
        if ticket.eventId ≠ selectedEventId then
          log staff ticketId .wrongEvent
          pure (.error "WRONG_EVENT" "This ticket is for a different event." 400
            (.events ticket.eventId selectedEventId))
        else markUsed staff ticketId ticket event seat
    | none => markUsed staff ticketId ticket event seat

/-- The duplicate check; logs that cannot be read count as no logs. -/
def checkDuplicate (staff : Staff) (ticketId : TicketId) (ticket : Ticket) (event : Event)
    (seat : InventoryItem) : Handler Verdict := do
  let logs ← safeGet (.getTicketLogs ticketId)
  if (logs.getD []).any (·.status = .checkedIn) then
    log staff ticketId .duplicate
    pure (refuse "ALREADY_CHECKED_IN" "This ticket has already been used." 409)
  else checkPlace staff ticketId ticket event seat

/-- The checks both endpoints make, in their order, on the ticket they have read. -/
def checkTicket (staff : Staff) (ticketId : TicketId) (ticket : Ticket) : Handler Verdict := do
  match ← callService (.getEvent ticket.eventId) with
  | .error _ =>
      log staff ticketId .invalid
      pure (refuse "TICKET_NOT_FOUND" "Associated event not found." 400)
  | .ok event =>
      let invData ← safeGet (.listInventoryByEvent ticket.eventId)
      match (invData.getD []).find? (·.inventoryId = ticket.inventoryId) with
      | none =>
          log staff ticketId .invalid
          pure (refuse "TICKET_NOT_FOUND" "Seat is not marked as sold." 400)
      | some seat =>
          if seat.status ≠ .sold then
            log staff ticketId .invalid
            pure (refuse "TICKET_NOT_FOUND" "Seat is not marked as sold." 400)
          else if ticket.status ≠ .active then
            log staff ticketId .invalid
            pure (refuse "QR_INVALID"
              ("Ticket status is '" ++ ticket.status.text ++ "' — not valid for entry.") 400)
          else checkDuplicate staff ticketId ticket event seat

end CheckIn

/-- The age of the QR code. A ticket without a timestamp passes; timestamps in the table always
parse. -/
def checkQrTimestamp (cfg : VerifyConfig) (staff : Staff) (ticketId : TicketId)
    (qrTimestamp : Option Time) : Handler (Option Verdict) := do
  match qrTimestamp with
  | none => pure none
  | some ts =>
      let now ← datetimeNow
      if now+cfg.clockSkew < ts then
        log staff ticketId .invalid
        pure (some (refuse "QR_INVALID" "QR timestamp is in the future." 400))
      else
        let now ← datetimeNow
        if cfg.qrTtl < now-ts then
          log staff ticketId .expired
          pure (some (refuse "QR_EXPIRED"
            "QR code has expired — ask the attendee to refresh." 400))
        else pure none

/-- The scan of a ticket whose lock is held. -/
def scanLocked (cfg : VerifyConfig) (staff : Staff) (ticketId : TicketId) (ticket : Ticket) :
    Handler Verdict := do
  match ← checkQrTimestamp cfg staff ticketId ticket.qrTimestamp with
  | some refusal => pure refusal
  | none => checkTicket staff ticketId ticket

def scan (cfg : VerifyConfig) (staff : Staff) (qrHash : Option QrHash) : Handler Verdict := do
  match qrHash with
  | none => pure (refuse "VALIDATION_ERROR" "qrHash is required." 400)
  | some qrHash =>
      match ← callService (.getTicketByQrHash qrHash) with
      | .error _ => pure (refuse "TICKET_NOT_FOUND" "No ticket matches this QR code." 404)
      | .ok (ticketId,ticket) =>
          match ← acquireScanLock cfg ticketId with
          | none =>
              pure (refuse "CONCURRENT_SCAN" "Another scan is in progress. Please try again." 409)
          | some lockToken =>
              (scanLocked cfg staff ticketId ticket).ensuring (releaseScanLock ticketId lockToken)

def manualVerify (staff : Staff) (ticketId : Option TicketId) : Handler Verdict := do
  match ticketId with
  | none => pure (refuse "VALIDATION_ERROR" "ticketId is required." 400)
  | some ticketId =>
      match ← callService (.getTicket ticketId) with
      | .error _ => pure (refuse "TICKET_NOT_FOUND" "No ticket found with that ID." 404)
      | .ok ticket => checkTicket staff ticketId ticket

end TicketRemaster.Verification
