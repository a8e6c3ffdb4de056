import TicketRemaster.Services.Platform
set_option autoImplicit false

/-! `GET /tickets/<ticket_id>/qr` of the QR orchestrator. -/

namespace TicketRemaster.Verification

open Resumption

structure QrAnswer where
  ticketId : TicketId
  qrHash : QrHash
  generatedAt : Time
  expiresAt : Time
  event : Option Event
  venue : Option Venue
  deriving DecidableEq

def getQr (qrTtl : Time) (userId : UserId) (ticketId : TicketId) : Handler (Response QrAnswer) := do
  match ← callService (.getTicket ticketId) with
  | .error code =>
      if code = "TICKET_NOT_FOUND" then
        pure (.error "TICKET_NOT_FOUND" "Ticket not found." 404)
      else pure (.error "SERVICE_UNAVAILABLE" "Could not retrieve ticket." 503)
  | .ok ticket =>
      if ticket.ownerId ≠ userId then
        pure (.error "AUTH_FORBIDDEN" "You do not own this ticket." 403)
      else if ticket.status ≠ .active then
        pure (.error "QR_INVALID"
          ("Ticket status is '" ++ ticket.status.text ++ "' — QR cannot be generated.") 400)
      else
        let generatedAt ← datetimeNow
        let qrHash : QrHash := .sha256 ticketId userId ticket.eventId ticket.venueId generatedAt
        match ← callService (.updateTicket (some ticketId)
            { qrHash := some qrHash, qrTimestamp := some generatedAt }) with
        | .error _ => pure (.error "INTERNAL_ERROR" "Could not update QR on ticket." 500)
        | .ok _ =>
            let event ← safeGet (.getEvent ticket.eventId)
            let venue ← safeGet (.getVenue ticket.venueId)
            pure (.data 200 ⟨ticketId,qrHash,generatedAt,generatedAt+qrTtl,event,venue⟩)

end TicketRemaster.Verification
