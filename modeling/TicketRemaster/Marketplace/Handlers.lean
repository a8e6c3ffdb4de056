import TicketRemaster.Services.Platform
set_option autoImplicit false

/-! `POST /marketplace/list` and `DELETE /marketplace/<listing_id>`. -/

namespace TicketRemaster.Marketplace

open Resumption

structure DelistAnswer where
  listingId : ListingId
  status : ListingStatus
  deriving DecidableEq

/-- The price in the body, unless it is missing or zero; then the ticket's. -/
def listingPrice (price : Option Credits) (ticket : Ticket) : Credits :=
  match price with
  | some p => if p = 0 then ticket.price else p
  | none => ticket.price

def listTicket (userId : UserId) (ticketId : Option TicketId) (price : Option Credits) :
    Handler (Response (ListingId × Listing)) := do
  match ticketId with
  | none => pure (.error "VALIDATION_ERROR" "ticketId is required." 400)
  | some ticketId =>
      match ← callService (.getTicket ticketId) with
      | .error code =>
          if code = "TICKET_NOT_FOUND" then
            pure (.error "TICKET_NOT_FOUND" "Ticket not found." 404)
          else pure (.error "SERVICE_UNAVAILABLE" "Could not retrieve ticket." 503)
      | .ok ticket =>
          if ticket.ownerId ≠ userId then
            pure (.error "AUTH_FORBIDDEN" "You do not own this ticket." 403)
          else if ticket.status ≠ .active then
            pure (.error "TICKET_NOT_FOUND"
              ("Ticket status is '" ++ ticket.status.text ++ "' — cannot be listed.") 400)
          else
            match ← callService (.updateTicket (some ticketId) { status := some .listed }) with
            | .error _ =>
                pure (.error "SERVICE_UNAVAILABLE" "Could not update ticket status." 503)
            | .ok _ =>
                match ← callService
                    (.createListing ⟨ticketId,userId,listingPrice price ticket⟩) with
                | .error _ =>
                    let _ ← callService (.updateTicket (some ticketId) { status := some .active })
                    pure (.error "INTERNAL_ERROR" "Could not create listing." 500)
                | .ok listing => pure (.data 201 listing)

def delist (userId : UserId) (listingId : ListingId) : Handler (Response DelistAnswer) := do
  match ← callService (.getListing listingId) with
  | .error code =>
      if code = "LISTING_NOT_FOUND" then
        pure (.error "LISTING_NOT_FOUND" "Listing not found." 404)
      else pure (.error "SERVICE_UNAVAILABLE" "Could not retrieve listing." 503)
  | .ok listing =>
      if listing.sellerId ≠ userId then
        pure (.error "AUTH_FORBIDDEN" "You are not the seller of this listing." 403)
      else if listing.status ≠ .active then
        pure (.error "LISTING_NOT_FOUND" "Listing is not active." 400)
      else
        match ← callService (.updateListing listingId .cancelled) with
        | .error _ => pure (.error "SERVICE_UNAVAILABLE" "Could not cancel listing." 503)
        | .ok _ =>
            let _ ← callService (.updateTicket (some listing.ticketId) { status := some .active })
            pure (.data 200 ⟨listingId,.cancelled⟩)

end TicketRemaster.Marketplace
