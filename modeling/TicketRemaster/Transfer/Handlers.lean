import TicketRemaster.Transfer.Enrichment
import TicketRemaster.Transfer.Saga
set_option autoImplicit false

/-! The endpoints of the transfer orchestrator that change something. -/

namespace TicketRemaster.Transfer

open Resumption

structure TransferAnswer where
  enriched : Option EnrichedTransfer
  transferId : TransferId
  status : TransferStatus
  message : Option String
  deriving DecidableEq

structure SettledTransfer where
  enriched : EnrichedTransfer
  transferId : TransferId
  status : TransferStatus
  completedAt : Option Time
  ticketId : Option TicketId
  newOwnerId : UserId
  ticketStatus : TicketStatus
  deriving DecidableEq

def getCreditBalance (creditData : CreditData) : Credits :=
  (creditData.creditBalance.or (creditData.CreditBalance.or creditData.balance)).getD 0

def transferNotFound {δ : Type} : Response δ :=
  .error "TRANSFER_NOT_FOUND" "Transfer not found." 404

def buyerUnavailable {δ : Type} : Response δ :=
  .error "SERVICE_UNAVAILABLE" "Could not retrieve buyer details." 503

def sellerUnavailable {δ : Type} : Response δ :=
  .error "SERVICE_UNAVAILABLE" "Could not retrieve seller details." 503

def otpIncorrect {δ : Type} : Response δ :=
  .error "VALIDATION_ERROR" "OTP is incorrect or has expired." 400

def sendOtp (phoneNumber : Phone) : Handler (Except String Sid) :=
  callService (.sendOtp phoneNumber)

def verifyOtp (sid : Sid) (otp : Nat) (phoneNumber : Phone) : Handler (Except String Bool) :=
  callService (.verifyOtp sid otp phoneNumber)

/-- The second half of `initiate`: the record, the buyer's OTP and the notifications. -/
def openTransfer (buyerId : UserId) (listingId : ListingId) (listing : Listing) :
    Handler (Response TransferAnswer) := do
  match ← callService (.createTransfer ⟨listingId,buyerId,listing.sellerId,listing.price⟩) with
  | .error _ => pure (.error "INTERNAL_ERROR" "Could not create transfer record." 500)
  | .ok transfer =>
      match ← callService (.getUser buyerId) with
      | .error _ => pure buyerUnavailable
      | .ok buyer =>
          match ← sendOtp buyer.phoneNumber with
          | .error _ => pure (.error "SERVICE_UNAVAILABLE" "Could not send OTP to buyer." 503)
          | .ok sid =>
              let _ ← callService (.patchTransfer transfer.transferId
                { buyerVerificationSid := some sid, status := some .pendingBuyerOtp })
              publishTransferTimeout transfer.transferId listingId buyerId listing.sellerId
              broadcastTransferNotification "transfer_initiated" {
                transferId := some transfer.transferId
                buyerId := some buyerId
                sellerId := some listing.sellerId
                status := some .pendingBuyerOtp }
              let initiatedTransfer ← enrichTransfer {
                transferId := some transfer.transferId
                expiresAt := some transfer.expiresAt
                createdAt := some transfer.createdAt
                listingId := some listingId
                buyerId := some buyerId
                sellerId := some listing.sellerId
                creditAmount := some listing.price
                buyerVerificationSid := some sid
                status := some .pendingBuyerOtp }
              pure (.data 201 ⟨some initiatedTransfer,transfer.transferId,.pendingBuyerOtp,
                some "Buyer OTP sent. Verify your identity to continue the transfer."⟩)

def initiate (buyerId : UserId) (listingId : Option ListingId) :
    Handler (Response TransferAnswer) := do
  match listingId with
  | none => pure (.error "VALIDATION_ERROR" "listingId is required." 400)
  | some listingId =>
      match ← callService (.getListing listingId) with
      | .error code =>
          if code = "LISTING_NOT_FOUND" then
            pure (.error "LISTING_NOT_FOUND" "Listing not found." 404)
          else pure (.error "SERVICE_UNAVAILABLE" "Could not retrieve listing." 503)
      | .ok listing =>
          if listing.status ≠ .active then
            pure (.error "LISTING_NOT_FOUND" "Listing is no longer available." 400)
          else if listing.sellerId = buyerId then
            pure (.error "AUTH_FORBIDDEN" "You cannot purchase your own listing." 403)
          else
            match ← callService (.getCredits buyerId) with
            | .error _ => pure (.error "SERVICE_UNAVAILABLE" "Could not verify balance." 503)
            | .ok creditData =>
                if getCreditBalance creditData < listing.price then
                  pure (.error "INSUFFICIENT_CREDITS"
                    "Please top up your balance to buy this ticket." 402)
                else openTransfer buyerId listingId listing

/-- The second half of `buyer_verify`: the OTP was right, so the seller gets one. -/
def askSeller (buyerId : UserId) (transferId : TransferId) (transfer : TicketRemaster.Transfer) :
    Handler (Response TransferAnswer) := do
  let _ ← callService (.patchTransfer transferId { buyerOtpVerified := some true })
  match ← callService (.getUser transfer.sellerId) with
  | .error _ => pure sellerUnavailable
  | .ok seller =>
      match ← sendOtp seller.phoneNumber with
      | .error _ => pure (.error "SERVICE_UNAVAILABLE" "Could not send OTP to seller." 503)
      | .ok sid =>
          let _ ← callService (.patchTransfer transferId {
            buyerOtpVerified := some true
            sellerVerificationSid := some sid
            status := some .pendingSellerOtp })
          let updatedTransfer ← loadEnrichedTransfer transferId { toDict transferId transfer with
            buyerOtpVerified := some true
            sellerVerificationSid := some sid
            status := some .pendingSellerOtp }
          publishSellerNotification transferId transfer.sellerId
          broadcastTransferNotification "buyer_verified" {
            transferId := some transferId
            buyerId := some buyerId
            sellerId := some transfer.sellerId
            status := some .pendingSellerOtp }
          pure (.data 200 ⟨some updatedTransfer,transferId,.pendingSellerOtp,
            some "Buyer verified. OTP sent to seller."⟩)

def notAwaitingBuyer : Response TransferAnswer :=
  .error "VALIDATION_ERROR" "Transfer is not awaiting buyer OTP." 400

def buyerVerify (buyerId : UserId) (transferId : TransferId) (otp : Option Nat) :
    Handler (Response TransferAnswer) := do
  match otp with
  | none => pure (.error "VALIDATION_ERROR" "otp is required." 400)
  | some otp =>
      match ← callService (.getTransfer transferId) with
      | .error _ => pure transferNotFound
      | .ok transfer =>
          if transfer.buyerId ≠ buyerId then
            pure (.error "AUTH_FORBIDDEN" "Access denied." 403)
          else
            match transfer.buyerVerificationSid with
            | none => pure notAwaitingBuyer
            | some sid =>
                if transfer.status ≠ .pendingBuyerOtp ∨ transfer.buyerOtpVerified then
                  pure notAwaitingBuyer
                else
                  match ← callService (.getUser transfer.buyerId) with
                  | .error _ => pure buyerUnavailable
                  | .ok buyer =>
                      match ← verifyOtp sid otp buyer.phoneNumber with
                      | .ok true => askSeller buyerId transferId transfer
                      | _ => pure otpIncorrect

def sellerAccept (sellerId : UserId) (transferId : TransferId) :
    Handler (Response TransferAnswer) := do
  match ← callService (.getTransfer transferId) with
  | .error _ => pure transferNotFound
  | .ok transfer =>
      if transfer.sellerId ≠ sellerId then
        pure (.error "AUTH_FORBIDDEN" "You are not the seller in this transfer." 403)
      else if transfer.status ≠ .pendingSellerAcceptance then
        pure (.error "VALIDATION_ERROR" "Transfer is not awaiting seller acceptance." 400)
      else
        match ← callService (.getUser transfer.buyerId) with
        | .error _ => pure buyerUnavailable
        | .ok buyer =>
            match ← sendOtp buyer.phoneNumber with
            | .error _ => pure (.error "SERVICE_UNAVAILABLE" "Could not send OTP." 503)
            | .ok sid =>
                let _ ← callService (.patchTransfer transferId
                  { buyerVerificationSid := some sid, status := some .pendingBuyerOtp })
                let updatedTransfer ← loadEnrichedTransfer transferId
                  { toDict transferId transfer with
                    buyerVerificationSid := some sid
                    status := some .pendingBuyerOtp }
                broadcastTransferNotification "seller_accepted" {
                  transferId := some transferId
                  buyerId := some transfer.buyerId
                  sellerId := some sellerId
                  status := some .pendingBuyerOtp }
                pure (.data 200 ⟨some updatedTransfer,transferId,.pendingBuyerOtp,
                  some "Request accepted. OTP sent to buyer."⟩)

/-- Cancel a transfer and put its listing and ticket back on the market, whatever has become
of them; the common part of `seller_reject` and `cancel_transfer`. -/
def closeTransfer (transferId : TransferId) (transfer : TicketRemaster.Transfer)
    (eventType : String) : Handler Unit := do
  let _ ← callService (.patchTransfer transferId { status := some .cancelled })
  match ← callService (.getListing transfer.listingId) with
  | .error _ => pure ()
  | .ok listing =>
      let _ ← callService (.updateListing transfer.listingId .active)
      let _ ← callService (.updateTicket (some listing.ticketId) { status := some .listed })
  broadcastTransferNotification eventType {
    transferId := some transferId
    buyerId := some transfer.buyerId
    sellerId := some transfer.sellerId
    status := some .cancelled }

def sellerReject (sellerId : UserId) (transferId : TransferId) :
    Handler (Response TransferAnswer) := do
  match ← callService (.getTransfer transferId) with
  | .error _ => pure transferNotFound
  | .ok transfer =>
      if transfer.sellerId ≠ sellerId then
        pure (.error "AUTH_FORBIDDEN" "You are not the seller in this transfer." 403)
      else if transfer.status ≠ .pendingSellerAcceptance then
        pure (.error "VALIDATION_ERROR" "Transfer is not awaiting seller acceptance." 400)
      else
        closeTransfer transferId transfer "seller_rejected"
        pure (.data 200 ⟨none,transferId,.cancelled,some "Transfer rejected."⟩)

/-- The two balances, and with them the arguments of the saga. -/
def readBalances (sellerId : UserId) (transferId : TransferId) (transfer : TicketRemaster.Transfer)
    (listing : Option Listing) :
    Handler (Except (Response SettledTransfer) (TicketRemaster.Transfer × Saga)) := do
  match ← callService (.getCredits transfer.buyerId) with
  | .error _ =>
      let _ ← callService (.patchTransfer transferId { status := some .failed })
      pure (.error (.error "SERVICE_UNAVAILABLE" "Could not verify buyer balance." 503))
  | .ok buyerCredit =>
      if getCreditBalance buyerCredit < transfer.creditAmount then
        let _ ← callService (.patchTransfer transferId { status := some .failed })
        pure (.error (.error "INSUFFICIENT_CREDITS" "Buyer no longer has sufficient credits." 402))
      else
        match ← callService (.getCredits sellerId) with
        | .error _ =>
            pure (.error (.error "SERVICE_UNAVAILABLE" "Could not verify seller balance." 503))
        | .ok sellerCredit =>
            pure (.ok (transfer,{
              transferId := transferId
              buyerId := transfer.buyerId
              sellerId := sellerId
              creditAmount := transfer.creditAmount
              ticketId := listing.map (·.ticketId)
              listingId := transfer.listingId
              buyerBalance := getCreditBalance buyerCredit
              sellerBalance := getCreditBalance sellerCredit }))

/-- `seller_verify` once the OTP was right. -/
def confirmSeller (sellerId : UserId) (transferId : TransferId)
    (transfer : TicketRemaster.Transfer) :
    Handler (Except (Response SettledTransfer) (TicketRemaster.Transfer × Saga)) := do
  let _ ← callService (.patchTransfer transferId { sellerOtpVerified := some true })
  let listing ← safeGet (.getListing transfer.listingId)
  readBalances sellerId transferId transfer listing

def notAwaitingSeller : Response SettledTransfer :=
  .error "VALIDATION_ERROR" "Transfer is not awaiting seller OTP." 400

/-- `seller_verify` up to the saga: an answer without one, or the transfer and the arguments
of its saga. -/
def prepareSettlement (sellerId : UserId) (transferId : TransferId) (otp : Option Nat) :
    Handler (Except (Response SettledTransfer) (TicketRemaster.Transfer × Saga)) := do
  match otp with
  | none => pure (.error (.error "VALIDATION_ERROR" "otp is required." 400))
  | some otp =>
      match ← callService (.getTransfer transferId) with
      | .error _ => pure (.error transferNotFound)
      | .ok transfer =>
          if transfer.sellerId ≠ sellerId then
            pure (.error (.error "AUTH_FORBIDDEN" "Access denied." 403))
          else
            match transfer.sellerVerificationSid with
            | none => pure (.error notAwaitingSeller)
            | some sid =>
                if transfer.status ≠ .pendingSellerOtp ∨ transfer.sellerOtpVerified ∨
                    ¬ transfer.buyerOtpVerified then
                  pure (.error notAwaitingSeller)
                else
                  match ← callService (.getUser transfer.sellerId) with
                  | .error _ => pure (.error sellerUnavailable)
                  | .ok seller =>
                      match ← verifyOtp sid otp seller.phoneNumber with
                      | .ok true => confirmSeller sellerId transferId transfer
                      | _ => pure (.error otpIncorrect)

/-- The `try` of `seller_verify`: the saga, and the two notifications after it. -/
def runSaga (a : Saga) : Handler Unit := do
  executeSaga a
  let payload ← buildTransferNotificationPayload "transfer_completed" {
    transferId := some a.transferId
    listingId := some a.listingId
    buyerId := some a.buyerId
    sellerId := some a.sellerId
    ticketId := a.ticketId
    status := some .completed }
  broadcastNotification (.transferUpdate payload)
  broadcastNotification (.ticketUpdate ⟨a.ticketId,a.buyerId,a.sellerId,a.transferId,payload.event⟩)

/-- The answer of `seller_verify` after a successful saga. -/
def reportSettled (transfer : TicketRemaster.Transfer) (a : Saga) :
    Handler (Response SettledTransfer) := do
  let completedAt ← datetimeNow
  let updatedTransfer ← loadEnrichedTransfer a.transferId { toDict a.transferId transfer with
    buyerId := some a.buyerId
    sellerId := some a.sellerId
    ticketId := a.ticketId
    buyerOtpVerified := some true
    sellerOtpVerified := some true
    status := some .completed
    completedAt := some completedAt }
  pure (.data 200 ⟨updatedTransfer,a.transferId,.completed,updatedTransfer.transfer.completedAt,
    a.ticketId,a.buyerId,.active⟩)

def settle (transfer : TicketRemaster.Transfer) (a : Saga) :
    Handler (Response SettledTransfer) := do
  let settled ← (do runSaga a; pure true : Handler Bool).handle fun _ => pure false
  if settled then reportSettled transfer a
  else pure (.error "INTERNAL_ERROR" "Transfer failed — no credits were charged." 500)

def sellerVerify (sellerId : UserId) (transferId : TransferId) (otp : Option Nat) :
    Handler (Response SettledTransfer) := do
  match ← prepareSettlement sellerId transferId otp with
  | .error answer => pure answer
  | .ok (transfer,a) => settle transfer a

/-- Send a new OTP to a user and record it on the transfer. -/
def resendTo (userId : UserId) (transferId : TransferId) (record : Sid → TransferPatch) :
    Handler (Response String) := do
  match ← callService (.getUser userId) with
  | .error _ => pure (.error "SERVICE_UNAVAILABLE" "Could not retrieve user details." 503)
  | .ok user =>
      match ← sendOtp user.phoneNumber with
      | .error _ => pure (.error "SERVICE_UNAVAILABLE" "Could not send OTP." 503)
      | .ok sid =>
          let _ ← callService (.patchTransfer transferId (record sid))
          pure (.data 200 "OTP resent to your phone.")

def resendOtp (userId : UserId) (transferId : TransferId) : Handler (Response String) := do
  match ← callService (.getTransfer transferId) with
  | .error _ => pure transferNotFound
  | .ok transfer =>
      if userId ≠ transfer.buyerId ∧ userId ≠ transfer.sellerId then
        pure (.error "AUTH_FORBIDDEN" "Access denied." 403)
      else if transfer.status = .pendingBuyerOtp ∧ transfer.buyerId = userId then
        resendTo transfer.buyerId transferId fun sid => { buyerVerificationSid := some sid }
      else if transfer.status = .pendingSellerOtp ∧ transfer.sellerId = userId then
        resendTo transfer.sellerId transferId fun sid => { sellerVerificationSid := some sid }
      else pure (.error "VALIDATION_ERROR"
        "OTP resend is not available for the current transfer state." 400)

def cancelTransfer (userId : UserId) (transferId : TransferId) :
    Handler (Response TransferAnswer) := do
  match ← callService (.getTransfer transferId) with
  | .error _ => pure transferNotFound
  | .ok transfer =>
      if userId ≠ transfer.buyerId ∧ userId ≠ transfer.sellerId then
        pure (.error "AUTH_FORBIDDEN" "Access denied." 403)
      else if transfer.status = .completed then
        pure (.error "VALIDATION_ERROR" "Completed transfers cannot be cancelled." 400)
      else if transfer.status = .cancelled ∨ transfer.status = .failed then
        pure (.error "VALIDATION_ERROR" "Transfer has already ended." 400)
      else
        closeTransfer transferId transfer "transfer_cancelled"
        pure (.data 200 ⟨none,transferId,.cancelled,none⟩)

end TicketRemaster.Transfer
