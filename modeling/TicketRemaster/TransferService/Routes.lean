import TicketRemaster.Services.Json
set_option autoImplicit false

/-! The routes of transfer-service on its own table, for request bodies of any kind. -/

namespace TicketRemaster.TransferService

/-- A row of `transfers`, without its key. -/
structure Transfer where
  listingId : String
  buyerId : String
  sellerId : String
  status : String
  creditAmount : ℚ
  buyerOtpVerified : Bool
  sellerOtpVerified : Bool
  buyerVerificationSid : Option String
  sellerVerificationSid : Option String
  completedAt : Option Time
  expiresAt : Time
  createdAt : Time
  deriving DecidableEq

abbrev Transfers := Table TransferId Transfer

/-- The answer to a request, and the table after it. -/
abbrev Answered (α : Type) := Except ServiceError α × Transfers

def transferNotFound : ServiceError := ⟨404,"TRANSFER_NOT_FOUND","Transfer not found"⟩

def requiredFields : List String := ["listingId","buyerId","sellerId","creditAmount"]

def updatableFields : List String :=
  ["status","buyerOtpVerified","sellerOtpVerified","buyerVerificationSid","sellerVerificationSid",
    "completedAt"]

def isTransferExpired (now : Time) (transfer : Transfer) : Bool := transfer.expiresAt < now

/-- The statuses that the routes take to be the last ones. -/
def closedStatuses : List String := ["completed","cancelled","expired"]

def autoExpires (now : Time) (transfer : Transfer) : Bool :=
  isTransferExpired now transfer && transfer.status ∉ closedStatuses

variable (cols : Columns)

/-- `parse_datetime`. -/
def parseDatetime : Json → Option (Option Time)
  | .null => some none
  | .str value => (cols.fromisoformat (value.replace "Z" "+00:00")).map some
  | _ => none

section Routes

variable (db : Transfers) (now : Time)

/-- `POST /transfers`; the key is the UUID that the database layer makes up. -/
def createTransfer (transferId : TransferId) (data : Json) : Answered Transfer :=
  if ¬ data.truthy then (.error (validationError "Missing required fields"),db)
  else match data.anyMissing requiredFields, data with
    | some true, _ => (.error (validationError "Missing required fields"),db)
    | some false, .obj fields =>
        let transfer : Option Transfer := do
          let listingId ← cols.text 36 (Json.get fields "listingId")
          let buyerId ← cols.text 36 (Json.get fields "buyerId")
          let sellerId ← cols.text 36 (Json.get fields "sellerId")
          let creditAmount ← cols.float (Json.get fields "creditAmount")
          let buyerSid ← cols.nullableText 64 (Json.get fields "buyerVerificationSid")
          let sellerSid ← cols.nullableText 64 (Json.get fields "sellerVerificationSid")
          pure ⟨listingId,buyerId,sellerId,"pending_seller_acceptance",creditAmount,false,false,
            buyerSid,sellerSid,none,now+seconds 86400,now⟩
        match transfer, db.lookup transferId with
        | some transfer, none => (.ok transfer,db.insert transferId transfer)
        | _, _ => (.error unhandledError,db)
    | _, _ => (.error unhandledError,db)

/-- `GET /transfers/<transfer_id>`. -/
def getTransfer (transferId : TransferId) : Answered Transfer :=
  match db.lookup transferId with
  | none => (.error transferNotFound,db)
  | some transfer =>
      if autoExpires now transfer then
        let expired := { transfer with status := "expired" }
        (.ok expired,db.insert transferId expired)
      else (.ok transfer,db)

/-- One `setattr`, as the database takes it at the commit. -/
def setField (transfer : Transfer) (entry : String × Json) : Option Transfer :=
  if entry.1 = "status" then
    (cols.text 30 entry.2).map fun v => { transfer with status := v }
  else if entry.1 = "buyerOtpVerified" then
    (cols.boolean entry.2).map fun v => { transfer with buyerOtpVerified := v }
  else if entry.1 = "sellerOtpVerified" then
    (cols.boolean entry.2).map fun v => { transfer with sellerOtpVerified := v }
  else if entry.1 = "buyerVerificationSid" then
    (cols.nullableText 64 entry.2).map fun v => { transfer with buyerVerificationSid := v }
  else if entry.1 = "sellerVerificationSid" then
    (cols.nullableText 64 entry.2).map fun v => { transfer with sellerVerificationSid := v }
  else (parseDatetime cols entry.2).map fun v => { transfer with completedAt := v }

def badCompletedAt (fields : List (String × Json)) : Bool :=
  fields.any fun entry => entry.1 = "completedAt" && (parseDatetime cols entry.2).isNone

/-- `PATCH /transfers/<transfer_id>`. -/
def patchTransfer (transferId : TransferId) (data : Json) : Answered Transfer :=
  if ¬ data.truthy then (.error (validationError "Request body is required"),db)
  else match data with
    | .obj fields =>
        if fields.any (·.1 ∉ updatableFields) then
          (.error (validationError "Request contains unsupported fields"),db)
        else match db.lookup transferId with
          | none => (.error transferNotFound,db)
          | some transfer =>
              if autoExpires now transfer then
                (.error ⟨400,"TRANSFER_EXPIRED","Transfer has expired"⟩,
                  db.insert transferId { transfer with status := "expired" })
              else if badCompletedAt cols fields then
                (.error (validationError "Invalid completedAt format"),db)
              else match fields.foldlM (setField cols) transfer with
                | some transfer => (.ok transfer,db.insert transferId transfer)
                | none => (.error unhandledError,db)
    | _ => (.error unhandledError,db)

/-- `POST /transfers/<transfer_id>/cancel`. -/
def cancelTransfer (transferId : TransferId) : Answered Transfer :=
  match db.lookup transferId with
  | none => (.error transferNotFound,db)
  | some transfer =>
      if transfer.status ∈ closedStatuses then
        (.error ⟨400,"INVALID_STATE","Cannot cancel transfer in " ++ transfer.status ++ " status"⟩,
          db)
      else
        let cancelled := { transfer with status := "cancelled" }
        (.ok cancelled,db.insert transferId cancelled)

end Routes

section Lists

variable (db : Transfers)

def newestFirst (rows : List (TransferId × Transfer)) : List (TransferId × Transfer) :=
  rows.mergeSort fun a b => decide (b.2.createdAt ≤ a.2.createdAt)

def rowsWhere (p : Transfer → Bool) : List (TransferId × Transfer) :=
  newestFirst ((db.entries.map fun e => (e.1,e.2)).filter fun row => p row.2)

/-- `GET /transfers`; an absent parameter of the query is empty. -/
def listTransfers (sellerId buyerId status : String) :
    Except ServiceError (List (TransferId × Transfer)) :=
  if sellerId = "" ∧ buyerId = "" then
    .error (validationError "buyerId or sellerId query param required")
  else .ok <| rowsWhere db fun t =>
    (sellerId ≠ "" && t.sellerId = sellerId || buyerId ≠ "" && t.buyerId = buyerId) &&
      (status = "" || t.status = status)

def pendingStatuses : List String :=
  ["pending_seller_acceptance","seller_accepted","pending_buyer_otp","buyer_otp_verified",
    "pending_seller_otp"]

/-- `GET /transfers/pending`. -/
def listPendingTransfers (userId : String) : Except ServiceError (List (TransferId × Transfer)) :=
  if userId = "" then .error (validationError "userId query param required")
  else .ok <| rowsWhere db fun t =>
    (t.buyerId = userId || t.sellerId = userId) && t.status ∈ pendingStatuses

end Lists

/-- A request, with the key that a new transfer gets. -/
inductive Request where
  | create (transferId : TransferId) (data : Json)
  | get (transferId : TransferId)
  | patch (transferId : TransferId) (data : Json)
  | cancel (transferId : TransferId)
  | list (sellerId buyerId status : String)
  | pending (userId : String)

/-- The table after a request at some instant. -/
def serve (db : Transfers) (now : Time) : Request → Transfers
  | .create i data => (createTransfer cols db now i data).2
  | .get i => (getTransfer db now i).2
  | .patch i data => (patchTransfer cols db now i data).2
  | .cancel i => (cancelTransfer db i).2
  | .list _ _ _ | .pending _ => db

def run (db : Transfers) : List (Time × Request) → Transfers
  | [] => db
  | m :: rest => run (serve cols db m.1 m.2) rest

@[simp] theorem run_append (db : Transfers) (a b : List (Time × Request)) :
    run cols db (a ++ b) = run cols (run cols db a) b := by
  induction a generalizing db with
  | nil => rfl
  | cons m a ih => exact ih _

end TicketRemaster.TransferService
