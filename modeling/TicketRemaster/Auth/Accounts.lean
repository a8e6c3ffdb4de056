import TicketRemaster.Auth.Middleware
import TicketRemaster.Services.Platform
set_option autoImplicit false

/-! The accounts: `POST /auth/register`, `/auth/verify-registration` and `/auth/login` of the auth
orchestrator, and what user-service, otp-wrapper and Redis do with their calls. -/

namespace TicketRemaster.Auth

open Resumption

/-- A row of `users`. -/
structure Account where
  email : String
  password : String
  salt : String
  phoneNumber : String
  role : String
  isFlagged : Bool
  venueId : Option String
  createdAt : Time
  deriving DecidableEq, Repr

/-- The body of `POST /users`, as the orchestrator fills it in. -/
structure NewAccount where
  email : String
  password : String
  salt : String
  role : String
  phoneNumber : String
  venueId : Option String
  deriving DecidableEq, Repr

/-- The row that is inserted. -/
def NewAccount.account (data : NewAccount) (createdAt : Time) : Account where
  email := data.email
  password := data.password
  salt := data.salt
  phoneNumber := data.phoneNumber
  role := data.role
  isFlagged := false
  venueId := data.venueId
  createdAt := createdAt

inductive AuthCall where
  | gensalt
  | createUser (data : NewAccount)
  | getUser (userId : UserId)
  | getUserByEmail (email : String)
  | createCredits (userId : UserId)
  | sendOtp (phoneNumber : String)
  | verifyOtp (sid : Sid) (otp : String) (phoneNumber : String)
  | setPendingOtp (userId : UserId) (sid : Sid)
  | getPendingOtp (userId : UserId)
  | deletePendingOtp (userId : UserId)
  | uuid4
  | now
  deriving DecidableEq

/-- A falsy `sid` counts as none, and a read of Redis answers `none` where the client raises. -/
@[reducible] def AuthCall.Ans : AuthCall → Type
  | .gensalt => String
  | .createUser _ => Reply (UserId × Account)
  | .getUser _ => Reply (UserId × Account)
  | .getUserByEmail _ => Reply (UserId × Account)
  | .createCredits _ => Reply Unit
  | .sendOtp _ => Reply (Option Sid)
  | .verifyOtp _ _ _ => Reply Bool
  | .setPendingOtp _ _ => Unit
  | .getPendingOtp _ => Option (Option Sid)
  | .deletePendingOtp _ => Unit
  | .uuid4 => Nat
  | .now => Time

@[reducible] def AuthIf : Interface := ⟨AuthCall,AuthCall.Ans⟩

/-- The exceptions are not told apart: each is answered with status 500. -/
abbrev AuthProg (α : Type) := Prog AuthIf Unit α

/-- What the code uses of bcrypt; `checkpw` raises on what is no hash. -/
structure Bcrypt where
  hashpw : String → String → String
  checkpw : String → String → Option Bool

/-- The body of a registration. -/
structure RegisterBody where
  email : Option String
  password : Option String
  phoneNumber : Option String
  role : Option String
  venueId : Option String
  deriving DecidableEq, Repr

def RegisterBody.newAccount (bcrypt : Bcrypt) (data : RegisterBody) (salt : String) :
    NewAccount where
  email := data.email.getD ""
  password := bcrypt.hashpw (data.password.getD "") salt
  salt := salt
  role := data.role.getD "user"
  phoneNumber := data.phoneNumber.getD ""
  venueId := data.venueId

/-- The claims of a token; `venueId` is left out where there is none. -/
structure TokenClaims where
  userId : UserId
  email : String
  role : String
  jti : Nat
  exp : Time
  venueId : Option String
  deriving DecidableEq, Repr

structure UserSummary where
  userId : UserId
  email : String
  role : String
  deriving DecidableEq, Repr

inductive AuthAnswer where
  | registered (user : UserSummary) (createdAt : Time)
  | signedIn (token : TokenClaims) (expiresAt : Time) (user : UserSummary)
  deriving DecidableEq

section Handlers

/-- `data.get(field)` is truthy. -/
def given (field : Option String) : Bool := field.any (· ≠ "")

def summary (user : UserId × Account) : UserSummary := ⟨user.1,user.2.email,user.2.role⟩

/-- An error that `call_service` reports. An empty code is falsy, so the code goes on without the
body it needs, and raises. -/
def refuse {α : Type} (err : String) (response : α) : AuthProg α :=
  if err = "" then .raise () else .ret response

def uuid4 : AuthProg Nat := .call .uuid4 .ret
def now : AuthProg Time := .call .now .ret

/-- `call_service`, in a form that only tells the exceptions apart from the answers. -/
def ask {α : Type} : Reply α → AuthProg (Except String α)
  | .ok a => .ret (.ok a)
  | .error code => .ret (.error code)
  | .raised => .raise ()

variable (jwtExpiryHours : Int) (bcrypt : Bcrypt)

def generateToken (user : UserId × Account) : AuthProg TokenClaims := do
  let jti ← uuid4
  let time ← now
  pure {
    userId := user.1
    email := user.2.email
    role := user.2.role
    jti := jti
    exp := time+seconds (jwtExpiryHours*3600)
    venueId := if user.2.role = "staff" then user.2.venueId.filter (· ≠ "") else none }

/-- The answer of a successful sign-in. -/
def signIn (user : UserId × Account) : AuthProg (Response AuthAnswer) := do
  let token ← generateToken jwtExpiryHours user
  let time ← now
  pure (.data 200 (.signedIn token (time+seconds (jwtExpiryHours*3600)) (summary user)))

def missingFields (data : RegisterBody) : List String :=
  (([("email",data.email),("password",data.password),("phoneNumber",data.phoneNumber)]).filter
    fun f => ! given f.2).map (·.1)

/-- The OTP is sent after the account has been created; its failures are not reported. -/
def sendRegistrationOtp (userId : UserId) (phoneNumber : String) : AuthProg Unit := do
  match ← (.call (.sendOtp phoneNumber) ask : AuthProg (Except String (Option Sid))) with
  | .ok (some sid) => .call (.setPendingOtp userId sid) .ret
  | .ok none => pure ()
  | .error _ => pure ()

def register (data : RegisterBody) : AuthProg (Response AuthAnswer) :=
  if missingFields data ≠ [] then
    pure (.error "VALIDATION_ERROR"
      ("Missing required fields: " ++ String.intercalate ", " (missingFields data)) 400)
  else
    let role := data.role.getD "user"
    if role ∉ ["user","staff","admin"] then
      pure (.error "VALIDATION_ERROR" "role must be one of: user, staff, admin." 400)
    else if role = "staff" ∧ ¬ given data.venueId then
      pure (.error "VALIDATION_ERROR" "venueId is required for staff accounts." 400)
    else do
      let salt ← (.call .gensalt .ret : AuthProg String)
      match ← (.call (.createUser (data.newAccount bcrypt salt)) ask :
        AuthProg (Except String (UserId × Account))) with
      | .error err =>
          if err = "EMAIL_ALREADY_EXISTS" then
            pure (.error "EMAIL_ALREADY_EXISTS" "Email is already registered." 409)
          else refuse err (.error err "Could not create user account." 400)
      | .ok user =>
          let _ ← (.call (.createCredits user.1) ask : AuthProg (Except String Unit))
          sendRegistrationOtp user.1 (data.phoneNumber.getD "")
          pure (.data 201 (.registered (summary user) user.2.createdAt))

/-- A `userId` that is no key of an account has no pending OTP either. -/
def verifyRegistration (userId : Option UserId) (otpCode : Option String) :
    AuthProg (Response AuthAnswer) :=
  match userId, given otpCode with
  | some userId, true => do
      match ← (.call (.getPendingOtp userId) .ret : AuthProg (Option (Option Sid))) with
      | none => pure (.error "SERVICE_UNAVAILABLE" "Verification service unavailable." 503)
      | some none =>
          pure (.error "NO_PENDING_VERIFICATION"
            "No pending verification found. Please register again." 400)
      | some (some sid) =>
          match ← (.call (.getUser userId) ask : AuthProg (Except String (UserId × Account))) with
          | .error err => refuse err (.error "USER_NOT_FOUND" "User not found." 404)
          | .ok user =>
              match ← (.call (.verifyOtp sid (otpCode.getD "") user.2.phoneNumber) ask :
                AuthProg (Except String Bool)) with
              | .error err => refuse err (.error "OTP_VERIFY_FAILED" "Could not verify OTP." 502)
              | .ok false => pure (.error "OTP_INVALID" "Invalid OTP code." 401)
              | .ok true =>
                  .call (.deletePendingOtp userId) .ret
                  signIn jwtExpiryHours user
  | _, _ => pure (.error "VALIDATION_ERROR" "userId and otpCode are required." 400)

def login (email password : Option String) : AuthProg (Response AuthAnswer) :=
  if given email ∧ given password then do
    match ← (.call (.getUserByEmail (email.getD "")) ask :
      AuthProg (Except String (UserId × Account))) with
    | .error err =>
        refuse err (.error "AUTH_INVALID_CREDENTIALS" "Invalid email or password." 401)
    | .ok user =>
        if user.2.isFlagged then
          pure (.error "AUTH_FORBIDDEN" "Account has been suspended." 403)
        else
          match bcrypt.checkpw (password.getD "") user.2.password with
          | none => .raise ()
          | some false =>
              pure (.error "AUTH_INVALID_CREDENTIALS" "Invalid email or password." 401)
          | some true => signIn jwtExpiryHours user
  else pure (.error "VALIDATION_ERROR" "email and password are required." 400)

inductive AuthRequest where
  | register (data : RegisterBody)
  | verifyRegistration (userId : Option UserId) (otpCode : Option String)
  | login (email password : Option String)
  deriving DecidableEq

def AuthRequest.handler : AuthRequest → AuthProg (Response AuthAnswer)
  | .register data => Auth.register bcrypt data
  | .verifyRegistration userId otpCode => Auth.verifyRegistration jwtExpiryHours userId otpCode
  | .login email password => Auth.login jwtExpiryHours bcrypt email password

end Handlers

section Server

/-- The accounts of user-service, and the `sid` that Redis keeps for a user, with its expiry. -/
structure AuthState where
  users : Table UserId Account
  pendingOtp : Table UserId (Sid × Time)

/-- The outside's choices at one call. -/
structure AuthEnv where
  time : Time
  uuid : Nat
  salt : String
  redisUp : Bool
  sid : Option Sid
  otpVerified : Bool
  fault : Option Fault

/-- Seconds for which the `sid` is kept. -/
def otpSidTtl : Int := 600

namespace AuthState

variable (arrives : String → Option String) (e : AuthEnv) (s : AuthState)

/-- The row with the email, of which there is at most one. -/
def byEmail (email : String) : Option (UserId × Account) :=
  s.users.findRow fun _ a => a.email = email

def createUser (data : NewAccount) : Except String (UserId × Account) × AuthState :=
  if (s.byEmail data.email).isSome then (.error "EMAIL_ALREADY_EXISTS",s)
  else if (s.users.lookup e.uuid).isSome then (.error "INTERNAL_ERROR",s)
  else (.ok (e.uuid,data.account e.time),
    { s with users := s.users.insert e.uuid (data.account e.time) })

def getUser (userId : UserId) : Except String (UserId × Account) :=
  match s.users.lookup userId with
  | some a => .ok (userId,a)
  | none => .error "USER_NOT_FOUND"

/-- An email travels in the path, where some characters have another meaning: `arrives` is what
user-service makes of it. -/
def getUserByEmail (email : String) : Except String (UserId × Account) :=
  match (arrives email).bind s.byEmail with
  | some user => .ok user
  | none => .error "USER_NOT_FOUND"

/-- A call with a fault answers with it, whether or not it took effect. -/
def answer {α : Type} (run : Except String α × AuthState) : Reply α × AuthState :=
  match e.fault with
  | some f => (World.httpFault f,if f.applied then run.2 else s)
  | none =>
      (match run.1 with
        | .ok a => .ok a
        | .error code => .error code,run.2)

def livePendingOtp (userId : UserId) : Option Sid :=
  SeatInventory.SeatDb.alive e.time (s.pendingOtp.lookup userId)

def perform : (q : AuthCall) → q.Ans × AuthState
  | .gensalt => (e.salt,s)
  | .createUser data => s.answer e (s.createUser e data)
  | .getUser userId => s.answer e (s.getUser userId,s)
  | .getUserByEmail email => s.answer e (s.getUserByEmail arrives email,s)
  | .createCredits _ => s.answer e (.ok (),s)
  | .sendOtp _ => s.answer e (.ok e.sid,s)
  | .verifyOtp _ _ _ => s.answer e (.ok e.otpVerified,s)
  | .setPendingOtp userId sid =>
      ((),if e.redisUp then { s with
          pendingOtp := s.pendingOtp.insert userId (sid,e.time+seconds otpSidTtl) }
        else s)
  | .getPendingOtp userId => (if e.redisUp then some (s.livePendingOtp e userId) else none,s)
  | .deletePendingOtp userId =>
      ((),if e.redisUp then { s with pendingOtp := s.pendingOtp.erase userId } else s)
  | .uuid4 => (e.uuid,s)
  | .now => (e.time,s)

def server (ι : Type) : Server AuthIf ι AuthEnv AuthState where
  ready _ _ _ _ := true
  serve _ e s q := s.perform arrives e q

/-- `PATCH /admin/users/<user_id>/flag` and `/unflag` of user-service. -/
def flag (userId : UserId) (isFlagged : Bool) : AuthState :=
  match s.users.lookup userId with
  | some a => { s with users := s.users.insert userId { a with isFlagged := isFlagged } }
  | none => s

/-- What an administrator does beside the requests. -/
def Flags (s s' : AuthState) : Prop := ∃ userId isFlagged, s' = s.flag userId isFlagged

end AuthState

end Server

end TicketRemaster.Auth
