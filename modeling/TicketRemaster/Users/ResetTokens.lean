import TicketRemaster.Lib.Interleaving
import TicketRemaster.Lib.ReadCommitted
import TicketRemaster.Services.Datetime
import TicketRemaster.Services.Json
set_option autoImplicit false

/-! Password resets of user-service, one database statement at a time. The test for the expiry of a
token compares a naive instant with an aware one, so no token ever changes a password. -/

namespace TicketRemaster.UserService

open Resumption ReadCommitted

/-- A row of `users`, without its key and the columns that a reset does not touch. -/
structure User where
  email : String
  password : String
  salt : String
  deriving DecidableEq

/-- A row of `password_reset_tokens`, by its token. -/
structure ResetToken where
  userId : UserId
  expiresAt : Time
  used : Bool
  deriving DecidableEq

structure Accounts where
  users : Table UserId User
  tokens : Table String ResetToken

inductive Write where
  | used (token : String)
  | issued (token : String) (row : ResetToken)
  | password (userId : UserId) (password salt : String)

def Accounts.apply (db : Accounts) : Write → Accounts
  | .used token =>
      match db.tokens.lookup token with
      | some row => { db with tokens := db.tokens.insert token { row with used := true } }
      | none => db
  | .issued token row => { db with tokens := db.tokens.insert token row }
  | .password userId password salt =>
      match db.users.lookup userId with
      | some user => { db with
          users := db.users.insert userId { user with password := password, salt := salt } }
      | none => db

/-- What the routes ask of the database, the clock and the random generator. -/
inductive Statement where
  | selectUser (email : Json)
  | getUser (userId : UserId)
  | selectToken (token : Json)
  | invalidateTokens (userId : UserId)
  | insertToken (token : String) (row : ResetToken)
  | setPassword (userId : UserId) (password salt : Json)
  | markUsed (token : String)
  | commit
  | rollback
  | now
  | tokenUrlsafe

/-- A select answers `none`, and an update `false`, where the database raises. -/
@[reducible] def Statement.Ans : Statement → Type
  | .selectUser _ => Option (Option UserId)
  | .getUser _ => Bool
  | .selectToken _ => Option (Option (String × ResetToken))
  | .invalidateTokens _ => Unit
  | .insertToken _ _ => Bool
  | .setPassword _ _ _ => Bool
  | .markUsed _ => Unit
  | .commit => Unit
  | .rollback => Unit
  | .now => Time
  | .tokenUrlsafe => String

@[reducible] def ResetDb : Interface := ⟨Statement,Statement.Ans⟩

inductive Reply where
  | message (text : String)
  | issued (token : String) (expiresAt : Time)
  | valid (valid : Bool) (reason : Option String)

/-- An exception has no contents: all of them are answered alike. -/
abbrev Route := Prog ResetDb Unit (Except ServiceError Reply)

section Routes

def resetTokenTtl : Time := seconds (24*3600)

/-- `data[field]`, of a body that is known to contain the field. -/
def subscript (data : Json) (field : String) : Prog ResetDb Unit Json :=
  match data with
  | .obj fields => .ret (Json.get fields field)
  | _ => .raise ()

/-- `expiresAt < datetime.now(timezone.utc)`. -/
def hasExpired (row : ResetToken) : Prog ResetDb Unit Bool :=
  .call .now fun now =>
    match (Datetime.ofColumn row.expiresAt).lt (.aware now) with
    | .ok expired => .ret expired
    | .error _ => .raise ()

/-- `POST /auth/forgot-password`. -/
def forgotPassword (data : Json) : Route :=
  if ¬ data.truthy then .ret (.error (validationError "email field is required"))
  else match data.contains "email" with
    | none => .raise ()
    | some false => .ret (.error (validationError "email field is required"))
    | some true => do
        let email ← subscript data "email"
        .call (.selectUser email) fun
          | none => .raise ()
          | some none =>
              .ret (.ok (.message "If the email exists, a reset link has been sent"))
          | some (some userId) =>
              .call (.invalidateTokens userId) fun _ =>
              .call .tokenUrlsafe fun token =>
              .call .now fun now =>
              .call (.insertToken token ⟨userId,now+resetTokenTtl,false⟩) fun inserted =>
                if inserted then
                  .call .commit fun _ => .ret (.ok (.issued token (now+resetTokenTtl)))
                else .raise ()

/-- `POST /auth/reset-password`. -/
def resetPassword (data : Json) : Route :=
  if ¬ data.truthy then .ret (.error (validationError "Request body is required"))
  else match data.anyMissing ["token","newPassword","salt"] with
    | none => .raise ()
    | some true =>
        .ret (.error (validationError "token, newPassword, and salt fields are required"))
    | some false => do
        let token ← subscript data "token"
        let newPassword ← subscript data "newPassword"
        let newSalt ← subscript data "salt"
        .call (.selectToken token) fun
          | none => .raise ()
          | some none => .ret (.error ⟨400,"INVALID_TOKEN","Invalid or used reset token"⟩)
          | some (some (token,row)) => do
              if ← hasExpired row then
                .call (.markUsed token) fun _ => .call .commit fun _ =>
                  .ret (.error ⟨400,"TOKEN_EXPIRED","Reset token has expired"⟩)
              else
                .call (.getUser row.userId) fun found =>
                if found then
                  .call .now fun _ =>
                  .call (.setPassword row.userId newPassword newSalt) fun taken =>
                  if taken then
                    .call (.markUsed token) fun _ => .call .commit fun _ =>
                      .ret (.ok (.message "Password reset successful"))
                  else .raise ()
                else .ret (.error ⟨404,"USER_NOT_FOUND","User not found"⟩)

/-- `POST /auth/verify-reset-token`. -/
def verifyResetToken (data : Json) : Route :=
  if ¬ data.truthy then .ret (.error (validationError "token field is required"))
  else match data.contains "token" with
    | none => .raise ()
    | some false => .ret (.error (validationError "token field is required"))
    | some true => do
        let token ← subscript data "token"
        .call (.selectToken token) fun
          | none => .raise ()
          | some none => .ret (.ok (.valid false none))
          | some (some (_,row)) => do
              if ← hasExpired row then .ret (.ok (.valid false (some "expired")))
              else .ret (.ok (.valid true none))

inductive ResetRequest where
  | forgot (data : Json)
  | verify (data : Json)
  | reset (data : Json)

def ResetRequest.route : ResetRequest → Route
  | .forgot data => forgotPassword data
  | .verify data => verifyResetToken data
  | .reset data => resetPassword data

/-- A request: what leaves its route is answered with 500, and its session is discarded. -/
def ResetRequest.serve (r : ResetRequest) : Route := do
  let answer ← r.route.handle fun _ => .ret (.error unhandledError)
  .call .rollback fun _ => .ret answer

end Routes

/-- What text, if any, a text column is compared with; `none` where the database raises. -/
structure TextOperands where
  operand : Json → Option (Option String)

structure ResetEnv where
  time : Time
  token : String

section Server

variable (ι : Type) [DecidableEq ι] (cols : Columns) (ops : TextOperands)

abbrev ResetState := Db ι Write Accounts

/-- The unused tokens of a user that a statement of the transaction sees. -/
def openTokens (db : ResetState ι) (i : ι) (userId : UserId) : List String :=
  ((db.view Accounts.apply i).tokens.entries.filter fun e =>
    e.2.userId = userId && !e.2.used).map (·.1)

/-- A statement waits for a transaction that has written to the same row. -/
def resetReady (db : ResetState ι) (i : ι) : Statement → Bool
  | .invalidateTokens userId => !db.blocked i fun
      | .used token => token ∈ openTokens ι db i userId
      | _ => false
  | .insertToken token _ => !db.blocked i fun
      | .issued token' _ => token' = token
      | _ => false
  | .setPassword userId _ _ => !db.blocked i fun
      | .password userId' _ _ => userId' = userId
      | _ => false
  | .markUsed token => !db.blocked i fun
      | .used token' => token' = token
      | _ => false
  | _ => true

def resetServe (i : ι) (e : ResetEnv) (db : ResetState ι) :
    (q : Statement) → q.Ans × ResetState ι
  | .selectUser email =>
      ((ops.operand email).map fun text => text.bind fun s =>
        ((db.view Accounts.apply i).users.findRow fun _ u => u.email = s).map (·.1),db)
  | .getUser userId => (((db.view Accounts.apply i).users.lookup userId).isSome,db)
  | .selectToken token =>
      ((ops.operand token).map fun text => text.bind fun s =>
        (((db.view Accounts.apply i).tokens.lookup s).filter fun row => !row.used).map (s,·),db)
  | .invalidateTokens userId =>
      ((),(openTokens ι db i userId).foldl (fun db token => db.write i (.used token)) db)
  | .insertToken token row =>
      if ((db.view Accounts.apply i).tokens.lookup token).isSome then (false,db)
      else (true,db.write i (.issued token row))
  | .setPassword userId password salt =>
      match cols.text 255 password, cols.text 255 salt with
      | some password, some salt => (true,db.write i (.password userId password salt))
      | _, _ => (false,db)
  | .markUsed token => ((),db.write i (.used token))
  | .commit => ((),db.commit Accounts.apply i)
  | .rollback => ((),db.rollback i)
  | .now => (e.time,db)
  | .tokenUrlsafe => (e.token,db)

def resetServer : Server ResetDb ι ResetEnv (ResetState ι) where
  ready db i _ q := resetReady ι db i q
  serve := resetServe ι cols ops

variable {ι}

def quiet (db : Accounts) : ResetState ι := ⟨db,[]⟩

abbrev ResetRun (ι : Type) := Config ι ResetDb Unit (Except ServiceError Reply) (ResetState ι)

def startResets (db : Accounts) (requests : ι → ResetRequest) : ResetRun ι :=
  .start (quiet db) fun i => (requests i).serve

end Server

section Unchanged

def Statement.harmless : Statement → Bool
  | .setPassword _ _ _ => false
  | _ => true

def Write.harmless : Write → Bool
  | .password _ _ _ => false
  | _ => true

theorem subscript_calls {P : Statement → Prop} (data : Json) (field : String) :
    (subscript data field).Calls P (fun _ => True) := by
  unfold subscript
  split <;> trivial

theorem forgotPassword_calls (data : Json) :
    (forgotPassword data).Calls (fun q : Statement => q.harmless) (fun _ => True) := by
  unfold forgotPassword
  split
  · trivial
  split
  · trivial
  · trivial
  refine Prog.calls_bind (subscript_calls data "email") fun email => ⟨rfl,fun answer => ?_⟩
  rcases answer with _ | _ | userId
  · trivial
  · trivial
  refine ⟨rfl,fun _ => ⟨rfl,fun token => ⟨rfl,fun now => ⟨rfl,fun inserted => ?_⟩⟩⟩⟩
  cases inserted
  · trivial
  · exact ⟨rfl,fun _ => trivial⟩

theorem resetPassword_calls (data : Json) :
    (resetPassword data).Calls (fun q : Statement => q.harmless) (fun _ => True) := by
  unfold resetPassword
  split
  · trivial
  split
  · trivial
  · trivial
  refine Prog.calls_bind (subscript_calls data _) fun token => ?_
  refine Prog.calls_bind (subscript_calls data _) fun newPassword => ?_
  refine Prog.calls_bind (subscript_calls data _) fun newSalt => ⟨rfl,fun answer => ?_⟩
  rcases answer with _ | _ | ⟨token,row⟩
  · trivial
  · trivial
  · exact ⟨rfl,fun _ => trivial⟩

theorem verifyResetToken_calls (data : Json) :
    (verifyResetToken data).Calls (fun q : Statement => q.harmless) (fun _ => True) := by
  unfold verifyResetToken
  split
  · trivial
  split
  · trivial
  · trivial
  refine Prog.calls_bind (subscript_calls data _) fun token => ⟨rfl,fun answer => ?_⟩
  rcases answer with _ | _ | ⟨token,row⟩
  · trivial
  · trivial
  · exact ⟨rfl,fun _ => trivial⟩

theorem serve_calls (r : ResetRequest) :
    r.serve.Calls (fun q : Statement => q.harmless) (fun _ => True) := by
  have hroute : r.route.Calls (fun q : Statement => q.harmless) (fun _ => True) := by
    cases r with
    | forgot data => exact forgotPassword_calls data
    | verify data => exact verifyResetToken_calls data
    | reset data => exact resetPassword_calls data
  refine Prog.calls_bind (Prog.calls_handle hroute fun _ _ => trivial) fun answer => ?_
  exact ⟨rfl,fun _ => trivial⟩

variable {ι : Type} [DecidableEq ι] {cols : Columns} {ops : TextOperands}

/-- The passwords are these, and no open transaction is about to change one. -/
abbrev PasswordsKept (users : Table UserId User) : ResetState ι → Prop :=
  Db.Keeping (fun db => db.users = users) (fun w => w.harmless)

theorem apply_users {users : Table UserId User} (db : Accounts) (w : Write) (h : db.users = users)
    (hw : w.harmless) : (db.apply w).users = users := by
  cases w with
  | used token =>
    unfold Accounts.apply
    dsimp only
    split <;> exact h
  | issued token row => exact h
  | password userId password salt => cases hw

theorem resetServe_keeps {users : Table UserId User} {db : ResetState ι}
    (h : PasswordsKept users db) (i : ι) (e : ResetEnv) {q : Statement} (hq : q.harmless) :
    PasswordsKept users (resetServe ι cols ops i e db q).2 := by
  cases q with
  | setPassword userId password salt => cases hq
  | invalidateTokens userId =>
    simp only [resetServe]
    generalize openTokens ι db i userId = tokens
    induction tokens generalizing db with
    | nil => exact h
    | cons token tokens ih => exact ih (h.write rfl)
  | insertToken token row =>
    simp only [resetServe]
    split
    · exact h
    · exact h.write rfl
  | markUsed token => exact h.write rfl
  | commit => exact h.commit fun db w hdb hw => apply_users db w hdb hw
  | rollback => exact h.rollback
  | _ => exact h

theorem passwords_kept {requests : ι → ResetRequest} {db : Accounts} {c : ResetRun ι}
    (hc : Config.Reach (resetServer ι cols ops) Config.anyStep (startResets db requests) c) :
    c.shared.committed.users = db.users := by
  have hstart : (startResets db requests).Disciplined (fun _ _ (q : Statement) => q.harmless)
      (fun _ _ _ _ => True) (fun _ _ _ => True) (fun _ _ _ => True)
      (fun s _ => PasswordsKept db.users s) := by
    refine Config.disciplined_start ⟨rfl,by simp [quiet]⟩ fun i => ?_
    exact ((serve_calls (requests i)).follows (J := fun _ => True) (fun _ _ hq _ => hq)
      (fun _ _ _ _ _ => trivial) trivial).mono (fun _ _ _ => trivial) (fun _ _ _ => trivial)
  refine (hstart.reach (fun s past i e q hs _ _ hq => ⟨trivial,?_⟩) hc).1.committed
  exact resetServe_keeps hs i e hq

end Unchanged

section Alone

variable {ι : Type} [DecidableEq ι] {cols : Columns} {ops : TextOperands} {i : ι}
  {ω : List (Entry ResetDb) → ResetEnv} {db : Accounts} {fields : List (String × Json)}

/-- The body has the three fields of a reset, with this token among them. -/
structure ResetBody (ops : TextOperands) (token : String) (fields : List (String × Json)) :
    Prop where
  complete : (Json.obj fields).anyMissing ["token","newPassword","salt"] = some false
  token : ops.operand (Json.get fields "token") = some (some token)

theorem ResetBody.truthy {token : String} (h : ResetBody ops token fields) :
    (Json.obj fields).truthy := by
  cases fields with
  | nil => exact absurd h.complete (by simp [Json.anyMissing,Json.contains])
  | cons entry rest => rfl

variable (cols i ω) in
/-- A reset with an unused token raises, and has not written anything then. -/
theorem resetPassword_raises {token : String} {row : ResetToken}
    (hbody : ResetBody ops token fields) (hrow : db.tokens.lookup token = some row)
    (hunused : row.used = false) (h : List (Entry ResetDb)) :
    ∃ h', (resetPassword (.obj fields)).exec (resetServer ι cols ops) i ω h (quiet db) =
      ⟨.error (),h',quiet db⟩ := by
  unfold resetPassword
  rw [if_neg (not_not.mpr hbody.truthy),hbody.complete]
  simp only [subscript,Prog.ret_bind]
  have hview : (quiet db : ResetState ι).view Accounts.apply i = db := rfl
  have hselect : (resetServe ι cols ops i (ω h) (quiet db)
      (.selectToken (Json.get fields "token"))) = (some (some (token,row)),quiet db) := by
    simp [resetServe,hbody.token,hview,hrow,hunused,Option.filter]
  exact ⟨_,(Prog.exec_call hselect).trans rfl⟩

end Alone

/-- A reset with an unused token, by itself, is answered with 500 and changes nothing; and however
requests overlap, the passwords stay as they are, so that no token changes one twice, or after it
expired, or after a newer one came. -/
theorem resetPassword_never_works {ι : Type} [DecidableEq ι] (cols : Columns) (ops : TextOperands)
    (db : Accounts) :
    (∀ (i : ι) ω token row fields, ResetBody ops token fields →
      db.tokens.lookup token = some row → row.used = false →
      ∃ h', (ResetRequest.reset (.obj fields)).serve.exec (resetServer ι cols ops) i ω []
        (quiet db) = ⟨.ok (.error unhandledError),h',quiet db⟩) ∧
    ∀ (requests : ι → ResetRequest) c,
      Config.Reach (resetServer ι cols ops) Config.anyStep (startResets db requests) c →
        c.shared.committed.users = db.users := by
  refine ⟨fun i ω token row fields hbody hrow hunused => ?_,fun requests c => passwords_kept⟩
  obtain ⟨h',hraises⟩ := resetPassword_raises cols i ω hbody hrow hunused []
  exact ⟨_,(Prog.exec_bind_ok (Prog.exec_handle_error hraises)).trans rfl⟩

section Issued

def plainOperands : TextOperands where
  operand
    | .str s => some (some s)
    | .null => some none
    | _ => none

/-- User 1, with a token that has just been issued. -/
def issuedToken : Accounts where
  users := (∅ : Table UserId User).insert 1 ⟨"ann@example.com","old","s0"⟩
  tokens := (∅ : Table String ResetToken).insert "t1" ⟨1,resetTokenTtl,false⟩

def newPasswordBody : List (String × Json) :=
  [("token",.str "t1"),("newPassword",.str "new"),("salt",.str "s1")]

theorem newPasswordBody_resetBody : ResetBody plainOperands "t1" newPasswordBody where
  complete := by simp [newPasswordBody,Json.anyMissing,Json.contains]
  token := rfl

theorem resetPassword_never_works_issued : ∃ h',
    (ResetRequest.reset (.obj newPasswordBody)).serve.exec
      (resetServer Unit .plain plainOperands) ()
      (fun _ => ⟨seconds 3600,"t2"⟩) [] (quiet issuedToken) =
        ⟨.ok (.error unhandledError),h',quiet issuedToken⟩ :=
  (resetPassword_never_works .plain plainOperands issuedToken).1 () (fun _ => ⟨seconds 3600,"t2"⟩)
    "t1" ⟨1,resetTokenTtl,false⟩ newPasswordBody newPasswordBody_resetBody rfl rfl

theorem issuedToken_reset_fails : ∃ h',
    (ResetRequest.reset (.obj newPasswordBody)).serve.exec
      (resetServer Unit .plain plainOperands) ()
      (fun _ => ⟨0,""⟩) [] (quiet issuedToken) =
        ⟨.ok (.error unhandledError),h',quiet issuedToken⟩ :=
  ⟨_,by rfl⟩

end Issued

end TicketRemaster.UserService
