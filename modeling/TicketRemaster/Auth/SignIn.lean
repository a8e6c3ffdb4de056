import TicketRemaster.Auth.Accounts
import TicketRemaster.Lib.Interleaving
set_option autoImplicit false

/-! Who gets a token: whoever knows the password of an account that is not suspended, or has the
OTP that was sent for its registration. -/

namespace TicketRemaster.Auth

open Resumption

section Accounts

variable {e : AuthEnv} {s s' : AuthState} {arrives : String → Option String}

/-- The same account, whether or not it is flagged. -/
def Account.Same (a b : Account) : Prop :=
  { a with isFlagged := false } = { b with isFlagged := false }

theorem Account.Same.refl (a : Account) : a.Same a := rfl

theorem Account.Same.trans {a b c : Account} (h : a.Same b) (h' : b.Same c) : a.Same c :=
  Eq.trans h h'

theorem Account.Same.fields {a b : Account} (h : a.Same b) : a.email = b.email ∧
    a.password = b.password ∧ a.phoneNumber = b.phoneNumber ∧ a.role = b.role ∧
      a.venueId = b.venueId := by
  simp only [Account.Same,Account.mk.injEq] at h
  tauto

/-- The user is there as it was read. -/
def Known (s : AuthState) (user : UserId × Account) : Prop :=
  ∃ a, s.users.lookup user.1 = some a ∧ user.2.Same a

/-- No account is lost or changed, but for its flag. -/
def Grows (s s' : AuthState) : Prop :=
  ∀ userId a, s.users.lookup userId = some a → Known s' (userId,a)

theorem Grows.of_users (h : s'.users = s.users) : Grows s s' := by
  intro userId a ha
  exact ⟨a,by rw [h]; exact ha,.refl a⟩

theorem Known.grow {user : UserId × Account} (h : Known s user) (hs : Grows s s') :
    Known s' user := by
  obtain ⟨a,ha,hsame⟩ := h
  obtain ⟨a',ha',hsame'⟩ := hs user.1 a ha
  exact ⟨a',ha',hsame.trans hsame'⟩

/-- No two accounts have the same email. -/
def DistinctEmails (s : AuthState) : Prop :=
  ∀ u a v b, s.users.lookup u = some a → s.users.lookup v = some b → a.email = b.email → u = v

theorem byEmail_eq_some (h : DistinctEmails s) {userId : UserId} {a : Account}
    (ha : s.users.lookup userId = some a) : s.byEmail a.email = some (userId,a) := by
  cases hf : s.byEmail a.email with
  | none =>
    have hnone : (s.users.entries.find? fun x => decide (x.2.email = a.email)) = none :=
      Option.map_eq_none_iff.mp hf
    have hno := List.find?_eq_none.mp hnone ⟨userId,a⟩ (AList.mem_lookup_iff.mp ha)
    simp at hno
  | some user =>
    have hlookup := Table.findRow_lookup hf
    have hemail : user.2.email = a.email := by simpa using Table.findRow_satisfies hf
    obtain ⟨v,b⟩ := user
    obtain rfl := h v b userId a hlookup ha hemail
    have heq : b = a := Option.some.inj (hlookup.symm.trans ha)
    rw [heq]

theorem byEmail_lookup {email : String} {user : UserId × Account}
    (h : s.byEmail email = some user) :
    s.users.lookup user.1 = some user.2 ∧ user.2.email = email :=
  ⟨Table.findRow_lookup h,by simpa using Table.findRow_satisfies h⟩

theorem answer_ok {α : Type} {run : Except String α × AuthState} {a : α}
    (h : (s.answer e run).1 = .ok a) : run.1 = .ok a := by
  unfold AuthState.answer at h
  split at h
  · simp only [World.httpFault] at h
    split at h <;> cases h
  · cases hr : run.1 with
    | ok b =>
      rw [hr] at h
      cases h
      rfl
    | error code =>
      rw [hr] at h
      cases h

theorem answer_ok_state {α : Type} {run : Except String α × AuthState} {a : α}
    (h : (s.answer e run).1 = .ok a) : (s.answer e run).2 = run.2 := by
  unfold AuthState.answer at h ⊢
  split at h
  · simp only [World.httpFault] at h
    split at h <;> cases h
  · rfl

/-- What a call can do. -/
inductive AuthStep (e : AuthEnv) (s : AuthState) : AuthCall → AuthState → Prop where
  | same (q : AuthCall) : AuthStep e s q s
  | create (data : NewAccount) (hemail : s.byEmail data.email = none)
      (huuid : s.users.lookup e.uuid = none) :
      AuthStep e s (.createUser data)
        { s with users := s.users.insert e.uuid (data.account e.time) }
  | setPending (userId : UserId) (sid : Sid) :
      AuthStep e s (.setPendingOtp userId sid)
        { s with pendingOtp := s.pendingOtp.insert userId (sid,e.time+seconds otpSidTtl) }
  | deletePending (userId : UserId) :
      AuthStep e s (.deletePendingOtp userId) { s with pendingOtp := s.pendingOtp.erase userId }

theorem answer_step {α : Type} {q : AuthCall} {run : Except String α × AuthState}
    (h : AuthStep e s q run.2) : AuthStep e s q (s.answer e run).2 := by
  unfold AuthState.answer
  split
  · split
    · exact h
    · exact .same q
  · exact h

theorem perform_step (q : AuthCall) : AuthStep e s q (s.perform arrives e q).2 := by
  cases q with
  | createUser data =>
    refine answer_step ?_
    unfold AuthState.createUser
    split
    · exact .same _
    · rename_i hemail
      split
      · exact .same _
      · rename_i huuid
        exact .create data (by simpa using hemail) (by simpa using huuid)
  | setPendingOtp userId sid =>
    simp only [AuthState.perform]
    split
    · exact .setPending userId sid
    · exact .same _
  | deletePendingOtp userId =>
    simp only [AuthState.perform]
    split
    · exact .deletePending userId
    · exact .same _
  | getUser userId => exact answer_step (.same _)
  | getUserByEmail email => exact answer_step (.same _)
  | createCredits userId => exact answer_step (.same _)
  | sendOtp phoneNumber => exact answer_step (.same _)
  | verifyOtp sid otp phoneNumber => exact answer_step (.same _)
  | _ => exact .same _

section Answers

variable (arrives)

theorem perform_getUser_ok {userId : UserId} {user : UserId × Account}
    (h : (s.perform arrives e (.getUser userId)).1 = .ok user) :
    user.1 = userId ∧ s.users.lookup user.1 = some user.2 := by
  have hrun : s.getUser userId = .ok user := answer_ok h
  unfold AuthState.getUser at hrun
  split at hrun
  · rename_i a ha
    cases hrun
    exact ⟨rfl,ha⟩
  · cases hrun

theorem perform_getUserByEmail_ok {email : String} {user : UserId × Account}
    (h : (s.perform arrives e (.getUserByEmail email)).1 = .ok user) :
    arrives email = some user.2.email ∧ s.users.lookup user.1 = some user.2 := by
  have hrun : s.getUserByEmail arrives email = .ok user := answer_ok h
  unfold AuthState.getUserByEmail at hrun
  split at hrun
  · rename_i found hfound
    cases hrun
    obtain ⟨email',harrives,hemail⟩ := Option.bind_eq_some_iff.mp hfound
    obtain ⟨hlookup,rfl⟩ := byEmail_lookup hemail
    exact ⟨harrives,hlookup⟩
  · cases hrun

theorem perform_createUser_ok {d : NewAccount} {user : UserId × Account}
    (h : (s.perform arrives e (.createUser d)).1 = .ok user) :
    user.2 = d.account e.time ∧
      (s.perform arrives e (.createUser d)).2.users.lookup user.1 = some user.2 := by
  have hrun : (s.createUser e d).1 = .ok user := answer_ok h
  have hstate : (s.perform arrives e (.createUser d)).2 = (s.createUser e d).2 := answer_ok_state h
  rw [hstate]
  unfold AuthState.createUser at hrun ⊢
  split at hrun
  · cases hrun
  · split at hrun
    · cases hrun
    · rename_i hemail huuid
      cases hrun
      rw [if_neg hemail,if_neg huuid]
      exact ⟨rfl,AList.lookup_insert _⟩

theorem perform_getPendingOtp {userId : UserId} {sid : Sid}
    (h : (s.perform arrives e (.getPendingOtp userId)).1 = some (some sid)) :
    ∃ t, s.pendingOtp.lookup userId = some (sid,t) := by
  simp only [AuthState.perform,AuthState.livePendingOtp,SeatInventory.SeatDb.alive] at h
  split at h
  · have hlive := Option.some.inj h
    split at hlive
    · rename_i a t ht
      split at hlive
      · obtain rfl := Option.some.inj hlive
        exact ⟨t,ht⟩
      · cases hlive
    · cases hlive
  · cases h

end Answers

theorem AuthStep.grows {q : AuthCall} (h : AuthStep e s q s') : Grows s s' := by
  cases h with
  | create data hemail huuid =>
    intro userId a ha
    have hne : userId ≠ e.uuid := by
      rintro rfl
      rw [huuid] at ha
      cases ha
    exact ⟨a,by rw [AList.lookup_insert_ne hne]; exact ha,.refl a⟩
  | _ => exact .of_users rfl

theorem AuthStep.users {q : AuthCall} (h : AuthStep e s q s') {userId : UserId} {a : Account}
    (ha : s'.users.lookup userId = some a) : s.users.lookup userId = some a ∨
      ∃ d : NewAccount, q = .createUser d ∧ a = d.account e.time := by
  cases h with
  | create d hemail huuid =>
    rcases Table.lookup_insert_cases ha with ⟨-,rfl⟩ | ⟨-,hold⟩
    · exact .inr ⟨d,rfl,rfl⟩
    · exact .inl hold
  | _ => exact .inl ha

/-- The `sid` that is kept for a user was there before, or has just been stored. -/
theorem AuthStep.pending {q : AuthCall} (h : AuthStep e s q s') {userId : UserId} {x : Sid × Time}
    (hx : s'.pendingOtp.lookup userId = some x) :
    s.pendingOtp.lookup userId = some x ∨ q = .setPendingOtp userId x.1 := by
  cases h with
  | setPending v sid =>
    rcases Table.lookup_insert_cases hx with ⟨rfl,rfl⟩ | ⟨-,hold⟩
    · exact .inr rfl
    · exact .inl hold
  | deletePending v =>
    by_cases hv : userId = v
    · subst hv
      simp [AList.lookup_erase] at hx
    · exact .inl (by simpa [AList.lookup_erase_ne hv] using hx)
  | _ => exact .inl hx

theorem AuthStep.distinctEmails {q : AuthCall} (h : AuthStep e s q s')
    (hs : DistinctEmails s) : DistinctEmails s' := by
  cases h with
  | create data hemail huuid =>
    have hnew {v : UserId} {b : Account} (hb : s.users.lookup v = some b) :
        b.email ≠ data.email := by
      intro heq
      rw [← heq,byEmail_eq_some hs hb] at hemail
      cases hemail
    intro u a v b ha hb heq
    rcases Table.lookup_insert_cases ha with ⟨rfl,rfl⟩ | ⟨-,ha⟩ <;>
      rcases Table.lookup_insert_cases hb with ⟨rfl,rfl⟩ | ⟨-,hb⟩
    · rfl
    · exact absurd heq.symm (hnew hb)
    · exact absurd heq (hnew ha)
    · exact hs u a v b ha hb heq
  | _ => exact hs

theorem flags_grows (h : AuthState.Flags s s') :
    Grows s s' ∧ (DistinctEmails s → DistinctEmails s') ∧ s'.pendingOtp = s.pendingOtp ∧
      ∀ userId a', s'.users.lookup userId = some a' →
        ∃ a, s.users.lookup userId = some a ∧ a.Same a' := by
  obtain ⟨v,isFlagged,rfl⟩ := h
  unfold AuthState.flag
  cases hv : s.users.lookup v with
  | none => exact ⟨.of_users rfl,id,rfl,fun userId a ha => ⟨a,ha,.refl a⟩⟩
  | some b =>
    have hback : ∀ userId a',
        (s.users.insert v { b with isFlagged := isFlagged }).lookup userId = some a' →
          ∃ a, s.users.lookup userId = some a ∧ a.Same a' := by
      intro userId a' ha'
      rcases Table.lookup_insert_cases ha' with ⟨rfl,rfl⟩ | ⟨-,hold⟩
      · exact ⟨b,hv,rfl⟩
      · exact ⟨a',hold,.refl a'⟩
    refine ⟨fun userId a ha => ?_,fun hs u a w a' ha ha' heq => ?_,rfl,hback⟩
    · by_cases hne : userId = v
      · subst hne
        obtain rfl := Option.some.inj (ha.symm.trans hv)
        exact ⟨{ a with isFlagged := isFlagged },AList.lookup_insert _,rfl⟩
      · exact ⟨a,by rw [AList.lookup_insert_ne hne]; exact ha,.refl a⟩
    · obtain ⟨a₁,ha₁,hsame⟩ := hback u a ha
      obtain ⟨a₂,ha₂,hsame'⟩ := hback w a' ha'
      exact hs u a₁ w a₂ ha₁ ha₂ (hsame.fields.1.trans (heq.trans hsame'.fields.1.symm))

end Accounts

section Discipline

variable {ι : Type} (hours : Int) (bcrypt : Bcrypt)

/-- A registration has created the account and was told the `sid` of an OTP to its phone. -/
def OtpSent (h : List (Entry AuthIf)) (data : RegisterBody) (userId : UserId) (sid : Sid) : Prop :=
  (∃ salt a, (⟨.createUser (data.newAccount bcrypt salt),.ok (userId,a)⟩ : Entry AuthIf) ∈ h) ∧
    (⟨.sendOtp (data.phoneNumber.getD ""),.ok (some sid)⟩ : Entry AuthIf) ∈ h

/-- Accounts are created, and OTPs remembered, as the registration says. -/
def AuthOk (r : AuthRequest) (h : List (Entry AuthIf)) : AuthCall → Prop
  | .createUser d => ∃ data salt, r = .register data ∧ d = data.newAccount bcrypt salt
  | .setPendingOtp userId sid => ∃ data, r = .register data ∧ OtpSent bcrypt h data userId sid
  | _ => True

/-- The claims are those of the account. -/
def TokenClaims.Of (token : TokenClaims) (user : UserId × Account) : Prop :=
  token.userId = user.1 ∧ token.email = user.2.email ∧ token.role = user.2.role ∧
    token.venueId = if user.2.role = "staff" then user.2.venueId.filter (· ≠ "") else none

theorem TokenClaims.Of.congr {token : TokenClaims} {user : UserId × Account} {a : Account}
    (h : token.Of user) (hsame : user.2.Same a) : token.Of (token.userId,a) := by
  obtain ⟨-,hemail,hrole,hvenue⟩ := h
  obtain ⟨hemail',-,-,hrole',hvenue'⟩ := hsame.fields
  exact ⟨rfl,hemail.trans hemail',hrole.trans hrole',by rw [hvenue,hrole',hvenue']⟩

/-- What a run has seen when it hands a token out. -/
def SignedIn (r : AuthRequest) (h : List (Entry AuthIf)) (token : TokenClaims) : Prop :=
  match r with
  | .register _ => False
  | .verifyRegistration userId otpCode => ∃ v sid user, userId = some v ∧
      (⟨.getPendingOtp v,some (some sid)⟩ : Entry AuthIf) ∈ h ∧
      (⟨.getUser v,.ok user⟩ : Entry AuthIf) ∈ h ∧
      (⟨.verifyOtp sid (otpCode.getD "") user.2.phoneNumber,.ok true⟩ : Entry AuthIf) ∈ h ∧
      token.Of user
  | .login email password => ∃ user,
      (⟨.getUserByEmail (email.getD ""),.ok user⟩ : Entry AuthIf) ∈ h ∧
      user.2.isFlagged = false ∧
      bcrypt.checkpw (password.getD "") user.2.password = some true ∧ token.Of user

/-- What a run has seen when it answers. -/
def Answered (r : AuthRequest) (resp : Response AuthAnswer) (h : List (Entry AuthIf)) : Prop :=
  match resp with
  | .error _ _ _ => True
  | .data _ (.signedIn token _ _) => SignedIn bcrypt r h token
  | .data _ (.registered user _) => ∃ data salt a, r = .register data ∧ missingFields data = [] ∧
      user = summary (user.userId,a) ∧
      (⟨.createUser (data.newAccount bcrypt salt),.ok (user.userId,a)⟩ : Entry AuthIf) ∈ h

abbrev AuthFollows {α : Type} (r : AuthRequest) (p : AuthProg α) (h : List (Entry AuthIf))
    (fin : α → List (Entry AuthIf) → Prop) : Prop :=
  p.Follows (AuthOk bcrypt r) (fun _ _ _ => True) fin (fun _ _ => True) h

variable {bcrypt} {r : AuthRequest} {h : List (Entry AuthIf)}

theorem ask_follows {α β : Type} {h : List (Entry AuthIf)} {reply : Reply α}
    {f : Except String α → AuthProg β} {fin : β → List (Entry AuthIf) → Prop}
    (hok : ∀ a, reply = .ok a → AuthFollows bcrypt r (f (.ok a)) h fin)
    (herr : ∀ code, AuthFollows bcrypt r (f (.error code)) h fin) :
    AuthFollows bcrypt r (ask reply >>= f) h fin := by
  cases reply with
  | ok a => exact hok a rfl
  | error code => exact herr code
  | raised => trivial

theorem refuse_follows {err code message : String} {status : Nat} :
    AuthFollows bcrypt r (refuse err (.error code message status)) h (Answered bcrypt r) := by
  unfold refuse
  split <;> trivial

theorem signIn_follows {user : UserId × Account}
    (hs : ∀ token, token.Of user → ∀ h', (∀ x ∈ h, x ∈ h') → SignedIn bcrypt r h' token) :
    AuthFollows bcrypt r (signIn hours user) h (Answered bcrypt r) := by
  refine ⟨trivial,fun jti _ => ⟨trivial,fun time _ => ⟨trivial,fun time' _ => ?_⟩⟩⟩
  refine hs _ ⟨rfl,rfl,rfl,rfl⟩ _ fun x hx => ?_
  simp [hx]

theorem login_follows (email password : Option String) :
    AuthFollows bcrypt (.login email password) (login hours bcrypt email password) h
      (Answered bcrypt (.login email password)) := by
  refine Prog.follows_ite (fun _ => ?_) (fun _ => trivial)
  refine Prog.follows_bind.mpr ⟨trivial,fun reply _ => ?_⟩
  refine Prog.follows_bind.mp (ask_follows (fun user hreply => ?_) (fun _ => refuse_follows))
  subst hreply
  refine Prog.follows_ite (fun _ => trivial) (fun hflag => ?_)
  cases hcheck : bcrypt.checkpw (password.getD "") user.2.password with
  | none => trivial
  | some ok =>
    cases ok with
    | false => trivial
    | true =>
      refine signIn_follows hours fun token hof h' hh' => ?_
      exact ⟨user,hh' _ List.mem_cons_self,by simpa using hflag,hcheck,hof⟩

theorem verifyRegistration_follows (userId : Option UserId) (otpCode : Option String) :
    AuthFollows bcrypt (.verifyRegistration userId otpCode)
      (verifyRegistration hours userId otpCode) h
      (Answered bcrypt (.verifyRegistration userId otpCode)) := by
  unfold verifyRegistration
  split
  · rename_i v _
    refine Prog.follows_bind.mpr ⟨trivial,fun pending _ => ?_⟩
    match pending with
    | none => trivial
    | some none => trivial
    | some (some sid) =>
      refine Prog.follows_bind.mpr ⟨trivial,fun reply _ => ?_⟩
      refine Prog.follows_bind.mp (ask_follows (fun user hreply => ?_) (fun _ => refuse_follows))
      subst hreply
      refine Prog.follows_bind.mpr ⟨trivial,fun verdict _ => ?_⟩
      refine Prog.follows_bind.mp (ask_follows (fun ok hverdict => ?_) (fun _ => refuse_follows))
      subst hverdict
      cases ok with
      | false => trivial
      | true =>
        refine Prog.follows_bind.mpr ⟨trivial,fun _ _ => ?_⟩
        refine signIn_follows hours fun token hof h' hh' => ?_
        exact ⟨v,sid,user,rfl,hh' _ (by simp),hh' _ (by simp),hh' _ (by simp),hof⟩
  · trivial

/-- The `sid` is stored for the account that the registration has created. -/
theorem sendRegistrationOtp_follows {data : RegisterBody} {userId : UserId} (salt : String)
    {a : Account} (hcreated : (⟨.createUser (data.newAccount bcrypt salt),.ok (userId,a)⟩ :
      Entry AuthIf) ∈ h) :
    AuthFollows bcrypt (.register data)
      (sendRegistrationOtp userId (data.phoneNumber.getD "")) h (fun _ h' => ∀ x ∈ h, x ∈ h') := by
  refine Prog.follows_bind.mpr ⟨trivial,fun reply _ => ?_⟩
  refine Prog.follows_bind.mp (ask_follows (fun sid hreply => ?_) (fun _ => ?_))
  · subst hreply
    cases sid with
    | none => exact fun x hx => List.mem_cons_of_mem _ hx
    | some sid =>
      refine ⟨⟨data,rfl,⟨salt,a,List.mem_cons_of_mem _ hcreated⟩,List.mem_cons_self⟩,?_⟩
      exact fun _ _ x hx => List.mem_cons_of_mem _ (List.mem_cons_of_mem _ hx)
  · exact fun x hx => List.mem_cons_of_mem _ hx

theorem register_follows (data : RegisterBody) :
    AuthFollows bcrypt (.register data) (register bcrypt data) h
      (Answered bcrypt (.register data)) := by
  refine Prog.follows_ite (fun _ => trivial) fun hgiven => ?_
  refine Prog.follows_ite (fun _ => trivial) fun _ => ?_
  refine Prog.follows_ite (fun _ => trivial) fun _ => ?_
  refine Prog.follows_bind.mpr ⟨trivial,fun salt _ => ?_⟩
  refine Prog.follows_bind.mpr ⟨⟨data,salt,rfl,rfl⟩,fun reply _ => ?_⟩
  refine Prog.follows_bind.mp (ask_follows (fun user hreply => ?_) fun err => ?_)
  · subst hreply
    refine Prog.follows_bind.mpr ⟨trivial,fun credits _ => ?_⟩
    have hrest : AuthFollows bcrypt (.register data) (do
        sendRegistrationOtp user.1 (data.phoneNumber.getD "")
        pure (.data 201 (.registered (summary user) user.2.createdAt)))
        (⟨.createCredits user.1,credits⟩ ::
          ⟨.createUser (data.newAccount bcrypt salt),.ok user⟩ :: ⟨.gensalt,salt⟩ :: h)
        (Answered bcrypt (.register data)) := by
      refine Prog.follows_bind.mpr ((sendRegistrationOtp_follows salt (a := user.2)
        (by simp)).mono (fun _ h' hh' => ?_) (fun _ _ _ => trivial))
      exact ⟨data,salt,user.2,rfl,not_not.mp hgiven,rfl,hh' _ (by simp [summary])⟩
    exact Prog.follows_bind.mp (ask_follows (fun _ _ => hrest) (fun _ => hrest))
  · exact Prog.follows_ite (fun _ => trivial) fun _ => refuse_follows

theorem handler_follows (r : AuthRequest) :
    AuthFollows bcrypt r (r.handler hours bcrypt) h (Answered bcrypt r) := by
  cases r with
  | register data => exact register_follows data
  | verifyRegistration userId otpCode => exact verifyRegistration_follows hours userId otpCode
  | login email password => exact login_follows hours email password

end Discipline

section Runs

variable {ι : Type} (bcrypt : Bcrypt) (arrives : String → Option String) (s₀ : AuthState)
  (requests : ι → AuthRequest)

/-- Where an account comes from: it was there at the start, or a registration has made it. -/
def Stems (userId : UserId) (a : Account) : Prop :=
  (∃ a₀, s₀.users.lookup userId = some a₀ ∧ a₀.Same a) ∨
    ∃ j data salt t, requests j = .register data ∧
      ((data.newAccount bcrypt salt).account t).Same a

/-- The OTP with this `sid` was sent for the registration of the account. -/
def Sent (past : ι → List (Entry AuthIf)) (userId : UserId) (sid : Sid) : Prop :=
  ∃ j data, requests j = .register data ∧ OtpSent bcrypt (past j) data userId sid

structure AuthSound (s : AuthState) (past : ι → List (Entry AuthIf)) : Prop where
  emails : DistinctEmails s
  stems (userId : UserId) (a : Account) : s.users.lookup userId = some a →
    Stems bcrypt s₀ requests userId a
  read (i : ι) (userId : UserId) (user : UserId × Account) :
    (⟨.getUser userId,.ok user⟩ : Entry AuthIf) ∈ past i → user.1 = userId ∧ Known s user
  found (i : ι) (email : String) (user : UserId × Account) :
    (⟨.getUserByEmail email,.ok user⟩ : Entry AuthIf) ∈ past i →
      arrives email = some user.2.email ∧ Known s user
  created (i : ι) (d : NewAccount) (user : UserId × Account) :
    (⟨.createUser d,.ok user⟩ : Entry AuthIf) ∈ past i →
      (∃ t, user.2 = d.account t) ∧ Known s user
  pending (userId : UserId) (x : Sid × Time) : s.pendingOtp.lookup userId = some x →
    Sent bcrypt requests past userId x.1
  fetched (i : ι) (userId : UserId) (sid : Sid) :
    (⟨.getPendingOtp userId,some (some sid)⟩ : Entry AuthIf) ∈ past i →
      Sent bcrypt requests past userId sid

variable {bcrypt arrives s₀ requests} {s s' : AuthState} {past : ι → List (Entry AuthIf)}

theorem Stems.congr {userId : UserId} {a b : Account} (h : Stems bcrypt s₀ requests userId a)
    (hab : a.Same b) : Stems bcrypt s₀ requests userId b := by
  rcases h with ⟨a₀,ha₀,hsame⟩ | ⟨j,data,salt,t,hj,hsame⟩
  · exact .inl ⟨a₀,ha₀,hsame.trans hab⟩
  · exact .inr ⟨j,data,salt,t,hj,hsame.trans hab⟩

/-- A change of a flag. -/
theorem AuthSound.flag (h : AuthSound bcrypt arrives s₀ requests s past)
    (hf : AuthState.Flags s s') : AuthSound bcrypt arrives s₀ requests s' past := by
  obtain ⟨hgrows,hemails,hpending,hback⟩ := flags_grows hf
  refine ⟨hemails h.emails,fun userId a' ha' => ?_,
    fun i userId user hm => (h.read i userId user hm).imp_right (·.grow hgrows),
    fun i email user hm => (h.found i email user hm).imp_right (·.grow hgrows),
    fun i d user hm => (h.created i d user hm).imp_right (·.grow hgrows),?_,h.fetched⟩
  · obtain ⟨a,ha,hsame⟩ := hback userId a' ha'
    exact (h.stems userId a ha).congr hsame
  · rw [hpending]
    exact h.pending

variable [DecidableEq ι]

theorem Sent.mono {i : ι} {x : Entry AuthIf} {userId : UserId} {sid : Sid}
    (h : Sent bcrypt requests past userId sid) :
    Sent bcrypt requests (Function.update past i (x :: past i)) userId sid := by
  obtain ⟨j,data,hj,⟨salt,a,hcreated⟩,hsent⟩ := h
  exact ⟨j,data,hj,⟨salt,a,mem_update_of_mem hcreated⟩,mem_update_of_mem hsent⟩

theorem authSound_keeps : Keeps (AuthState.server arrives ι) Config.anyStep
    (fun i => AuthOk bcrypt (requests i)) (fun _ _ _ _ => True)
    (AuthSound bcrypt arrives s₀ requests) := by
  rintro s past i e q h - - hok
  refine ⟨trivial,?_⟩
  have hstep : AuthStep e s q (s.perform arrives e q).2 := perform_step q
  have hgrows := hstep.grows
  refine ⟨hstep.distinctEmails h.emails,fun userId a ha => ?_,fun j userId user hm => ?_,
    fun j email user hm => ?_,fun j d user hm => ?_,fun userId x hx => ?_,fun j userId sid hm => ?_⟩
  · rcases hstep.users ha with hold | ⟨d,rfl,rfl⟩
    · exact h.stems userId a hold
    · obtain ⟨data,salt,hi,rfl⟩ := hok
      exact .inr ⟨i,data,salt,e.time,hi,.refl _⟩
  · rcases mem_update hm with hold | ⟨rfl,heq⟩
    · exact (h.read j userId user hold).imp_right (·.grow hgrows)
    · obtain rfl := congrArg Sigma.fst heq
      obtain ⟨hid,hlookup⟩ := perform_getUser_ok arrives (eq_of_heq (Sigma.mk.inj heq).2).symm
      exact ⟨hid,hgrows _ _ hlookup⟩
  · rcases mem_update hm with hold | ⟨rfl,heq⟩
    · exact (h.found j email user hold).imp_right (·.grow hgrows)
    · obtain rfl := congrArg Sigma.fst heq
      obtain ⟨hemail,hlookup⟩ := perform_getUserByEmail_ok arrives (eq_of_heq (Sigma.mk.inj heq).2).symm
      exact ⟨hemail,hgrows _ _ hlookup⟩
  · rcases mem_update hm with hold | ⟨rfl,heq⟩
    · exact (h.created j d user hold).imp_right (·.grow hgrows)
    · obtain rfl := congrArg Sigma.fst heq
      obtain ⟨hmade,hlookup⟩ := perform_createUser_ok arrives (eq_of_heq (Sigma.mk.inj heq).2).symm
      exact ⟨⟨e.time,hmade⟩,user.2,hlookup,.refl _⟩
  · rcases hstep.pending hx with hold | rfl
    · exact (h.pending userId x hold).mono
    · obtain ⟨data,hi,⟨salt,a,hcreated⟩,hsent⟩ := hok
      exact ⟨i,data,hi,⟨salt,a,mem_update_of_mem hcreated⟩,mem_update_of_mem hsent⟩
  · rcases mem_update hm with hold | ⟨rfl,heq⟩
    · exact (h.fetched j userId sid hold).mono
    · obtain rfl := congrArg Sigma.fst heq
      obtain ⟨t,ht⟩ := perform_getPendingOtp arrives (eq_of_heq (Sigma.mk.inj heq).2).symm
      exact (h.pending userId (sid,t) ht).mono

/-- The requests, and an administrator who flags accounts, one call at a time. -/
abbrev AuthRuns (hours : Int) (bcrypt : Bcrypt) (arrives : String → Option String)
    (s₀ : AuthState) (requests : ι → AuthRequest)
    (c : Config ι AuthIf Unit (Response AuthAnswer) AuthState) : Prop :=
  Config.Runs (AuthState.server arrives ι) Config.anyStep AuthState.Flags
    (Config.start s₀ fun i => (requests i).handler hours bcrypt) c

theorem AuthRuns.disciplined {hours : Int}
    {c : Config ι AuthIf Unit (Response AuthAnswer) AuthState}
    (hrun : AuthRuns hours bcrypt arrives s₀ requests c) (hemails : DistinctEmails s₀)
    (hpending : s₀.pendingOtp = ∅) :
    c.Disciplined (fun i => AuthOk bcrypt (requests i)) (fun _ _ _ _ => True)
      (fun i => Answered bcrypt (requests i)) (fun _ _ _ => True)
      (AuthSound bcrypt arrives s₀ requests) := by
  have hstart : AuthSound bcrypt arrives s₀ requests s₀ (fun _ => []) :=
    ⟨hemails,fun userId a ha => .inl ⟨a,ha,.refl a⟩,by simp,by simp,by simp,
      fun userId x hx => (by rw [hpending] at hx; cases hx),by simp⟩
  refine (Config.disciplined_start hstart fun i => handler_follows hours (requests i)).runs
    authSound_keeps (fun s s' past hf h => h.flag hf) hrun

/-- How the token was earned: with the password of an account that was not suspended, or with an OTP
that the gateway accepted, and that had been sent to the phone of the account when it was
registered. -/
def Earned (bcrypt : Bcrypt) (arrives : String → Option String) (requests : ι → AuthRequest)
    (past : ι → List (Entry AuthIf)) (i : ι) (userId : UserId) (a : Account) : Prop :=
  match requests i with
  | .register _ => False
  | .login email password => arrives (email.getD "") = some a.email ∧
      bcrypt.checkpw (password.getD "") a.password = some true ∧
      ∃ b, b.Same a ∧ b.isFlagged = false ∧
        (⟨.getUserByEmail (email.getD ""),.ok (userId,b)⟩ : Entry AuthIf) ∈ past i
  | .verifyRegistration v otpCode => v = some userId ∧
      ∃ sid j data, (⟨.verifyOtp sid (otpCode.getD "") a.phoneNumber,.ok true⟩ :
        Entry AuthIf) ∈ past i ∧ requests j = .register data ∧
        (⟨.sendOtp a.phoneNumber,.ok (some sid)⟩ : Entry AuthIf) ∈ past j ∧
        ∃ salt t, ((data.newAccount bcrypt salt).account t).Same a

/-- Every token that is handed out has been earned, and carries the claims of an account that was
there from the start or comes from a registration. -/
theorem tokens_earned (hours : Int) (bcrypt : Bcrypt) (arrives : String → Option String)
    (s₀ : AuthState) (hemails : DistinctEmails s₀) (hpending : s₀.pendingOtp = ∅)
    (requests : ι → AuthRequest) (c : Config ι AuthIf Unit (Response AuthAnswer) AuthState)
    (hrun : AuthRuns hours bcrypt arrives s₀ requests c) (i : ι) (status : Nat)
    (token : TokenClaims) (expiresAt : Time) (user : UserSummary)
    (hi : c.result i = some (.data status (.signedIn token expiresAt user))) :
    ∃ a, c.shared.users.lookup token.userId = some a ∧
      Stems bcrypt s₀ requests token.userId a ∧ token.Of (token.userId,a) ∧
      Earned bcrypt arrives requests c.past i token.userId a := by
  have hc := hrun.disciplined hemails hpending
  have hs := hc.1
  have hanswer : SignedIn bcrypt (requests i) (c.past i) token := hc.result hi
  unfold SignedIn at hanswer
  unfold Earned
  split at hanswer
  · exact hanswer.elim
  · rename_i r v otpCode hr
    obtain ⟨userId,sid,u,rfl,hfetched,hread,hverified,hof⟩ := hanswer
    obtain ⟨hid,a,ha,hsame⟩ := hs.read i userId u hread
    obtain ⟨j,data,hj,⟨salt,b,hcreated⟩,hsent⟩ := hs.fetched i userId sid hfetched
    obtain ⟨⟨t,hmade⟩,a',ha',hsame'⟩ := hs.created j _ _ hcreated
    have huser : token.userId = userId := hof.1.trans hid
    have haa' : a' = a := Option.some.inj (ha'.symm.trans (hid ▸ ha))
    have hbsame : ((data.newAccount bcrypt salt).account t).Same a := by
      rw [← hmade,← haa']
      exact hsame'
    have hphone : data.phoneNumber.getD "" = a.phoneNumber := hbsame.fields.2.2.1
    rw [hr]
    refine ⟨a,by rw [huser,← hid]; exact ha,?_,hof.congr hsame,by rw [huser],
      sid,j,data,?_,hj,by rw [← hphone]; exact hsent,salt,t,hbsame⟩
    · rw [huser,← hid]
      exact hs.stems u.1 a ha
    · rw [← hsame.fields.2.2.1]
      exact hverified
  · rename_i r email password hr
    obtain ⟨u,hfound,hflag,hcheck,hof⟩ := hanswer
    obtain ⟨harrives,a,ha,hsame⟩ := hs.found i _ u hfound
    rw [hr,hof.1]
    refine ⟨a,ha,hs.stems u.1 a ha,?_,?_,?_,u.2,hsame,hflag,hfound⟩
    · exact hof.1 ▸ hof.congr hsame
    · rw [← hsame.fields.1]
      exact harrives
    · rw [← hsame.fields.2.1]
      exact hcheck

end Runs

section RoundTrip

/-- What the code uses of `jwt.encode`, and the text of a UUID. -/
structure Signer extends PyJwt where
  encode : TokenClaims → String
  uuidText : Nat → String

/-- The claims as the guards see them; `exp` is written in whole seconds. -/
def Signer.payload (jwt : Signer) (token : TokenClaims) : Payload :=
  ⟨.str (jwt.uuidText token.jti),.int (wholeSeconds token.exp),.str token.role⟩

/-- A token that was signed decodes to its claims until its last whole second. -/
def Signer.RoundTrips (jwt : Signer) : Prop :=
  ∀ token now, now < seconds (wholeSeconds token.exp) →
    jwt.decode (jwt.encode token) now = .ok (jwt.payload token)

theorem bearerToken_bearer (token : String) : bearerToken (some ("Bearer " ++ token)) = some token := by
  unfold bearerToken
  simp only [Option.getD_some,String.toList_append]
  rw [if_pos (by simp)]
  exact congrArg some String.ofList_toList

/-- Every guard lets the holder of a token in, and the guards for staff by its role. -/
theorem token_admitted {jwt : Signer} (hjwt : jwt.RoundTrips) (cfg : BlacklistConfig)
    {token : TokenClaims} {a : Arrival} (hheader : a.header = some ("Bearer " ++ jwt.encode token))
    (hnow : a.now < seconds (wholeSeconds token.exp))
    (hlisted : ¬ isBlacklisted cfg a.redis a.now (.str (jwt.uuidText token.jti)))
    (o : Orchestrator) :
    requireAuth cfg jwt.toPyJwt a o = .ok (jwt.payload token) ∧
      (Accepts (requireStaff cfg jwt.toPyJwt a o) ↔
        token.role = "staff" ∨ token.role = "admin") := by
  have hdecodes : Decodes jwt.toPyJwt a (jwt.payload token) :=
    ⟨jwt.encode token,by rw [hheader]; exact bearerToken_bearer _,hjwt token a.now hnow⟩
  have hauth : requireAuth cfg jwt.toPyJwt a o = .ok (jwt.payload token) := by
    by_cases ho : o = .auth
    · subst ho
      exact decodeAndCheckToken_ok.mpr ⟨hdecodes,fun hb => hlisted hb.2⟩
    · exact (requireAuth_copy ho).mpr hdecodes
  refine ⟨hauth,⟨fun hstaff => ?_,fun hrole => ?_⟩⟩
  · obtain ⟨payload,hp⟩ := hstaff
    obtain ⟨hp',hs⟩ := requireStaff_ok.mp hp
    obtain rfl : jwt.payload token = payload := Except.ok.inj (hauth.symm.trans hp')
    simpa [Payload.isStaff,Signer.payload] using hs
  · exact ⟨jwt.payload token,requireStaff_ok.mpr
      ⟨hauth,by simpa [Payload.isStaff,Signer.payload] using hrole⟩⟩

variable {s : AuthState} {arrives : String → Option String} {bcrypt : Bcrypt}

theorem missingFields_given {data : RegisterBody} (h : missingFields data = []) {email : String}
    (hemail : data.email = some email) :
    ∃ password, data.password = some password ∧ email ≠ "" ∧ password ≠ "" := by
  simp only [missingFields,List.map_eq_nil_iff,List.filter_eq_nil_iff,List.mem_cons,
    List.not_mem_nil,or_false,forall_eq_or_imp,forall_eq,Bool.not_eq_true',
    Bool.not_eq_false] at h
  obtain ⟨hgiven,hgiven',-⟩ := h
  obtain ⟨password,hpassword,hne⟩ := (Option.any_eq_true _ _).mp hgiven'
  rw [hemail] at hgiven
  exact ⟨password,hpassword,by simpa [given] using hgiven,by simpa using hne⟩

/-- A login with the right password, when all calls go through. -/
theorem login_exec (hours : Int) {email password : String} (hemail : email ≠ "")
    (hpassword : password ≠ "")
    {user : UserId × Account} (hfound : s.getUserByEmail arrives email = .ok user)
    (hcheck : bcrypt.checkpw password user.2.password = some true)
    (ω : List (Entry AuthIf) → AuthEnv) (hω : ∀ h, (ω h).fault = none) :
    if user.2.isFlagged then
      ((login hours bcrypt (some email) (some password)).exec (AuthState.server arrives Unit) () ω
        [] s).result = .ok (.error "AUTH_FORBIDDEN" "Account has been suspended." 403)
    else ∃ token expiresAt, ((login hours bcrypt (some email) (some password)).exec
        (AuthState.server arrives Unit) () ω [] s).result =
          .ok (.data 200 (.signedIn token expiresAt (summary user))) ∧ token.Of user ∧
      ∃ h, token.exp = (ω h).time+seconds (hours*3600) := by
  have hserve : (AuthState.server arrives Unit).serve () (ω []) s (.getUserByEmail email) =
      (.ok user,s) := by
    simp [AuthState.server,AuthState.perform,AuthState.answer,hω,hfound]
  have hgiven : given (some email) ∧ given (some password) := by
    simp [given,hemail,hpassword]
  cases hflag : user.2.isFlagged with
  | true =>
    rw [if_pos rfl]
    unfold login
    rw [if_pos hgiven,Option.getD_some,Prog.exec_bind_call hserve]
    simp [ask,hflag,Prog.exec]
  | false =>
    rw [if_neg (by decide)]
    unfold login
    rw [if_pos hgiven,Option.getD_some,Prog.exec_bind_call hserve]
    simp only [ask,Prog.ret_bind,hflag,Option.getD_some,hcheck]
    exact ⟨_,_,rfl,⟨rfl,rfl,rfl,rfl⟩,_,rfl⟩

end RoundTrip

section Example

/-- A hash that begins with the password. -/
def openBcrypt : Bcrypt where
  hashpw password salt := password ++ "$" ++ salt
  checkpw password hash := some ((password ++ "$").toList.isPrefixOf hash.toList)

theorem openBcrypt_checks (password salt : String) :
    openBcrypt.checkpw password (openBcrypt.hashpw password salt) = some true := by
  simp [openBcrypt,String.toList_append]

/-- A signer that writes the claims out: the `jti` and the expiry in unary, then the role. -/
def claimsText (token : TokenClaims) : List Char :=
  List.replicate token.jti 'j' ++ '|' ::
    (List.replicate (wholeSeconds token.exp).toNat '+' ++
      (List.replicate (-wholeSeconds token.exp).toNat '-' ++ '|' :: token.role.toList))

def inField (c : Char) : Bool := c ≠ '|'

def expiryOf (text : List Char) : Int := text.count '+'-text.count '-'

def readClaims (text : List Char) : Payload :=
  let rest := (text.dropWhile inField).drop 1
  ⟨.str (String.ofList (text.takeWhile inField)),.int (expiryOf (rest.takeWhile inField)),
    .str (String.ofList ((rest.dropWhile inField).drop 1))⟩

def openSigner : Signer where
  encode token := String.ofList (claimsText token)
  uuidText n := String.ofList (List.replicate n 'j')
  decode text now :=
    let rest := (text.toList.dropWhile inField).drop 1
    if now < seconds (expiryOf (rest.takeWhile inField)) then .ok (readClaims text.toList)
    else .error .expiredSignature
  decodeUnverified text := some (readClaims text.toList)

theorem split_bar {l : List Char} (rest : List Char) (hl : ∀ c ∈ l, inField c) :
    (l ++ '|' :: rest).takeWhile inField = l ∧
      ((l ++ '|' :: rest).dropWhile inField).drop 1 = rest := by
  have hbar : inField '|' = false := rfl
  induction l with
  | nil => simp [hbar]
  | cons c l ih =>
    obtain ⟨htake,hdrop⟩ := ih fun d hd => hl d (List.mem_cons_of_mem _ hd)
    simpa [hl c List.mem_cons_self,htake] using hdrop

theorem claimsText_fields (token : TokenClaims) :
    let rest := ((claimsText token).dropWhile inField).drop 1
    (claimsText token).takeWhile inField = List.replicate token.jti 'j' ∧
      expiryOf (rest.takeWhile inField) = wholeSeconds token.exp ∧
      (rest.dropWhile inField).drop 1 = token.role.toList := by
  obtain ⟨hjti,hrest⟩ := split_bar (l := List.replicate token.jti 'j')
    (List.replicate (wholeSeconds token.exp).toNat '+' ++
      (List.replicate (-wholeSeconds token.exp).toNat '-' ++ '|' :: token.role.toList))
    (fun c hc => by rw [List.eq_of_mem_replicate hc]; rfl)
  obtain ⟨hexp,hrole⟩ := split_bar (l := List.replicate (wholeSeconds token.exp).toNat '+' ++
      List.replicate (-wholeSeconds token.exp).toNat '-') token.role.toList
    (fun c hc => by
      rcases List.mem_append.mp hc with h | h <;> rw [List.eq_of_mem_replicate h] <;> rfl)
  rw [List.append_assoc] at hexp hrole
  simp only [claimsText,hjti,hrest,hexp,hrole,true_and,and_true]
  have hplus : ('-' == '+') = false := rfl
  have hminus : ('+' == '-') = false := rfl
  simp only [expiryOf,List.count_append,List.count_replicate,hplus,hminus,beq_self_eq_true,if_true,
    Bool.false_eq_true,if_false]
  omega

theorem openSigner_roundTrips : openSigner.RoundTrips := by
  intro token now hnow
  obtain ⟨hjti,hexp,hrole⟩ := claimsText_fields token
  simp only [openSigner,String.toList_ofList,hexp,if_pos hnow,readClaims,hjti,hrole,
    Signer.payload,String.ofList_toList]

def registration : RegisterBody := ⟨some "a@b.c",some "pw",some "91234567",some "staff",some "v"⟩

def noAccounts : AuthState := ⟨∅,∅⟩

theorem noAccounts_distinct : DistinctEmails noAccounts := by
  intro u a v b ha
  cases ha

/-- One client registers an account of the staff, and another then logs in with its password. -/
def signUpAndIn (second : Bool) : AuthRequest :=
  if second then .login (some "a@b.c") (some "pw") else .register registration

def drawing (n : Nat) : AuthEnv := ⟨seconds n,n,"salt",true,some 7,true,none⟩

def signedUpAndIn : Config Bool AuthIf Unit (Response AuthAnswer) AuthState :=
  (Config.start noAccounts fun b => (signUpAndIn b).handler 24 openBcrypt).schedule
    (AuthState.server some Bool) (fun _ _ _ _ _ => true)
    (((List.range 5).map fun n => (false,drawing n)) ++
      ((List.range 4).map fun n => (true,drawing (10+n))))

theorem signedUpAndIn_runs :
    AuthRuns 24 openBcrypt some noAccounts signUpAndIn signedUpAndIn :=
  Relation.ReflTransGen.mono (fun _ _ h => .inl h) _ _
    (Config.reach_schedule (fun _ _ _ _ _ _ => trivial) _ _)

theorem tokens_earned_signedUpAndIn :
    ∃ a, signedUpAndIn.shared.users.lookup 1 = some a ∧
      Stems openBcrypt noAccounts signUpAndIn 1 a ∧
      TokenClaims.Of ⟨1,"a@b.c","staff",11,seconds (12+24*3600),some "v"⟩ (1,a) ∧
      Earned openBcrypt some signUpAndIn signedUpAndIn.past true 1 a :=
  tokens_earned 24 openBcrypt some noAccounts noAccounts_distinct rfl signUpAndIn signedUpAndIn
    signedUpAndIn_runs true 200 ⟨1,"a@b.c","staff",11,seconds (12+24*3600),some "v"⟩
    (seconds (13+24*3600)) ⟨1,"a@b.c","staff"⟩ (by decide +kernel)

end Example

end TicketRemaster.Auth
