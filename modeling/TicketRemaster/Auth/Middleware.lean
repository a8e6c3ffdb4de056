import TicketRemaster.Auth.TokenBlacklist
set_option autoImplicit false

/-! The guards of the protected routes. Every orchestrator has its own copy of the middleware, and
only that of the auth orchestrator knows of revoked tokens. -/

namespace TicketRemaster.Auth

open Doubles

inductive Orchestrator where
  | auth
  | ticketPurchase
  | transfer
  | ticketVerification
  | credit
  | event
  | marketplace
  | qr
  deriving DecidableEq, Repr

/-- The claims of a token that the middleware looks at. -/
structure Payload where
  jti : Claim
  exp : Claim
  role : Claim
  deriving DecidableEq, Repr

inductive JwtError where
  | expiredSignature
  | invalidToken
  deriving DecidableEq, Repr

/-- What the code uses of PyJWT: `jwt.decode` with the secret all orchestrators share, at some
instant, and `jwt.decode` without verification. -/
structure PyJwt where
  decode : String → Time → Except JwtError Payload
  decodeUnverified : String → Option Payload

structure Refusal where
  code : String
  message : String
  status : Nat
  deriving DecidableEq, Repr

def missingToken : Refusal :=
  ⟨"AUTH_MISSING_TOKEN","Authorization header missing or malformed.",401⟩

def JwtError.refusal : JwtError → Refusal
  | .expiredSignature => ⟨"AUTH_TOKEN_EXPIRED","Token has expired.",401⟩
  | .invalidToken => ⟨"AUTH_MISSING_TOKEN","Token is invalid.",401⟩

def tokenRevoked : Refusal :=
  ⟨"AUTH_TOKEN_REVOKED","Token has been revoked. Please login again.",401⟩

def staffRequired : Refusal := ⟨"AUTH_FORBIDDEN","Staff or admin role required.",403⟩

/-- The token of an `Authorization` header. -/
def bearerToken (header : Option String) : Option String :=
  let auth := (header.getD "").toList
  if "Bearer ".toList.isPrefixOf auth then some (String.ofList (auth.drop "Bearer ".length))
  else none

def Payload.isStaff (p : Payload) : Bool := p.role = .str "staff" || p.role = .str "admin"

/-- A request at a guard: the clock, what Redis holds, and the header. -/
structure Arrival where
  now : Time
  redis : Redis
  header : Option String

section Guards

variable (cfg : BlacklistConfig) (jwt : PyJwt)

/-- The middleware of all orchestrators but one: the token is decoded, and that is all. -/
def decodeToken (a : Arrival) : Except Refusal Payload :=
  match bearerToken a.header with
  | none => .error missingToken
  | some token => (jwt.decode token a.now).mapError JwtError.refusal

/-- The middleware of the auth orchestrator. -/
def decodeAndCheckToken (a : Arrival) : Except Refusal Payload :=
  match bearerToken a.header with
  | none => .error missingToken
  | some token =>
      match jwt.decode token a.now with
      | .error e => .error e.refusal
      | .ok payload =>
          if payload.jti.truthy && isBlacklisted cfg a.redis a.now payload.jti then
            .error tokenRevoked
          else .ok payload

/-- The payload that the route is entered with, if it is. -/
def requireAuth (a : Arrival) : Orchestrator → Except Refusal Payload
  | .auth => decodeAndCheckToken cfg jwt a
  | .ticketPurchase | .transfer | .ticketVerification | .credit | .event | .marketplace | .qr =>
      decodeToken jwt a

def requireStaff (a : Arrival) (o : Orchestrator) : Except Refusal Payload := do
  let payload ← requireAuth cfg jwt a o
  if payload.isStaff then .ok payload else .error staffRequired

/-- `revoke_token`: the token need not be valid, but must carry a `jti` and an `exp`. -/
def revokeToken (r : Redis) (now : Time) (token : String) : Bool × Redis :=
  match jwt.decodeUnverified token with
  | none => (false,r)
  | some payload =>
      if payload.jti.truthy && payload.exp.truthy then
        blacklistToken cfg r now payload.jti payload.exp
      else (false,r)

end Guards

section Agreement

variable {cfg : BlacklistConfig} {jwt : PyJwt} {a : Arrival}

/-- The guard lets the request in. -/
def Accepts (answer : Except Refusal Payload) : Prop := ∃ payload, answer = .ok payload

def Decodes (jwt : PyJwt) (a : Arrival) (payload : Payload) : Prop :=
  ∃ token, bearerToken a.header = some token ∧ jwt.decode token a.now = .ok payload

/-- The token is valid, and its `jti` is on the blacklist. -/
def Blacklisted (cfg : BlacklistConfig) (a : Arrival) (payload : Payload) : Prop :=
  payload.jti.truthy ∧ isBlacklisted cfg a.redis a.now payload.jti

theorem decodeToken_ok {payload : Payload} :
    decodeToken jwt a = .ok payload ↔ Decodes jwt a payload := by
  unfold decodeToken Decodes
  cases bearerToken a.header with
  | none => simp
  | some token => cases hd : jwt.decode token a.now <;> simp [hd,Except.mapError]

theorem decodeAndCheckToken_ok {payload : Payload} :
    decodeAndCheckToken cfg jwt a = .ok payload ↔
      Decodes jwt a payload ∧ ¬ Blacklisted cfg a payload := by
  unfold decodeAndCheckToken Decodes Blacklisted
  cases bearerToken a.header with
  | none => simp
  | some token =>
    cases hd : jwt.decode token a.now with
    | error e => simp [hd]
    | ok p =>
      simp only [Option.some.injEq,exists_eq_left',hd,Except.ok.injEq]
      split
      · rename_i hb
        simp only [reduceCtorEq,false_iff]
        rintro ⟨rfl,hno⟩
        exact hno (by simpa using hb)
      · rename_i hb
        constructor
        · rintro hp
          cases hp
          exact ⟨rfl,by simpa using hb⟩
        · rintro ⟨rfl,-⟩
          rfl

theorem requireStaff_ok {payload : Payload} {o : Orchestrator} :
    requireStaff cfg jwt a o = .ok payload ↔
      requireAuth cfg jwt a o = .ok payload ∧ payload.isStaff := by
  unfold requireStaff
  cases requireAuth cfg jwt a o with
  | error e => simp [bind,Except.bind]
  | ok p =>
    simp only [bind,Except.bind,Except.ok.injEq]
    split
    · rename_i hs
      constructor
      · rintro hp
        cases hp
        exact ⟨rfl,hs⟩
      · rintro ⟨rfl,-⟩
        rfl
    · rename_i hs
      constructor
      · rintro hp
        cases hp
      · rintro ⟨rfl,hs'⟩
        exact absurd hs' hs

/-- All copies but one let a request in whenever its token decodes. -/
theorem requireAuth_copy {o : Orchestrator} (ho : o ≠ .auth) {payload : Payload} :
    requireAuth cfg jwt a o = .ok payload ↔ Decodes jwt a payload := by
  have hcopy : requireAuth cfg jwt a o = decodeToken jwt a := by
    cases o <;> first | rfl | exact absurd rfl ho
  rw [hcopy,decodeToken_ok]

theorem Decodes.unique {p p' : Payload} (h : Decodes jwt a p) (h' : Decodes jwt a p') : p = p' := by
  obtain ⟨token,ht,hp⟩ := h
  obtain ⟨token',ht',hp'⟩ := h'
  rw [ht] at ht'
  cases ht'
  rw [hp] at hp'
  exact Except.ok.inj hp'

end Agreement

section Revocation

variable {cfg : BlacklistConfig} {jwt : PyJwt} {a : Arrival}

/-- Revocations, one after the other, each at its own time. -/
def revokeAll (cfg : BlacklistConfig) (jwt : PyJwt) (r : Redis) : List (String × Time) → Redis
  | [] => r
  | (token,t) :: rest => revokeAll cfg jwt (revokeToken cfg jwt r t token).2 rest

/-- The token of the request has been revoked with success; other revocations may have followed. -/
def RevokedEarlier (cfg : BlacklistConfig) (jwt : PyJwt) (a : Arrival) : Prop :=
  ∃ token r t later, bearerToken a.header = some token ∧ t ≤ a.now ∧
    (∀ m ∈ later, t ≤ m.2 ∧ m.2 ≤ a.now) ∧ (revokeToken cfg jwt r t token).1 = true ∧
    a.redis = revokeAll cfg jwt (revokeToken cfg jwt r t token).2 later

def NobodyAccepts (cfg : BlacklistConfig) (jwt : PyJwt) (a : Arrival) : Prop :=
  ∀ o, ¬ Accepts (requireAuth cfg jwt a o) ∧ ¬ Accepts (requireStaff cfg jwt a o)

theorem requireAuth_decodes {o : Orchestrator} {payload : Payload}
    (h : requireAuth cfg jwt a o = .ok payload) : Decodes jwt a payload := by
  by_cases ho : o = .auth
  · subst ho
    exact (decodeAndCheckToken_ok.mp h).1
  · exact (requireAuth_copy ho).mp h

theorem requireAuth_agrees_iff :
    (∀ o, Accepts (requireAuth cfg jwt a o) ↔ Accepts (requireAuth cfg jwt a .auth)) ↔
      ¬ ∃ payload, Decodes jwt a payload ∧ Blacklisted cfg a payload := by
  constructor
  · rintro hagree ⟨payload,hd,hb⟩
    have hcopy : Accepts (requireAuth cfg jwt a .ticketPurchase) :=
      ⟨payload,(requireAuth_copy (by decide)).mpr hd⟩
    obtain ⟨p,hp⟩ := (hagree .ticketPurchase).mp hcopy
    obtain ⟨hd',hno⟩ := decodeAndCheckToken_ok.mp hp
    exact hno (hd.unique hd' ▸ hb)
  · intro hno o
    constructor
    · rintro ⟨p,hp⟩
      have hd := requireAuth_decodes hp
      exact ⟨p,decodeAndCheckToken_ok.mpr ⟨hd,fun hb => hno ⟨p,hd,hb⟩⟩⟩
    · rintro ⟨p,hp⟩
      by_cases ho : o = .auth
      · exact ⟨p,ho ▸ hp⟩
      · exact ⟨p,(requireAuth_copy ho).mpr (requireAuth_decodes hp)⟩

theorem requireStaff_agrees_iff :
    (∀ o, Accepts (requireStaff cfg jwt a o) ↔ Accepts (requireStaff cfg jwt a .auth)) ↔
      ¬ ∃ payload, Decodes jwt a payload ∧ Blacklisted cfg a payload ∧ payload.isStaff := by
  constructor
  · rintro hagree ⟨payload,hd,hb,hs⟩
    have hcopy : Accepts (requireStaff cfg jwt a .ticketPurchase) :=
      ⟨payload,requireStaff_ok.mpr ⟨(requireAuth_copy (by decide)).mpr hd,hs⟩⟩
    obtain ⟨p,hp⟩ := (hagree .ticketPurchase).mp hcopy
    obtain ⟨hd',hno⟩ := decodeAndCheckToken_ok.mp (requireStaff_ok.mp hp).1
    exact hno (hd.unique hd' ▸ hb)
  · intro hno o
    constructor
    · rintro ⟨p,hp⟩
      obtain ⟨hp,hs⟩ := requireStaff_ok.mp hp
      have hd := requireAuth_decodes hp
      refine ⟨p,requireStaff_ok.mpr ⟨decodeAndCheckToken_ok.mpr ⟨hd,fun hb => ?_⟩,hs⟩⟩
      exact hno ⟨p,hd,hb,hs⟩
    · rintro ⟨p,hp⟩
      obtain ⟨hp,hs⟩ := requireStaff_ok.mp hp
      by_cases ho : o = .auth
      · exact ⟨p,requireStaff_ok.mpr ⟨ho ▸ hp,hs⟩⟩
      · exact ⟨p,requireStaff_ok.mpr ⟨(requireAuth_copy ho).mpr (requireAuth_decodes hp),hs⟩⟩

theorem nobodyAccepts_iff :
    NobodyAccepts cfg jwt a ↔ ¬ ∃ payload, Decodes jwt a payload := by
  constructor
  · rintro hnobody ⟨payload,hd⟩
    exact (hnobody .ticketPurchase).1 ⟨payload,(requireAuth_copy (by decide)).mpr hd⟩
  · intro hno o
    refine ⟨fun ⟨p,hp⟩ => hno ⟨p,requireAuth_decodes hp⟩,fun ⟨p,hp⟩ => ?_⟩
    exact hno ⟨p,requireAuth_decodes (requireStaff_ok.mp hp).1⟩

/-- The guards agree with those of the auth orchestrator exactly on the tokens that are not both
valid and on the blacklist, and a revoked token is refused everywhere exactly if it is not valid
any more. -/
theorem guards_agree_iff (cfg : BlacklistConfig) (jwt : PyJwt) (a : Arrival) :
    ((∀ o, Accepts (requireAuth cfg jwt a o) ↔ Accepts (requireAuth cfg jwt a .auth)) ↔
      ¬ ∃ payload, Decodes jwt a payload ∧ Blacklisted cfg a payload) ∧
    ((∀ o, Accepts (requireStaff cfg jwt a o) ↔ Accepts (requireStaff cfg jwt a .auth)) ↔
      ¬ ∃ payload, Decodes jwt a payload ∧ Blacklisted cfg a payload ∧ payload.isStaff) ∧
    ((RevokedEarlier cfg jwt a → NobodyAccepts cfg jwt a) ↔
      ¬ (RevokedEarlier cfg jwt a ∧ ∃ payload, Decodes jwt a payload)) := by
  refine ⟨requireAuth_agrees_iff,requireStaff_agrees_iff,?_⟩
  rw [nobodyAccepts_iff]
  exact not_and.symm

/-- What PyJWT does with a valid token: without verification it reads the same, and it has not
expired. -/
structure PyJwt.Verifies (jwt : PyJwt) : Prop where
  same (token : String) (now : Time) (p : Payload) :
    jwt.decode token now = .ok p → jwt.decodeUnverified token = some p
  unexpired (token : String) (now : Time) (p : Payload) :
    jwt.decode token now = .ok p → ¬ p.exp.passed now

theorem Claim.passed_mono {exp : Claim} {t t' : Time} (h : exp.passed t) (ht : t ≤ t') :
    exp.passed t' := by
  cases exp with
  | bool b => exact le_trans h ht
  | int n => exact le_trans h ht
  | float x text => exact Double.AtMost.mono h ht
  | null => exact h
  | str s => exact h
  | other b s => exact h

theorem blacklistTtl_lasts (hb : 0 ≤ cfg.ttlBuffer) (t : Time) (exp : Int) :
    seconds exp ≤ t+seconds (blacklistTtl cfg t exp) := by
  have harith : ∀ t exp buffer : Int, 0 ≤ buffer →
      exp*1000000 ≤
        t+(if exp-t/1000000+buffer ≤ 0 then buffer else exp-t/1000000+buffer)*1000000 := by
    intro t exp buffer hbuffer
    split <;> omega
  exact harith t exp cfg.ttlBuffer hb

/-- A key set for a token lapses only when the token has expired. -/
theorem ttlOf_lasts (hb : 0 ≤ cfg.ttlBuffer) {t : Time} {exp : Claim} {ttl : Int}
    (h : ttlOf cfg t exp = some ttl) : exp.passed (t+seconds ttl) := by
  cases exp with
  | bool b => cases h; exact blacklistTtl_lasts hb t _
  | int n => cases h; exact blacklistTtl_lasts hb t n
  | float x text =>
    have h : blacklistTtlFloat cfg t x = some ttl := h
    unfold blacklistTtlFloat at h
    split at h
    · cases h
    · rename_i buffer hbuffer
      obtain ⟨k,hk,rfl⟩ := Double.ofInt_nonneg hb hbuffer
      dsimp only at h
      split at h
      · rename_i hnonpos
        cases h
        -- The token has expired by the time it is revoked.
        have hwhole : wholeSeconds t*1000000 ≤ t := Int.ediv_mul_le t (by decide)
        have hnow : x.AtMost t 1000000 :=
          Double.sub_nonpos hwhole (Double.add_nonpos hk hnonpos)
        exact hnow.mono (le_add_of_nonneg_right (Int.mul_nonneg hb (by decide)))
      · cases h
  | null => cases h
  | str s => cases h
  | other b s => cases h

/-- The blacklist keeps the token until it has expired. -/
def Lasts (cfg : BlacklistConfig) (p : Payload) (r : Redis) : Prop :=
  r.up ∧ ∃ deadline, r.expiry.lookup (blacklistKey cfg p.jti) = some deadline ∧
    p.exp.passed deadline

theorem lasts_set {r : Redis} {t : Time} {p q : Payload} (hb : 0 ≤ cfg.ttlBuffer)
    (hsame : blacklistKey cfg q.jti = blacklistKey cfg p.jti → q.exp = p.exp)
    (hr : blacklistKey cfg q.jti = blacklistKey cfg p.jti ∨ Lasts cfg p r)
    {r' : Redis} (hset : blacklistToken cfg r t q.jti q.exp = (true,r')) : Lasts cfg p r' := by
  unfold blacklistToken at hset
  split at hset
  · rename_i hup
    split at hset
    · cases hset
    · rename_i ttl httl
      split at hset
      · rename_i r'' hsetex
        cases hset
        unfold Redis.setex at hsetex
        split at hsetex
        · cases hsetex
          refine ⟨hup,?_⟩
          by_cases hkey : blacklistKey cfg q.jti = blacklistKey cfg p.jti
          · rw [hsame hkey] at httl
            exact ⟨_,by rw [hkey,AList.lookup_insert],ttlOf_lasts hb httl⟩
          · obtain ⟨-,deadline,hl,hd⟩ := hr.resolve_left hkey
            exact ⟨deadline,by rw [AList.lookup_insert_ne (Ne.symm hkey)]; exact hl,hd⟩
        · cases hsetex
      · cases hset
  · cases hset

/-- A revocation that does not succeed changes nothing. -/
theorem revokeToken_cases (cfg : BlacklistConfig) (jwt : PyJwt) (r : Redis) (t : Time)
    (token : String) :
    revokeToken cfg jwt r t token = (false,r) ∨ ∃ q, jwt.decodeUnverified token = some q ∧
      q.jti.truthy ∧ blacklistToken cfg r t q.jti q.exp =
        (true,(revokeToken cfg jwt r t token).2) := by
  unfold revokeToken
  split
  · exact .inl rfl
  · rename_i q hq
    split
    · rename_i htruthy
      simp only [Bool.and_eq_true] at htruthy
      have hblack : ∀ x : Bool × Redis, x = blacklistToken cfg r t q.jti q.exp →
          x = (false,r) ∨ x = (true,x.2) := by
        intro x hx
        unfold blacklistToken at hx
        repeat' split at hx
        all_goals first | exact .inl hx | exact .inr (hx ▸ rfl)
      rcases hblack _ rfl with hno | hyes
      · exact .inl hno
      · exact .inr ⟨q,hq,htruthy.1,hyes⟩
    · exact .inl rfl

theorem lasts_revokeAll (hb : 0 ≤ cfg.ttlBuffer) {p : Payload} {later : List (String × Time)}
    {r : Redis} (hlater : ∀ m ∈ later, ∀ q, jwt.decodeUnverified m.1 = some q →
      blacklistKey cfg q.jti = blacklistKey cfg p.jti → q.exp = p.exp)
    (hr : Lasts cfg p r) : Lasts cfg p (revokeAll cfg jwt r later) := by
  induction later generalizing r with
  | nil => exact hr
  | cons m later ih =>
    obtain ⟨hm,hlater⟩ := List.forall_mem_cons.mp hlater
    refine ih hlater ?_
    rcases revokeToken_cases cfg jwt r m.2 m.1 with hno | ⟨q,hq,-,hset⟩
    · rw [hno]
      exact hr
    · exact lasts_set hb (hm q hq) (.inr hr) hset

/-- A successful revocation leaves the token on the blacklist until it has expired. -/
theorem revokeToken_lasts (hb : 0 ≤ cfg.ttlBuffer) {token : String} {p : Payload}
    (hp : jwt.decodeUnverified token = some p) {r : Redis} {t : Time}
    (hrev : (revokeToken cfg jwt r t token).1 = true) :
    p.jti.truthy ∧ Lasts cfg p (revokeToken cfg jwt r t token).2 := by
  rcases revokeToken_cases cfg jwt r t token with hfail | ⟨q,hq,htruthy,hset⟩
  · rw [hfail] at hrev
    cases hrev
  rw [hp] at hq
  cases hq
  exact ⟨htruthy,lasts_set hb (fun _ => rfl) (.inl rfl) hset⟩

theorem Lasts.blacklisted {p : Payload} {now : Time} {r : Redis} (h : Lasts cfg p r)
    (hgood : ¬ p.exp.passed now) : isBlacklisted cfg r now p.jti := by
  obtain ⟨hup,deadline,hl,hd⟩ := h
  have hnow : now < deadline := lt_of_not_ge fun hle => hgood (Claim.passed_mono hd hle)
  simp [isBlacklisted,Redis.holds,hup,hl,hnow]

/-- The auth orchestrator itself refuses a revoked token for good, whatever other tokens are
revoked later. -/
theorem revoked_refused_by_auth (hv : jwt.Verifies) (hb : 0 ≤ cfg.ttlBuffer) {token : String}
    {p : Payload} (htoken : bearerToken a.header = some token)
    (hp : jwt.decodeUnverified token = some p) {r : Redis} {t : Time}
    (hrev : (revokeToken cfg jwt r t token).1 = true) {later : List (String × Time)}
    (hlater : ∀ m ∈ later, ∀ q, jwt.decodeUnverified m.1 = some q →
      blacklistKey cfg q.jti = blacklistKey cfg p.jti → q.exp = p.exp)
    (hredis : a.redis = revokeAll cfg jwt (revokeToken cfg jwt r t token).2 later) :
    ¬ Accepts (requireAuth cfg jwt a .auth) := by
  rintro ⟨p',haccept⟩
  obtain ⟨⟨token',htoken',hd⟩,hno⟩ := decodeAndCheckToken_ok.mp haccept
  rw [htoken] at htoken'
  cases htoken'
  have hp' := hv.same token a.now p' hd
  rw [hp] at hp'
  cases hp'
  obtain ⟨htruthy,hlasts⟩ := revokeToken_lasts hb hp hrev
  have hkept := lasts_revokeAll hb hlater hlasts
  rw [← hredis] at hkept
  exact hno ⟨htruthy,hkept.blacklisted (hv.unexpired token a.now p hd)⟩

/-- What has become of a Redis server by `now`: it can be reached, and has kept its keys for their
full time. -/
def Redis.KeptBy (r r' : Redis) (now : Time) : Prop :=
  r'.up ∧ ∀ key, r.holds now key → r'.holds now key

/-- From its revocation on, the auth orchestrator refuses a token as revoked, expired or invalid. -/
theorem revoked_refused (hv : jwt.Verifies) (hb : 0 ≤ cfg.ttlBuffer) (token : String)
    (htoken : bearerToken a.header = some token) (r : Redis) (t : Time)
    (hrev : (revokeToken cfg jwt r t token).1 = true)
    (hkept : (revokeToken cfg jwt r t token).2.KeptBy a.redis a.now) :
    ∃ refusal, requireAuth cfg jwt a .auth = .error refusal ∧ refusal ∈
      [tokenRevoked,JwtError.refusal .expiredSignature,JwtError.refusal .invalidToken] := by
  change ∃ refusal, decodeAndCheckToken cfg jwt a = .error refusal ∧ _
  unfold decodeAndCheckToken
  rw [htoken]
  cases hd : jwt.decode token a.now with
  | error e => exact ⟨e.refusal,by simp only [hd],by cases e <;> simp⟩
  | ok p =>
    obtain ⟨htruthy,hlasts⟩ := revokeToken_lasts hb (hv.same token a.now p hd) hrev
    have hheld := hlasts.blacklisted (hv.unexpired token a.now p hd)
    have hblack : isBlacklisted cfg a.redis a.now p.jti := by
      simp only [isBlacklisted,Bool.and_eq_true] at hheld ⊢
      exact ⟨hkept.1,hkept.2 _ hheld.2⟩
    exact ⟨tokenRevoked,by simp [hd,htruthy,hblack],by simp⟩

end Revocation

section Logout

/-- One token is good, up to second 86400. -/
def oneToken : PyJwt where
  decode token now :=
    if token = "t" then
      if now < seconds 86400 then .ok ⟨.str "j",.int 86400,.str "staff"⟩
      else .error .expiredSignature
    else .error .invalidToken
  decodeUnverified token := if token = "t" then some ⟨.str "j",.int 86400,.str "staff"⟩ else none

def fiveMinutes : BlacklistConfig := ⟨"token_blacklist:",300⟩

def afterLogout : Redis := (revokeToken fiveMinutes oneToken ⟨true,∅⟩ (seconds 10) "t").2

/-- The token is revoked at second 10, and comes back ten seconds later. -/
def comesBack : Arrival := ⟨seconds 20,afterLogout,some "Bearer t"⟩

theorem comesBack_revoked : RevokedEarlier fiveMinutes oneToken comesBack := by
  refine ⟨"t",⟨true,∅⟩,seconds 10,[],by decide +kernel,by decide +kernel,by simp,?_,rfl⟩
  decide +kernel

/-- The auth orchestrator refuses the revoked token, the verification orchestrator takes it. -/
theorem revoked_token_accepted :
    ¬ (∀ o, Accepts (requireAuth fiveMinutes oneToken comesBack o) ↔
        Accepts (requireAuth fiveMinutes oneToken comesBack .auth)) ∧
      ¬ (∀ o, Accepts (requireStaff fiveMinutes oneToken comesBack o) ↔
        Accepts (requireStaff fiveMinutes oneToken comesBack .auth)) ∧
      ¬ (RevokedEarlier fiveMinutes oneToken comesBack →
        NobodyAccepts fiveMinutes oneToken comesBack) := by
  have hauth : requireAuth fiveMinutes oneToken comesBack .auth = .error tokenRevoked := by
    decide +kernel
  have hstaff : Accepts (requireStaff fiveMinutes oneToken comesBack .ticketVerification) :=
    ⟨⟨.str "j",.int 86400,.str "staff"⟩,by decide +kernel⟩
  have hcopy : Accepts (requireAuth fiveMinutes oneToken comesBack .ticketVerification) := by
    obtain ⟨p,hp⟩ := hstaff
    exact ⟨p,(requireStaff_ok.mp hp).1⟩
  have hrefused : ¬ Accepts (requireAuth fiveMinutes oneToken comesBack .auth) := by
    rintro ⟨p,hp⟩
    rw [hauth] at hp
    cases hp
  refine ⟨fun hagree => hrefused ((hagree _).mp hcopy),fun hagree => ?_,fun hrev => ?_⟩
  · obtain ⟨p,hp⟩ := (hagree .ticketVerification).mp hstaff
    exact hrefused ⟨p,(requireStaff_ok.mp hp).1⟩
  · exact (hrev comesBack_revoked .ticketVerification).1 hcopy

theorem oneToken_verifies : oneToken.Verifies where
  same token now p hp := by
    unfold oneToken at hp ⊢
    dsimp only at hp ⊢
    split at hp
    · rename_i htoken
      split at hp
      · cases hp
        rw [if_pos htoken]
      · cases hp
    · cases hp
  unexpired token now p hp := by
    unfold oneToken at hp
    dsimp only at hp
    split at hp
    · split at hp
      · rename_i hnow
        cases hp
        exact not_le_of_gt hnow
      · cases hp
    · cases hp

theorem revoked_refused_comesBack :
    ∃ refusal, requireAuth fiveMinutes oneToken comesBack .auth = .error refusal ∧ refusal ∈
      [tokenRevoked,JwtError.refusal .expiredSignature,JwtError.refusal .invalidToken] :=
  revoked_refused oneToken_verifies (by decide) "t" (by decide +kernel) ⟨true,∅⟩ (seconds 10)
    (by decide +kernel) ⟨by decide +kernel,fun _ hkey => hkey⟩

end Logout

end TicketRemaster.Auth
