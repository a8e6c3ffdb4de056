import TicketRemaster.Lib.SlidingWindow
import TicketRemaster.OtpWrapper.RateLimit
set_option autoImplicit false

/-! How many wrong codes a phone number can have tried: the counter bounds them as long as every
wrong code is counted, and no request checks the counter while another one is still to be
counted. -/

namespace TicketRemaster.OtpWrapper

open Resumption SeatInventory SlidingWindow

/-- How far a request has come: it is let through with `n` attempts to stay below, SMU answers,
and the answer is written to Redis. -/
inductive Phase where
  | checking
  | cleared
  | answered (verified : Bool)
  | done
  deriving DecidableEq, Repr

namespace Phase

def after (n : Nat) : Phase → (q : OtpCall) → q.Ans → Phase
  | .checking, .redis (.get (.rate _)), some attempts =>
      if attempts.getD 0 < n then .cleared else .done
  | .cleared, .smuVerify _ _, .badRequest => .answered false
  | .cleared, .smuVerify _ _, .failed _ => .done
  | .cleared, .smuVerify _ _, .payload p => if p.flag = some true then .answered true else .done
  | .answered _, .redis (.incrExpire _ _), some _ => .done
  | .answered _, .redis (.delete _), some _ => .done
  | ph, _, _ => ph

/-- Let through, and the outcome not yet written to Redis. -/
def pending : Phase → Bool
  | .cleared => true
  | .answered _ => true
  | _ => false

end Phase

def phase (n : Nat) : List (Entry OtpApi) → Phase
  | [] => .checking
  | entry :: h => (phase n h).after n entry.1 entry.2

@[simp] theorem phase_nil {n : Nat} : phase n [] = .checking := rfl

@[simp] theorem phase_cons {n : Nat} (entry : Entry OtpApi) (h : List (Entry OtpApi)) :
    phase n (entry :: h) = (phase n h).after n entry.1 entry.2 := rfl

/-- SMU does not answer with a success status whose flag is not true. -/
def Flagged (e : OtpEnv) : OtpCall → Bool
  | .smuVerify _ _ =>
      match e.smu with
      | .payload p => p.flag = some true
      | _ => true
  | _ => true

/-- A request that checks the counter does so while no other request is pending. -/
def ChecksAlone {ι : Type} (n : Nat) (past : ι → List (Entry OtpApi)) (i : ι) : OtpCall → Prop
  | .redis (.get (.rate _)) =>
      phase n (past i) = .checking → ∀ j, j ≠ i → (phase n (past j)).pending = false
  | _ => True

section Discipline

variable {cfg : RateLimitConfig} {phone : String} {α : Type} {h : List (Entry OtpApi)}

/-- The order in which a request checks, asks and counts. -/
def Orderly (cfg : RateLimitConfig) (phone : String) (h : List (Entry OtpApi)) : OtpCall → Prop
  | .redis (.get (.rate k)) =>
      k = phone ∧ (phase cfg.attempts h = .checking ∨ phase cfg.attempts h = .done)
  | .redis (.setex k _ _) => k = .lock phone
  | .redis (.incrExpire k n) =>
      k = .rate phone ∧ n = cfg.windowSeconds ∧ phase cfg.attempts h = .answered false
  | .redis (.delete keys) => .rate phone ∈ keys ∧ phase cfg.attempts h = .answered true
  | .smuVerify _ _ => phase cfg.attempts h = .cleared
  | _ => True

/-- Redis answers the ping. -/
def Reachable (_ : List (Entry OtpApi)) : (q : OtpCall) → q.Ans → Prop
  | .ping, up => up = true
  | _, _ => True

abbrev OtpHandler.Orderly (cfg : RateLimitConfig) (phone : String) (p : OtpHandler α)
    (fin : α → List (Entry OtpApi) → Prop) (h : List (Entry OtpApi)) : Prop :=
  p.Follows (OtpWrapper.Orderly cfg phone) Reachable fin (fun _ _ => True) h

theorem command_orderly {β : Type} {c : RedisCommand} {f : c.Val → OtpHandler β}
    {fin : β → List (Entry OtpApi) → Prop} (hc : Orderly cfg phone h (.redis c))
    (hf : ∀ v, (f v).Orderly cfg phone fin (⟨.redis c,some v⟩ :: h)) :
    OtpHandler.Orderly cfg phone (command c >>= f) fin h := by
  refine ⟨hc,fun a _ => ?_⟩
  cases a with
  | none => trivial
  | some v => exact hf v

theorem client_orderly {β : Type} {f : Bool → OtpHandler β}
    {fin : β → List (Entry OtpApi) → Prop}
    (hf : (f true).Orderly cfg phone fin (⟨.ping,true⟩ :: h)) :
    OtpHandler.Orderly cfg phone (getRedisClient >>= f) fin h := by
  refine ⟨trivial,fun a ha => ?_⟩
  obtain rfl : a = true := ha
  exact hf

theorem checkRateLimit_orderly (hh : phase cfg.attempts h = .checking) :
    (checkRateLimit cfg phone).Orderly cfg phone
      (fun r h' => r.1 = true → phase cfg.attempts h' = .cleared) h := by
  refine client_orderly (command_orderly trivial fun isLocked => ?_)
  split
  · exact command_orderly trivial fun ttl hr => (Bool.false_ne_true hr).elim
  · refine command_orderly ⟨rfl,.inl ?_⟩ fun attempts => ?_
    · simp [hh,Phase.after]
    · split
      · exact command_orderly rfl fun _ hr => (Bool.false_ne_true hr).elim
      · rename_i hlt
        intro _
        simp [hh,Phase.after,Nat.lt_of_not_le hlt]

theorem incrementAttempt_orderly (cfg : RateLimitConfig) (phone : String)
    (hh : phase cfg.attempts h = .answered false) :
    (incrementAttempt cfg phone).Orderly cfg phone (fun _ _ => True) h := by
  have hcount : Orderly cfg phone (⟨.ping,true⟩ :: h)
      (.redis (.incrExpire (.rate phone) cfg.windowSeconds)) := by
    simp [Orderly,hh,Phase.after]
  refine client_orderly (command_orderly hcount fun _ => command_orderly ?_ fun _ => trivial)
  simp [Orderly,hh,Phase.after]

theorem resetAttempts_orderly (cfg : RateLimitConfig) (phone : String)
    (hh : phase cfg.attempts h = .answered true) :
    (resetAttempts phone).Orderly cfg phone (fun _ _ => True) h := by
  have hreset : Orderly cfg phone (⟨.ping,true⟩ :: h)
      (.redis (.delete [.rate phone,.lock phone])) := by
    simp [Orderly,hh,Phase.after]
  refine client_orderly ⟨hreset,fun a _ => ?_⟩
  cases a <;> trivial

theorem smuVerify_orderly {f : SmuReply → OtpHandler α} {fin : α → List (Entry OtpApi) → Prop}
    {sid : Sid} {otp : Nat} (hh : phase cfg.attempts h = .cleared)
    (hf : ∀ reply, (f reply).Orderly cfg phone fin (⟨.smuVerify sid otp,reply⟩ :: h)) :
    (smuVerify sid otp >>= f).Orderly cfg phone fin h := ⟨hh,fun reply _ => hf reply⟩

theorem verifyOtp_orderly (req : VerifyRequest) :
    (verifyOtp cfg req).Orderly cfg req.phone (fun _ _ => True) [] := by
  unfold verifyOtp
  split
  · rename_i sid otp _ _
    refine Prog.follows_bind.mpr ((checkRateLimit_orderly rfl).mono (fun r h hr => ?_)
      (fun _ _ hx => hx))
    obtain ⟨allowed,attempts,lockRemaining⟩ := r
    cases allowed with
    | false => trivial
    | true =>
      have hcleared : phase cfg.attempts h = .cleared := hr rfl
      refine smuVerify_orderly hcleared fun reply => ?_
      cases reply with
      | badRequest =>
        have hanswered := incrementAttempt_orderly cfg req.phone
          (h := ⟨.smuVerify sid otp,.badRequest⟩ :: h) (by simp [hcleared,Phase.after])
        refine Prog.follows_bind.mpr (hanswered.mono (fun newAttempts _ _ => ?_) (fun _ _ hx => hx))
        split <;> trivial
      | failed exc => trivial
      | payload p =>
        simp only
        split
        · rename_i hflag
          have hanswered := resetAttempts_orderly cfg req.phone
            (h := ⟨.smuVerify sid otp,.payload p⟩ :: h) (by simp [hcleared,Phase.after,hflag])
          exact Prog.follows_bind.mpr (hanswered.mono (fun _ _ _ => trivial) (fun _ _ hx => hx))
        · trivial
  · trivial

end Discipline

/-- The attempts that Redis counts for the phone number. -/
def counted (phone : String) (db : OtpDb) (now : Time) : Nat :=
  (db.value now (.rate phone)).getD 0

/-- What the counter says about the wrong codes since the last right one: it has counted all that
are recent, but for the one of a request that is about to count. -/
structure Accounted {ι : Type} (cfg : RateLimitConfig) (phone : String) (db : OtpDb)
    (ph : ι → Phase) : Prop where
  chronological : Chronological db.clock db.outcomes
  bounded : Bounded cfg.attempts (seconds cfg.windowSeconds) db.outcomes
  alone : ∀ i j, (ph i).pending → (ph j).pending → i = j
  below : ∀ i, ph i = .cleared → ∀ now, db.clock ≤ now → counted phone db now < cfg.attempts
  settled : (∀ i, ph i ≠ .answered false) → ∀ now, db.clock ≤ now →
    recent (seconds cfg.windowSeconds) now db.outcomes ≤ counted phone db now
  owed : ∀ now, db.clock ≤ now →
    recent (seconds cfg.windowSeconds) now db.outcomes ≤ counted phone db now+1
  confirmed : ∀ i, ph i = .answered true → ∀ now,
    recent (seconds cfg.windowSeconds) now db.outcomes = 0

section Steps

variable {ι : Type} {cfg : RateLimitConfig} {phone : String} {db : OtpDb} {ph : ι → Phase}
  {i : ι} {now now' : Time}

/-- The counter does not grow by itself. -/
theorem counted_antitone (hn : now ≤ now') : counted phone db now' ≤ counted phone db now := by
  unfold counted OtpDb.value
  cases h : SeatDb.alive now' (db.keys (.rate phone)) with
  | none => exact Nat.zero_le _
  | some v => rw [SeatDb.alive_mono hn h]

theorem Accounted.alone_of (h : Accounted cfg phone db ph) (hi : (ph i).pending) {j : ι}
    (hj : j ≠ i) : (ph j).pending = false :=
  Bool.eq_false_iff.mpr fun hp => hj (h.alone j i hp hi)

/-- A call that touches neither the counter nor the phases. -/
theorem Accounted.keep (h : Accounted cfg phone db ph) (keys : RateKey → Option (Nat × Time))
    (hkeys : keys (.rate phone) = db.keys (.rate phone)) (hclock : db.clock ≤ now) :
    Accounted cfg phone ⟨now,keys,db.outcomes⟩ ph := by
  have hsame : ∀ t, counted phone ⟨now,keys,db.outcomes⟩ t = counted phone db t := by
    intro t
    simp only [counted,OtpDb.value,hkeys]
  constructor
  · exact h.chronological.later hclock
  · exact h.bounded
  · exact h.alone
  · exact fun i hi t ht => (hsame t).trans_lt (h.below i hi t (hclock.trans ht))
  · exact fun hno t ht => (h.settled hno t (hclock.trans ht)).trans_eq (hsame t).symm
  · exact fun t ht => (h.owed t (hclock.trans ht)).trans_eq (by rw [hsame t])
  · exact h.confirmed

variable [DecidableEq ι]

/-- A request leaves without anything to write: it is refused, or SMU could not tell. -/
theorem Accounted.leave (h : Accounted cfg phone db ph) (hi : ∀ b, ph i ≠ .answered b) :
    Accounted cfg phone db (Function.update ph i .done) := by
  have hph : ∀ j, Function.update ph i .done j ≠ .done → Function.update ph i .done j = ph j := by
    intro j hj
    by_cases hji : j = i
    · subst hji
      exact absurd (Function.update_self ..) hj
    · exact Function.update_of_ne hji ..
  have hpending : ∀ j, (Function.update ph i .done j).pending → (ph j).pending := by
    intro j hj
    rwa [← hph j (by rintro heq; rw [heq] at hj; cases hj)]
  refine { h with alone := ?_, below := ?_, settled := ?_, confirmed := ?_ }
  · exact fun j k hj hk => h.alone j k (hpending j hj) (hpending k hk)
  · exact fun j hj => h.below j ((hph j (by rw [hj]; decide)).symm.trans hj)
  · refine fun hno => h.settled fun j hj => ?_
    by_cases hji : j = i
    · subst hji
      exact hi false hj
    · exact hno j ((Function.update_of_ne hji ..).trans hj)
  · exact fun j hj => h.confirmed j ((hph j (by rw [hj]; decide)).symm.trans hj)

/-- A request finds the counter below the limit, no other request being pending. -/
theorem Accounted.clear (h : Accounted cfg phone db ph) (hi : ph i = .checking)
    (halone : ∀ j, j ≠ i → (ph j).pending = false)
    (hlow : counted phone db db.clock < cfg.attempts) :
    Accounted cfg phone db (Function.update ph i .cleared) := by
  have honly : ∀ j, (Function.update ph i .cleared j).pending → j = i := by
    intro j hj
    by_contra hji
    rw [Function.update_of_ne hji,halone j hji] at hj
    cases hj
  refine { h with alone := ?_, below := ?_, settled := ?_, confirmed := ?_ }
  · exact fun j k hj hk => (honly j hj).trans (honly k hk).symm
  · exact fun j _ t ht => (counted_antitone ht).trans_lt hlow
  · refine fun hno => h.settled fun j hj => ?_
    by_cases hji : j = i
    · subst hji
      rw [hi] at hj
      cases hj
    · exact hno j ((Function.update_of_ne hji ..).trans hj)
  · intro j hj
    obtain rfl := honly j (by rw [hj]; rfl)
    rw [Function.update_self] at hj
    cases hj

/-- SMU answers a request that was let through. -/
theorem Accounted.answer (h : Accounted cfg phone db ph) (hi : ph i = .cleared) (ok : Bool) :
    Accounted cfg phone { db with outcomes := (db.clock,ok) :: db.outcomes }
      (Function.update ph i (.answered ok)) := by
  have hpending : (ph i).pending := by rw [hi]; rfl
  have honly : ∀ j, (Function.update ph i (.answered ok) j).pending → j = i := by
    intro j hj
    by_contra hji
    rw [Function.update_of_ne hji,h.alone_of hpending hji] at hj
    cases hj
  have hself : ∀ x, Function.update ph i (.answered ok) i = x → x = .answered ok :=
    fun x hx => hx.symm.trans (Function.update_self ..)
  have hnone : ∀ j, ph j ≠ .answered false := by
    intro j hj
    obtain rfl := h.alone j i (by rw [hj]; rfl) hpending
    rw [hi] at hj
    cases hj
  have hbelow := h.settled hnone db.clock (le_refl _)
  constructor
  · exact h.chronological.cons
  · cases ok with
    | true => exact h.bounded.success
    | false =>
      exact h.bounded.failure h.chronological
        (hbelow.trans_lt (h.below i hi db.clock (le_refl _)))
  · exact fun j k hj hk => (honly j hj).trans (honly k hk).symm
  · intro j hj
    obtain rfl := honly j (by rw [hj]; rfl)
    cases hself _ hj
  · intro hno t ht
    cases ok with
    | true => exact Nat.zero_le _
    | false => exact absurd (Function.update_self ..) (hno i)
  · intro t ht
    cases ok with
    | true => exact Nat.zero_le _
    | false => exact recent_failure_le.trans (Nat.add_le_add_right (h.settled hnone t ht) 1)
  · intro j hj t
    obtain rfl := honly j (by rw [hj]; rfl)
    cases hself _ hj
    rfl

/-- A request writes its outcome, after which the counter agrees with the log. -/
theorem Accounted.write {keys : RateKey → Option (Nat × Time)} (h : Accounted cfg phone db ph)
    (hi : (ph i).pending) (hcount : ∀ t, db.clock ≤ t →
      recent (seconds cfg.windowSeconds) t db.outcomes ≤ counted phone { db with keys := keys } t) :
    Accounted cfg phone { db with keys := keys } (Function.update ph i .done) := by
  have hnone : ∀ j, (Function.update ph i .done j).pending = false := by
    intro j
    by_cases hji : j = i
    · subst hji
      rw [Function.update_self]
      rfl
    · rw [Function.update_of_ne hji]
      exact h.alone_of hi hji
  have habsurd : ∀ j x, x.pending = true → Function.update ph i .done j ≠ x := by
    rintro j x hx rfl
    rw [hnone j] at hx
    cases hx
  constructor
  · exact h.chronological
  · exact h.bounded
  · exact fun j k hj _ => absurd rfl (habsurd j _ hj)
  · exact fun j hj => absurd hj (habsurd j _ rfl)
  · exact fun _ => hcount
  · exact fun t ht => (hcount t ht).trans (Nat.le_succ _)
  · exact fun j hj => absurd hj (habsurd j _ rfl)

/-- The code was wrong, and is counted. -/
theorem Accounted.count (h : Accounted cfg phone db ph) (hi : ph i = .answered false) :
    Accounted cfg phone (db.setKey (.rate phone) ((db.value db.clock (.rate phone)).getD 0+1)
      (db.clock+seconds cfg.windowSeconds)) (Function.update ph i .done) := by
  refine h.write (by rw [hi]; rfl) fun t ht => ?_
  by_cases hlt : t < db.clock+seconds cfg.windowSeconds
  · have hvalue : counted phone (db.setKey (.rate phone)
        ((db.value db.clock (.rate phone)).getD 0+1) (db.clock+seconds cfg.windowSeconds)) t =
        counted phone db db.clock+1 := by
      simp [counted,OtpDb.value,OtpDb.setKey,SeatDb.alive,hlt]
    exact ((recent_antitone ht).trans (h.owed db.clock (le_refl _))).trans_eq hvalue.symm
  · rw [recent_expired h.chronological (not_lt.mp hlt)]
    exact Nat.zero_le _

/-- The code was right, and the counter starts again. -/
theorem Accounted.reset {keys : RateKey → Option (Nat × Time)} (h : Accounted cfg phone db ph)
    (hi : ph i = .answered true) :
    Accounted cfg phone { db with keys := keys } (Function.update ph i .done) :=
  h.write (by rw [hi]; rfl) fun t _ => by rw [h.confirmed i hi t]; exact Nat.zero_le _

end Steps

section Runs

variable {ι : Type} [DecidableEq ι] {cfg : RateLimitConfig} {phone : String} {db : OtpDb}
  {past : ι → List (Entry OtpApi)} {i : ι}

theorem phases_update (n : Nat) (past : ι → List (Entry OtpApi)) (i : ι) (entry : Entry OtpApi) :
    (fun j => phase n (Function.update past i (entry :: past i) j)) =
      Function.update (fun j => phase n (past j)) i
        ((phase n (past i)).after n entry.1 entry.2) := by
  funext j
  by_cases hj : j = i
  · subst hj
    simp
  · simp [hj]

/-- A call that leaves its own request in the phase it was in. -/
theorem Accounted.idle {entry : Entry OtpApi}
    (h : Accounted cfg phone db (fun j => phase cfg.attempts (past j)))
    (hafter : (phase cfg.attempts (past i)).after cfg.attempts entry.1 entry.2 =
      phase cfg.attempts (past i)) :
    Accounted cfg phone db
      (fun j => phase cfg.attempts (Function.update past i (entry :: past i) j)) := by
  rw [phases_update,hafter,Function.update_eq_self]
  exact h

/-- Reading the counter lets a request through, or refuses it, or is its last call. -/
theorem Accounted.readCounter
    (h : Accounted cfg phone db (fun j => phase cfg.attempts (past j)))
    (halone : ChecksAlone cfg.attempts past i (.redis (.get (.rate phone))))
    (hi : phase cfg.attempts (past i) = .checking ∨ phase cfg.attempts (past i) = .done) :
    Accounted cfg phone db (fun j => phase cfg.attempts (Function.update past i
      (⟨.redis (.get (.rate phone)),some (db.value db.clock (.rate phone))⟩ :: past i) j)) := by
  rcases hi with hi | hi
  · rw [phases_update]
    simp only [hi,Phase.after]
    split
    · rename_i hlow
      exact h.clear hi (halone hi) hlow
    · exact h.leave fun b hb => by rw [hi] at hb; cases hb
  · exact h.idle (by rw [hi]; rfl)

/-- SMU answers a request that was let through, with a right or a wrong code or not at all. -/
theorem Accounted.smuVerify {e : OtpEnv} {sid : Sid} {otp : Nat}
    (h : Accounted cfg phone db (fun j => phase cfg.attempts (past j)))
    (hflag : Flagged e (.smuVerify sid otp)) (hi : phase cfg.attempts (past i) = .cleared) :
    Accounted cfg phone (db.record db.clock e.smu) (fun j => phase cfg.attempts
      (Function.update past i (⟨.smuVerify sid otp,e.smu⟩ :: past i) j)) := by
  rw [phases_update]
  cases hsmu : e.smu with
  | badRequest =>
    simp only [hi,Phase.after]
    exact h.answer hi false
  | failed exc =>
    simp only [hi,Phase.after]
    exact h.leave fun b hb => by rw [hi] at hb; cases hb
  | payload p =>
    have hp : p.flag = some true := by simpa [Flagged,hsmu] using hflag
    simp only [hi,Phase.after,OtpDb.record,SmuReply.outcome,hp,if_true,decide_true]
    exact h.answer hi true

theorem accounted_keeps (cfg : RateLimitConfig) (phone : String) :
    Keeps (server ι)
      (fun _ past i e q => e.redisUp = true ∧ Flagged e q ∧ ChecksAlone cfg.attempts past i q)
      (fun _ => Orderly cfg phone) (fun _ => Reachable)
      (fun db past => Accounted cfg phone db (fun j => phase cfg.attempts (past j))) := by
  intro db past i e q hinv hready ⟨hup,hflag,halone⟩ hok
  have h := hinv.keep db.keys rfl (of_decide_eq_true hready)
  have hafter : ∀ entry : Entry OtpApi, (phase cfg.attempts (past i)).after cfg.attempts entry.1
      entry.2 = phase cfg.attempts (past i) → Accounted cfg phone ⟨e.time,db.keys,db.outcomes⟩
        (fun j => phase cfg.attempts (Function.update past i (entry :: past i) j)) :=
    fun entry => h.idle
  cases q with
  | ping => exact ⟨hup,hafter _ (by cases phase cfg.attempts (past i) <;> rfl)⟩
  | smuVerify sid otp =>
    refine ⟨trivial,?_⟩
    have hanswer := h.smuVerify hflag hok
    cases hsmu : e.smu.outcome <;>
      simpa [server,perform,OtpDb.record,hsmu] using hanswer
  | redis c =>
    refine ⟨trivial,?_⟩
    simp only [server,perform,hup,if_true]
    cases c with
    | ttl key => exact hafter _ (by cases phase cfg.attempts (past i) <;> rfl)
    | get key =>
      cases key with
      | lock k => exact hafter _ (by cases phase cfg.attempts (past i) <;> rfl)
      | rate k =>
        obtain ⟨rfl,hi⟩ := hok
        exact h.readCounter halone hi
    | setex key n value =>
      obtain rfl : key = .lock phone := hok
      simp only [OtpDb.execute]
      split
      · exact hafter _ (by cases phase cfg.attempts (past i) <;> rfl)
      · have hlock := hinv.keep (Function.update db.keys (.lock phone)
          (some (value,e.time+seconds n))) (by simp) (of_decide_eq_true hready)
        exact hlock.idle (by cases phase cfg.attempts (past i) <;> rfl)
    | incrExpire key n =>
      obtain ⟨rfl,rfl,hi⟩ := hok
      rw [phases_update]
      simp only [hi,Phase.after]
      exact h.count hi
    | delete keys =>
      obtain ⟨hmem,hi⟩ := hok
      rw [phases_update]
      simp only [hi,Phase.after]
      exact h.reset hi

/-- As long as SMU's success answers confirm the code, and no request checks the counter while
another is pending, no span of the window's length without a right code has more wrong codes than
the limit, whatever Redis holds at first. -/
theorem guesses_bounded (cfg : RateLimitConfig) (phone : String) (req : ι → VerifyRequest)
    (hphone : ∀ i, (req i).phone = phone) (db₀ : OtpDb) (h₀ : db₀.outcomes = [])
    (c : Config ι OtpApi RedisError (Response Bool) OtpDb)
    (hrun : Config.Reach (server ι)
      (fun _ past i e q => e.redisUp = true ∧ Flagged e q ∧ ChecksAlone cfg.attempts past i q)
      (Config.start db₀ (fun i => verifyOtp cfg (req i))) c) :
    Bounded cfg.attempts (seconds cfg.windowSeconds) c.shared.outcomes := by
  have hstart : Accounted cfg phone db₀ (fun _ : ι => phase cfg.attempts []) := by
    constructor <;> simp [h₀,bounded_nil,Phase.pending]
    exact ⟨List.Pairwise.nil,by simp⟩
  have hdisciplined : (Config.start db₀ (fun i => verifyOtp cfg (req i))).Disciplined
      (fun _ => Orderly cfg phone) (fun _ => Reachable) (fun _ _ _ => True) (fun _ _ _ => True)
      (fun db past => Accounted cfg phone db (fun j => phase cfg.attempts (past j))) :=
    Config.disciplined_start hstart fun i => by
      rw [← hphone i]
      exact verifyOtp_orderly (req i)
  exact (hdisciplined.reach (accounted_keeps cfg phone) hrun).1.bounded

end Runs

section Examples

/-- A verification for one phone number, by default with five attempts in fifteen minutes. -/
def guess : OtpHandler (Response Bool) :=
  verifyOtp ⟨5,900,900⟩ ⟨some 1,some 123456,some "+6591234567",none⟩

def emptyDb : OtpDb := ⟨0,fun _ => none,[]⟩

def reply (r : SmuReply) : OtpEnv := ⟨0,true,r⟩

def unconfirmed : SmuReply := .payload ⟨none,none,none,none,some false⟩

/-- One wrong code after the other, each of them counted, and the limit is reached. -/
def refused : Config Bool OtpApi RedisError (Response Bool) OtpDb :=
  (Config.start emptyDb (fun _ =>
    verifyOtp ⟨1,900,900⟩ ⟨some 1,some 123456,some "+6591234567",none⟩)).schedule (server Bool)
      (fun _ past i e q => e.redisUp && Flagged e q && !(phase 1 (past (!i))).pending)
      (List.replicate 7 (true,reply .badRequest) ++ List.replicate 4 (false,reply .badRequest))

theorem guesses_bounded_refused : refused.shared.outcomes = [(0,false)] ∧
    refused.result false = some (.error "OTP_RATE_LIMIT_EXCEEDED"
      "Account locked. Try again in 900 seconds." 429) ∧
    Bounded 1 (seconds 900) refused.shared.outcomes := by
  refine ⟨by decide +kernel,by decide +kernel,?_⟩
  refine guesses_bounded ⟨1,900,900⟩ "+6591234567"
    (fun _ => ⟨some 1,some 123456,some "+6591234567",none⟩) (fun _ => rfl) emptyDb rfl refused
    (Config.reach_schedule (fun _ past i e q hcheck => ?_) _ _)
  simp only [Bool.and_eq_true,Bool.not_eq_true'] at hcheck
  refine ⟨hcheck.1.1,hcheck.1.2,?_⟩
  have hother : ∀ j, j ≠ i → (phase 1 (past j)).pending = false := by
    intro j hj
    obtain rfl : j = !i := by cases i <;> cases j <;> trivial
    exact hcheck.2
  unfold ChecksAlone
  split
  · exact fun _ => hother
  · trivial

/-- Six requests, one after the other, that SMU answers with a false flag. -/
def unflagged : Config Nat OtpApi RedisError (Response Bool) OtpDb :=
  (Config.start emptyDb (fun _ => guess)).schedule (server Nat) (fun _ _ _ e _ => e.redisUp)
    ((List.range 6).flatMap (fun i => List.replicate 4 (i,reply unconfirmed)))

/-- Six requests that all check the counter before SMU answers the first of them. -/
def racing : Config Nat OtpApi RedisError (Response Bool) OtpDb :=
  (Config.start emptyDb (fun _ => guess)).schedule (server Nat) (fun _ _ _ e _ => e.redisUp)
    ((List.range 6).flatMap (fun i => List.replicate 3 (i,reply .badRequest)) ++
      (List.range 6).map (fun i => (i,reply .badRequest)))

theorem six_not_bounded : ¬ Bounded 5 (seconds 900) (List.replicate 6 (0,false)) := by
  intro h
  have hcount := h 0 (by simp)
  revert hcount
  decide

/-- Wrong codes that SMU reports with a false flag are not counted, and those of requests that
overlap are counted too late. -/
theorem guesses_exceed_limit :
    (Config.Reach (server Nat) (fun _ _ _ e _ => e.redisUp = true)
      (Config.start emptyDb (fun _ => guess)) unflagged ∧
      ¬ Bounded 5 (seconds 900) unflagged.shared.outcomes) ∧
    (Config.Reach (server Nat) (fun _ _ _ e _ => e.redisUp = true)
      (Config.start emptyDb (fun _ => guess)) racing ∧
      ¬ Bounded 5 (seconds 900) racing.shared.outcomes) := by
  have hunflagged : unflagged.shared.outcomes = List.replicate 6 (0,false) := by decide +kernel
  have hracing : racing.shared.outcomes = List.replicate 6 (0,false) := by decide +kernel
  rw [hunflagged,hracing]
  exact ⟨⟨Config.reach_schedule (fun _ _ _ _ _ h => h) _ _,six_not_bounded⟩,
    Config.reach_schedule (fun _ _ _ _ _ h => h) _ _,six_not_bounded⟩

end Examples

end TicketRemaster.OtpWrapper
