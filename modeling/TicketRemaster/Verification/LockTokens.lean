import TicketRemaster.Verification.Exclusion
set_option autoImplicit false

/-! The scan lock of one ticket, and any number of clients that take it and give it back. A token is
a reading of the clock, and two clients may have got the same one. -/

namespace TicketRemaster.Verification

open Resumption SeatInventory

section Clients

variable (v : VerifyConfig) (i : TicketId)

/-- Take the lock, and give it back at some later time. -/
def holdScanLock : Handler Unit := do
  match ← acquireScanLock v i with
  | none => pure ()
  | some lockToken => releaseScanLock i lockToken

/-- A client, with the number of times that it does so. -/
def lockClient : Nat → Handler Unit
  | 0 => pure ()
  | n+1 => do
      holdScanLock v i
      lockClient n

end Clients

/-- The databases and the time at Redis. Nobody stores which key each client has set and not given
back, who has set the key last, and who has deleted whose. -/
structure LockState (ι : Type) where
  world : World
  clock : Time
  held : ι → Option (Time × Time)
  setBy : Option ι
  deletions : List (ι × Option ι)

section Server

variable {ι : Type} [DecidableEq ι]

/-- What a call of client `k` adds to the record, before the world changes. -/
def LockState.note (s : LockState ι) (k : ι) (e : Env) : (q : Call) → q.Ans → LockState ι
  | .lockSet _ token ttl, some true =>
      { s with
        clock := e.time
        held := Function.update s.held k (some (token,e.time+ttl))
        setBy := some k }
  | .lockSet _ _ _, _ => { s with clock := e.time }
  | .lockRelease i token, _ =>
      { s with
        clock := e.time
        held := Function.update s.held k none
        deletions :=
          if SeatDb.alive e.time (s.world.scanLocks.lookup i) = some token then
            (k,s.setBy) :: s.deletions
          else s.deletions }
  | _, _ => s

def lockServer (cfg : SeatConfig) (ι : Type) [DecidableEq ι] :
    Server Platform ι Env (LockState ι) where
  ready _ _ _ _ := true
  serve k e s q :=
    let r := World.perform cfg e s.world q
    (r.1,{ s.note k e q r.1 with world := r.2 })

abbrev LockRun (ι : Type) : Type := Config ι Platform Unhandled Unit (LockState ι)

/-- Nobody has the lock yet. -/
def startLocks (v : VerifyConfig) (i : TicketId) (rounds : ι → Nat) (w : World) (t : Time) :
    LockRun ι :=
  .start ⟨{ w with scanLocks := ∅ },t,fun _ => none,none,[]⟩ fun k => lockClient v i (rounds k)

/-- Redis can be reached, and its clock does not go back. What `time.time()` returns to the clients
is left open. -/
structure RedisUp (s : LockState ι) (e : Env) (q : Call) : Prop where
  redis : e.redisUp
  clock : q ≠ .now → s.clock ≤ e.time

/-- A client does not take a free lock with the token of another that has taken it before and not
given it back. -/
def FreshToken (s : LockState ι) (past : ι → List (Entry Platform)) (k : ι) (e : Env) :
    Call → Prop
  | .lockSet i token _ => SeatDb.alive e.time (s.world.scanLocks.lookup i) = none →
      ∀ j, j ≠ k → (progress (past j)).lock ≠ some (i,token)
  | _ => True

/-- Nobody has deleted a lock that another had taken, and of those who have not given theirs back
at most one has a lock that has not expired, now and until the next call. -/
structure LockSafe (s : LockState ι) : Prop where
  own (x : ι × Option ι) : x ∈ s.deletions → x.2 = some x.1
  single (t : Time) (j k : ι) (a b : Time × Time) : s.clock ≤ t → s.held j = some a →
    s.held k = some b → t < a.2 → t < b.2 → j = k

end Server

section Discipline

/-- The order in which a client makes its calls, all of them about the one ticket. -/
def LockOrder (v : VerifyConfig) (i : TicketId) (h : List (Entry Platform)) : Call → Prop
  | .lockPing => True
  | .now => (progress h).lock = none
  | .lockSet j _ ttl => j = i ∧ ttl = v.lockTtl ∧ (progress h).lock = none
  | .lockRelease j token => j = i ∧ (progress h).lock = some (i,token)
  | _ => False

/-- A client that keeps to the order and ends without the lock. -/
abbrev Handler.Locking {α : Type} (v : VerifyConfig) (i : TicketId) (p : Handler α)
    (fin : α → List (Entry Platform) → Prop) (h : List (Entry Platform)) : Prop :=
  p.Follows (LockOrder v i) Answered fin (fun _ _ => False) h

def GivenBack {α : Type} (_ : α) (h : List (Entry Platform)) : Prop := (progress h).lock = none

/-- It has the lock exactly if it has a token. -/
def Taken (i : TicketId) : Option LockToken → List (Entry Platform) → Prop
  | none, h => (progress h).lock = none
  | some lockToken, h => ∃ token, lockToken = .held token ∧ (progress h).lock = some (i,token)

variable {v : VerifyConfig} {i : TicketId} {h : List (Entry Platform)}

theorem lockAttempts_locking {token : Time} (n : Nat) (hl : (progress h).lock = none) :
    Handler.Locking v i (lockAttempts v i token n) (Taken i) h := by
  induction n generalizing h with
  | zero => exact hl
  | succ n ih =>
    refine ⟨⟨rfl,rfl,hl⟩,fun acquired _ => ?_⟩
    rcases acquired with _ | _ | _
    · exact ih (h := ⟨.lockSet i token v.lockTtl,none⟩ :: h) hl
    · exact ih (h := ⟨.lockSet i token v.lockTtl,some false⟩ :: h) hl
    · exact ⟨token,rfl,rfl⟩

theorem acquireScanLock_locking (hl : (progress h).lock = none) :
    Handler.Locking v i (acquireScanLock v i) (Taken i) h := by
  refine ⟨trivial,fun up hup => ?_⟩
  obtain rfl : up = true := hup
  exact ⟨hl,fun token _ => lockAttempts_locking _ hl⟩

theorem releaseScanLock_locking {token : Time} (hl : (progress h).lock = some (i,token)) :
    Handler.Locking v i (releaseScanLock i (.held token)) GivenBack h := by
  refine ⟨trivial,fun up hup => ?_⟩
  obtain rfl : up = true := hup
  exact ⟨⟨rfl,hl⟩,fun _ _ => rfl⟩

theorem lockClient_locking (n : Nat) (hl : (progress h).lock = none) :
    Handler.Locking v i (lockClient v i n) GivenBack h := by
  induction n generalizing h with
  | zero => exact hl
  | succ n ih =>
    refine Prog.follows_bind.mpr ((?_ : Handler.Locking v i (holdScanLock v i) GivenBack h).mono
      (fun _ _ hback => ih hback) fun _ _ hf => hf)
    refine Prog.follows_bind.mpr ((acquireScanLock_locking hl).mono ?_ fun _ _ hf => hf)
    intro lock h' htaken
    cases lock with
    | none => exact htaken
    | some lockToken =>
      obtain ⟨token,rfl,hheld⟩ := htaken
      exact releaseScanLock_locking hheld

end Discipline

section Exclusion

variable {ι : Type} {i : TicketId} {s : LockState ι} {past : ι → List (Entry Platform)}

/-- The record follows what the clients know, a lock that has not expired is the one in Redis, and
the other way round, and no two clients have one token. -/
structure LockInv (i : TicketId) (s : LockState ι) (past : ι → List (Entry Platform)) : Prop where
  follows (k : ι) : (progress (past k)).lock = (s.held k).map fun key => (i,key.1)
  stored (k : ι) (key : Time × Time) : s.held k = some key → s.clock < key.2 →
    s.world.scanLocks.lookup i = some key ∧ s.setBy = some k
  holder (key : Time × Time) : s.world.scanLocks.lookup i = some key → s.clock < key.2 →
    ∃ k, s.setBy = some k ∧ s.held k = some key
  distinct (j k : ι) (a b : Time × Time) : s.held j = some a → s.held k = some b → a.1 = b.1 → j = k
  own (x : ι × Option ι) : x ∈ s.deletions → x.2 = some x.1

theorem LockInv.safe (h : LockInv i s past) : LockSafe s where
  own := h.own
  single t j k a b ht hj hk ha hb := by
    have hsetj := (h.stored j a hj (lt_of_le_of_lt ht ha)).2
    have hsetk := (h.stored k b hk (lt_of_le_of_lt ht hb)).2
    exact Option.some.inj (hsetj.symm.trans hsetk)

theorem lockInv_start (w : World) (t : Time) :
    LockInv i (⟨{ w with scanLocks := ∅ },t,fun _ => none,none,[]⟩ : LockState ι)
      (fun _ => []) where
  follows _ := rfl
  stored _ _ h := by cases h
  holder _ h := by cases h
  distinct _ _ _ _ h := by cases h
  own _ h := by cases h

/-- Time passes at Redis. -/
theorem LockInv.later (h : LockInv i s past) {t : Time} (ht : s.clock ≤ t) :
    LockInv i { s with clock := t } past where
  follows := h.follows
  stored k key hk hlt := h.stored k key hk (lt_of_le_of_lt ht hlt)
  holder key hkey hlt := h.holder key hkey (lt_of_le_of_lt ht hlt)
  distinct := h.distinct
  own := h.own

/-- The token of a client that has the lock is that of the key it has set. -/
theorem LockInv.key_of_lock (h : LockInv i s past) {k : ι} {token : Time}
    (hl : (progress (past k)).lock = some (i,token)) :
    ∃ expiry, s.held k = some (token,expiry) := by
  rw [h.follows k] at hl
  obtain ⟨⟨token',expiry⟩,hheld,hpair⟩ := Option.map_eq_some_iff.mp hl
  cases hpair
  exact ⟨expiry,hheld⟩

theorem alive_eq_some {t : Time} {row : Option (Time × Time)} {token : Time}
    (h : SeatDb.alive t row = some token) : ∃ expiry, row = some (token,expiry) ∧ t < expiry := by
  unfold SeatDb.alive at h
  split at h
  · split at h
    · rename_i token' expiry hlt
      cases h
      exact ⟨expiry,rfl,hlt⟩
    · cases h
  · cases h

theorem alive_key {t : Time} {key : Time × Time} (hlt : t < key.2) :
    SeatDb.alive t (some key) = some key.1 := if_pos hlt

variable [DecidableEq ι]

/-- What client `k` has after its call, and what the others have. -/
theorem follows_update {held : ι → Option (Time × Time)}
    (h : ∀ j, (progress (past j)).lock = (held j).map fun key => (i,key.1)) {k : ι}
    {entry : Entry Platform} {key : Option (Time × Time)}
    (hentry : (progress (entry :: past k)).lock = key.map fun key => (i,key.1)) (j : ι) :
    (progress (Function.update past k (entry :: past k) j)).lock =
      (Function.update held k key j).map fun key => (i,key.1) := by
  by_cases hj : j = k
  · subst hj
    simpa only [Function.update_self] using hentry
  · simpa only [Function.update_of_ne hj] using h j

/-- A client has what it had before, unless it is the one that has made the call. -/
theorem held_cases {held : ι → Option (Time × Time)} {j k : ι} {key : Time × Time}
    {own : Option (Time × Time)} (h : Function.update held k own j = some key) :
    j = k ∧ own = some key ∨ j ≠ k ∧ held j = some key := by
  by_cases hj : j = k
  · subst hj
    exact .inl ⟨rfl,by simpa only [Function.update_self] using h⟩
  · exact .inr ⟨hj,by simpa only [Function.update_of_ne hj] using h⟩

/-- Only others have a lock when `k` has given its own back. -/
theorem held_of_others {held : ι → Option (Time × Time)} {j k : ι} {key : Time × Time}
    (h : Function.update held k none j = some key) : j ≠ k ∧ held j = some key :=
  (held_cases h).resolve_left fun hown => by cases hown.2

theorem LockInv.take (h : LockInv i s past) {k : ι} {token expiry : Time} {entry : Entry Platform}
    (hentry : (progress (entry :: past k)).lock = some (i,token))
    (hfree : SeatDb.alive s.clock (s.world.scanLocks.lookup i) = none)
    (hfresh : ∀ j, j ≠ k → (progress (past j)).lock ≠ some (i,token)) :
    LockInv i
      { s with
        world := { s.world with scanLocks := s.world.scanLocks.insert i (token,expiry) }
        held := Function.update s.held k (some (token,expiry))
        setBy := some k }
      (Function.update past k (entry :: past k)) := by
  -- an unexpired lock would be the key, which is free
  have hexpired : ∀ j key, s.held j = some key → ¬ s.clock < key.2 := by
    intro j key hj hlt
    rw [(h.stored j key hj hlt).1,alive_key hlt] at hfree
    cases hfree
  have hother : ∀ {j : ι} {a : Time × Time}, j ≠ k → s.held j = some a → a.1 ≠ token := by
    intro j a hjk hj hsame
    refine hfresh j hjk ?_
    rw [h.follows j,hj,← hsame]
    rfl
  constructor
  case follows => exact follows_update h.follows hentry
  case stored =>
    intro j key hj hlt
    rcases held_cases hj with ⟨rfl,hkey⟩ | ⟨-,hj⟩
    · cases hkey
      exact ⟨AList.lookup_insert _,rfl⟩
    · exact absurd hlt (hexpired j key hj)
  case holder =>
    intro key hkey hlt
    simp only [AList.lookup_insert,Option.some.injEq] at hkey
    subst hkey
    exact ⟨k,rfl,Function.update_self ..⟩
  case distinct =>
    intro j j' a b hj hj' hsame
    rcases held_cases hj with ⟨hjk,hkey⟩ | ⟨hjk,hheld⟩
    · rcases held_cases hj' with ⟨hjk',-⟩ | ⟨hjk',hheld'⟩
      · exact hjk.trans hjk'.symm
      · cases hkey
        exact absurd hsame.symm (hother hjk' hheld')
    · rcases held_cases hj' with ⟨-,hkey⟩ | ⟨-,hheld'⟩
      · cases hkey
        exact absurd hsame (hother hjk hheld)
      · exact h.distinct j j' a b hheld hheld' hsame
  case own => exact h.own

/-- The key that a client deletes is the one it has set. -/
theorem LockInv.delete (h : LockInv i s past) {k : ι} {token expiry : Time}
    {entry : Entry Platform} (hentry : (progress (entry :: past k)).lock = none)
    (hheld : s.held k = some (token,expiry))
    (hkey : SeatDb.alive s.clock (s.world.scanLocks.lookup i) = some token) :
    LockInv i
      { s with
        world := { s.world with scanLocks := s.world.scanLocks.erase i }
        held := Function.update s.held k none
        deletions := (k,s.setBy) :: s.deletions }
      (Function.update past k (entry :: past k)) := by
  obtain ⟨expiry',hrow,hlt⟩ := alive_eq_some hkey
  obtain ⟨k',hset,hheld'⟩ := h.holder _ hrow hlt
  obtain rfl : k' = k := h.distinct k' k _ _ hheld' hheld rfl
  constructor
  case follows => exact follows_update h.follows hentry
  case stored =>
    intro j key hj hjlt
    obtain ⟨hne,hj⟩ := held_of_others hj
    exact absurd (Option.some.inj ((h.stored j key hj hjlt).2.symm.trans hset)) hne
  case holder =>
    intro key hgone
    simp at hgone
  case distinct =>
    intro j j' a b hj hj' hsame
    exact h.distinct j j' a b (held_of_others hj).2 (held_of_others hj').2 hsame
  case own =>
    intro x hx
    rcases List.mem_cons.mp hx with rfl | hx
    · exact hset
    · exact h.own x hx

/-- A client whose key is gone gives nothing back. -/
theorem LockInv.leave (h : LockInv i s past) {k : ι} {token expiry : Time}
    {entry : Entry Platform} (hentry : (progress (entry :: past k)).lock = none)
    (hheld : s.held k = some (token,expiry))
    (hkey : SeatDb.alive s.clock (s.world.scanLocks.lookup i) ≠ some token) :
    LockInv i { s with held := Function.update s.held k none }
      (Function.update past k (entry :: past k)) := by
  constructor
  case follows => exact follows_update h.follows hentry
  case stored =>
    intro j key hj hlt
    exact h.stored j key (held_of_others hj).2 hlt
  case holder =>
    intro key hrow hlt
    obtain ⟨k',hset,hheld'⟩ := h.holder key hrow hlt
    by_cases hk : k' = k
    · subst hk
      obtain rfl : key = (token,expiry) := Option.some.inj (hheld'.symm.trans hheld)
      rw [hrow,alive_key hlt] at hkey
      exact absurd rfl hkey
    · exact ⟨k',hset,(Function.update_of_ne hk _ _).trans hheld'⟩
  case distinct =>
    intro j j' a b hj hj' hsame
    exact h.distinct j j' a b (held_of_others hj).2 (held_of_others hj').2 hsame
  case own => exact h.own

/-- A call that neither sets nor deletes the key. -/
theorem LockInv.call (h : LockInv i s past) {k : ι} {entry : Entry Platform}
    (hentry : (progress (entry :: past k)).lock = (progress (past k)).lock) :
    LockInv i s (Function.update past k (entry :: past k)) where
  follows := by
    have hsame := follows_update h.follows (hentry.trans (h.follows k))
    rwa [Function.update_eq_self] at hsame
  stored := h.stored
  holder := h.holder
  distinct := h.distinct
  own := h.own

theorem lockInv_keeps (cfg : SeatConfig) (v : VerifyConfig) :
    Keeps (lockServer cfg ι) (fun s past k e q => RedisUp s e q ∧ FreshToken s past k e q)
      (fun _ => LockOrder v i) (fun _ => Answered) (LockInv i) := by
  intro s past k e q h _ hc ho
  obtain ⟨⟨hredis,hclock⟩,hfresh⟩ := hc
  cases q with
  | lockPing => exact ⟨hredis,h.call rfl⟩
  | now => exact ⟨trivial,h.call rfl⟩
  | lockSet j token ttl =>
    obtain ⟨rfl,-,-⟩ := ho
    refine ⟨trivial,?_⟩
    have hlater := h.later (hclock (by simp))
    simp only [lockServer,World.perform,World.lockSet,if_pos hredis]
    cases hkey : SeatDb.alive e.time (s.world.scanLocks.lookup j) with
    | some token' => exact hlater.call rfl
    | none => exact hlater.take rfl hkey (hfresh hkey)
  | lockRelease j token =>
    obtain ⟨rfl,hlock⟩ := ho
    refine ⟨trivial,?_⟩
    have hlater := h.later (hclock (by simp))
    obtain ⟨expiry,hheld⟩ := h.key_of_lock hlock
    simp only [lockServer,World.perform,World.lockRelease,LockState.note,hredis,Bool.true_and,
      decide_eq_true_eq]
    by_cases hkey : SeatDb.alive e.time (s.world.scanLocks.lookup j) = some token
    · simp only [if_pos hkey]
      exact hlater.delete rfl hheld hkey
    · simp only [if_neg hkey]
      exact hlater.leave rfl hheld hkey
  | _ => exact ho.elim

end Exclusion

section SharedToken

variable {ι : Type} {cfg : SeatConfig} {v : VerifyConfig} {i : TicketId}

/-- A call at time `t`, with Redis up. -/
def redisAt (t : Time) : Env := ⟨t,0,0,true,true,none⟩

theorem redisUp_at (s : LockState ι) (q : Call) : RedisUp s (redisAt s.clock) q :=
  ⟨rfl,fun _ => le_refl _⟩

variable [DecidableEq ι]

abbrev LockReach (cfg : SeatConfig) : LockRun ι → LockRun ι → Prop :=
  Config.Reach (lockServer cfg ι) fun s _ _ e q => RedisUp s e q

theorem reach_call {c : LockRun ι} {k : ι} {e : Env} {q : Call} {p : q.Ans → Handler Unit}
    (hc : (c.thread k).rest = .call q p) (he : RedisUp c.shared e q) :
    LockReach cfg c ⟨((lockServer cfg ι).serve k e c.shared q).2,
      Function.update c.thread k ⟨⟨q,((lockServer cfg ι).serve k e c.shared q).1⟩ :: c.past k,
        p ((lockServer cfg ι).serve k e c.shared q).1⟩⟩ := by
  refine .single ⟨k,e,?_,fun q' p' hq' => ?_⟩
  · simp only [Config.advance,hc,lockServer,if_true]
    rfl
  · cases hc.symm.trans hq'
    exact he

/-- A client that has the lock can go on to where it gives it back, with nothing changed. -/
theorem reach_release {c : LockRun ι} {k : ι} {token : Time} {p : Handler Unit}
    (hp : (c.thread k).rest = p) (horder : Handler.Locking v i p GivenBack (c.past k))
    (hlock : (progress (c.past k)).lock = some (i,token)) :
    ∃ d next, LockReach cfg c d ∧ d.shared = c.shared ∧
      (d.thread k).rest = .call (.lockRelease i token) next := by
  induction p generalizing c with
  | ret a =>
    have hnone : (progress (c.past k)).lock = none := horder
    rw [hlock] at hnone
    cases hnone
  | raise e => exact horder.elim
  | call q p ih =>
    obtain ⟨hq,hnext⟩ := horder
    cases q with
    | lockRelease j token' =>
      obtain ⟨rfl,hsame⟩ := hq
      rw [hlock] at hsame
      cases hsame
      exact ⟨c,p,.refl,rfl,hp⟩
    | lockPing =>
      have hstep : LockReach cfg c
          ⟨c.shared,Function.update c.thread k ⟨⟨.lockPing,true⟩ :: c.past k,p true⟩⟩ :=
        reach_call hp (redisUp_at c.shared .lockPing)
      have hpast := Config.past_update c k ⟨.lockPing,true⟩ (p true) c.shared
      obtain ⟨d,next,hreach,hshared,hrest⟩ := ih true
        (c := ⟨c.shared,Function.update c.thread k ⟨⟨.lockPing,true⟩ :: c.past k,p true⟩⟩)
        (by simp) (by rw [hpast,Function.update_self]; exact hnext true rfl)
        (by rw [hpast,Function.update_self]; exact hlock)
      exact ⟨d,next,hstep.trans hreach,hshared,hrest⟩
    | now =>
      have hnone : (progress (c.past k)).lock = none := hq
      rw [hlock] at hnone
      cases hnone
    | lockSet j token' ttl =>
      have hnone : (progress (c.past k)).lock = none := hq.2.2
      rw [hlock] at hnone
      cases hnone
    | _ => exact hq.elim

theorem lockOrder_keeps (cfg : SeatConfig) (v : VerifyConfig) (i : TicketId) :
    Keeps (lockServer cfg ι) (fun s _ _ e q => RedisUp s e q) (fun _ => LockOrder v i)
      (fun _ => Answered) (fun _ _ => True) := by
  intro s past k e q _ _ hup ho
  refine ⟨?_,trivial⟩
  cases q with
  | lockPing => exact hup.redis
  | http q => exact ho.elim
  | _ => trivial

/-- A client that finds its token in the key of another deletes that key. -/
theorem reach_deletion {d : LockRun ι} {j k : ι} {token expiry : Time}
    (horder : Handler.Locking v i (d.thread j).rest GivenBack (d.past j))
    (hlock : (progress (d.past j)).lock = some (i,token))
    (hkey : d.shared.world.scanLocks.lookup i = some (token,expiry))
    (hlt : d.shared.clock < expiry) (hset : d.shared.setBy = some k) (hne : k ≠ j) :
    ∃ d', LockReach cfg d d' ∧ ¬ LockSafe d'.shared := by
  obtain ⟨d',next,hreach,hshared,hrest⟩ := reach_release rfl horder hlock
  refine ⟨_,hreach.trans (reach_call hrest (redisUp_at d'.shared _)),fun hsafe => ?_⟩
  have halive : SeatDb.alive d'.shared.clock (d'.shared.world.scanLocks.lookup i) = some token := by
    rw [hshared,hkey,alive_key hlt]
  have hmem : (j,some k) ∈ ((lockServer cfg ι).serve j (redisAt d'.shared.clock) d'.shared
      (.lockRelease i token)).2.deletions := by
    simp only [lockServer,LockState.note,redisAt,if_pos halive]
    rw [hshared,hset]
    exact List.mem_cons_self
  exact hne (Option.some.inj (hsafe.own _ hmem))

/-- The state after a client has taken a free lock. -/
theorem lockSet_free (cfg : SeatConfig) {s : LockState ι} {k : ι} {e : Env} {token ttl : Time}
    (hup : e.redisUp) (hfree : SeatDb.alive e.time (s.world.scanLocks.lookup i) = none) :
    ∃ s', ((lockServer cfg ι).serve k e s (.lockSet i token ttl)).2 = s' ∧
      s'.world.scanLocks.lookup i = some (token,e.time+ttl) ∧ s'.clock = e.time ∧
      s'.setBy = some k := by
  refine ⟨_,rfl,?_⟩
  simp only [lockServer,World.perform,World.lockSet,if_pos hup,hfree,Option.isSome_none]
  exact ⟨AList.lookup_insert _,rfl,rfl⟩

/-- Where a client takes the lock with the token of another, that one can go on and delete it. -/
theorem sharedToken_unsafe {c d : LockRun ι} {k : ι} {e : Env} {q : Call}
    {p : q.Ans → Handler Unit} (httl : 0 < v.lockTtl)
    (horder : ∀ j, Handler.Locking v i (c.thread j).rest GivenBack (c.past j))
    (hadv : c.advance (lockServer cfg ι) k e = some d) (hq : (c.thread k).rest = .call q p)
    (hup : RedisUp c.shared e q) (hstale : ¬ FreshToken c.shared c.past k e q) :
    ∃ d', LockReach cfg d d' ∧ ¬ LockSafe d'.shared := by
  obtain ⟨q',p',hq',-,rfl⟩ := Config.advance_cases hadv
  cases hq'.symm.trans hq
  have hk := horder k
  rw [hq] at hk
  cases q with
  | lockSet i' token ttl =>
    obtain ⟨rfl,rfl,-⟩ := hk.1
    simp only [FreshToken,Classical.not_imp,not_forall,not_not] at hstale
    obtain ⟨hfree,j,hjk,hlock⟩ := hstale
    obtain ⟨s',hs',hkey,hclock,hset⟩ := lockSet_free cfg hup.redis hfree
    have hother : ∀ thread, Function.update c.thread k thread j = c.thread j :=
      fun thread => Function.update_of_ne hjk thread c.thread
    rw [hs']
    refine reach_deletion (v := v) ?_ ?_ hkey ?_ hset (Ne.symm hjk)
    · simp only [Config.past,hother]
      exact horder j
    · simp only [Config.past,hother]
      exact hlock
    · show s'.clock < e.time+v.lockTtl
      rw [hclock]
      exact lt_add_of_pos_right _ httl
  | _ => exact absurd trivial hstale

/-- As long as no client takes the lock with the token of another that has not given its own back,
locks are only deleted by those who have taken them, and at most one client has one that has not
expired. Where a client does that, the run can go on to where this is no longer so. -/
theorem scan_lock_kept_iff (cfg : SeatConfig) (v : VerifyConfig) (i : TicketId) (rounds : ι → Nat)
    (w : World) (t : Time) :
    (∀ c, Config.Reach (lockServer cfg ι)
        (fun s past k e q => RedisUp s e q ∧ FreshToken s past k e q)
        (startLocks v i rounds w t) c →
      LockSafe c.shared) ∧
    (0 < v.lockTtl → ∀ c d k e q p, LockReach cfg (startLocks v i rounds w t) c →
      c.advance (lockServer cfg ι) k e = some d → (c.thread k).rest = .call q p →
      RedisUp c.shared e q → ¬ FreshToken c.shared c.past k e q →
      ∃ d', LockReach cfg d d' ∧ ¬ LockSafe d'.shared) := by
  constructor
  · intro c hc
    have hstart : (startLocks v i rounds w t).Disciplined (fun _ => LockOrder v i)
        (fun _ => Answered) (fun _ => GivenBack) (fun _ _ _ => False) (LockInv i) :=
      Config.disciplined_start (lockInv_start w t) fun k => lockClient_locking (rounds k) rfl
    exact (hstart.reach (lockInv_keeps cfg v) hc).1.safe
  · intro httl c d k e q p hc hadv hq hup hstale
    have hstart : (startLocks v i rounds w t).Disciplined (fun _ => LockOrder v i)
        (fun _ => Answered) (fun _ => GivenBack) (fun _ _ _ => False) (fun _ _ => True) :=
      Config.disciplined_start trivial fun k => lockClient_locking (rounds k) rfl
    exact sharedToken_unsafe httl (hstart.reach (lockOrder_keeps cfg v i) hc).2 hadv hq hup hstale

end SharedToken

section OneReading

instance {ι : Type} (s : LockState ι) (e : Env) (q : Call) : Decidable (RedisUp s e q) :=
  decidable_of_iff (e.redisUp ∧ (q ≠ .now → s.clock ≤ e.time))
    ⟨fun h => ⟨h.1,h.2⟩,fun h => ⟨h.redis,h.clock⟩⟩

instance {ι : Type} [Fintype ι] [DecidableEq ι] (s : LockState ι)
    (past : ι → List (Entry Platform)) (k : ι) (e : Env) :
    (q : Call) → Decidable (FreshToken s past k e q)
  | .lockSet i token _ => inferInstanceAs (Decidable
      (SeatDb.alive e.time (s.world.scanLocks.lookup i) = none →
        ∀ j, j ≠ k → (progress (past j)).lock ≠ some (i,token)))
  | .http _ | .seatRpc _ _ | .getHoldCache _ | .now | .lockPing | .lockRelease _ _ | .publish _ =>
      inferInstanceAs (Decidable True)

/-- The settings that the orchestrator has by default: a lock lasts five seconds. -/
def usualLocks : VerifyConfig := ⟨seconds 60,seconds 300,seconds 5,3⟩

inductive Client where
  | first
  | second
  | third
  deriving DecidableEq

instance : Fintype Client := ⟨{.first,.second,.third},fun k => by cases k <;> decide⟩

def threeClients : LockRun Client := startLocks usualLocks 5 (fun _ => 1) unscannedWorld 0

/-- A client makes calls at these times. -/
def callsAt (k : Client) (times : List Time) : List (Client × Env) :=
  times.map fun t => (k,redisAt t)

/-- The first client reads second 100 and takes the lock; after it has expired the second one takes
it, with what it has read; the first one gives back, and the third one tries to take the lock. -/
def lockMoves (read : Time) : List (Client × Env) :=
  callsAt .first [0,seconds 100,seconds 100] ++
    callsAt .second [seconds 100,read,seconds 106] ++
    callsAt .first [seconds 107,seconds 107] ++
    callsAt .third [seconds 107,seconds 107,seconds 108]

/-- The second client reads second 106. -/
def twoReadings : LockRun Client :=
  threeClients.schedule (lockServer ⟨3,3,false⟩ Client)
    (fun s past k e q => decide (RedisUp s e q ∧ FreshToken s past k e q)) (lockMoves (seconds 106))

/-- The second client reads second 100, too. -/
def oneReading (n : Nat) : LockRun Client :=
  threeClients.schedule (lockServer ⟨3,3,false⟩ Client) (fun s _ _ e q => decide (RedisUp s e q))
    ((lockMoves (seconds 100)).take n)

/-- With two readings the second client keeps its lock; with one, the run can go wrong after it has
taken the lock. -/
theorem scan_lock_kept_iff_twoReadings :
    (twoReadings.shared.held .second = some (seconds 106,seconds 111) ∧
      twoReadings.shared.held .third = none ∧ LockSafe twoReadings.shared) ∧
    ∃ d', LockReach ⟨3,3,false⟩ (oneReading 6) d' ∧ ¬ LockSafe d'.shared := by
  have h := scan_lock_kept_iff ⟨3,3,false⟩ usualLocks 5 (fun _ : Client => 1) unscannedWorld 0
  refine ⟨⟨by decide +kernel,by decide +kernel,h.1 _ ?_⟩,?_⟩
  · exact Config.reach_schedule (fun _ _ _ _ _ hcheck => of_decide_eq_true hcheck) _ _
  · have hset : ∃ p, ((oneReading 5).thread .second).rest =
        .call (.lockSet 5 (seconds 100) (seconds 5)) p := ⟨_,rfl⟩
    obtain ⟨p,hset⟩ := hset
    exact h.2 (by decide) (oneReading 5) (oneReading 6) .second (redisAt (seconds 106)) _ p
      (Config.reach_schedule (fun _ _ _ _ _ hcheck => of_decide_eq_true hcheck) _ _) rfl hset
      (by decide +kernel) (by decide +kernel)

/-- The first client deletes the lock of the second, which is left with a lock that has not expired,
as is the third. -/
theorem one_reading_two_locks :
    LockReach ⟨3,3,false⟩ threeClients (oneReading 11) ∧
      (oneReading 11).shared.deletions = [(.first,some .second)] ∧
      (oneReading 11).shared.held .second = some (seconds 100,seconds 111) ∧
      (oneReading 11).shared.held .third = some (seconds 107,seconds 113) ∧
      (oneReading 11).shared.clock = seconds 108 ∧ ¬ LockSafe (oneReading 11).shared := by
  have hdeleted : (oneReading 11).shared.deletions = [(.first,some .second)] := by decide +kernel
  refine ⟨Config.reach_schedule (fun _ _ _ _ _ hcheck => of_decide_eq_true hcheck) _ _,hdeleted,
    by decide +kernel,by decide +kernel,by decide +kernel,fun hsafe => ?_⟩
  have hown := hsafe.own (.first,some .second) (by rw [hdeleted]; exact List.mem_singleton_self _)
  exact absurd hown (by decide)

end OneReading

end TicketRemaster.Verification
