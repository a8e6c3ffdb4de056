import TicketRemaster.Lib.Interleaving
set_option autoImplicit false

/-! The pool of gRPC channels of the ticket purchase orchestrator, one critical section and one read
or write of a global at a time, while the address is configured anew any number of times. -/

namespace TicketRemaster.Purchase

open Resumption

structure Address where
  host : Nat
  port : Nat
  deriving DecidableEq, Repr

structure Channel where
  id : Nat
  address : Address
  deriving DecidableEq, Repr

inductive PoolOp where
  | readHost
  | readPort
  | readGrpcHost
  | closeAll
  | writeGrpcHost (address : Address)
  | pop
  | create (address : Address)
  | use (channel : Channel)
  | giveBack (channel : Channel)
  | configure (address : Address)
  deriving DecidableEq

@[reducible] def PoolOp.Ans : PoolOp → Type
  | .readHost => Nat
  | .readPort => Nat
  | .readGrpcHost => Option Address
  | .pop => Option Channel
  | .create _ => Channel
  | _ => Unit

@[reducible] def PoolIf : Interface := ⟨PoolOp,PoolOp.Ans⟩

abbrev PoolProg (α : Type) := Prog PoolIf Empty α

/-- `_get_grpc_channel` from where it remembers the address. -/
def takeChannel (address : Address) : PoolProg Channel :=
  .call (.writeGrpcHost address) fun _ =>
  .call .pop fun
    | some channel => .ret channel
    | none => .call (.create address) .ret

/-- `_get_grpc_channel`. -/
def getGrpcChannel : PoolProg Channel :=
  .call .readHost fun host =>
  .call .readPort fun port =>
  .call .readGrpcHost fun known =>
    if known.isSome then
      .call .readGrpcHost fun known =>
        if known ≠ some ⟨host,port⟩ then .call .closeAll fun _ => takeChannel ⟨host,port⟩
        else takeChannel ⟨host,port⟩
    else takeChannel ⟨host,port⟩

/-- `_return_grpc_channel`. -/
def returnGrpcChannel (channel : Channel) : PoolProg Unit := .call (.giveBack channel) .ret

/-- A request to the seat inventory, or a change of the address. -/
inductive PoolRequest where
  | call
  | configure (address : Address)

def PoolRequest.program : PoolRequest → PoolProg Unit
  | .call => do
      let channel ← getGrpcChannel
      .call (.use channel) fun _ => returnGrpcChannel channel
  | .configure address => .call (.configure address) .ret

/-- The globals, the newest channel of the pool first, and the configured address. Nobody reads
which channels are closed, how often the address has changed, and how often it had when a
participant read it. -/
structure PoolState (ι : Type) where
  config : Address
  grpcHost : Option Address
  pool : List Channel
  nextId : Nat
  closed : List Nat
  changes : Nat
  seen : ι → Option Nat

section Server

variable (ι : Type) [DecidableEq ι] (maxSize : Nat)

def poolServe (i : ι) (s : PoolState ι) : (q : PoolOp) → q.Ans × PoolState ι
  | .readHost => (s.config.host,{ s with seen := Function.update s.seen i (some s.changes) })
  | .readPort => (s.config.port,s)
  | .readGrpcHost => (s.grpcHost,s)
  | .closeAll => ((),{ s with pool := [], closed := s.pool.map (·.id) ++ s.closed })
  | .writeGrpcHost address => ((),{ s with grpcHost := some address })
  | .pop => (s.pool.head?,{ s with pool := s.pool.tail })
  | .create address => (⟨s.nextId,address⟩,{ s with nextId := s.nextId+1 })
  | .use _ => ((),s)
  | .giveBack channel =>
      ((),if s.pool.length < maxSize then { s with pool := channel :: s.pool }
        else { s with closed := channel.id :: s.closed })
  | .configure address => ((),{ s with config := address, changes := s.changes+1 })

def poolServer : Server PoolIf ι Unit (PoolState ι) where
  ready _ _ _ _ := true
  serve i _ s q := poolServe ι maxSize i s q

end Server

section History

/-- The channel that a participant has and has not given back. -/
def held : List (Entry PoolIf) → Option Channel
  | [] => none
  | ⟨.pop,some channel⟩ :: _ => some channel
  | ⟨.create _,channel⟩ :: _ => some channel
  | ⟨.giveBack _,_⟩ :: _ => none
  | _ :: h => held h

def writes : Entry PoolIf → Bool
  | ⟨.writeGrpcHost _,_⟩ => true
  | _ => false

def pops : Entry PoolIf → Bool
  | ⟨.pop,_⟩ => true
  | _ => false

/-- It has written an address to `_GRPC_HOST`, and will look into the pool. -/
def about (h : List (Entry PoolIf)) : Bool := h.any writes && !h.any pops

def hostRead : Entry PoolIf → Option Nat
  | ⟨.readHost,host⟩ => some host
  | _ => none

def portRead : Entry PoolIf → Option Nat
  | ⟨.readPort,port⟩ => some port
  | _ => none

def HasRead (h : List (Entry PoolIf)) (address : Address) : Prop :=
  (∃ x ∈ h, hostRead x = some address.host) ∧ ∃ x ∈ h, portRead x = some address.port

theorem HasRead.cons {h : List (Entry PoolIf)} {address : Address} (hr : HasRead h address)
    (x : Entry PoolIf) : HasRead (x :: h) address := by
  obtain ⟨⟨y,hy,hhost⟩,z,hz,hport⟩ := hr
  exact ⟨⟨y,.tail _ hy,hhost⟩,z,.tail _ hz,hport⟩

def PoolOk (h : List (Entry PoolIf)) : PoolOp → Prop
  | .writeGrpcHost address => held h = none ∧ HasRead h address ∧ h.any pops = false
  | .pop => held h = none ∧ about h
  | .create address => held h = none ∧ HasRead h address
  | .giveBack channel => held h = some channel
  | .use channel => held h = some channel
  | .readHost => h = []
  | _ => held h = none

abbrev PoolFollows {α : Type} (p : PoolProg α) (fin : α → List (Entry PoolIf) → Prop)
    (h : List (Entry PoolIf)) : Prop :=
  p.Follows PoolOk (fun _ _ _ => True) fin (fun _ _ => True) h

theorem takeChannel_follows {address : Address} {h : List (Entry PoolIf)} (hheld : held h = none)
    (hread : HasRead h address) (hpops : h.any pops = false) :
    PoolFollows (takeChannel address) (fun channel h => held h = some channel) h := by
  refine ⟨⟨hheld,hread,hpops⟩,fun _ _ => ⟨⟨hheld,?_⟩,fun answer _ => ?_⟩⟩
  · simp [about,writes,pops,hpops]
  cases answer with
  | some channel => rfl
  | none => exact ⟨⟨hheld,(hread.cons _).cons _⟩,fun channel _ => rfl⟩

theorem getGrpcChannel_follows :
    PoolFollows getGrpcChannel (fun channel h => held h = some channel) [] := by
  refine ⟨rfl,fun host _ => ⟨rfl,fun port _ => ?_⟩⟩
  have hread : HasRead [⟨.readPort,port⟩,⟨.readHost,host⟩] ⟨host,port⟩ :=
    ⟨⟨_,.tail _ (.head _),rfl⟩,_,.head _,rfl⟩
  refine ⟨rfl,fun known _ => ?_⟩
  refine Prog.follows_ite (fun _ => ⟨rfl,fun known' _ => ?_⟩) fun _ => ?_
  · refine Prog.follows_ite (fun _ => ⟨rfl,fun _ _ => ?_⟩) fun _ => ?_
    · exact takeChannel_follows rfl (((hread.cons _).cons _).cons _) rfl
    · exact takeChannel_follows rfl ((hread.cons _).cons _) rfl
  · exact takeChannel_follows rfl (hread.cons _) rfl

theorem program_follows (r : PoolRequest) : PoolFollows r.program (fun _ _ => True) [] := by
  cases r with
  | configure address => exact ⟨rfl,fun _ _ => trivial⟩
  | call =>
    refine Prog.follows_bind.mpr (getGrpcChannel_follows.mono (fun channel h hheld => ?_)
      (fun _ _ => id))
    exact ⟨hheld,fun _ _ => ⟨hheld,fun _ _ => trivial⟩⟩

end History

section Safe

variable {ι : Type} [DecidableEq ι] {maxSize : Nat}

/-- The pool is small enough, every open channel is in one place, and no closed one is in any. -/
structure PoolSafe (maxSize : Nat) (s : PoolState ι) (past : ι → List (Entry PoolIf)) : Prop where
  size : s.pool.length ≤ maxSize
  distinct : (s.pool.map (·.id)).Nodup
  pooled : ∀ channel ∈ s.pool, channel.id ∉ s.closed ∧ channel.id < s.nextId
  taken : ∀ i channel, held (past i) = some channel →
    channel.id ∉ s.closed ∧ channel.id < s.nextId ∧ ∀ other ∈ s.pool, other.id ≠ channel.id
  apart : ∀ i j channel other, held (past i) = some channel → held (past j) = some other →
    channel.id = other.id → i = j
  closedOld : ∀ n ∈ s.closed, n < s.nextId

variable {s s' : PoolState ι} {past : ι → List (Entry PoolIf)} {i : ι}

theorem PoolSafe.quiet (h : PoolSafe maxSize s past) {x : Entry PoolIf}
    (hx : held (x :: past i) = held (past i)) (hpool : s'.pool = s.pool)
    (hclosed : s'.closed = s.closed) (hnext : s'.nextId = s.nextId) :
    PoolSafe maxSize s' (Function.update past i (x :: past i)) := by
  have hheld : ∀ j, held (Function.update past i (x :: past i) j) = held (past j) := by
    intro j
    by_cases hj : j = i
    · subst hj
      rw [Function.update_self,hx]
    · rw [Function.update_of_ne hj]
  obtain ⟨hsize,hdistinct,hpooled,htaken,hapart,hold⟩ := h
  constructor
  all_goals simp only [hpool,hclosed,hnext,hheld]
  all_goals assumption

theorem PoolSafe.take (h : PoolSafe maxSize s past) {x : Entry PoolIf} {channel : Channel}
    (hnone : held (past i) = none) (hx : held (x :: past i) = some channel)
    (hsub : s'.pool.Sublist s.pool) (hclosed : s'.closed = s.closed) (hnext : s.nextId ≤ s'.nextId)
    (hnew : channel.id ∉ s.closed ∧ channel.id < s'.nextId ∧
      ∀ other ∈ s'.pool, other.id ≠ channel.id)
    (hothers : ∀ j other, held (past j) = some other → channel.id ≠ other.id) :
    PoolSafe maxSize s' (Function.update past i (x :: past i)) := by
  have hheld : ∀ j other, held (Function.update past i (x :: past i) j) = some other →
      j = i ∧ other = channel ∨ j ≠ i ∧ held (past j) = some other := by
    intro j other hj
    by_cases hji : j = i
    · subst hji
      rw [Function.update_self,hx] at hj
      exact .inl ⟨rfl,(Option.some.inj hj).symm⟩
    · rw [Function.update_of_ne hji] at hj
      exact .inr ⟨hji,hj⟩
  constructor
  · exact Nat.le_trans hsub.length_le h.size
  · exact h.distinct.sublist (hsub.map _)
  · intro other hother
    obtain ⟨hopen,hlt⟩ := h.pooled other (hsub.subset hother)
    exact ⟨by rwa [hclosed],Nat.lt_of_lt_of_le hlt hnext⟩
  · intro j other hj
    rw [hclosed]
    rcases hheld j other hj with ⟨-,rfl⟩ | ⟨-,hj⟩
    · exact hnew
    · obtain ⟨hopen,hlt,hpool⟩ := h.taken j other hj
      exact ⟨hopen,Nat.lt_of_lt_of_le hlt hnext,
        fun other' hother => hpool other' (hsub.subset hother)⟩
  · intro j k a b hj hk hab
    rcases hheld j a hj with ⟨hji,rfl⟩ | ⟨-,hj'⟩ <;> rcases hheld k b hk with ⟨hki,rfl⟩ | ⟨-,hk'⟩
    · rw [hji,hki]
    · exact absurd hab (hothers k b hk')
    · exact absurd hab.symm (hothers j a hj')
    · exact h.apart j k a b hj' hk' hab
  · intro n hn
    rw [hclosed] at hn
    exact Nat.lt_of_lt_of_le (h.closedOld n hn) hnext

/-- Participant `i` gives its channel back, to the pool or to be closed. -/
theorem PoolSafe.give (h : PoolSafe maxSize s past) {x : Entry PoolIf} {channel : Channel}
    (hheld : held (past i) = some channel) (hx : held (x :: past i) = none)
    (hs' : s' = if s.pool.length < maxSize then { s with pool := channel :: s.pool }
      else { s with closed := channel.id :: s.closed }) :
    PoolSafe maxSize s' (Function.update past i (x :: past i)) := by
  have hothers : ∀ j other, held (Function.update past i (x :: past i) j) = some other →
      j ≠ i ∧ held (past j) = some other := by
    intro j other hj
    by_cases hji : j = i
    · subst hji
      rw [Function.update_self,hx] at hj
      cases hj
    · rw [Function.update_of_ne hji] at hj
      exact ⟨hji,hj⟩
  have happart : ∀ j other, held (past j) = some other → j ≠ i → channel.id ≠ other.id :=
    fun j other hj hji heq => hji (h.apart i j channel other hheld hj heq).symm
  obtain ⟨hopen,hlt,hpool⟩ := h.taken i channel hheld
  split at hs' <;> subst hs'
  · rename_i hroom
    constructor
    · exact hroom
    · exact List.nodup_cons.mpr ⟨by simpa using hpool,h.distinct⟩
    · exact List.forall_mem_cons.mpr ⟨⟨hopen,hlt⟩,h.pooled⟩
    · intro j other hj
      obtain ⟨hji,hj⟩ := hothers j other hj
      obtain ⟨hopen',hlt',hpool'⟩ := h.taken j other hj
      exact ⟨hopen',hlt',List.forall_mem_cons.mpr ⟨happart j other hj hji,hpool'⟩⟩
    · intro j k a b hj hk hab
      exact h.apart j k a b (hothers j a hj).2 (hothers k b hk).2 hab
    · exact h.closedOld
  · constructor
    · exact h.size
    · exact h.distinct
    · intro other hother
      obtain ⟨hopen',hlt'⟩ := h.pooled other hother
      exact ⟨by simpa using ⟨hpool other hother,hopen'⟩,hlt'⟩
    · intro j other hj
      obtain ⟨hji,hj⟩ := hothers j other hj
      obtain ⟨hopen',hlt',hpool'⟩ := h.taken j other hj
      exact ⟨by simpa using ⟨(happart j other hj hji).symm,hopen'⟩,hlt',hpool'⟩
    · intro j k a b hj hk hab
      exact h.apart j k a b (hothers j a hj).2 (hothers k b hk).2 hab
    · exact List.forall_mem_cons.mpr ⟨hlt,h.closedOld⟩

/-- The channels of the pool are closed, and it is emptied. -/
theorem PoolSafe.closeAll (h : PoolSafe maxSize s past) {x : Entry PoolIf}
    (hx : held (x :: past i) = held (past i)) :
    PoolSafe maxSize { s with pool := [], closed := s.pool.map (·.id) ++ s.closed }
      (Function.update past i (x :: past i)) := by
  have hclosed : PoolSafe maxSize { s with pool := [], closed := s.pool.map (·.id) ++ s.closed }
      past := by
    constructor
    · exact Nat.zero_le _
    · exact List.nodup_nil
    · simp
    · intro j channel hj
      obtain ⟨hopen,hlt,hpool⟩ := h.taken j channel hj
      refine ⟨fun hmem => ?_,hlt,by simp⟩
      rcases List.mem_append.mp hmem with hmem | hmem
      · obtain ⟨other,hother,heq⟩ := List.mem_map.mp hmem
        exact hpool other hother heq
      · exact hopen hmem
    · exact h.apart
    · intro n hn
      rcases List.mem_append.mp hn with hn | hn
      · obtain ⟨other,hother,rfl⟩ := List.mem_map.mp hn
        exact (h.pooled other hother).2
      · exact h.closedOld n hn
  exact hclosed.quiet hx rfl rfl rfl

theorem poolSafe_keeps : Keeps (poolServer ι maxSize) Config.anyStep (fun _ => PoolOk)
    (fun _ _ _ _ => True) (PoolSafe maxSize) := by
  intro s past i e q h _ _ hok
  refine ⟨trivial,?_⟩
  cases q with
  | pop =>
    obtain ⟨hnone,-⟩ := hok
    cases hpool : s.pool with
    | nil =>
      simp only [poolServer,poolServe,hpool,List.head?_nil,List.tail_nil]
      exact h.quiet rfl hpool.symm rfl rfl
    | cons channel rest =>
      simp only [poolServer,poolServe,hpool,List.head?_cons,List.tail_cons]
      have hmem : channel ∈ s.pool := by simp [hpool]
      have hdistinct := h.distinct
      rw [hpool,List.map_cons,List.nodup_cons] at hdistinct
      obtain ⟨hopen,hlt⟩ := h.pooled channel hmem
      refine h.take hnone rfl (hpool ▸ List.sublist_cons_self channel rest) rfl (Nat.le_refl _)
        ⟨hopen,hlt,fun other hother heq => hdistinct.1 (List.mem_map.mpr ⟨other,hother,heq⟩)⟩
        fun j other hj => (h.taken j other hj).2.2 channel hmem
  | create address =>
    refine h.take hok.1 rfl (List.Sublist.refl _) rfl (Nat.le_succ _)
      ⟨fun hmem => Nat.lt_irrefl _ (h.closedOld _ hmem),Nat.lt_succ_self _,
        fun other hother => Nat.ne_of_lt (h.pooled other hother).2⟩
      fun j other hj => (Nat.ne_of_lt (h.taken j other hj).2.1).symm
  | giveBack channel => exact h.give hok rfl rfl
  | closeAll => exact h.closeAll rfl
  | _ => exact h.quiet rfl rfl rfl rfl

end Safe

section Current

variable {ι : Type} [DecidableEq ι] {maxSize : Nat}

/-- The participant has read the configured address, and is about to look into the pool. -/
def Waiting (s : PoolState ι) (past : ι → List (Entry PoolIf)) (i : ι) : Prop :=
  s.seen i = some s.changes ∧ about (past i) = true

/-- A channel goes back to the pool if it is to the remembered address, and an address is remembered
while the pool has no channels to others, and no outdated one while somebody waits. -/
def Orderly (maxSize : Nat) (s : PoolState ι) (past : ι → List (Entry PoolIf)) (_i : ι)
    (_e : Unit) : PoolOp → Prop
  | .giveBack channel => s.pool.length < maxSize → s.grpcHost = some channel.address
  | .writeGrpcHost address =>
      (∀ channel ∈ s.pool, channel.address = address) ∧
        ∀ j, Waiting s past j → address = s.config
  | _ => True

/-- The pool's channels are to the remembered address, and that is the configured one while somebody
waits. -/
structure PoolCurrent (s : PoolState ι) (past : ι → List (Entry PoolIf)) : Prop where
  pool : ∀ channel ∈ s.pool, s.grpcHost = some channel.address
  seen : ∀ i n, s.seen i = some n → n ≤ s.changes
  waiting : ∀ i, Waiting s past i → s.grpcHost = some s.config
  host : ∀ i, s.seen i = some s.changes → ∀ x ∈ past i, ∀ n, hostRead x = some n →
    n = s.config.host
  port : ∀ i, s.seen i = some s.changes → ∀ x ∈ past i, ∀ n, portRead x = some n →
    n = s.config.port

variable {s s' : PoolState ι} {past : ι → List (Entry PoolIf)} {i : ι}

omit [DecidableEq ι] in
theorem PoolCurrent.hasRead (h : PoolCurrent s past) {address : Address}
    (hseen : s.seen i = some s.changes) (hread : HasRead (past i) address) :
    address = s.config := by
  obtain ⟨⟨x,hx,hhost⟩,y,hy,hport⟩ := hread
  cases address
  rw [Address.mk.injEq]
  exact ⟨h.host i hseen x hx _ hhost,h.port i hseen y hy _ hport⟩

/-- A step that leaves the configured address, and who has read it, as they are. -/
theorem PoolCurrent.step (h : PoolCurrent s past) {x : Entry PoolIf}
    (hconfig : s'.config = s.config) (hchanges : s'.changes = s.changes) (hseen : s'.seen = s.seen)
    (hpool : ∀ channel ∈ s'.pool, s'.grpcHost = some channel.address)
    (hwaiting : ∀ j, Waiting s past j ∨ writes x = true ∧ j = i ∧ s.seen i = some s.changes →
      s'.grpcHost = some s.config)
    (hhost : ∀ n, hostRead x = some n → n = s.config.host)
    (hport : ∀ n, portRead x = some n → n = s.config.port) :
    PoolCurrent s' (Function.update past i (x :: past i)) := by
  have hpast : ∀ j y, y ∈ Function.update past i (x :: past i) j → y = x ∨ y ∈ past j := by
    intro j y hy
    by_cases hj : j = i
    · subst hj
      rw [Function.update_self] at hy
      exact List.mem_cons.mp hy
    · rw [Function.update_of_ne hj] at hy
      exact .inr hy
  constructor
  · exact hpool
  · rw [hseen,hchanges]
    exact h.seen
  · rintro j ⟨hj,habout⟩
    rw [hseen,hchanges] at hj
    rw [hconfig]
    refine hwaiting j ?_
    by_cases hji : j = i
    · subst hji
      simp only [about,Function.update_self,List.any_cons,Bool.and_eq_true,Bool.or_eq_true,
        Bool.not_or] at habout
      obtain ⟨hw | hw,-,hpops⟩ := habout
      · exact .inr ⟨hw,rfl,hj⟩
      · exact .inl ⟨hj,by simpa [about,hw] using hpops⟩
    · rw [Function.update_of_ne hji] at habout
      exact .inl ⟨hj,habout⟩
  · intro j hj y hy n hn
    rw [hseen,hchanges] at hj
    rw [hconfig]
    rcases hpast j y hy with rfl | hy
    · exact hhost n hn
    · exact h.host j hj y hy n hn
  · intro j hj y hy n hn
    rw [hseen,hchanges] at hj
    rw [hconfig]
    rcases hpast j y hy with rfl | hy
    · exact hport n hn
    · exact h.port j hj y hy n hn

theorem PoolCurrent.move (h : PoolCurrent s past) {x : Entry PoolIf} (hwrites : writes x = false)
    (hhost : hostRead x = none) (hport : portRead x = none) (hconfig : s'.config = s.config)
    (hchanges : s'.changes = s.changes) (hseen : s'.seen = s.seen)
    (hgrpc : s'.grpcHost = s.grpcHost)
    (hpool : ∀ channel ∈ s'.pool, s.grpcHost = some channel.address) :
    PoolCurrent s' (Function.update past i (x :: past i)) := by
  refine h.step hconfig hchanges hseen (by rwa [hgrpc]) (fun j hj => ?_) (by simp [hhost])
    (by simp [hport])
  rw [hgrpc]
  exact h.waiting j (hj.resolve_right (by simp [hwrites]))

/-- A participant begins with reading the host, and has read nothing before. -/
theorem PoolCurrent.begin (h : PoolCurrent s past) (hi : past i = []) :
    PoolCurrent { s with seen := Function.update s.seen i (some s.changes) }
      (Function.update past i [⟨.readHost,s.config.host⟩]) := by
  constructor
  · exact h.pool
  · intro j n hj
    by_cases hji : j = i
    · subst hji
      simp only [Function.update_self,Option.some.injEq] at hj
      exact Nat.le_of_eq hj.symm
    · simp only [Function.update_of_ne hji] at hj
      exact h.seen j n hj
  · rintro j ⟨hj,habout⟩
    by_cases hji : j = i
    · subst hji
      simp [about,writes] at habout
    · simp only [Function.update_of_ne hji] at hj habout
      exact h.waiting j ⟨hj,habout⟩
  all_goals
    intro j hj
    by_cases hji : j = i
    · subst hji
      simp [hostRead,portRead]
    · simp only [Function.update_of_ne hji] at hj ⊢
      first
      | exact h.host j hj
      | exact h.port j hj

omit [DecidableEq ι] in
/-- After a change, nobody has read the address yet. -/
theorem PoolCurrent.configure (h : PoolCurrent s past) (address : Address)
    (past' : ι → List (Entry PoolIf)) :
    PoolCurrent { s with config := address, changes := s.changes+1 } past' := by
  have hnobody : ∀ j, s.seen j ≠ some (s.changes+1) :=
    fun j hj => Nat.not_succ_le_self _ (h.seen j _ hj)
  exact ⟨h.pool,fun j n hj => Nat.le_succ_of_le (h.seen j n hj),
    fun j hj => absurd hj.1 (hnobody j),fun j hj => absurd hj (hnobody j),
    fun j hj => absurd hj (hnobody j)⟩

theorem poolCurrent_keeps : Keeps (poolServer ι maxSize) (Orderly maxSize) (fun _ => PoolOk)
    (fun _ _ _ _ => True) PoolCurrent := by
  intro s past i e q h _ horderly hok
  refine ⟨trivial,?_⟩
  cases q with
  | readHost =>
    have hi : past i = [] := hok
    rw [hi]
    exact h.begin hi
  | readPort =>
    refine h.step rfl rfl rfl h.pool (fun j hj => ?_) (by simp [hostRead]) ?_
    · exact h.waiting j (hj.resolve_right (by simp [writes]))
    · intro n hn
      exact (Option.some.inj hn).symm
  | writeGrpcHost address =>
    obtain ⟨hpool,hothers⟩ := horderly
    refine h.step rfl rfl rfl (fun channel hchannel => ?_) (fun j hj => ?_) (by simp [hostRead])
      (by simp [portRead])
    · exact congrArg some (hpool channel hchannel).symm
    · rcases hj with hj | ⟨-,-,hi⟩
      · exact congrArg some (hothers j hj)
      · exact congrArg some (h.hasRead hi hok.2.1)
  | configure address => exact h.configure address _
  | giveBack channel =>
    simp only [poolServer,poolServe]
    split
    · rename_i hroom
      exact h.move rfl rfl rfl rfl rfl rfl rfl (List.forall_mem_cons.mpr ⟨horderly hroom,h.pool⟩)
    · exact h.move rfl rfl rfl rfl rfl rfl rfl h.pool
  | pop =>
    exact h.move rfl rfl rfl rfl rfl rfl rfl
      fun channel hchannel => h.pool channel (List.mem_of_mem_tail hchannel)
  | closeAll => exact h.move rfl rfl rfl rfl rfl rfl rfl (by simp [poolServer,poolServe])
  | _ => exact h.move rfl rfl rfl rfl rfl rfl rfl h.pool

/-- A channel that is handed out to somebody who has read the configured address is to it. -/
theorem PoolCurrent.handed (h : PoolCurrent s past) {q : PoolOp} {channel : Channel}
    (hok : PoolOk (past i) q) (hnone : held (past i) = none)
    (hheld : held (⟨q,(poolServe ι maxSize i s q).1⟩ :: past i) = some channel)
    (hseen : s.seen i = some s.changes) : channel.address = s.config := by
  cases q with
  | pop =>
    cases hpool : s.pool.head? with
    | none =>
      simp only [poolServe,hpool,held,hnone] at hheld
      cases hheld
    | some first =>
      simp only [poolServe,hpool,held,Option.some.injEq] at hheld
      subst hheld
      have haddress := h.pool first (List.mem_of_head? hpool)
      rw [h.waiting i ⟨hseen,hok.2⟩] at haddress
      exact (Option.some.inj haddress).symm
  | create address =>
    simp only [poolServe,held,Option.some.injEq] at hheld
    subst hheld
    exact h.hasRead hseen hok.2
  | giveBack other => cases hheld
  | _ =>
    simp only [held,hnone] at hheld
    cases hheld

end Current

section Run

variable {ι : Type} [DecidableEq ι]

abbrev PoolRun (ι : Type) := Config ι PoolIf Empty Unit (PoolState ι)

def startPool (config : Address) (requests : ι → PoolRequest) : PoolRun ι :=
  .start ⟨config,none,[],0,[],0,fun _ => none⟩ fun i => (requests i).program

omit [DecidableEq ι] in
theorem poolSafe_start (maxSize : Nat) (config : Address) :
    PoolSafe (ι := ι) maxSize ⟨config,none,[],0,[],0,fun _ => none⟩ fun _ => [] where
  size := Nat.zero_le _
  distinct := List.nodup_nil
  pooled := by simp
  taken i channel h := by cases h
  apart i j channel other h := by cases h
  closedOld := by simp

omit [DecidableEq ι] in
theorem poolCurrent_start (config : Address) :
    PoolCurrent (ι := ι) ⟨config,none,[],0,[],0,fun _ => none⟩ fun _ => [] where
  pool := by simp
  seen i n h := by cases h
  waiting i h := by cases h.1
  host i h := by cases h
  port i h := by cases h

end Run

/-- The pool keeps to its size, no channel is in two hands, and none that is closed is in any. And
if channels only go back to the pool when they are to the remembered address, and an address is only
remembered when the pool has no channel to another, and no outdated one while a request is about to
take a channel, a request gets a channel to the address it has read, unless that has changed. -/
theorem channels_exclusive_and_current {ι : Type} [DecidableEq ι] (maxSize : Nat)
    (config : Address) (requests : ι → PoolRequest) :
    (∀ c, Config.Reach (poolServer ι maxSize) Config.anyStep (startPool config requests) c →
      PoolSafe maxSize c.shared c.past) ∧
    ∀ c d i e channel,
      Config.Reach (poolServer ι maxSize) (Orderly maxSize) (startPool config requests) c →
      c.advance (poolServer ι maxSize) i e = some d →
      held (c.past i) = none → held (d.past i) = some channel →
      c.shared.seen i = some c.shared.changes → channel.address = c.shared.config := by
  constructor
  · intro c hc
    have hstart : (startPool config requests).Disciplined (fun _ => PoolOk) (fun _ _ _ _ => True)
        (fun _ _ _ => True) (fun _ _ _ => True) (PoolSafe maxSize) :=
      Config.disciplined_start (poolSafe_start maxSize config) fun i => program_follows _
    exact (hstart.reach poolSafe_keeps hc).1
  · intro c d i e channel hc hadv hnone hheld hseen
    have hstart : (startPool config requests).Disciplined (fun _ => PoolOk) (fun _ _ _ _ => True)
        (fun _ _ _ => True) (fun _ _ _ => True) PoolCurrent :=
      Config.disciplined_start (poolCurrent_start config) fun i => program_follows _
    obtain ⟨hcurrent,hfollows⟩ := hstart.reach poolCurrent_keeps hc
    obtain ⟨q,k,hq,-,rfl⟩ := Config.advance_cases hadv
    have hok := hfollows i
    rw [hq] at hok
    rw [Config.past_update,Function.update_self] at hheld
    exact hcurrent.handed hok.1 hnone hheld hseen

section Moved

/-- The third participant moves the service to another host; the others call it. -/
def movers (n : Nat) : PoolRequest := if n = 3 then .configure ⟨2,50051⟩ else .call

def runPool (check : PoolState Nat → (Nat → List (Entry PoolIf)) → Nat → Unit → PoolOp → Bool)
    (moves : List Nat) : PoolRun Nat :=
  (startPool ⟨1,50051⟩ movers).schedule (poolServer Nat 5) check (moves.map fun n => (n,()))

/-- Addresses are only remembered while they are configured and the pool has no other channels. -/
def settled (s : PoolState Nat) (_past : Nat → List (Entry PoolIf)) (_i : Nat) (_e : Unit) :
    PoolOp → Bool
  | .giveBack channel => s.grpcHost = some channel.address
  | .writeGrpcHost address => address = s.config && s.pool.all (·.address = address)
  | _ => true

/-- The second request has looked at the address, and is about to take what the first gave back. -/
def reusing : PoolRun Nat :=
  runPool settled ([0,0,0,0,0,0,0,0] ++ [1,1,1,1,1])

/-- While request 0 has a channel, the service is moved and request 1 takes note of that; request 0
gives its channel back, and request 2 is about to take it. -/
def outdated : PoolRun Nat :=
  runPool (fun _ _ _ _ _ => true)
    ([0,0,0,0,0,0] ++ [3] ++ [1,1,1,1,1,1,1,1] ++ [0,0] ++ [2,2,2,2,2])

theorem channels_exclusive_and_current_reusing :
    ∃ d, reusing.advance (poolServer Nat 5) 1 () = some d ∧
      held (d.past 1) = some ⟨0,⟨1,50051⟩⟩ ∧ (⟨1,50051⟩ : Address) = reusing.shared.config := by
  have hreach : Config.Reach (poolServer Nat 5) (Orderly 5) (startPool ⟨1,50051⟩ movers)
      reusing := by
    refine Config.reach_schedule (fun s past i e q hq => ?_) _ _
    cases q with
    | giveBack channel => exact fun _ => by simpa [settled] using hq
    | writeGrpcHost address =>
      simp only [settled,Bool.and_eq_true,decide_eq_true_eq,List.all_eq_true] at hq
      exact ⟨hq.2,fun _ _ => hq.1⟩
    | _ => trivial
  have hadv : reusing.advance (poolServer Nat 5) 1 () =
      some ((reusing.advance (poolServer Nat 5) 1 ()).get (by decide +kernel)) := by simp
  have hheld : held (((reusing.advance (poolServer Nat 5) 1 ()).get (by decide +kernel)).past 1) =
      some ⟨0,⟨1,50051⟩⟩ := by decide +kernel
  exact ⟨_,hadv,hheld,(channels_exclusive_and_current 5 ⟨1,50051⟩ movers).2 _ _ _ _ _ hreach hadv
    (by decide +kernel) hheld (by decide +kernel)⟩

/-- Request 2 has read the new address, and gets a channel to the old one. -/
theorem outdated_channel_handed_out :
    ∃ d, Config.Reach (poolServer Nat 5) Config.anyStep (startPool ⟨1,50051⟩ movers) outdated ∧
      outdated.advance (poolServer Nat 5) 2 () = some d ∧ held (outdated.past 2) = none ∧
      held (d.past 2) = some ⟨0,⟨1,50051⟩⟩ ∧
      outdated.shared.seen 2 = some outdated.shared.changes ∧
      outdated.shared.grpcHost = some ⟨2,50051⟩ ∧ outdated.shared.config = ⟨2,50051⟩ :=
  ⟨(outdated.advance (poolServer Nat 5) 2 ()).get (by decide +kernel),
    Config.reach_schedule (fun _ _ _ _ _ _ => trivial) _ _,by simp,by decide +kernel,
    by decide +kernel,by decide +kernel,by decide +kernel,by decide +kernel⟩

end Moved

end TicketRemaster.Purchase
