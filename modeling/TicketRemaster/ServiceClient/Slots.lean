import TicketRemaster.ServiceClient.Client
set_option autoImplicit false

/-! Any number of calls of the HTTP client and the pool that does their work: what becomes of the
slots. -/

namespace TicketRemaster.ServiceClient

open Resumption

/-- A call takes part twice: its caller, and the work item that it submits. -/
inductive Party (ι : Type) where
  | caller (i : ι)
  | worker (i : ι)
  deriving DecidableEq, Repr

def Party.callOf {ι : Type} : Party ι → ι
  | .caller i | .worker i => i

/-- The bounded semaphore, the queue of the pool, the calls that its threads are at work for, and
what the futures have got. -/
structure Pool (ι : Type) where
  free : Nat
  queue : List (ι × Task)
  threads : List ι
  futures : ι → Option Outcome

/-- What the outside decides at a step. -/
structure Outside where
  monotonic : Seconds
  jitter : Seconds
  admitted : Bool
  exchange : Exchange
  interrupted : Option Failure
  submitRaises : Bool
  timedOut : Bool

namespace Pool

variable {ι : Type} [DecidableEq ι]

/-- A work item starts when its turn has come and a thread is idle; a future is waited for until it
has something, or the time is up. -/
def ready (s : Pool ι) (i : ι) (e : Outside) : ClientOp → Bool
  | .begin => decide (s.queue.head?.map Prod.fst = some i ∧ s.threads.length < maxOutstandingCalls)
  | .result _ => e.timedOut || (s.futures i).isSome
  | _ => true

def noTask : Task := ⟨"",⟨"","",none,""⟩,0,⟨none,none,none,[]⟩⟩

def perform (i : ι) (e : Outside) (s : Pool ι) : (q : ClientOp) → q.Ans × Pool ι
  | .monotonic => (e.monotonic,s)
  | .uniform => (e.jitter,s)
  | .acquire => if 0 < s.free then (true,{ s with free := s.free-1 }) else (false,s)
  | .submit task =>
      if e.submitRaises then (false,s) else (true,{ s with queue := s.queue ++ [(i,task)] })
  | .result _ => (if e.timedOut then none else s.futures i,s)
  | .release =>
      if s.free < maxOutstandingCalls then (true,{ s with free := s.free+1 }) else (false,s)
  | .begin => ((s.queue.head?.map Prod.snd).getD noTask,
      { s with queue := s.queue.tail, threads := i :: s.threads })
  | .openClient _ => (e.interrupted,s)
  | .closeClient => (e.interrupted,s)
  | .enterBreaker _ => (e.admitted,s)
  | .report _ _ => ((),s)
  | .stream _ => (e.exchange,s)
  | .sleep _ => (e.interrupted,s)
  | .finish outcome => ((),{ s with
      threads := s.threads.erase i
      futures := Function.update s.futures i (some outcome) })

def server (ι : Type) [DecidableEq ι] : Server Client (Party ι) Outside (Pool ι) where
  ready s p e q := ready s p.callOf e q
  serve p e s q := perform p.callOf e s q

end Pool

/-- What a call is for. -/
structure ServiceCall where
  method : String
  url : Url
  kwargs : RequestArgs

def Party.prog {ι : Type} (cfg : ClientConfig) (loads : Bytes → Option Json)
    (calls : ι → ServiceCall) : Party ι → ClientProg (Option ServiceResult)
  | .caller i => some <$> callService cfg (calls i).method (calls i).url (calls i).kwargs
  | .worker _ => (fun _ => none) <$> workItem cfg loads

abbrev ClientRun (ι : Type) : Type :=
  Config (Party ι) Client ClientExn (Option ServiceResult) (Pool ι)

/-- All slots are free, and nothing has been submitted. -/
def Pool.idle (ι : Type) : Pool ι := ⟨maxOutstandingCalls,[],[],fun _ => none⟩

def clientRun {ι : Type} (cfg : ClientConfig) (loads : Bytes → Option Json)
    (calls : ι → ServiceCall) : ClientRun ι := .start (Pool.idle ι) (Party.prog cfg loads calls)

section Slots

def acquired : Entry Client → Bool
  | ⟨.acquire,got⟩ => got
  | _ => false

def refused : Entry Client → Bool
  | ⟨.acquire,got⟩ => !got
  | _ => false

def submitted : Entry Client → Bool
  | ⟨.submit _,accepted⟩ => accepted
  | _ => false

def released : Entry Client → Bool
  | ⟨.release,fine⟩ => fine
  | _ => false

/-- A release beyond the bound of the semaphore. -/
def overReleased : Entry Client → Bool
  | ⟨.release,fine⟩ => !fine
  | _ => false

variable {ι : Type} (past : Party ι → List (Entry Client))

/-- How often the slot of a call has been released, by its caller or by a worker. -/
def releases (i : ι) : Nat :=
  (past (.caller i)).countP released+(past (.worker i)).countP released

def HoldsSlot (i : ι) : Prop := (past (.caller i)).any acquired ∧ releases past i = 0

/-- The work of a call is in the queue, or a worker has begun with it and not released the slot. -/
def Outstanding (s : Pool ι) (i : ι) : Prop :=
  i ∈ s.queue.map Prod.fst ∨
    past (.worker i) ≠ [] ∧ (past (.worker i)).countP released = 0

/-- What the call has submitted has ended, and if it could submit nothing, the caller has. -/
def Settled (c : ClientRun ι) (i : ι) : Prop :=
  (c.past (.caller i)).any acquired →
    if (c.past (.caller i)).any submitted then c.ended (.worker i) else c.ended (.caller i)

structure SlotsKept (c : ClientRun ι) : Prop where
  withinBound : ∀ p, ¬ (c.past p).any overReleased
  once : ∀ i, releases c.past i ≤ 1 ∧ (¬ (c.past (.caller i)).any acquired → releases c.past i = 0) ∧
    ((c.past (.caller i)).any acquired → Settled c i → releases c.past i = 1)
  counted : ∃ holders : List ι, holders.Nodup ∧ (∀ i, i ∈ holders ↔ HoldsSlot c.past i) ∧
    c.shared.free+holders.length = maxOutstandingCalls
  outstanding : ∀ l : List ι, l.Nodup → (∀ i ∈ l, Outstanding c.past c.shared i) →
    l.length ≤ maxOutstandingCalls
  allFree : (∀ i, Settled c i) → c.shared.free = maxOutstandingCalls
  noRequest : ∀ i, (c.past (.caller i)).any refused → c.past (.worker i) = []

end Slots

section Discipline

/-- A caller acquires once, then submits once, and releases only what it could not submit. -/
def CallerOrder (h : List (Entry Client)) : ClientOp → Prop
  | .acquire => ¬ h.any acquired ∧ ¬ h.any refused ∧ ¬ h.any submitted ∧ h.countP released = 0
  | .submit _ => h.any acquired ∧ ¬ h.any refused ∧ ¬ h.any submitted ∧ h.countP released = 0
  | .release => h.any acquired ∧ ¬ h.any submitted ∧ h.countP released = 0
  | .monotonic | .result _ => True
  | _ => False

/-- A worker begins, and releases once. -/
def WorkerOrder (h : List (Entry Client)) : ClientOp → Prop
  | .begin => h = []
  | .release => h ≠ [] ∧ h.countP released = 0
  | .acquire | .submit _ | .result _ => False
  | _ => h ≠ []

/-- The semaphore is never released beyond its bound. -/
def FineRelease (_ : List (Entry Client)) : (q : ClientOp) → q.Ans → Prop
  | .release, fine => fine
  | _, _ => True

/-- What has been acquired is submitted or released by the end. -/
def CallerDone (h : List (Entry Client)) : Prop :=
  h.any acquired → ¬ h.any submitted → h.countP released = 1

def WorkerDone (h : List (Entry Client)) : Prop := h.countP released = 1

/-- The steps that have nothing to do with the slots. -/
def Aside : ClientOp → Prop
  | .monotonic | .uniform | .openClient _ | .closeClient | .enterBreaker _ | .report _ _
  | .stream _ | .sleep _ => True
  | _ => False

abbrev ClientProg.StaysAside {α : Type} (p : ClientProg α) : Prop := p.Calls Aside (fun _ => True)

variable (cfg : ClientConfig) (loads : Bytes → Option Json) (task : Task)

theorem interruptible_aside {α : Type} (a : α) (f : Option Failure) :
    ClientProg.StaysAside (interruptible a f) := by
  cases f <;> trivial

theorem readResponse_aside (method : String) (url : Url) (kwargs : RequestArgs) :
    ClientProg.StaysAside (readResponse loads method url kwargs) := by
  refine ⟨trivial,fun exchange => ?_⟩
  dsimp only
  cases responseJson loads method exchange <;> trivial

theorem breakerCall_aside (service : String) {func : ClientProg Json}
    (hf : ClientProg.StaysAside func) : ClientProg.StaysAside (breakerCall service func) := by
  refine ⟨trivial,fun admitted => ?_⟩
  cases admitted with
  | false => trivial
  | true =>
    refine Prog.calls_handle (Prog.calls_bind hf fun _ => ⟨trivial,fun _ => trivial⟩) fun e _ => ?_
    cases e.raised.report with
    | some q => exact ⟨trivial,fun _ => trivial⟩
    | none => trivial

theorem attempt_aside : ClientProg.StaysAside (attempt loads task) :=
  Prog.calls_handle (Prog.calls_bind (breakerCall_aside _ (readResponse_aside loads _ _ _))
    fun _ => trivial) fun _ _ => trivial

theorem backOff_aside (number left : Nat) (lastCode : String) {next : ClientProg ServiceResult}
    (hn : ClientProg.StaysAside next) :
    ClientProg.StaysAside (backOff cfg task number left lastCode next) := by
  refine Prog.calls_ite trivial ⟨trivial,fun jitter => ⟨trivial,fun now => ?_⟩⟩
  refine Prog.calls_ite trivial (Prog.calls_bind ⟨trivial,fun f => ?_⟩ fun _ => hn)
  exact interruptible_aside () f

theorem afterAttempt_aside {retry : String → ClientProg ServiceResult}
    (hr : ∀ code, ClientProg.StaysAside (retry code)) (ended : Except ClientExn Json) :
    ClientProg.StaysAside (afterAttempt task retry ended) := by
  cases ended with
  | ok result => exact ⟨trivial,fun now => Prog.calls_ite trivial trivial⟩
  | error e =>
    cases e with
    | serviceHttpError statusCode code => exact Prog.calls_ite (hr code) trivial
    | transport t => exact Prog.calls_ite (hr _) trivial
    | _ => trivial

theorem attemptLoop_aside (number : Nat) (lastCode : String) (left : Nat) :
    ClientProg.StaysAside (attemptLoop cfg loads task number lastCode left) := by
  induction left generalizing number lastCode with
  | zero => trivial
  | succ left ih =>
    refine ⟨trivial,fun now => Prog.calls_ite trivial ?_⟩
    refine Prog.calls_bind (attempt_aside loads task) fun ended => afterAttempt_aside task ?_ ended
    exact fun code => backOff_aside cfg task number left code (ih (number+1) code)

theorem callServiceAsync_aside : ClientProg.StaysAside (callServiceAsync cfg loads task) := by
  refine ⟨trivial,fun now => Prog.calls_handle (S := fun _ => True) ?_ fun e _ => ?_⟩
  · refine Prog.calls_bind ⟨trivial,interruptible_aside ()⟩ fun _ => ?_
    exact Prog.calls_ensuring (attemptLoop_aside cfg loads task _ _ _)
      ⟨trivial,interruptible_aside ()⟩
  · cases e <;> trivial

/-- The worker is at work and still has the slot. -/
def AtWork (h : List (Entry Client)) : Prop := h ≠ [] ∧ h.countP released = 0

theorem aside_follows {α : Type} {p : ClientProg α} (hp : ClientProg.StaysAside p)
    {h : List (Entry Client)} (hh : AtWork h) :
    p.Follows WorkerOrder FineRelease (fun _ => AtWork) (fun _ => AtWork) h := by
  refine (hp.follows (J := AtWork) ?_ ?_ hh).mono (fun _ _ h => h) fun _ _ h => h.2
  · intro h q hq hJ
    cases q <;> first | exact hJ.1 | exact hq.elim
  · intro h q a hq hJ
    cases q <;> first | exact ⟨List.cons_ne_nil _ _,hJ.2⟩ | exact hq.elim

theorem releaseSlot_follows {h : List (Entry Client)} (hh : AtWork h) :
    releaseSlot.Follows WorkerOrder FineRelease (fun _ h => h ≠ [] ∧ WorkerDone h)
      (fun _ _ => False) h := by
  refine ⟨hh,fun fine hfine => ?_⟩
  cases fine with
  | true =>
    refine ⟨List.cons_ne_nil _ _,?_⟩
    rw [WorkerDone,List.countP_cons,hh.2]
    rfl
  | false => cases hfine

theorem runServiceCall_follows {h : List (Entry Client)} (hh : AtWork h) :
    (runServiceCall cfg loads task).Follows WorkerOrder FineRelease
      (fun _ h => h ≠ [] ∧ WorkerDone h) (fun _ h => h ≠ [] ∧ WorkerDone h) h := by
  refine Prog.follows_ensuring.mpr ((aside_follows (Prog.calls_handle (S := fun _ => True) ?_ ?_)
    hh).mono ?_ ?_)
  · exact ⟨trivial,fun now => Prog.calls_ite trivial (callServiceAsync_aside cfg loads task)⟩
  · intro e _
    cases e <;> trivial
  · exact fun a h hJ => (releaseSlot_follows hJ).mono (fun _ _ h => h) fun _ _ hf => hf.elim
  · exact fun e h hJ => (releaseSlot_follows hJ).mono (fun _ _ h => h) fun _ _ hf => hf.elim

theorem workItem_follows : (workItem cfg loads).Follows WorkerOrder FineRelease
    (fun _ => WorkerDone) (fun _ => WorkerDone) [] := by
  refine ⟨rfl,fun task _ => ?_⟩
  refine Prog.follows_bind.mpr (Prog.follows_handle.mpr (Prog.follows_bind.mpr
    ((runServiceCall_follows cfg loads task ⟨List.cons_ne_nil _ _,rfl⟩).mono ?_ ?_)))
  · exact fun result h hd => ⟨hd.1,fun _ _ => hd.2⟩
  · exact fun e h hd => ⟨hd.1,fun _ _ => hd.2⟩

theorem callService_follows (method : String) (url : Url) (kwargs : RequestArgs) :
    (callService cfg method url kwargs).Follows CallerOrder FineRelease
      (fun _ => CallerDone) (fun _ => CallerDone) [] := by
  refine ⟨trivial,fun now _ => ?_⟩
  dsimp only
  split
  · exact fun h => by cases h
  · refine ⟨⟨by simp [acquired],by simp [refused],by simp [submitted],rfl⟩,fun got _ => ?_⟩
    cases got with
    | false => exact fun h => by cases h
    | true =>
      refine ⟨⟨rfl,by simp [refused],by simp [submitted],rfl⟩,fun accepted _ => ?_⟩
      cases accepted with
      | false =>
        refine ⟨⟨rfl,by simp [submitted],rfl⟩,fun fine hfine => ?_⟩
        cases fine with
        | true => exact fun _ _ => rfl
        | false => cases hfine
      | true =>
        refine ⟨trivial,fun now' _ => ⟨trivial,fun outcome _ => ?_⟩⟩
        rcases outcome with - | - | result
        · exact fun _ hnot => absurd rfl hnot
        · rename_i e
          cases e <;> exact fun _ hnot => absurd rfl hnot
        · exact fun _ hnot => absurd rfl hnot

end Discipline

section Invariant

/-- What the history of a caller can be. -/
structure CallerStage (h : List (Entry Client)) : Prop where
  paid : h.any submitted → h.any acquired
  decided : h.any refused → ¬ h.any acquired ∧ ¬ h.any submitted
  returned : h.countP released = 0 ∨
    h.countP released = 1 ∧ h.any acquired ∧ ¬ h.any submitted

theorem CallerStage.next {h : List (Entry Client)} (hs : CallerStage h) {q : ClientOp} {a : q.Ans}
    (hq : CallerOrder h q) : CallerStage (⟨q,a⟩ :: h) := by
  obtain ⟨hpaid,hdecided,hreturned⟩ := hs
  cases q with
  | acquire =>
    obtain ⟨hacquired,hrefused,hsubmitted,hreleased⟩ := hq
    refine ⟨fun hs => absurd hs hsubmitted,fun hr => ?_,.inl hreleased⟩
    cases a with
    | true => exact absurd hr hrefused
    | false => exact ⟨hacquired,hsubmitted⟩
  | submit task =>
    obtain ⟨hacquired,hrefused,hsubmitted,hreleased⟩ := hq
    exact ⟨fun _ => hacquired,fun hr => absurd hr hrefused,.inl hreleased⟩
  | release =>
    obtain ⟨hacquired,hsubmitted,hreleased⟩ := hq
    refine ⟨hpaid,hdecided,?_⟩
    rw [List.countP_cons,hreleased]
    cases a with
    | true => exact .inr ⟨rfl,hacquired,hsubmitted⟩
    | false => exact .inl rfl
  | monotonic | result => exact ⟨hpaid,hdecided,hreturned⟩
  | _ => exact hq.elim

variable {ι : Type}

def PartyOrder : Party ι → List (Entry Client) → ClientOp → Prop
  | .caller _ => CallerOrder
  | .worker _ => WorkerOrder

def PartyDone : Party ι → List (Entry Client) → Prop
  | .caller _ => CallerDone
  | .worker _ => WorkerDone

/-- Some calls have a slot each, and the other slots are free. -/
def Counted (free : Nat) (holds : ι → Prop) : Prop :=
  ∃ holders : List ι, holders.Nodup ∧ (∀ i, i ∈ holders ↔ holds i) ∧
    free+holders.length = maxOutstandingCalls

theorem Counted.congr {free : Nat} {holds holds' : ι → Prop} (h : Counted free holds)
    (hsame : ∀ i, holds' i ↔ holds i) : Counted free holds' := by
  obtain ⟨holders,hnodup,hmem,hsum⟩ := h
  exact ⟨holders,hnodup,fun i => (hmem i).trans (hsame i).symm,hsum⟩

theorem Counted.take {free : Nat} {holds holds' : ι → Prop} (h : Counted free holds)
    (hfree : 0 < free) {i : ι} (hi : ¬ holds i) (hnew : ∀ j, holds' j ↔ j = i ∨ holds j) :
    Counted (free-1) holds' := by
  obtain ⟨holders,hnodup,hmem,hsum⟩ := h
  refine ⟨i :: holders,List.nodup_cons.mpr ⟨fun hm => hi ((hmem i).mp hm),hnodup⟩,fun j => ?_,?_⟩
  · rw [List.mem_cons,hmem,hnew]
  · rw [List.length_cons]
    omega

/-- A slot that somebody has can be released. -/
theorem Counted.lt {free : Nat} {holds : ι → Prop} (h : Counted free holds) {i : ι}
    (hi : holds i) : free < maxOutstandingCalls := by
  obtain ⟨holders,-,hmem,hsum⟩ := h
  have hpos := List.length_pos_of_mem ((hmem i).mpr hi)
  omega

theorem Counted.give [DecidableEq ι] {free : Nat} {holds holds' : ι → Prop}
    (h : Counted free holds) {i : ι} (hi : holds i) (hnew : ∀ j, holds' j ↔ j ≠ i ∧ holds j) :
    Counted (free+1) holds' := by
  obtain ⟨holders,hnodup,hmem,hsum⟩ := h
  have hin := (hmem i).mpr hi
  have hpos := List.length_pos_of_mem hin
  refine ⟨holders.erase i,hnodup.erase i,fun j => ?_,?_⟩
  · rw [hnodup.mem_erase_iff,hmem,hnew]
  · rw [List.length_erase_of_mem hin]
    omega

/-- The slots, the queue and the histories fit together. -/
structure SlotInv (s : Pool ι) (past : Party ι → List (Entry Client)) : Prop where
  caller : ∀ i, CallerStage (past (.caller i))
  worker : ∀ i, (past (.worker i)).countP released ≤ 1
  distinct : (s.queue.map Prod.fst).Nodup
  queued : ∀ i ∈ s.queue.map Prod.fst, (past (.caller i)).any submitted ∧ past (.worker i) = []
  begun : ∀ i, past (.worker i) ≠ [] → (past (.caller i)).any submitted
  fine : ∀ p, ¬ (past p).any overReleased
  counted : Counted s.free (HoldsSlot past)

/-- A worker has only begun for a call whose caller has given its slot away. -/
theorem SlotInv.releases_eq {s : Pool ι} {past : Party ι → List (Entry Client)}
    (h : SlotInv s past) (i : ι)
    (hbegun : past (.worker i) ≠ []) :
    releases past i = (past (.worker i)).countP released := by
  obtain hnone | ⟨-,-,hnot⟩ := (h.caller i).returned
  · rw [releases,hnone,Nat.zero_add]
  · exact absurd (h.begun i hbegun) hnot

theorem SlotInv.unacquired {s : Pool ι} {past : Party ι → List (Entry Client)}
    (h : SlotInv s past) {i : ι} (hi : ¬ (past (.caller i)).any acquired) :
    releases past i = 0 := by
  have hworker : past (.worker i) = [] := by
    by_contra hbegun
    exact hi ((h.caller i).paid (h.begun i hbegun))
  obtain hnone | ⟨-,hacquired,-⟩ := (h.caller i).returned
  · rw [releases,hnone,hworker]
    rfl
  · exact absurd hacquired hi

variable [DecidableEq ι] {s s' : Pool ι} {past : Party ι → List (Entry Client)} {p : Party ι}
  {q : ClientOp} {a : q.Ans}

/-- The histories when one more call has been answered. -/
abbrev added (past : Party ι → List (Entry Client)) (p : Party ι) (x : Entry Client) :
    Party ι → List (Entry Client) := Function.update past p (x :: past p)

theorem added_worker (past : Party ι → List (Entry Client)) (i : ι) (x : Entry Client) (j : ι) :
    added past (.caller i) x (.worker j) = past (.worker j) :=
  Function.update_of_ne (by simp) _ _

theorem any_added {f : Entry Client → Bool} {p' : Party ι} {x : Entry Client}
    (h : (past p').any f) : (added past p x p').any f := by
  by_cases hp : p' = p
  · subst hp
    simp [h]
  · rwa [added,Function.update_of_ne hp]

theorem any_added_iff {f : Entry Client → Bool} {p' : Party ι} {x : Entry Client}
    (hx : f x = false) :
    (added past p x p').any f ↔ (past p').any f := by
  by_cases hp : p' = p
  · subst hp
    simp [hx]
  · rw [added,Function.update_of_ne hp]

theorem releases_added (past : Party ι → List (Entry Client)) (p : Party ι) (x : Entry Client)
    (i : ι) : releases (added past p x) i =
      releases past i+if released x ∧ p.callOf = i then 1 else 0 := by
  unfold releases added
  cases p with
  | caller j =>
    by_cases hj : j = i
    · subst hj
      by_cases hx : released x <;> simp [Party.callOf,hx]
      omega
    · simp [Party.callOf,hj,Ne.symm hj]
  | worker j =>
    by_cases hj : j = i
    · subst hj
      by_cases hx : released x <;> simp [Party.callOf,hx]
      omega
    · simp [Party.callOf,hj,Ne.symm hj]

theorem SlotInv.caller_added (h : SlotInv s past) (hok : PartyOrder p (past p) q) (i : ι) :
    CallerStage (added past p ⟨q,a⟩ (.caller i)) := by
  by_cases hp : Party.caller i = p
  · subst hp
    rw [added,Function.update_self]
    exact (h.caller i).next hok
  · rw [added,Function.update_of_ne hp]
    exact h.caller i

theorem SlotInv.worker_added (h : SlotInv s past) (hok : PartyOrder p (past p) q) (i : ι) :
    (added past p ⟨q,a⟩ (.worker i)).countP released ≤ 1 := by
  by_cases hp : Party.worker i = p
  · subst hp
    rw [added,Function.update_self,List.countP_cons]
    have hle := h.worker i
    cases q with
    | release =>
      rw [hok.2]
      split <;> omega
    | _ => exact hle
  · rw [added,Function.update_of_ne hp]
    exact h.worker i

theorem SlotInv.fine_added (h : SlotInv s past) (hfine : FineRelease (past p) q a) (p' : Party ι) :
    ¬ (added past p ⟨q,a⟩ p').any overReleased := by
  rw [any_added_iff]
  · exact h.fine p'
  · cases q with
    | release =>
      have ha : a = true := hfine
      rw [ha]
      rfl
    | _ => rfl

theorem holdsSlot_added {i : ι} {x : Entry Client} (hacquired : acquired x = false)
    (hreleased : released x = false) :
    HoldsSlot (added past p x) i ↔ HoldsSlot past i := by
  rw [HoldsSlot,any_added_iff hacquired,releases_added,hreleased]
  simp [HoldsSlot]

theorem holdsSlot_other {i : ι} (x : Entry Client) (hp : p.callOf ≠ i) :
    HoldsSlot (added past p x) i ↔ HoldsSlot past i := by
  have hcaller : Party.caller i ≠ p := by
    rintro rfl
    exact hp rfl
  rw [HoldsSlot,releases_added,added,Function.update_of_ne hcaller]
  simp [HoldsSlot,hp]

/-- Whoever releases a slot does not have it any more. -/
theorem holdsSlot_release {i : ι} :
    HoldsSlot (added past p ⟨.release,true⟩) i ↔ i ≠ p.callOf ∧ HoldsSlot past i := by
  by_cases hp : p.callOf = i
  · have hone := releases_added past p ⟨.release,true⟩ i
    rw [if_pos ⟨rfl,hp⟩] at hone
    constructor
    · intro h
      have hnone := h.2
      omega
    · exact fun h => absurd hp.symm h.1
  · rw [holdsSlot_other _ hp]
    exact ⟨fun h => ⟨Ne.symm hp,h⟩,fun h => h.2⟩

/-- A step that neither touches the queue nor is the first of a worker. -/
theorem SlotInv.same_queue (h : SlotInv s past) (hok : PartyOrder p (past p) q)
    (hfine : FineRelease (past p) q a) (hqueue : s'.queue = s.queue)
    (hworker : ∀ i, p = .worker i → past p ≠ [])
    (hcounted : Counted s'.free (HoldsSlot (added past p ⟨q,a⟩))) :
    SlotInv s' (added past p ⟨q,a⟩) := by
  refine ⟨h.caller_added hok,h.worker_added hok,hqueue ▸ h.distinct,fun i hi => ?_,fun i hi => ?_,
    h.fine_added hfine,hcounted⟩
  · rw [hqueue] at hi
    obtain ⟨hsubmitted,hnone⟩ := h.queued i hi
    refine ⟨any_added hsubmitted,?_⟩
    rw [added,Function.update_of_ne ?_,hnone]
    rintro rfl
    exact hworker i rfl hnone
  · by_cases hp : Party.worker i = p
    · subst hp
      exact any_added (h.begun i (hworker i rfl))
    · rw [added,Function.update_of_ne hp] at hi
      exact any_added (h.begun i hi)

theorem SlotInv.acquire (h : SlotInv s past) {i : ι} (hok : CallerOrder (past (.caller i)) .acquire)
    (e : Outside) : SlotInv (Pool.perform i e s .acquire).2
      (added past (.caller i) ⟨.acquire,(Pool.perform i e s .acquire).1⟩) := by
  simp only [Pool.perform]
  split
  · rename_i hfree
    have hnot : ¬ HoldsSlot past i := fun hi => hok.1 hi.1
    refine h.same_queue hok trivial rfl (fun j hj => by cases hj)
      (h.counted.take hfree hnot fun j => ?_)
    by_cases hj : i = j
    · subst hj
      refine ⟨fun _ => .inl rfl,fun _ => ⟨?_,?_⟩⟩
      · simp [acquired]
      · rw [releases_added,h.unacquired hok.1]
        rfl
    · have hp : (Party.caller i).callOf ≠ j := hj
      rw [holdsSlot_other _ hp]
      exact ⟨.inr,fun hj' => hj'.resolve_left (Ne.symm hj)⟩
  · exact h.same_queue hok trivial rfl (fun j hj => by cases hj)
      (h.counted.congr fun j => holdsSlot_added rfl rfl)

theorem SlotInv.release (h : SlotInv s past) (hok : PartyOrder p (past p) .release)
    (hworker : ∀ i, p = .worker i → past p ≠ []) (hholds : HoldsSlot past p.callOf) (e : Outside) :
    (Pool.perform p.callOf e s .release).1 ∧ SlotInv (Pool.perform p.callOf e s .release).2
      (added past p ⟨.release,(Pool.perform p.callOf e s .release).1⟩) := by
  simp only [Pool.perform,if_pos (h.counted.lt hholds)]
  exact ⟨trivial,h.same_queue hok rfl rfl hworker (h.counted.give hholds fun i => holdsSlot_release)⟩

/-- The work of a call is put into the queue once, before any worker begins with it. -/
theorem SlotInv.submit (h : SlotInv s past) {i : ι} {task : Task}
    (hok : CallerOrder (past (.caller i)) (.submit task)) (e : Outside) :
    SlotInv (Pool.perform i e s (.submit task)).2
      (added past (.caller i) ⟨.submit task,(Pool.perform i e s (.submit task)).1⟩) := by
  simp only [Pool.perform]
  split
  · exact h.same_queue hok trivial rfl (fun j hj => by cases hj)
      (h.counted.congr fun j => holdsSlot_added rfl rfl)
  · have hi : i ∉ s.queue.map Prod.fst := fun hi => hok.2.2.1 (h.queued i hi).1
    have hnone : past (.worker i) = [] := by
      by_contra hbegun
      exact hok.2.2.1 (h.begun i hbegun)
    refine ⟨h.caller_added hok,h.worker_added hok,?_,fun j hj => ?_,fun j hj => ?_,
      h.fine_added trivial,h.counted.congr fun j => holdsSlot_added rfl rfl⟩
    · rw [List.map_append]
      exact h.distinct.append (List.nodup_singleton i) (List.disjoint_singleton.mpr hi)
    · rw [List.map_append,List.mem_append] at hj
      have hsame := added_worker past i ⟨.submit task,true⟩ j
      rcases hj with hj | hj
      · exact ⟨any_added (h.queued j hj).1,hsame.trans (h.queued j hj).2⟩
      · obtain rfl := List.mem_singleton.mp hj
        refine ⟨?_,hsame.trans hnone⟩
        rw [added,Function.update_self]
        rfl
    · rw [added_worker] at hj
      exact any_added (h.begun j hj)

theorem SlotInv.begin (h : SlotInv s past) {i : ι} (hok : WorkerOrder (past (.worker i)) .begin)
    (hhead : s.queue.head?.map Prod.fst = some i) (e : Outside) :
    SlotInv (Pool.perform i e s .begin).2
      (added past (.worker i) ⟨.begin,(Pool.perform i e s .begin).1⟩) := by
  obtain ⟨⟨i',task⟩,rest,hqueue,rfl⟩ : ∃ x rest, s.queue = x :: rest ∧ x.1 = i := by
    cases hq : s.queue with
    | nil => simp [hq] at hhead
    | cons x rest => exact ⟨x,rest,rfl,by simpa [hq] using hhead⟩
  have hdistinct := h.distinct
  rw [hqueue,List.map_cons,List.nodup_cons] at hdistinct
  have hmem : i' ∈ s.queue.map Prod.fst := by simp [hqueue]
  refine ⟨h.caller_added hok,h.worker_added hok,?_,fun j hj => ?_,fun j hj => ?_,
    h.fine_added trivial,h.counted.congr fun j => holdsSlot_added rfl rfl⟩
  · simpa [Pool.perform,hqueue] using hdistinct.2
  · have hrest : j ∈ rest.map Prod.fst := by simpa [Pool.perform,hqueue] using hj
    have hne : j ≠ i' := by
      rintro rfl
      exact hdistinct.1 hrest
    have hin : j ∈ s.queue.map Prod.fst := by
      rw [hqueue,List.map_cons]
      exact List.mem_cons_of_mem _ hrest
    obtain ⟨hsubmitted,hnone⟩ := h.queued j hin
    refine ⟨any_added hsubmitted,?_⟩
    rwa [added,Function.update_of_ne (by simpa using hne)]
  · refine any_added ?_
    by_cases hji : j = i'
    · subst hji
      exact (h.queued _ hmem).1
    · rw [added,Function.update_of_ne (by simpa using hji)] at hj
      exact h.begun j hj

theorem slotInv_kept : Keeps (Pool.server ι) Config.anyStep PartyOrder (fun _ => FineRelease)
    (fun s past => SlotInv s past) := by
  intro s past p e q h hready _ hok
  cases p with
  | caller i =>
    have hnot : ∀ j, Party.caller i = .worker j → past (.caller i) ≠ [] := fun j hj => by cases hj
    cases q with
    | acquire => exact ⟨trivial,h.acquire hok e⟩
    | submit task => exact ⟨trivial,h.submit hok e⟩
    | release =>
      refine h.release hok hnot ⟨hok.1,?_⟩ e
      have hnone : past (.worker i) = [] := by
        by_contra hbegun
        exact hok.2.1 (h.begun i hbegun)
      rw [Party.callOf,releases,hok.2.2,hnone]
      rfl
    | monotonic | result =>
      exact ⟨trivial,h.same_queue hok trivial rfl hnot
        (h.counted.congr fun j => holdsSlot_added rfl rfl)⟩
    | _ => exact hok.elim
  | worker i =>
    cases q with
    | begin =>
      have hhead : s.queue.head?.map Prod.fst = some i := (of_decide_eq_true hready).1
      exact ⟨trivial,h.begin hok hhead e⟩
    | release =>
      have hbegun : past (.worker i) ≠ [] := hok.1
      refine h.release hok (fun _ _ => hbegun) ⟨(h.caller i).paid (h.begun i hbegun),?_⟩ e
      rw [Party.callOf,h.releases_eq i hbegun,hok.2]
    | acquire | submit | result => exact hok.elim
    | _ =>
      exact ⟨trivial,h.same_queue hok trivial rfl (fun _ _ => hok)
        (h.counted.congr fun j => holdsSlot_added rfl rfl)⟩

end Invariant

section Run

variable {ι : Type} (cfg : ClientConfig) (loads : Bytes → Option Json) (calls : ι → ServiceCall)

theorem slotInv_start : SlotInv (Pool.idle ι) fun _ => [] where
  caller _ := ⟨nofun,nofun,.inl rfl⟩
  worker _ := Nat.zero_le 1
  distinct := List.nodup_nil
  queued _ hi := by cases hi
  begun _ hi := absurd rfl hi
  fine _ := Bool.false_ne_true
  counted := ⟨[],List.nodup_nil,fun _ => ⟨nofun,nofun⟩,rfl⟩

theorem prog_follows (p : Party ι) : (p.prog cfg loads calls).Follows (PartyOrder p) FineRelease
    (fun _ => PartyDone p) (fun _ => PartyDone p) [] := by
  cases p with
  | caller i => exact Prog.follows_map.mpr (callService_follows cfg _ _ _)
  | worker i => exact Prog.follows_map.mpr (workItem_follows cfg loads)

variable {s : Pool ι} {past : Party ι → List (Entry Client)}

theorem SlotInv.queued_holds (h : SlotInv s past) {i : ι} (hi : i ∈ s.queue.map Prod.fst) :
    HoldsSlot past i := by
  obtain ⟨hsubmitted,hnone⟩ := h.queued i hi
  refine ⟨(h.caller i).paid hsubmitted,?_⟩
  obtain hzero | ⟨-,-,hnot⟩ := (h.caller i).returned
  · rw [releases,hzero,hnone]
    rfl
  · exact absurd hsubmitted hnot

theorem SlotInv.outstanding_holds (h : SlotInv s past) {i : ι} (hi : Outstanding past s i) :
    HoldsSlot past i := by
  obtain hqueue | ⟨hbegun,hnone⟩ := hi
  · exact h.queued_holds hqueue
  · exact ⟨(h.caller i).paid (h.begun i hbegun),(h.releases_eq i hbegun).trans hnone⟩

theorem SlotInv.releases_le (h : SlotInv s past) (i : ι) : releases past i ≤ 1 := by
  by_cases hbegun : past (.worker i) = []
  · rw [releases,hbegun]
    obtain hzero | ⟨hone,-⟩ := (h.caller i).returned
    · simp [hzero]
    · simp [hone]
  · rw [h.releases_eq i hbegun]
    exact h.worker i

/-- Every program is at some point of its course, and the slots fit to what they have done. -/
abbrev InCourse (c : ClientRun ι) : Prop :=
  c.Disciplined PartyOrder (fun _ => FineRelease) (fun p _ => PartyDone p) (fun p _ => PartyDone p)
    (fun s past => SlotInv s past)

theorem InCourse.done {c : ClientRun ι} (hc : InCourse c) {p : Party ι} (hp : c.ended p) :
    PartyDone p (c.past p) := by
  obtain ⟨-,-,hdone⟩ | ⟨-,-,hdone⟩ := hc.ended hp
  · exact hdone
  · exact hdone

theorem InCourse.settled {c : ClientRun ι} (hc : InCourse c) {i : ι}
    (hacquired : (c.past (.caller i)).any acquired) (hsettled : Settled c i) :
    releases c.past i = 1 := by
  have hend := hsettled hacquired
  split at hend
  · have hone : (c.past (.worker i)).countP released = 1 := hc.done hend
    refine (hc.1.releases_eq i fun hnone => ?_).trans hone
    simp [hnone] at hone
  · rename_i hnot
    have hone : (c.past (.caller i)).countP released = 1 := hc.done hend hacquired hnot
    have hnone : c.past (.worker i) = [] := by
      by_contra hbegun
      exact hnot (hc.1.begun i hbegun)
    rw [releases,hone,hnone]
    rfl

variable [DecidableEq ι]

theorem clientRun_inCourse {c : ClientRun ι}
    (h : Config.Reach (Pool.server ι) Config.anyStep (clientRun cfg loads calls) c) : InCourse c :=
  (Config.disciplined_start slotInv_start (prog_follows cfg loads calls)).reach slotInv_kept h

end Run

section GivingUp

def usualConfig : ClientConfig := ⟨2,5,10,2,1/5⟩

def seatCall : ServiceCall :=
  ⟨"GET",⟨"http","event-service",some 5002,"/events/e1"⟩,⟨none,none,none,[]⟩⟩

def outside (now : Seconds) : Outside := ⟨now,0,false,.failed .other,none,false,true⟩

/-- The caller gives up after ten seconds, while the worker is about to ask the circuit breaker. -/
def givenUp : ClientRun Nat :=
  (clientRun usualConfig (fun _ => none) fun _ => seatCall).schedule (Pool.server Nat)
    (fun _ _ _ _ _ => true)
    [(.caller 0,outside 0),(.caller 0,outside 0),(.caller 0,outside 0),(.worker 0,outside 1),
      (.worker 0,outside 1),(.worker 0,outside 1),(.worker 0,outside 1),(.worker 0,outside 1),
      (.caller 0,outside 0),(.caller 0,outside 10)]

end GivingUp

end TicketRemaster.ServiceClient
