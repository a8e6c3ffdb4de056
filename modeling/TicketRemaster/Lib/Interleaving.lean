import Mathlib.Logic.Relation
import TicketRemaster.Lib.Resumption
set_option autoImplicit false

/-! Any number of programs run side by side over one shared state, one call at a time. -/

namespace Resumption

variable {I : Interface} {ι Env σ ε α : Type}

structure Thread (I : Interface) (ε α : Type) where
  past : List (Entry I)
  rest : Prog I ε α

def Thread.start (p : Prog I ε α) : Thread I ε α := ⟨[],p⟩

structure Config (ι : Type) (I : Interface) (ε α σ : Type) where
  shared : σ
  thread : ι → Thread I ε α

namespace Config

def start (s : σ) (p : ι → Prog I ε α) : Config ι I ε α σ := ⟨s,fun i => .start (p i)⟩

def past (c : Config ι I ε α σ) (i : ι) : List (Entry I) := (c.thread i).past

/-- The result of a participant that has finished. -/
def result (c : Config ι I ε α σ) (i : ι) : Option α :=
  match (c.thread i).rest with
  | .ret a => some a
  | _ => none

/-- A participant that makes no more calls, whether it has returned or raised. -/
def ended (c : Config ι I ε α σ) (i : ι) : Bool :=
  match (c.thread i).rest with
  | .call _ _ => false
  | _ => true

variable [DecidableEq ι] (srv : Server I ι Env σ)

/-- Participant `i` makes its next call, unless it has finished or has to wait. -/
def advance (c : Config ι I ε α σ) (i : ι) (e : Env) : Option (Config ι I ε α σ) :=
  match (c.thread i).rest with
  | .call q k =>
      if srv.ready c.shared i e q then
        let r := srv.serve i e c.shared q
        some ⟨r.2,Function.update c.thread i ⟨⟨q,r.1⟩ :: (c.thread i).past,k r.1⟩⟩
      else none
  | _ => none

/-- One step of some participant that meets the side condition `C`. The condition sees
the shared state, all histories, who moves, the outside's choice and the call. -/
def Step (C : σ → (ι → List (Entry I)) → ι → Env → I.Op → Prop)
    (c d : Config ι I ε α σ) : Prop :=
  ∃ i e, c.advance srv i e = some d ∧
    ∀ q k, (c.thread i).rest = .call q k → C c.shared c.past i e q

/-- Every order of steps that meets `C` throughout. -/
abbrev Reach (C : σ → (ι → List (Entry I)) → ι → Env → I.Op → Prop) :
    Config ι I ε α σ → Config ι I ε α σ → Prop :=
  Relation.ReflTransGen (Step srv C)

/-- The condition that lets every step pass. -/
def anyStep : σ → (ι → List (Entry I)) → ι → Env → I.Op → Prop := fun _ _ _ _ _ => True

/-- Run a given schedule, up to its first step that is not possible or fails the check. -/
def schedule (check : σ → (ι → List (Entry I)) → ι → Env → I.Op → Bool) (c : Config ι I ε α σ) :
    List (ι × Env) → Config ι I ε α σ
  | [] => c
  | m :: ms =>
      match (c.thread m.1).rest, c.advance srv m.1 m.2 with
      | .call q _, some d =>
          if check c.shared c.past m.1 m.2 q then d.schedule check ms else c
      | _, _ => c

variable {srv}

theorem advance_cases {c d : Config ι I ε α σ} {i : ι} {e : Env}
    (h : c.advance srv i e = some d) :
    ∃ q k, (c.thread i).rest = .call q k ∧ srv.ready c.shared i e q ∧
      d = ⟨(srv.serve i e c.shared q).2,Function.update c.thread i
        ⟨⟨q,(srv.serve i e c.shared q).1⟩ :: c.past i,k (srv.serve i e c.shared q).1⟩⟩ := by
  unfold advance at h
  split at h
  · rename_i q k hr
    split at h
    · rename_i hready
      exact ⟨q,k,hr,hready,(Option.some.inj h).symm⟩
    · cases h
  · cases h

/-- The histories after a step of participant `i`. -/
theorem past_update (c : Config ι I ε α σ) (i : ι) (entry : Entry I) (p : Prog I ε α) (s : σ) :
    Config.past ⟨s,Function.update c.thread i ⟨entry :: c.past i,p⟩⟩ =
      Function.update c.past i (entry :: c.past i) := by
  funext j
  by_cases hj : j = i
  · subst hj; simp [past]
  · simp [past,hj]

theorem reach_mono {C C' : σ → (ι → List (Entry I)) → ι → Env → I.Op → Prop}
    {c d : Config ι I ε α σ} (hC : ∀ s past i e q, C s past i e q → C' s past i e q)
    (h : Reach srv C c d) : Reach srv C' c d := by
  refine Relation.ReflTransGen.mono (fun a b hs => ?_) _ _ h
  obtain ⟨i,e,hadv,hc⟩ := hs
  exact ⟨i,e,hadv,fun q k hr => hC _ _ _ _ _ (hc q k hr)⟩

theorem reach_schedule {check : σ → (ι → List (Entry I)) → ι → Env → I.Op → Bool}
    {C : σ → (ι → List (Entry I)) → ι → Env → I.Op → Prop}
    (hC : ∀ s past i e q, check s past i e q → C s past i e q) (c : Config ι I ε α σ)
    (ms : List (ι × Env)) : Reach srv C c (c.schedule srv check ms) := by
  induction ms generalizing c with
  | nil => exact .refl
  | cons m ms ih =>
    unfold schedule
    split
    · rename_i q k d hr hadv
      split
      · rename_i hcheck
        refine .head ⟨m.1,m.2,hadv,fun q' k' hr' => ?_⟩ (ih d)
        cases hr.symm.trans hr'
        exact hC _ _ _ _ _ hcheck
      · exact .refl
    · exact .refl

/-- What every call keeps true of the shared state, whoever makes it. -/
theorem reach_shared {C : σ → (ι → List (Entry I)) → ι → Env → I.Op → Prop} {inv : σ → Prop}
    (hinv : ∀ s past i e q, C s past i e q → srv.ready s i e q → inv s →
      inv (srv.serve i e s q).2)
    {c d : Config ι I ε α σ} (hc : inv c.shared) (h : Reach srv C c d) : inv d.shared := by
  induction h with
  | refl => exact hc
  | tail _ hs ih =>
    obtain ⟨i,e,hadv,hC⟩ := hs
    obtain ⟨q,k,hr,hready,rfl⟩ := advance_cases hadv
    exact hinv _ _ _ _ _ (hC q k hr) hready ih

/-- What answers tell, and no call makes false again, stays true of all that anybody has been
told. -/
theorem reach_told {C : σ → (ι → List (Entry I)) → ι → Env → I.Op → Prop}
    {told : σ → Entry I → Prop}
    (hnew : ∀ s i e q, told (srv.serve i e s q).2 ⟨q,(srv.serve i e s q).1⟩)
    (hstay : ∀ s i e q x, told s x → told (srv.serve i e s q).2 x)
    {c d : Config ι I ε α σ} (hc : ∀ i, ∀ x ∈ c.past i, told c.shared x) (h : Reach srv C c d) :
    ∀ i, ∀ x ∈ d.past i, told d.shared x := by
  induction h with
  | refl => exact hc
  | tail _ hs ih =>
    obtain ⟨i,e,hadv,-⟩ := hs
    obtain ⟨q,k,-,-,rfl⟩ := advance_cases hadv
    intro j x hx
    rw [past_update] at hx
    by_cases hj : j = i
    · subst hj
      rw [Function.update_self] at hx
      rcases List.mem_cons.mp hx with rfl | hx
      · exact hnew _ _ _ _
      · exact hstay _ _ _ _ _ (ih j x hx)
    · rw [Function.update_of_ne hj] at hx
      exact hstay _ _ _ _ _ (ih j x hx)

/-- A participant that has made no call is still at its start. -/
theorem unstarted {C : σ → (ι → List (Entry I)) → ι → Env → I.Op → Prop} {s : σ}
    {p : ι → Prog I ε α} {c : Config ι I ε α σ} (h : Reach srv C (.start s p) c) {i : ι}
    (hi : c.past i = []) : (c.thread i).rest = p i := by
  induction h with
  | refl => rfl
  | tail _ hs ih =>
    obtain ⟨j,e,hadv,-⟩ := hs
    obtain ⟨q,k,-,-,rfl⟩ := advance_cases hadv
    by_cases hj : i = j
    · subst hj
      simp [past] at hi
    · simp only [past,Function.update_of_ne hj] at hi ⊢
      exact ih hi

end Config

/-- The local discipline of a program: with history `h`, each call it makes is allowed
by `ok`; if it returns, `fin` holds, and if it raises, `exc` holds. Only the answers that
`feas` admits are considered. -/
def Prog.Follows (ok : List (Entry I) → I.Op → Prop)
    (feas : List (Entry I) → (q : I.Op) → I.Ans q → Prop)
    (fin : α → List (Entry I) → Prop) (exc : ε → List (Entry I) → Prop) :
    Prog I ε α → List (Entry I) → Prop
  | .ret a, h => fin a h
  | .raise e, h => exc e h
  | .call q k, h => ok h q ∧ ∀ a, feas h q a → (k a).Follows ok feas fin exc (⟨q,a⟩ :: h)

namespace Prog

variable {β : Type} {ok : List (Entry I) → I.Op → Prop}
  {feas : List (Entry I) → (q : I.Op) → I.Ans q → Prop}
  {fin : α → List (Entry I) → Prop} {exc : ε → List (Entry I) → Prop} {h : List (Entry I)}

@[simp] theorem follows_ret {a : α} :
    (.ret a : Prog I ε α).Follows ok feas fin exc h ↔ fin a h := Iff.rfl

@[simp] theorem follows_raise {e : ε} :
    (.raise e : Prog I ε α).Follows ok feas fin exc h ↔ exc e h := Iff.rfl

theorem Follows.mono {fin' : α → List (Entry I) → Prop} {exc' : ε → List (Entry I) → Prop}
    {p : Prog I ε α} (hp : p.Follows ok feas fin exc h) (hf : ∀ a h, fin a h → fin' a h)
    (he : ∀ e h, exc e h → exc' e h) : p.Follows ok feas fin' exc' h := by
  induction p generalizing h with
  | ret a => exact hf _ _ hp
  | raise e => exact he _ _ hp
  | call q k ih => exact ⟨hp.1,fun a ha => ih a (hp.2 a ha)⟩

theorem Follows.weaken {ok' : List (Entry I) → I.Op → Prop} {p : Prog I ε α}
    (hp : p.Follows ok feas fin exc h) (hok : ∀ h q, ok h q → ok' h q) :
    p.Follows ok' feas fin exc h := by
  induction p generalizing h with
  | ret a => exact hp
  | raise e => exact hp
  | call q k ih => exact ⟨hok h q hp.1,fun a ha => ih a (hp.2 a ha)⟩

/-- With fewer answers to consider, a discipline is kept all the same. -/
theorem Follows.restrict {feas' : List (Entry I) → (q : I.Op) → I.Ans q → Prop} {p : Prog I ε α}
    (hp : p.Follows ok feas fin exc h) (hfeas : ∀ h q a, feas' h q a → feas h q a) :
    p.Follows ok feas' fin exc h := by
  induction p generalizing h with
  | ret a => exact hp
  | raise e => exact hp
  | call q k ih => exact ⟨hp.1,fun a ha => ih a (hp.2 a (hfeas h q a ha))⟩

/-- Two disciplines at once. -/
theorem Follows.both {ok' : List (Entry I) → I.Op → Prop} {fin' : α → List (Entry I) → Prop}
    {exc' : ε → List (Entry I) → Prop} {p : Prog I ε α} (hp : p.Follows ok feas fin exc h)
    (hp' : p.Follows ok' feas fin' exc' h) :
    p.Follows (fun h q => ok h q ∧ ok' h q) feas (fun a h => fin a h ∧ fin' a h)
      (fun e h => exc e h ∧ exc' e h) h := by
  induction p generalizing h with
  | ret a => exact ⟨hp,hp'⟩
  | raise e => exact ⟨hp,hp'⟩
  | call q k ih => exact ⟨⟨hp.1,hp'.1⟩,fun a ha => ih a (hp.2 a ha) (hp'.2 a ha)⟩

/-- The second one of two disciplines need not depend on what answers are feasible. -/
theorem Follows.and {ok' : List (Entry I) → I.Op → Prop} {fin' : α → List (Entry I) → Prop}
    {exc' : ε → List (Entry I) → Prop} {p : Prog I ε α} (hp : p.Follows ok feas fin exc h)
    (hp' : p.Follows ok' (fun _ _ _ => True) fin' exc' h) :
    p.Follows (fun h q => ok h q ∧ ok' h q) feas (fun a h => fin a h ∧ fin' a h)
      (fun e h => exc e h ∧ exc' e h) h :=
  hp.both (hp'.restrict fun _ _ _ _ => trivial)

theorem follows_bind {p : Prog I ε β} {f : β → Prog I ε α} :
    (p >>= f).Follows ok feas fin exc h ↔
      p.Follows ok feas (fun a h => (f a).Follows ok feas fin exc h) exc h := by
  induction p generalizing h with
  | ret a => exact Iff.rfl
  | raise e => exact Iff.rfl
  | call q k ih =>
    exact and_congr_right (fun _ => forall_congr' (fun a => imp_congr_right (fun _ => ih a)))

theorem follows_map {p : Prog I ε β} {f : β → α} :
    (f <$> p).Follows ok feas fin exc h ↔
      p.Follows ok feas (fun a h => fin (f a) h) exc h := follows_bind

theorem follows_handle {p : Prog I ε α} {f : ε → Prog I ε α} :
    (p.handle f).Follows ok feas fin exc h ↔
      p.Follows ok feas fin (fun e h => (f e).Follows ok feas fin exc h) h := by
  induction p generalizing h with
  | ret a => exact Iff.rfl
  | raise e => exact Iff.rfl
  | call q k ih =>
    exact and_congr_right (fun _ => forall_congr' (fun a => imp_congr_right (fun _ => ih a)))

theorem follows_ensuring {p : Prog I ε α} {f : Prog I ε Unit} :
    (p.ensuring f).Follows ok feas fin exc h ↔
      p.Follows ok feas (fun a h => f.Follows ok feas (fun _ => fin a) exc h)
        (fun e h => f.Follows ok feas (fun _ => exc e) exc h) h := by
  induction p generalizing h with
  | ret a => exact follows_bind (p := f) (f := fun _ => .ret a)
  | raise e => exact follows_bind (p := f) (f := fun _ => .raise e)
  | call q k ih =>
    exact and_congr_right (fun _ => forall_congr' (fun a => imp_congr_right (fun _ => ih a)))

theorem follows_ite {c : Prop} [Decidable c] {p p' : Prog I ε α}
    (hp : c → p.Follows ok feas fin exc h) (hp' : ¬ c → p'.Follows ok feas fin exc h) :
    (if c then p else p').Follows ok feas fin exc h := by
  split
  · exact hp ‹c›
  · exact hp' ‹¬ c›

/-- Calls that the discipline is indifferent to, as long as all of them keep `J`. -/
theorem Calls.follows {P : I.Op → Prop} {R : ε → Prop} {J : List (Entry I) → Prop}
    {p : Prog I ε α} (hp : p.Calls P R) (hok : ∀ h q, P q → J h → ok h q)
    (hJ : ∀ h q a, P q → J h → J (⟨q,a⟩ :: h)) (hh : J h) :
    p.Follows ok feas (fun _ h => J h) (fun e h => R e ∧ J h) h := by
  induction p generalizing h with
  | ret a => exact hh
  | raise e => exact ⟨hp,hh⟩
  | call q k ih => exact ⟨hok h q hp.1 hh,fun a _ => ih a (hp.2 a) (hJ h q a hp.1 hh)⟩

theorem Returns.follows {Q : α → Prop} {p : Prog I ε α} (hp : p.Returns Q) :
    p.Follows (fun _ _ => True) feas (fun a _ => Q a) (fun _ _ => True) h := by
  induction p generalizing h with
  | ret a => exact hp
  | raise e => trivial
  | call q k ih => exact ⟨trivial,fun a _ => ih a (hp a)⟩

/-- A discipline that does not look at the history is a matter of the calls alone. -/
theorem Follows.calls {P : I.Op → Prop} {R : ε → Prop} {p : Prog I ε α}
    (hp : p.Follows (fun _ => P) (fun _ _ _ => True) fin (fun e _ => R e) h) :
    p.Calls P R := by
  induction p generalizing h with
  | ret a => trivial
  | raise e => exact hp
  | call q k ih => exact ⟨hp.1,fun a => ih a (hp.2 a trivial)⟩

/-- From a history that only allows calls in `P` on, all calls are in `P`. -/
theorem Follows.calls_of {P : I.Op → Prop} {J : List (Entry I) → Prop} {p : Prog I ε α}
    (hp : p.Follows ok (fun _ _ _ => True) fin exc h) (hok : ∀ h q, J h → ok h q → P q)
    (hJ : ∀ h x, J h → J (x :: h)) (hh : J h) : p.Calls P (fun _ => True) := by
  induction p generalizing h with
  | ret a => trivial
  | raise e => trivial
  | call q k ih => exact ⟨hok h q hh hp.1,fun a => ih a (hp.2 a trivial) (hJ h _ hh)⟩

/-- What every feasible answer keeps is kept to the end. -/
theorem Follows.keeps {P : I.Op → Prop} {J : List (Entry I) → Prop} {R : ε → Prop}
    {p : Prog I ε α}
    (hp : p.Follows (fun _ => P) feas (fun _ _ => True) (fun e _ => R e) h)
    (hok : ∀ h q, P q → J h → ok h q)
    (hJ : ∀ h q a, P q → feas h q a → J h → J (⟨q,a⟩ :: h)) (hh : J h) :
    p.Follows ok feas (fun _ h => J h) (fun e h => R e ∧ J h) h := by
  induction p generalizing h with
  | ret a => exact hh
  | raise e => exact ⟨hp,hh⟩
  | call q k ih =>
    exact ⟨hok h q hp.1 hh,fun a ha => ih a (hp.2 a ha) (hJ h q a hp.1 ha hh)⟩

/-- The rule for uninterrupted runs: a discipline whose calls get feasible answers and keep `inv`,
until a bad entry gets into the history, ends as it says, or with a bad entry. -/
theorem Follows.always {Env σ ι : Type} {srv : Server I ι Env σ} {i : ι}
    {E : List (Entry I) → Env → Prop} {bad : Entry I → Bool} {inv : σ → List (Entry I) → Prop}
    (hk : ∀ h s e q, E h e → inv s h → ok h q → bad ⟨q,(srv.serve i e s q).1⟩ ∨
      feas h q (srv.serve i e s q).1 ∧ inv (srv.serve i e s q).2 (⟨q,(srv.serve i e s q).1⟩ :: h))
    {p : Prog I ε α} (hp : p.Follows ok feas fin exc h) {s : σ} (hs : inv s h) :
    p.Always srv i E (fun a h s => h.any bad ∨ fin a h ∧ inv s h)
      (fun e h s => h.any bad ∨ exc e h ∧ inv s h) h s := by
  induction p generalizing h s with
  | ret a => exact .inr ⟨hp,hs⟩
  | raise e => exact .inr ⟨hp,hs⟩
  | call q k ih =>
    intro e he
    rcases hk h s e q he hs hp.1 with hbad | ⟨hfeas,hinv⟩
    · have hkept : (k (srv.serve i e s q).1).Always srv i E (fun _ h _ => h.any bad)
          (fun _ h _ => True ∧ h.any bad) (⟨q,(srv.serve i e s q).1⟩ :: h)
          (srv.serve i e s q).2 := by
        refine (calls_true _).always (J := fun h _ => h.any bad) ?_ (by simp [hbad])
        intro q' _ h' e' s' _ hJ
        simp [hJ]
      exact hkept.mono (fun _ _ _ hJ => .inl hJ) (fun _ _ _ hJ => .inl hJ.2)
    · exact ih _ (hp.2 _ hfeas) hinv

end Prog

section Invariant

variable {srv : Server I ι Env σ}
  {C : σ → (ι → List (Entry I)) → ι → Env → I.Op → Prop}
  {ok : ι → List (Entry I) → I.Op → Prop}
  {feas : ι → List (Entry I) → (q : I.Op) → I.Ans q → Prop}
  {fin : ι → α → List (Entry I) → Prop} {exc : ι → ε → List (Entry I) → Prop}
  {inv : σ → (ι → List (Entry I)) → Prop}

/-- `inv` relates the shared state to the histories; it holds in `c`, and every program
keeps to its discipline from here on. -/
def Config.Disciplined (ok : ι → List (Entry I) → I.Op → Prop)
    (feas : ι → List (Entry I) → (q : I.Op) → I.Ans q → Prop)
    (fin : ι → α → List (Entry I) → Prop) (exc : ι → ε → List (Entry I) → Prop)
    (inv : σ → (ι → List (Entry I)) → Prop) (c : Config ι I ε α σ) : Prop :=
  inv c.shared c.past ∧
    ∀ i, (c.thread i).rest.Follows (ok i) (feas i) (fin i) (exc i) (c.past i)

theorem Config.disciplined_start {s : σ} {p : ι → Prog I ε α} (hinv : inv s (fun _ => []))
    (hp : ∀ i, (p i).Follows (ok i) (feas i) (fin i) (exc i) []) :
    (Config.start s p).Disciplined ok feas fin exc inv := ⟨hinv,hp⟩

/-- A finished participant ended the way its discipline says. -/
theorem Config.Disciplined.result {c : Config ι I ε α σ}
    (hc : c.Disciplined ok feas fin exc inv) {i : ι} {a : α} (hi : c.result i = some a) :
    fin i a (c.past i) := by
  have h := hc.2 i
  unfold Config.result at hi
  split at hi
  · rename_i b hr
    rw [hr] at h
    cases hi
    exact h
  · cases hi

/-- A participant that has ended has returned or raised as its discipline says. -/
theorem Config.Disciplined.ended {c : Config ι I ε α σ}
    (hc : c.Disciplined ok feas fin exc inv) {i : ι} (hi : c.ended i) :
    (∃ a, c.result i = some a ∧ fin i a (c.past i)) ∨
      c.result i = none ∧ ∃ e, exc i e (c.past i) := by
  have h := hc.2 i
  unfold Config.ended at hi
  unfold Config.result
  split at hi
  · cases hi
  · cases hr : (c.thread i).rest with
    | ret a => rw [hr] at h; exact .inl ⟨a,rfl,h⟩
    | raise e => rw [hr] at h; exact .inr ⟨rfl,e,h⟩
    | call q k => rename_i hno; exact absurd hr (hno q k)

variable [DecidableEq ι]

/-- The histories after a step hold the new entry, and what was there. -/
theorem mem_update {past : ι → List (Entry I)} {i j : ι} {x y : Entry I}
    (h : y ∈ Function.update past i (x :: past i) j) : y ∈ past j ∨ j = i ∧ y = x := by
  by_cases hj : j = i
  · subst hj
    rw [Function.update_self] at h
    exact (List.mem_cons.mp h).symm.imp_right fun heq => ⟨rfl,heq⟩
  · rw [Function.update_of_ne hj] at h
    exact .inl h

theorem mem_update_of_mem {past : ι → List (Entry I)} {i j : ι} {x y : Entry I}
    (h : y ∈ past j) : y ∈ Function.update past i (x :: past i) j := by
  by_cases hj : j = i
  · subst hj
    rw [Function.update_self]
    exact List.mem_cons_of_mem _ h
  · rwa [Function.update_of_ne hj]

theorem mem_update_self {past : ι → List (Entry I)} {i : ι} {x : Entry I} :
    x ∈ Function.update past i (x :: past i) i := by
  simp

/-- What has to be shown about the server: an allowed call gets a feasible answer and
keeps the invariant. -/
def Keeps (srv : Server I ι Env σ) (C : σ → (ι → List (Entry I)) → ι → Env → I.Op → Prop)
    (ok : ι → List (Entry I) → I.Op → Prop)
    (feas : ι → List (Entry I) → (q : I.Op) → I.Ans q → Prop)
    (inv : σ → (ι → List (Entry I)) → Prop) : Prop :=
  ∀ s past i e q, inv s past → srv.ready s i e q → C s past i e q → ok i (past i) q →
    feas i (past i) q (srv.serve i e s q).1 ∧
      inv (srv.serve i e s q).2
        (Function.update past i (⟨q,(srv.serve i e s q).1⟩ :: past i))

theorem Config.Disciplined.step (hk : Keeps srv C ok feas inv) {c d : Config ι I ε α σ}
    (hc : c.Disciplined ok feas fin exc inv) (h : Config.Step srv C c d) :
    d.Disciplined ok feas fin exc inv := by
  obtain ⟨i,e,hadv,hC⟩ := h
  obtain ⟨q,k,hr,hready,rfl⟩ := Config.advance_cases hadv
  obtain ⟨hinv,hfol⟩ := hc
  have hi := hfol i
  rw [hr] at hi
  obtain ⟨hfeas,hinv'⟩ := hk c.shared c.past i e q hinv hready (hC q k hr) hi.1
  constructor
  · rw [Config.past_update]
    exact hinv'
  · intro j
    by_cases hj : j = i
    · subst hj
      simpa [Config.past] using hi.2 _ hfeas
    · simpa [Config.past,hj] using hfol j

/-- The run rule: a discipline that every step keeps holds in every configuration reached. -/
theorem Config.Disciplined.reach (hk : Keeps srv C ok feas inv) {c d : Config ι I ε α σ}
    (hc : c.Disciplined ok feas fin exc inv) (h : Config.Reach srv C c d) :
    d.Disciplined ok feas fin exc inv := by
  induction h with
  | refl => exact hc
  | tail _ hs ih => exact ih.step hk hs

/-- The participants take turns with what else happens to the shared state. -/
def Config.Moves (srv : Server I ι Env σ)
    (C : σ → (ι → List (Entry I)) → ι → Env → I.Op → Prop) (acts : σ → σ → Prop)
    (c d : Config ι I ε α σ) : Prop :=
  Config.Step srv C c d ∨ ∃ s, acts c.shared s ∧ d = ⟨s,c.thread⟩

abbrev Config.Runs (srv : Server I ι Env σ)
    (C : σ → (ι → List (Entry I)) → ι → Env → I.Op → Prop) (acts : σ → σ → Prop) :
    Config ι I ε α σ → Config ι I ε α σ → Prop :=
  Relation.ReflTransGen (Config.Moves srv C acts)

/-- The run rule with activities: they have to keep the invariant for all histories. -/
theorem Config.Disciplined.runs {acts : σ → σ → Prop} (hk : Keeps srv C ok feas inv)
    (hacts : ∀ s s' past, acts s s' → inv s past → inv s' past) {c d : Config ι I ε α σ}
    (hc : c.Disciplined ok feas fin exc inv) (h : Config.Runs srv C acts c d) :
    d.Disciplined ok feas fin exc inv := by
  induction h with
  | refl => exact hc
  | tail _ hs ih =>
    rcases hs with hstep | ⟨s,hact,rfl⟩
    · exact ih.step hk hstep
    · exact ⟨hacts _ _ _ hact ih.1,ih.2⟩

/-- Each entry of a history was allowed by what came before it. -/
def Obeyed (ok : List (Entry I) → I.Op → Prop) : List (Entry I) → Prop
  | [] => True
  | x :: h => ok h x.1 ∧ Obeyed ok h

omit [DecidableEq ι] in
theorem Obeyed.at {ok : List (Entry I) → I.Op → Prop} {newer older : List (Entry I)} {x : Entry I}
    (h : Obeyed ok (newer ++ x :: older)) : ok older x.1 := by
  induction newer with
  | nil => exact h.1
  | cons y newer ih => exact ih h.2

/-- The histories of a run show that everybody has kept to its discipline. -/
theorem Config.Disciplined.obeyed (hk : Keeps srv C ok feas inv) {c d : Config ι I ε α σ}
    (hc : c.Disciplined ok feas fin exc inv) (hpast : ∀ i, Obeyed (ok i) (c.past i))
    (h : Config.Reach srv C c d) (i : ι) : Obeyed (ok i) (d.past i) := by
  induction h with
  | refl => exact hpast i
  | tail hreach hs ih =>
    have hfol := (hc.reach hk hreach).2
    obtain ⟨j,e,hadv,-⟩ := hs
    obtain ⟨q,k,hr,-,rfl⟩ := Config.advance_cases hadv
    rw [Config.past_update]
    by_cases hi : i = j
    · subst hi
      have hok := hfol i
      rw [hr] at hok
      rw [Function.update_self]
      exact ⟨hok.1,ih⟩
    · rwa [Function.update_of_ne hi]

end Invariant

section Log

/-- A step of a run: who made which call, and the shared state around it. -/
structure Moved (I : Interface) (ι σ : Type) where
  who : ι
  op : I.Op
  before : σ
  after : σ

/-- The shared state together with the steps that led to it, newest first. -/
structure Logged (I : Interface) (ι σ : Type) where
  state : σ
  log : List (Moved I ι σ)

/-- The server, keeping a log of its steps; nobody can read it. -/
def Server.logged (srv : Server I ι Env σ) : Server I ι Env (Logged I ι σ) where
  ready s i e q := srv.ready s.state i e q
  serve i e s q :=
    let r := srv.serve i e s.state q
    (r.1,⟨r.2,⟨i,q,s.state,r.2⟩ :: s.log⟩)

/-- Every step of the log is in the history of the participant that made it. -/
def Logged.Faithful (s : Logged I ι σ) (past : ι → List (Entry I)) : Prop :=
  ∀ x ∈ s.log, x.op ∈ (past x.who).map Sigma.fst

variable [DecidableEq ι]

theorem Logged.Faithful.serve {s : Logged I ι σ} {past : ι → List (Entry I)}
    (h : s.Faithful past) (srv : Server I ι Env σ) (i : ι) (e : Env) (q : I.Op) (a : I.Ans q) :
    (srv.logged.serve i e s q).2.Faithful (Function.update past i (⟨q,a⟩ :: past i)) := by
  intro x hx
  rcases List.mem_cons.mp hx with rfl | hx
  · simp
  · by_cases hi : x.who = i
    · rw [hi,Function.update_self]
      exact List.mem_cons_of_mem _ (hi ▸ h x hx)
    · rw [Function.update_of_ne hi]
      exact h x hx

end Log

end Resumption
