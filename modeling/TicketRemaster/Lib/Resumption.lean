import Mathlib.Logic.Function.Basic
set_option autoImplicit false

/-! Programs that talk to the outside one call at a time: their sequencing, their
uninterrupted runs, and the rules for what every such run guarantees. -/

namespace Resumption

/-- The calls a program can make, and the answers each call can get. -/
structure Interface where
  Op : Type
  Ans : Op → Type

/-- A program either returns, raises, or makes a call and continues with the answer. -/
inductive Prog (I : Interface) (ε α : Type) where
  | ret : α → Prog I ε α
  | raise : ε → Prog I ε α
  | call : (q : I.Op) → (I.Ans q → Prog I ε α) → Prog I ε α

/-- A call that has been answered. Histories list the newest entry first. -/
abbrev Entry (I : Interface) := (q : I.Op) × I.Ans q

variable {I : Interface} {ε α β : Type}

namespace Prog

def bind (p : Prog I ε α) (f : α → Prog I ε β) : Prog I ε β :=
  match p with
  | .ret a => f a
  | .raise e => .raise e
  | .call q k => .call q (fun a => (k a).bind f)

instance : Monad (Prog I ε) where
  pure := .ret
  bind := bind

/-- Run a handler on the exception of a program, leaving normal results alone. -/
def handle (p : Prog I ε α) (f : ε → Prog I ε α) : Prog I ε α :=
  match p with
  | .ret a => .ret a
  | .raise e => f e
  | .call q k => .call q (fun a => (k a).handle f)

/-- Run `f` after `p`, on both exits, and keep the outcome of `p`. -/
def ensuring (p : Prog I ε α) (f : Prog I ε Unit) : Prog I ε α :=
  match p with
  | .ret a => f.bind (fun _ => .ret a)
  | .raise e => f.bind (fun _ => .raise e)
  | .call q k => .call q (fun a => (k a).ensuring f)

@[simp] theorem pure_eq (a : α) : (pure a : Prog I ε α) = .ret a := rfl

@[simp] theorem ret_bind (a : α) (f : α → Prog I ε β) : ((.ret a : Prog I ε α) >>= f) = f a := rfl

theorem bind_assoc {γ : Type} (p : Prog I ε α) (f : α → Prog I ε β) (g : β → Prog I ε γ) :
    (p >>= f) >>= g = p >>= fun a => f a >>= g := by
  induction p with
  | ret a => rfl
  | raise e => rfl
  | call q k ih => exact congrArg (Prog.call q) (funext ih)

end Prog

/-- What answers the calls: whether a call of participant `i` can be served now, and
the answer and next state when it is. `Env` holds the choices left to the outside. -/
structure Server (I : Interface) (ι Env σ : Type) where
  ready : σ → ι → Env → I.Op → Bool
  serve : ι → Env → σ → (q : I.Op) → I.Ans q × σ

/-- How an uninterrupted run ended. -/
structure Final (I : Interface) (ε α σ : Type) where
  result : Except ε α
  past : List (Entry I)
  state : σ

theorem Final.of_result {σ : Type} {f : Final I ε α σ} {r : Except ε α} (h : f.result = r) :
    f = ⟨r,f.past,f.state⟩ := by
  cases h
  rfl

variable {ι Env σ : Type} (srv : Server I ι Env σ) (i : ι)

namespace Prog

/-- The uninterrupted run of a program. The environment `ω` may base its choices on
everything that has happened in the run so far. -/
def exec (ω : List (Entry I) → Env) : Prog I ε α → List (Entry I) → σ → Final I ε α σ
  | .ret a, h, s => ⟨.ok a,h,s⟩
  | .raise e, h, s => ⟨.error e,h,s⟩
  | .call q k, h, s =>
      let r := srv.serve i (ω h) s q
      (k r.1).exec ω (⟨q,r.1⟩ :: h) r.2

/-- Every uninterrupted run whose environment keeps to `E` ends in `Q` if it returns, and
in `X` if it raises. -/
def Always (E : List (Entry I) → Env → Prop) (Q : α → List (Entry I) → σ → Prop)
    (X : ε → List (Entry I) → σ → Prop) : Prog I ε α → List (Entry I) → σ → Prop
  | .ret a, h, s => Q a h s
  | .raise e, h, s => X e h s
  | .call q k, h, s => ∀ e, E h e →
      (k (srv.serve i e s q).1).Always E Q X (⟨q,(srv.serve i e s q).1⟩ :: h)
        (srv.serve i e s q).2

end Prog

def Final.Meets (Q : α → List (Entry I) → σ → Prop) (X : ε → List (Entry I) → σ → Prop)
    (f : Final I ε α σ) : Prop :=
  match f.result with
  | .ok a => Q a f.past f.state
  | .error e => X e f.past f.state

theorem Final.Meets.ok {Q : α → List (Entry I) → σ → Prop} {X : ε → List (Entry I) → σ → Prop}
    {f : Final I ε α σ} (hf : f.Meets Q X) {a : α} (ha : f.result = .ok a) :
    Q a f.past f.state := by
  unfold Final.Meets at hf
  rwa [ha] at hf

/-- A run that cannot raise returns. -/
theorem Final.Meets.returns {Q : α → List (Entry I) → σ → Prop} {f : Final I ε α σ}
    (hf : f.Meets Q (fun _ _ _ => False)) :
    ∃ a, f = ⟨.ok a,f.past,f.state⟩ ∧ Q a f.past f.state := by
  obtain ⟨r,h,s⟩ := f
  cases r with
  | ok a => exact ⟨a,rfl,hf⟩
  | error e => exact hf.elim

theorem Final.Meets.error {Q : α → List (Entry I) → σ → Prop} {X : ε → List (Entry I) → σ → Prop}
    {f : Final I ε α σ} (hf : f.Meets Q X) {e : ε} (he : f.result = .error e) :
    X e f.past f.state := by
  unfold Final.Meets at hf
  rwa [he] at hf

namespace Prog

variable {srv i} {E : List (Entry I) → Env → Prop} {Q : α → List (Entry I) → σ → Prop}
  {X : ε → List (Entry I) → σ → Prop} {h : List (Entry I)} {s : σ}

@[simp] theorem always_ret {a : α} :
    (.ret a : Prog I ε α).Always srv i E Q X h s ↔ Q a h s := Iff.rfl

@[simp] theorem always_raise {e : ε} :
    (.raise e : Prog I ε α).Always srv i E Q X h s ↔ X e h s := Iff.rfl

theorem Always.exec {p : Prog I ε α} (hp : p.Always srv i E Q X h s)
    (ω : List (Entry I) → Env) (hω : ∀ h, E h (ω h)) : (p.exec srv i ω h s).Meets Q X := by
  induction p generalizing h s with
  | ret a => exact hp
  | raise e => exact hp
  | call q k ih => exact ih _ (hp (ω h) (hω h))

section Exec

variable {ω : List (Entry I) → Env} {h' : List (Entry I)} {s' : σ}

theorem exec_call {q : I.Op} {k : I.Ans q → Prog I ε α} {a : I.Ans q}
    (hq : srv.serve i (ω h) s q = (a,s')) :
    (call q k).exec srv i ω h s = (k a).exec srv i ω (⟨q,a⟩ :: h) s' := by
  simp only [exec,hq]

theorem exec_bind_call {q : I.Op} {k : I.Ans q → Prog I ε β} {f : β → Prog I ε α} {a : I.Ans q}
    (hq : srv.serve i (ω h) s q = (a,s')) :
    (call q k >>= f).exec srv i ω h s = (k a >>= f).exec srv i ω (⟨q,a⟩ :: h) s' := exec_call hq

/-- An uninterrupted run goes on from where its first part returned. -/
theorem exec_bind_ok {p : Prog I ε β} {f : β → Prog I ε α} {b : β}
    (hp : p.exec srv i ω h s = ⟨.ok b,h',s'⟩) :
    (p >>= f).exec srv i ω h s = (f b).exec srv i ω h' s' := by
  induction p generalizing h s with
  | ret b' => cases hp; rfl
  | raise e => cases hp
  | call q k ih => exact ih _ hp

/-- An uninterrupted run keeps what each of its calls keeps. -/
theorem exec_keeps (inv : σ → Prop) (hinv : ∀ e s q, inv s → inv (srv.serve i e s q).2)
    (p : Prog I ε α) (hs : inv s) : inv (p.exec srv i ω h s).state := by
  induction p generalizing h s with
  | ret a => exact hs
  | raise e => exact hs
  | call q k ih => exact ih _ (hinv _ _ _ hs)

theorem exec_bind_error {p : Prog I ε β} {f : β → Prog I ε α} {e : ε}
    (hp : p.exec srv i ω h s = ⟨.error e,h',s'⟩) :
    (p >>= f).exec srv i ω h s = ⟨.error e,h',s'⟩ := by
  induction p generalizing h s with
  | ret b => cases hp
  | raise e' => cases hp; rfl
  | call q k ih => exact ih _ hp

theorem exec_handle_ok {p : Prog I ε α} {f : ε → Prog I ε α} {a : α}
    (hp : p.exec srv i ω h s = ⟨.ok a,h',s'⟩) :
    (p.handle f).exec srv i ω h s = ⟨.ok a,h',s'⟩ := by
  induction p generalizing h s with
  | ret a' => exact hp
  | raise e => cases hp
  | call q k ih => exact ih _ hp

theorem exec_handle_error {p : Prog I ε α} {f : ε → Prog I ε α} {e : ε}
    (hp : p.exec srv i ω h s = ⟨.error e,h',s'⟩) :
    (p.handle f).exec srv i ω h s = (f e).exec srv i ω h' s' := by
  induction p generalizing h s with
  | ret a => cases hp
  | raise e' => cases hp; rfl
  | call q k ih => exact ih _ hp

theorem exec_ensuring_ok {p : Prog I ε α} {f : Prog I ε Unit} {a : α}
    (hp : p.exec srv i ω h s = ⟨.ok a,h',s'⟩) :
    (p.ensuring f).exec srv i ω h s = (f >>= fun _ => .ret a).exec srv i ω h' s' := by
  induction p generalizing h s with
  | ret a' => cases hp; rfl
  | raise e => cases hp
  | call q k ih => exact ih _ hp

end Exec

theorem Always.mono {Q' : α → List (Entry I) → σ → Prop} {X' : ε → List (Entry I) → σ → Prop}
    {p : Prog I ε α} (hp : p.Always srv i E Q X h s) (hQ : ∀ a h s, Q a h s → Q' a h s)
    (hX : ∀ e h s, X e h s → X' e h s) : p.Always srv i E Q' X' h s := by
  induction p generalizing h s with
  | ret a => exact hQ _ _ _ hp
  | raise e => exact hX _ _ _ hp
  | call q k ih => exact fun e he => ih _ (hp e he)

theorem always_true (p : Prog I ε α) :
    p.Always srv i E (fun _ _ _ => True) (fun _ _ _ => True) h s := by
  induction p generalizing h s with
  | ret a => trivial
  | raise e => trivial
  | call q k ih => exact fun e _ => ih _

/-- Sequencing: the rest of the program runs from wherever the first part returns. -/
theorem always_bind {p : Prog I ε β} {f : β → Prog I ε α} :
    (p >>= f).Always srv i E Q X h s ↔
      p.Always srv i E (fun a h s => (f a).Always srv i E Q X h s) X h s := by
  induction p generalizing h s with
  | ret a => exact Iff.rfl
  | raise e => exact Iff.rfl
  | call q k ih => exact forall_congr' (fun e => imp_congr_right (fun _ => ih _))

/-- `try … except`: the handler runs from wherever the program raised. -/
theorem always_handle {p : Prog I ε α} {f : ε → Prog I ε α} :
    (p.handle f).Always srv i E Q X h s ↔
      p.Always srv i E Q (fun e h s => (f e).Always srv i E Q X h s) h s := by
  induction p generalizing h s with
  | ret a => exact Iff.rfl
  | raise e => exact Iff.rfl
  | call q k ih => exact forall_congr' (fun e => imp_congr_right (fun _ => ih _))

theorem always_map {p : Prog I ε β} {f : β → α} :
    (f <$> p).Always srv i E Q X h s ↔ p.Always srv i E (fun a h s => Q (f a) h s) X h s :=
  always_bind

theorem always_ensuring {p : Prog I ε α} {f : Prog I ε Unit} :
    (p.ensuring f).Always srv i E Q X h s ↔
      p.Always srv i E (fun a h s => f.Always srv i E (fun _ => Q a) X h s)
        (fun e h s => f.Always srv i E (fun _ => X e) X h s) h s := by
  induction p generalizing h s with
  | ret a => exact always_bind (p := f) (f := fun _ => .ret a)
  | raise e => exact always_bind (p := f) (f := fun _ => .raise e)
  | call q k ih => exact forall_congr' (fun e => imp_congr_right (fun _ => ih _))

end Prog

/-- Every call the program can make satisfies `P`, and every exception it can end in `R`,
whatever the answers are. -/
def Prog.Calls (P : I.Op → Prop) (R : ε → Prop) : Prog I ε α → Prop
  | .ret _ => True
  | .raise e => R e
  | .call q k => P q ∧ ∀ a, (k a).Calls P R

namespace Prog

variable {P : I.Op → Prop} {R : ε → Prop}

@[simp] theorem calls_ret (a : α) : (.ret a : Prog I ε α).Calls P R := trivial

theorem calls_bind {p : Prog I ε α} {f : α → Prog I ε β} (hp : p.Calls P R)
    (hf : ∀ a, (f a).Calls P R) : (p >>= f).Calls P R := by
  induction p with
  | ret a => exact hf a
  | raise e => exact hp
  | call q k ih => exact ⟨hp.1,fun a => ih a (hp.2 a)⟩

theorem calls_handle {p : Prog I ε α} {f : ε → Prog I ε α} {S : ε → Prop} (hp : p.Calls P S)
    (hf : ∀ e, S e → (f e).Calls P R) : (p.handle f).Calls P R := by
  induction p with
  | ret a => trivial
  | raise e => exact hf e hp
  | call q k ih => exact ⟨hp.1,fun a => ih a (hp.2 a)⟩

theorem calls_ensuring {p : Prog I ε α} {f : Prog I ε Unit} (hp : p.Calls P R)
    (hf : f.Calls P R) : (p.ensuring f).Calls P R := by
  induction p with
  | ret a => exact calls_bind (f := fun _ => .ret a) hf fun _ => trivial
  | raise e => exact calls_bind (f := fun _ => .raise e) hf fun _ => hp
  | call q k ih => exact ⟨hp.1,fun a => ih a (hp.2 a)⟩

theorem calls_ite {c : Prop} [Decidable c] {p p' : Prog I ε α} (hp : p.Calls P R)
    (hp' : p'.Calls P R) : (if c then p else p').Calls P R := by
  split
  · exact hp
  · exact hp'

theorem Calls.mono {P' : I.Op → Prop} {R' : ε → Prop} {p : Prog I ε α} (hp : p.Calls P R)
    (hP : ∀ q, P q → P' q) (hR : ∀ e, R e → R' e) : p.Calls P' R' := by
  induction p with
  | ret a => trivial
  | raise e => exact hR e hp
  | call q k ih => exact ⟨hP q hp.1,fun a => ih a (hp.2 a)⟩

theorem Calls.and {P' : I.Op → Prop} {R' : ε → Prop} {p : Prog I ε α} (hp : p.Calls P R)
    (hp' : p.Calls P' R') : p.Calls (fun q => P q ∧ P' q) (fun e => R e ∧ R' e) := by
  induction p with
  | ret a => trivial
  | raise e => exact ⟨hp,hp'⟩
  | call q k ih => exact ⟨⟨hp.1,hp'.1⟩,fun a => ih a (hp.2 a) (hp'.2 a)⟩

theorem calls_true (p : Prog I ε α) : p.Calls (fun _ => True) (fun _ => True) := by
  induction p with
  | ret a => trivial
  | raise e => trivial
  | call q k ih => exact ⟨trivial,ih⟩

/-- A program all of whose calls keep `J` keeps `J`. -/
theorem Calls.always {srv : Server I ι Env σ} {i : ι} {E : List (Entry I) → Env → Prop}
    {J : List (Entry I) → σ → Prop} {p : Prog I ε α} (hp : p.Calls P R)
    (hJ : ∀ q, P q → ∀ h e s, E h e → J h s →
      J (⟨q,(srv.serve i e s q).1⟩ :: h) (srv.serve i e s q).2)
    {h : List (Entry I)} {s : σ} (hs : J h s) :
    p.Always srv i E (fun _ h s => J h s) (fun e h s => R e ∧ J h s) h s := by
  induction p generalizing h s with
  | ret a => exact hs
  | raise e => exact ⟨hp,hs⟩
  | call q k ih => exact fun e he => ih _ (hp.2 _) (hJ q hp.1 h e s he hs)

end Prog

/-- Every call of the program satisfies `P`, and it raises where it gets a `bad` answer, and
nowhere else. -/
def Prog.RaisesAt (P : I.Op → Prop) (bad : Entry I → Bool) : Prog I ε α → Prop
  | .ret _ => True
  | .raise _ => False
  | .call q k => P q ∧ ∀ a, (bad ⟨q,a⟩ = true ∧ ∃ e, k a = .raise e) ∨
      (bad ⟨q,a⟩ = false ∧ (k a).RaisesAt P bad)

/-- The history has grown by calls that satisfy `P`, with a bad answer among them or not. -/
def GrownBy (P : I.Op → Prop) (bad : Entry I → Bool) (found : Bool) (h h' : List (Entry I)) :
    Prop := ∃ new, h' = new ++ h ∧ (∀ x ∈ new, P x.1) ∧ new.any bad = found

namespace Prog

variable {P : I.Op → Prop} {bad : Entry I → Bool}

theorem raisesAt_bind {p : Prog I ε β} {f : β → Prog I ε α} (hp : p.RaisesAt P bad)
    (hf : ∀ b, (f b).RaisesAt P bad) : (p >>= f).RaisesAt P bad := by
  induction p with
  | ret b => exact hf b
  | raise e => exact hp.elim
  | call q k ih =>
    refine ⟨hp.1,fun a => ?_⟩
    rcases hp.2 a with ⟨hbad,e,he⟩ | ⟨hgood,hrest⟩
    · exact .inl ⟨hbad,e,congrArg (Prog.bind · f) he⟩
    · exact .inr ⟨hgood,ih a hrest⟩

theorem grownBy_refl (h : List (Entry I)) : GrownBy P bad false h h := ⟨[],rfl,by simp,rfl⟩

theorem grownBy_cons {x : Entry I} {found : Bool} {h h' : List (Entry I)} (hx : P x.1)
    (hh : GrownBy P bad found (x :: h) h') : GrownBy P bad (found || bad x) h h' := by
  obtain ⟨new,rfl,hnew,hfound⟩ := hh
  refine ⟨new ++ [x],by simp,fun y hy => ?_,by simp [← hfound]⟩
  rcases List.mem_append.mp hy with hy | hy
  · exact hnew y hy
  · rwa [List.mem_singleton.mp hy]

theorem RaisesAt.always {srv : Server I ι Env σ} {i : ι} {E : List (Entry I) → Env → Prop}
    {p : Prog I ε α} (hp : p.RaisesAt P bad) {h : List (Entry I)} {s : σ} :
    p.Always srv i E (fun _ h' _ => GrownBy P bad false h h')
      (fun _ h' _ => GrownBy P bad true h h') h s := by
  induction p generalizing h s with
  | ret a => exact grownBy_refl h
  | raise e => exact hp.elim
  | call q k ih =>
    intro e _
    rcases hp.2 (srv.serve i e s q).1 with ⟨hbad,e',he⟩ | ⟨hgood,hrest⟩
    · rw [he]
      exact ⟨[_],rfl,by simpa using hp.1,by simpa using hbad⟩
    · refine (ih _ hrest).mono (fun _ h' _ hh => ?_) (fun _ h' _ hh => ?_)
      · simpa [hgood] using grownBy_cons hp.1 hh
      · simpa [hgood] using grownBy_cons hp.1 hh

end Prog

/-- Every result the program can return satisfies `Q`, whatever the answers are. -/
def Prog.Returns (Q : α → Prop) : Prog I ε α → Prop
  | .ret a => Q a
  | .raise _ => True
  | .call _ k => ∀ a, (k a).Returns Q

namespace Prog

variable {Q : α → Prop}

/-- A result does not depend on what comes before. -/
theorem returns_bind {p : Prog I ε β} {f : β → Prog I ε α} (hf : ∀ b, (f b).Returns Q) :
    (p >>= f).Returns Q := by
  induction p with
  | ret b => exact hf b
  | raise e => trivial
  | call q k ih => exact ih

theorem Returns.always {srv : Server I ι Env σ} {i : ι} {E : List (Entry I) → Env → Prop}
    {p : Prog I ε α} (hp : p.Returns Q) {h : List (Entry I)} {s : σ} :
    p.Always srv i E (fun a _ _ => Q a) (fun _ _ _ => True) h s := by
  induction p generalizing h s with
  | ret a => exact hp
  | raise e => trivial
  | call q k ih => exact fun e _ => ih _ (hp _)

end Prog

/-- What a program comes to when a call gets the same answer whenever it is made. -/
def Prog.eval (answers : (q : I.Op) → I.Ans q) : Prog I ε α → Except ε α
  | .ret a => .ok a
  | .raise e => .error e
  | .call q k => (k (answers q)).eval answers

namespace Prog

variable {answers : (q : I.Op) → I.Ans q}

theorem eval_bind_ok {p : Prog I ε β} {f : β → Prog I ε α} {b : β} (hp : p.eval answers = .ok b) :
    (p >>= f).eval answers = (f b).eval answers := by
  induction p with
  | ret b' => cases hp; rfl
  | raise e => cases hp
  | call q k ih => exact ih _ hp

/-- An uninterrupted run comes to the same, if its server answers all its calls so and nothing
changes. -/
theorem Calls.exec_eval {P : I.Op → Prop} {R : ε → Prop} {srv : Server I ι Env σ} {i : ι}
    {ω : List (Entry I) → Env} {s : σ} {p : Prog I ε α} (hp : p.Calls P R)
    (hsrv : ∀ q, P q → ∀ h, srv.serve i (ω h) s q = (answers q,s)) (h : List (Entry I)) :
    (p.exec srv i ω h s).result = p.eval answers ∧ (p.exec srv i ω h s).state = s := by
  induction p generalizing h with
  | ret a => exact ⟨rfl,rfl⟩
  | raise e => exact ⟨rfl,rfl⟩
  | call q k ih =>
    rw [exec_call (hsrv q hp.1 h)]
    exact ih _ (hp.2 _) _

end Prog

end Resumption
