import Mathlib.Data.Fintype.Basic

/-! # Programs that call out of themselves

A controller computes between calls to systems it does not own: an API server, a remote
service. `Prog Op Resp α` is such a computation as data. It either returns (`ret`) or issues
one operation and goes on with the answer (`call`). What an operation does is not said here:
`Effect/Machine.lean` runs programs against a world, `Trace` below only records which
operations were issued and what they were answered.
-/

set_option autoImplicit false

namespace Effect

/-- A computation that issues operations `op : Op`, each answered by a value of `Resp op`. -/
inductive Prog (Op : Type) (Resp : Op → Type) (α : Type) : Type where
  | ret (a : α) : Prog Op Resp α
  | call (op : Op) (k : Resp op → Prog Op Resp α) : Prog Op Resp α

namespace Prog

variable {Op : Type} {Resp : Op → Type} {α β γ : Type}

protected def bind : Prog Op Resp α → (α → Prog Op Resp β) → Prog Op Resp β
  | ret a, f => f a
  | call op k, f => call op (fun r => (k r).bind f)

instance : Monad (Prog Op Resp) where
  pure := ret
  bind := Prog.bind

/-- The program that issues `op` and returns its answer. -/
def perform (op : Op) : Prog Op Resp (Resp op) := call op ret

theorem call_bind (op : Op) (k : Resp op → Prog Op Resp α) (f : α → Prog Op Resp β) :
    (call op k >>= f) = call op (fun r => k r >>= f) := rfl

theorem perform_bind (op : Op) (f : Resp op → Prog Op Resp β) :
    (perform op >>= f) = call op f := rfl

theorem bind_ret (p : Prog Op Resp α) : (p >>= ret) = p := by
  induction p with
  | ret a => rfl
  | call op k ih =>
    rw [call_bind]
    exact congrArg (call op) (funext ih)

theorem bind_bind (p : Prog Op Resp α) (f : α → Prog Op Resp β) (g : β → Prog Op Resp γ) :
    (p >>= f >>= g) = (p >>= fun a => f a >>= g) := by
  induction p with
  | ret a => rfl
  | call op k ih =>
    rw [call_bind, call_bind, call_bind]
    exact congrArg (call op) (funext ih)

instance : LawfulMonad (Prog Op Resp) := LawfulMonad.mk' _ bind_ret (fun _ _ => rfl) bind_bind

/-! ## Traces

A trace is the list of operations issued with the answers received. Nothing constrains the
answers, so a statement about every trace is a statement about every behaviour of the
systems called. -/

/-- One operation together with its answer. -/
abbrev Event (Op : Type) (Resp : Op → Type) : Type := (op : Op) × Resp op

/-- `Trace p t a`: answered as `t` says, `p` issues exactly the operations of `t` and
returns `a`. -/
inductive Trace : Prog Op Resp α → List (Event Op Resp) → α → Prop where
  | ret (a : α) : Trace (ret a) [] a
  | call (op : Op) (k : Resp op → Prog Op Resp α) (r : Resp op) {t : List (Event Op Resp)}
      {a : α} (h : Trace (k r) t a) : Trace (call op k) (⟨op, r⟩ :: t) a

variable {t : List (Event Op Resp)}

theorem trace_ret_iff {a b : α} : Trace (ret a) t b ↔ t = [] ∧ b = a := by
  constructor
  · intro h
    cases h
    exact ⟨rfl, rfl⟩
  · rintro ⟨rfl, rfl⟩
    exact .ret _

theorem trace_pure_iff {a b : α} :
    Trace (pure a : Prog Op Resp α) t b ↔ t = [] ∧ b = a := trace_ret_iff

theorem trace_call_iff {op : Op} {k : Resp op → Prog Op Resp α} {a : α} :
    Trace (call op k) t a ↔ ∃ r t', t = ⟨op, r⟩ :: t' ∧ Trace (k r) t' a := by
  constructor
  · intro h
    cases h with
    | call _ _ r h => exact ⟨r, _, rfl, h⟩
  · rintro ⟨r, t', rfl, h⟩
    exact .call op k r h

variable {p : Prog Op Resp α} {f : α → Prog Op Resp β}

/-- A trace of a sequential composition splits at the point where the first part returns. -/
theorem trace_bind_iff {b : β} :
    Trace (p >>= f) t b ↔ ∃ t₁ t₂ a, t = t₁ ++ t₂ ∧ Trace p t₁ a ∧ Trace (f a) t₂ b := by
  constructor
  · intro h
    induction p generalizing t with
    | ret a => exact ⟨[], t, a, rfl, .ret a, h⟩
    | call op k ih =>
      rw [call_bind] at h
      obtain ⟨r, t', rfl, h'⟩ := trace_call_iff.mp h
      obtain ⟨t₁, t₂, a, rfl, h₁, h₂⟩ := ih r h'
      exact ⟨⟨op, r⟩ :: t₁, t₂, a, rfl, .call op k r h₁, h₂⟩
  · rintro ⟨t₁, t₂, a, rfl, h₁, h₂⟩
    induction h₁ with
    | ret a => exact h₂
    | call op k r _ ih => exact .call op _ r (ih h₂)

theorem trace_perform_bind_iff {op : Op} {f : Resp op → Prog Op Resp β} {b : β} :
    Trace (perform op >>= f) t b ↔ ∃ r t', t = ⟨op, r⟩ :: t' ∧ Trace (f r) t' b := by
  rw [perform_bind, trace_call_iff]

/-- The trace and the value of a program whose operations are all answered by `f`. -/
def answeredBy (f : (op : Op) → Resp op) : Prog Op Resp α → List (Event Op Resp) × α
  | ret a => ([], a)
  | call op k => (⟨op, f op⟩ :: ((k (f op)).answeredBy f).1, ((k (f op)).answeredBy f).2)

theorem trace_answeredBy (f : (op : Op) → Resp op) (p : Prog Op Resp α) :
    Trace p (p.answeredBy f).1 (p.answeredBy f).2 := by
  induction p with
  | ret a => exact .ret a
  | call op k ih => exact .call op k (f op) (ih (f op))

theorem answer_of_mem_answeredBy {f : (op : Op) → Resp op} {p : Prog Op Resp α}
    {e : Event Op Resp} (h : e ∈ (p.answeredBy f).1) : e.2 = f e.1 := by
  induction p with
  | ret a => cases h
  | call op k ih =>
    rcases List.mem_cons.mp h with rfl | h'
    · rfl
    · exact ih _ h'

/-! ## The operations a program can issue -/

/-- Every operation `p` can issue, whatever it is answered, satisfies `P`. -/
def Uses (P : Op → Prop) : Prog Op Resp α → Prop
  | ret _ => True
  | call op k => P op ∧ ∀ r, (k r).Uses P

variable {P : Op → Prop}

protected theorem Uses.pure {a : α} : (pure a : Prog Op Resp α).Uses P := trivial

theorem Uses.perform {op : Op} (h : P op) :
    (perform op : Prog Op Resp (Resp op)).Uses P := ⟨h, fun _ => trivial⟩

theorem uses_true (p : Prog Op Resp α) : p.Uses (fun _ => True) := by
  induction p with
  | ret a => trivial
  | call op k ih => exact ⟨trivial, ih⟩

theorem Uses.bind (hp : p.Uses P) (hf : ∀ a, (f a).Uses P) : (p >>= f).Uses P := by
  induction p with
  | ret a => exact hf a
  | call op k ih => exact ⟨hp.1, fun r => ih r (hp.2 r)⟩

theorem Uses.mono {P P' : Op → Prop} (h : ∀ op, P op → P' op) (hp : p.Uses P) : p.Uses P' := by
  induction p with
  | ret a => trivial
  | call op k ih => exact ⟨h op hp.1, fun r => ih r (hp.2 r)⟩

theorem uses_forM {xs : List β} {f : β → Prog Op Resp PUnit} (h : ∀ x ∈ xs, (f x).Uses P) :
    (xs.forM f).Uses P := by
  induction xs with
  | nil => exact .pure
  | cons x xs ih =>
    show (f x >>= fun _ => xs.forM f).Uses P
    exact (h x (by simp)).bind (fun _ => ih (fun y hy => h y (by simp [hy])))

/-- The operations recorded in a trace are among those the program can issue. -/
theorem Uses.of_mem_trace {a : α} (hp : p.Uses P) (ht : Trace p t a) : ∀ e ∈ t, P e.1 := by
  induction ht with
  | ret a => intro e he; cases he
  | call op k r _ ih =>
    intro e he
    rcases List.mem_cons.mp he with rfl | he
    · exact hp.1
    · exact ih (hp.2 r) e he

/-! ## The values a program can return -/

/-- Every operation `p` can issue satisfies `P`, and every value it can return satisfies `R`. -/
def Yields (P : Op → Prop) (R : α → Prop) : Prog Op Resp α → Prop
  | ret a => R a
  | call op k => P op ∧ ∀ r, (k r).Yields P R

variable {R : α → Prop}

protected theorem Yields.pure {a : α} (h : R a) : (pure a : Prog Op Resp α).Yields P R := h

theorem Uses.yields (hp : p.Uses P) : p.Yields P (fun _ => True) := by
  induction p with
  | ret a => trivial
  | call op k ih => exact ⟨hp.1, fun r => ih r (hp.2 r)⟩

theorem Yields.uses (hp : p.Yields P R) : p.Uses P := by
  induction p with
  | ret a => trivial
  | call op k ih => exact ⟨hp.1, fun r => ih r (hp.2 r)⟩

theorem Yields.mono {P P' : Op → Prop} {R R' : α → Prop} (hp : p.Yields P R)
    (hP : ∀ op, P op → P' op) (hR : ∀ a, R a → R' a) : p.Yields P' R' := by
  induction p with
  | ret a => exact hR a hp
  | call op k ih => exact ⟨hP op hp.1, fun r => ih r (hp.2 r)⟩

theorem Yields.bind {R' : β → Prop} (hp : p.Yields P R) (hf : ∀ a, R a → (f a).Yields P R') :
    (p >>= f).Yields P R' := by
  induction p with
  | ret a => exact hf a hp
  | call op k ih => exact ⟨hp.1, fun r => ih r (hp.2 r)⟩

theorem Uses.bind_yields {R : β → Prop} (hp : p.Uses P) (hf : ∀ a, (f a).Yields P R) :
    (p >>= f).Yields P R :=
  hp.yields.bind (fun a _ => hf a)

end Prog

/-! ## Protocols: what a program may call, and when

A `Protocol` says in which states which operations may be issued, what may be expected of their
answers, and how an answer moves the state. It mentions no world: it is the abstract view of a
program by the sequence of its calls. `P.wp p Q s` says that `p`, started in the state `s`, keeps
to the protocol whatever it is answered within what is expected, and returns only with `Q`. Its
rules follow the monad: one for `pure`, one for an operation, one for `bind`, one for each kind of
loop, and the same for programs that may stop early with an error (`ExceptT`).
-/

/-- Run `x`; if it comes back with an error, stop with `f` of it. -/
def orFail {m : Type → Type} [Monad m] {α ε ε' : Type} (x : m (Except ε α)) (f : ε → ε') :
    ExceptT ε' m α :=
  ExceptT.mk (x >>= fun r => pure (r.mapError f))

/-- Stop with `e` if `c` holds. -/
def failIf {m : Type → Type} [Monad m] {ε : Type} (c : Bool) (e : ε) : ExceptT ε m Unit :=
  if c then throw e else pure ()

structure Protocol (Op : Type) (Resp : Op → Type) (State : Type) where
  /-- `op` may be issued in the state `s`. -/
  allowed : State → Op → Prop
  /-- `r` is an answer to `op` that can come in the state `s`. -/
  expects : State → (op : Op) → Resp op → Prop
  /-- The state after `op` has been answered. -/
  next : State → (op : Op) → Resp op → State

namespace Protocol

variable {Op : Type} {Resp : Op → Type} {State : Type} {α β ε : Type}
variable (P : Protocol Op Resp State)

/-- From `s`, `p` keeps to the protocol as long as its answers are expected, and returns with
`Q`. -/
def wp : Prog Op Resp α → (α → State → Prop) → State → Prop
  | .ret a, Q, s => Q a s
  | .call op k, Q, s =>
    P.allowed s op ∧ ∀ r, P.expects s op r → wp (k r) Q (P.next s op r)

variable {P}

variable {s : State} {Q : α → State → Prop}

@[simp] theorem wp_pure {a : α} : P.wp (pure a) Q s ↔ Q a s := Iff.rfl

variable {p : Prog Op Resp α}

theorem wp_mono {Q Q' : α → State → Prop} (hp : P.wp p Q s) (h : ∀ a s', Q a s' → Q' a s') :
    P.wp p Q' s := by
  induction p generalizing s with
  | ret a => exact h a s hp
  | call op k ih => exact ⟨hp.1, fun r hr => ih r (hp.2 r hr)⟩

@[simp] theorem wp_bind {f : α → Prog Op Resp β} {Q : β → State → Prop} :
    P.wp (p >>= f) Q s ↔ P.wp p (fun a s' => P.wp (f a) Q s') s := by
  induction p generalizing s with
  | ret a => exact Iff.rfl
  | call op k ih =>
    rw [Prog.call_bind]
    exact and_congr Iff.rfl (forall_congr' (fun r => imp_congr Iff.rfl (ih r)))

variable {I : State → Prop}

/-- A loop that keeps an assertion `I` of the state keeps it to its end. -/
theorem wp_forM {xs : List β} {f : β → Prog Op Resp PUnit}
    (hf : ∀ x ∈ xs, ∀ s, I s → P.wp (f x) (fun _ s' => I s') s) (hs : I s) :
    P.wp (xs.forM f) (fun _ s' => I s') s := by
  induction xs generalizing s with
  | nil => exact hs
  | cons x xs ih =>
    show P.wp (f x >>= fun _ => xs.forM f) _ s
    rw [wp_bind]
    refine wp_mono (hf x (by simp) s hs) (fun _ s' hs' => ?_)
    exact ih (fun y hy => hf y (by simp [hy])) hs'

/-- A loop with an accumulator that keeps an assertion about what it has been over. -/
theorem wp_foldlM {γ : Type} {f : β → γ → Prog Op Resp β} {J : List γ → β → State → Prop}
    (hf : ∀ done x b s, J done b s → P.wp (f b x) (J (done ++ [x])) s) (xs done : List γ) {b : β}
    (hs : J done b s) : P.wp (xs.foldlM f b) (J (done ++ xs)) s := by
  induction xs generalizing done b s with
  | nil =>
    rw [List.append_nil]
    exact hs
  | cons x xs ih =>
    rw [List.foldlM_cons, wp_bind, List.append_cons]
    exact wp_mono (hf done x b s hs) (fun b' s' hs' => ih (done ++ [x]) hs')

theorem wp_of_yields {N : Op → Prop} {R : α → Prop} (hp : p.Yields N R) (hs : I s)
    (hN : ∀ op s, N op → I s → P.allowed s op ∧ ∀ r, P.expects s op r → I (P.next s op r)) :
    P.wp p (fun a s' => R a ∧ I s') s := by
  induction p generalizing s with
  | ret a => exact ⟨hp, hs⟩
  | call op k ih =>
    obtain ⟨ha, hn⟩ := hN op s hp.1 hs
    exact ⟨ha, fun r hr => ih r (hp.2 r) (hn r hr)⟩

theorem wp_of_uses {N : Op → Prop} (hp : p.Uses N) (hs : I s)
    (hN : ∀ op s, N op → I s → P.allowed s op ∧ ∀ r, P.expects s op r → I (P.next s op r)) :
    P.wp p (fun _ s' => I s') s :=
  wp_mono (wp_of_yields hp.yields hs hN) (fun _ _ h => h.2)

/-! ## Programs that may stop early -/

variable (P) in
/-- `wp` for a program that either returns with `Q` or stops with an error under `E`. -/
def wpE (p : ExceptT ε (Prog Op Resp) α) (Q : α → State → Prop) (E : ε → State → Prop)
    (s : State) : Prop :=
  P.wp p.run (fun r s' => match r with
    | .ok a => Q a s'
    | .error e => E e s') s

variable {E : ε → State → Prop}

@[simp] theorem wpE_pure {a : α} :
    P.wpE (pure a) Q E s ↔ Q a s := Iff.rfl

@[simp] theorem wpE_lift : P.wpE (ExceptT.lift p) Q E s ↔ P.wp p Q s := by
  unfold wpE
  rw [ExceptT.run_lift, ← bind_pure_comp, wp_bind]
  exact Iff.rfl

@[simp] theorem wpE_bind {p : ExceptT ε (Prog Op Resp) α} {f : α → ExceptT ε (Prog Op Resp) β}
    {Q : β → State → Prop} :
    P.wpE (p >>= f) Q E s ↔ P.wpE p (fun a s' => P.wpE (f a) Q E s') E s := by
  unfold wpE
  rw [ExceptT.run_bind, wp_bind]
  constructor
  · intro h
    refine wp_mono h (fun r s' h' => ?_)
    cases r with
    | ok a | error e => exact h'
  · intro h
    refine wp_mono h (fun r s' h' => ?_)
    cases r with
    | ok a | error e => exact h'

/-- An assertion that does not depend on how the program ends. -/
theorem wpE_same {p : ExceptT ε (Prog Op Resp) α} :
    P.wpE p (fun _ s' => I s') (fun _ s' => I s') s ↔ P.wp p.run (fun _ s' => I s') s := by
  refine ⟨fun h => wp_mono h (fun r s' h' => ?_), fun h => wp_mono h (fun r s' h' => ?_)⟩
  · cases r <;> exact h'
  · cases r <;> exact h'

theorem wpE_mono {p : ExceptT ε (Prog Op Resp) α} {Q Q' : α → State → Prop}
    {E E' : ε → State → Prop} (hp : P.wpE p Q E s) (hQ : ∀ a s', Q a s' → Q' a s')
    (hE : ∀ e s', E e s' → E' e s') : P.wpE p Q' E' s := by
  refine wp_mono hp (fun r s' h => ?_)
  cases r with
  | ok a => exact hQ a s' h
  | error e => exact hE e s' h

theorem wpE_post {p : ExceptT ε (Prog Op Resp) α} {Q Q' : α → State → Prop}
    {E : ε → State → Prop} (hp : P.wpE p Q E s) (hQ : ∀ a s', Q a s' → Q' a s') :
    P.wpE p Q' E s :=
  wpE_mono hp hQ (fun _ _ hf => hf)

theorem wpE_forM {xs : List β} {f : β → ExceptT ε (Prog Op Resp) PUnit}
    (hf : ∀ x ∈ xs, ∀ s, I s → P.wpE (f x) (fun _ s' => I s') E s) (hs : I s) :
    P.wpE (xs.forM f) (fun _ s' => I s') E s := by
  induction xs generalizing s with
  | nil => exact hs
  | cons x xs ih =>
    show P.wpE (f x >>= fun _ => xs.forM f) _ E s
    rw [wpE_bind]
    refine wpE_post (hf x (by simp) s hs) (fun _ s' hs' => ?_)
    exact ih (fun y hy => hf y (by simp [hy])) hs'

end Protocol

namespace Protocol

variable {Op : Type} {Resp : Op → Type} {State : Type} {α ε ε' : Type}
variable {P : Protocol Op Resp State}

@[simp] theorem wpE_orFail {p : Prog Op Resp (Except ε α)} {f : ε → ε'}
    {Q : α → State → Prop} {E : ε' → State → Prop} {s : State} :
    P.wpE (orFail p f) Q E s ↔ P.wp p (fun r s' => match r with
      | .ok a => Q a s'
      | .error e => E (f e) s') s := by
  show P.wp (p >>= fun r => pure (r.mapError f)) _ s ↔ _
  rw [wp_bind]
  constructor
  · intro h
    refine wp_mono h (fun r s' h' => ?_)
    cases r with
    | ok a | error e => exact h'
  · intro h
    refine wp_mono h (fun r s' h' => ?_)
    cases r with
    | ok a | error e => exact h'

theorem wpE_failIf {c : Bool} {e : ε} {Q : Unit → State → Prop} {E : ε → State → Prop}
    {s : State} (hE : c = true → E e s) (hQ : c = false → Q () s) :
    P.wpE (failIf c e) Q E s := by
  cases c with
  | true => exact hE rfl
  | false => exact hQ rfl

/-! ## The operations of programs that may stop early -/

section

variable {β : Type} {N : Op → Prop}

theorem uses_run_bind {p : ExceptT ε (Prog Op Resp) α} {f : α → ExceptT ε (Prog Op Resp) β}
    (hp : p.run.Uses N) (hf : ∀ a, (f a).run.Uses N) : (p >>= f).run.Uses N := by
  rw [ExceptT.run_bind]
  refine hp.bind (fun r => ?_)
  cases r with
  | ok a => exact hf a
  | error e => exact .pure

theorem uses_orFail {p : Prog Op Resp (Except ε α)} {f : ε → ε'} (hp : p.Uses N) :
    (orFail p f).run.Uses N := hp.bind (fun _ => .pure)

theorem uses_lift {p : Prog Op Resp α} (hp : p.Uses N) :
    (ExceptT.lift p : ExceptT ε (Prog Op Resp) α).run.Uses N := hp.bind (fun _ => .pure)

theorem uses_run_forM {xs : List β} {f : β → ExceptT ε (Prog Op Resp) PUnit}
    (hf : ∀ x ∈ xs, (f x).run.Uses N) : (xs.forM f).run.Uses N := by
  induction xs with
  | nil => exact .pure
  | cons x xs ih =>
    show (f x >>= fun _ => xs.forM f).run.Uses N
    exact uses_run_bind (hf x (by simp)) (fun _ => ih (fun y hy => hf y (by simp [hy])))

theorem uses_failIf (c : Bool) (e : ε) :
    (failIf c e : ExceptT ε (Prog Op Resp) Unit).run.Uses N := by
  cases c with
  | true | false => exact .pure

end

/-! ## Along a trace -/

/-- The state after the operations and answers of `t`. -/
def after (P : Protocol Op Resp State) (s : State) (t : List (Prog.Event Op Resp)) : State :=
  t.foldl (fun s e => P.next s e.1 e.2) s

/-- A protocol that only watches: everything may be called, and any answer can come. -/
def watching (next : State → (op : Op) → Resp op → State) : Protocol Op Resp State where
  allowed _ _ := True
  expects _ _ _ := True
  next := next

/-- What is seen of a trace is what the watched program is proved to show. -/
theorem after_watching {next : State → (op : Op) → Resp op → State} {p : Prog Op Resp α}
    {Q : α → State → Prop} {s : State} {t : List (Prog.Event Op Resp)} {a : α}
    (hp : (watching next).wp p Q s) (ht : Prog.Trace p t a) :
    Q a ((watching next).after s t) := by
  induction ht generalizing s with
  | ret a => exact hp
  | call op k r _ ih => exact ih (hp.2 r trivial)

end Protocol

/-! ## Programs run to their end

A handler answers every operation in one way, so a program run against it is a function of the
world (`Prog.eval`). A handler is a protocol whose state is the world, so the rules of `wp` are
rules for `eval` (`wp_ofHandler`).
-/

variable {Op : Type} {Resp : Op → Type} {World : Type} {α : Type}

/-- Run a program to its end, every operation answered by `h`. -/
def Prog.eval (h : World → (op : Op) → Resp op × World) : Prog Op Resp α → World → α × World
  | .ret a, w => (a, w)
  | .call op k, w => (k (h w op).1).eval h (h w op).2

/-- The protocol of a handler: everything may be called, and is answered as the handler does. -/
def Protocol.ofHandler (h : World → (op : Op) → Resp op × World) : Protocol Op Resp World where
  allowed _ _ := True
  expects w op r := r = (h w op).1
  next w op _ := (h w op).2

/-- What holds of every run against the handler holds of the one there is. -/
theorem Protocol.wp_ofHandler {h : World → (op : Op) → Resp op × World} {p : Prog Op Resp α}
    {Q : α → World → Prop} {w : World} :
    (Protocol.ofHandler h).wp p Q w ↔ Q (p.eval h w).1 (p.eval h w).2 := by
  induction p generalizing w with
  | ret a => exact Iff.rfl
  | call op k ih =>
    constructor
    · rintro ⟨-, hp⟩
      exact (ih _).mp (hp _ rfl)
    · intro hp
      refine ⟨trivial, ?_⟩
      rintro r rfl
      exact (ih _).mpr hp

end Effect
