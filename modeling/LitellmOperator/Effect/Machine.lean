import LitellmOperator.Effect.Protocol

/-! # Running a program against a world

A `Machine` starts one fixed program again and again (a controller's reconcile) against a
world. Between any two calls of the program the environment may take steps of its own, every
call is answered by the world as a `Reply` picked by the environment directs (so failures are
replies), and the program may be cut off at any point (`crash`). Runs are lists of actions and
are executable; `Reaches` is reachability by them, under a side condition on the actions.

A program that keeps to a protocol is simulated by the states of the protocol: `Invariant`
asks for an assertion about the world and the protocol state that every step keeps, and
`Invariant.reach` turns it into a fact about every run of the machine.
-/

set_option autoImplicit false

namespace Effect

structure Machine (Op : Type) (Resp : Op → Type) (World Reply Env : Type) where
  /-- Answer `op` as the reply directs; `none` when the reply does not fit. -/
  answer : World → (op : Op) → Reply → Option (Resp op × World)
  /-- One step of the environment; `none` when it is not enabled. -/
  env : World → Env → Option World
  /-- The program started by `Action.start`. -/
  main : Prog Op Resp Unit

/-- A configuration: the world, and what is left of the program if one is running. -/
structure Conf (Op : Type) (Resp : Op → Type) (World : Type) where
  world : World
  running : Option (Prog Op Resp Unit)

inductive Action (Reply Env : Type) where
  | env (e : Env)
  | start
  | step (r : Reply)
  | crash

/-- A side condition on the actions of a run, each seen with the world before it. -/
structure Guard (Op World Reply Env : Type) where
  env : World → Env → Prop
  reply : World → Op → Reply → Prop
  crash : World → Prop

/-- No side condition. -/
def Guard.free {Op World Reply Env : Type} : Guard Op World Reply Env :=
  ⟨fun _ _ => True, fun _ _ _ => True, fun _ => True⟩

/-- Every action that satisfies the first side condition satisfies the second. -/
structure Guard.Implies {Op World Reply Env : Type} (G' G : Guard Op World Reply Env) : Prop where
  env : ∀ w e, G'.env w e → G.env w e
  reply : ∀ w op r, G'.reply w op r → G.reply w op r
  crash : ∀ w, G'.crash w → G.crash w

/-- The side condition can be decided. -/
class Guard.Decides {Op World Reply Env : Type} (G : Guard Op World Reply Env) where
  env : ∀ w e, Decidable (G.env w e)
  reply : ∀ w op r, Decidable (G.reply w op r)
  crash : ∀ w, Decidable (G.crash w)

instance {Op World Reply Env : Type} : (Guard.free : Guard Op World Reply Env).Decides :=
  ⟨fun _ _ => .isTrue trivial, fun _ _ _ => .isTrue trivial, fun _ => .isTrue trivial⟩

section

variable {Op : Type} {Resp : Op → Type} {World Reply Env : Type} {α β : Type}

/-- What is left to run: nothing, once the program has returned. -/
def resume : Prog Op Resp Unit → Option (Prog Op Resp Unit)
  | .ret _ => none
  | .call op k => some (.call op k)

namespace Machine

variable (M : Machine Op Resp World Reply Env)

def exec (c : Conf Op Resp World) : Action Reply Env → Option (Conf Op Resp World)
  | .env e => (M.env c.world e).map (fun w => ⟨w, c.running⟩)
  | .start =>
    match c.running with
    | none => some ⟨c.world, resume M.main⟩
    | some _ => none
  | .step r =>
    match c.running with
    | some (.call op k) => (M.answer c.world op r).map (fun aw => ⟨aw.2, resume (k aw.1)⟩)
    | _ => none
  | .crash =>
    match c.running with
    | some _ => some ⟨c.world, none⟩
    | none => none

/-- A step of the program answers the operation it is about to issue. -/
theorem exec_step {c c' : Conf Op Resp World} {rep : Reply} (h : M.exec c (.step rep) = some c') :
    ∃ op k r, c.running = some (.call op k) ∧ M.answer c.world op rep = some (r, c'.world) := by
  obtain ⟨w, running⟩ := c
  rcases running with _ | p
  · cases h
  cases p with
  | ret a => cases h
  | call op k =>
    obtain ⟨⟨r, w'⟩, hw', rfl⟩ := Option.map_eq_some_iff.mp h
    exact ⟨op, k, r, rfl, hw'⟩

/-- The action `a`, taken in `c`, satisfies the side condition `G`. -/
def Meets (G : Guard Op World Reply Env) (c : Conf Op Resp World) : Action Reply Env → Prop
  | .env e => G.env c.world e
  | .start => True
  | .step r => ∀ op k, c.running = some (.call op k) → G.reply c.world op r
  | .crash => G.crash c.world

/-- `c'` is reached from `c` by actions that all satisfy `G`. -/
inductive Reaches (G : Guard Op World Reply Env) :
    Conf Op Resp World → Conf Op Resp World → Prop where
  | refl (c : Conf Op Resp World) : Reaches G c c
  | step {c c' c'' : Conf Op Resp World} {a : Action Reply Env} (h : Reaches G c c')
      (ha : Meets G c' a) (hx : M.exec c' a = some c'') : Reaches G c c''

/-! ### Executed runs

With a side condition that can be decided, runs can be executed on lists of actions. -/

instance decidableMeets (G : Guard Op World Reply Env) [G.Decides] (c : Conf Op Resp World)
    (a : Action Reply Env) : Decidable (Meets G c a) :=
  match a with
  | .env e => Guard.Decides.env c.world e
  | .start => .isTrue trivial
  | .step r =>
    match h : c.running with
    | some (.call op k) =>
      match Guard.Decides.reply (G := G) c.world op r with
      | .isTrue hr => .isTrue (fun op' k' h' => by cases h.symm.trans h'; exact hr)
      | .isFalse hr => .isFalse (fun h' => hr (h' op k h))
    | some (.ret _) => .isTrue (fun _ _ h' => by cases h.symm.trans h')
    | none => .isTrue (fun _ _ h' => by cases h.symm.trans h')
  | .crash => Guard.Decides.crash c.world

/-- Take the actions one after the other, as long as they satisfy the side condition. -/
def run (G : Guard Op World Reply Env) [G.Decides] :
    Conf Op Resp World → List (Action Reply Env) → Option (Conf Op Resp World)
  | c, [] => some c
  | c, a :: as => if Meets G c a then (M.exec c a).bind (fun c' => run G c' as) else none

/-- What an executed run ends in is reachable. -/
theorem reaches_of_run {G : Guard Op World Reply Env} [G.Decides] (acts : List (Action Reply Env))
    {c₀ c c' : Conf Op Resp World} (h : M.Reaches G c₀ c) (hr : M.run G c acts = some c') :
    M.Reaches G c₀ c' := by
  induction acts generalizing c with
  | nil =>
    cases hr
    exact h
  | cons a as ih =>
    unfold run at hr
    split at hr
    · rename_i ha
      obtain ⟨c₁, h₁, h₂⟩ := Option.bind_eq_some_iff.mp hr
      exact ih (.step h ha h₁) h₂
    · cases hr

end Machine

/-- The machine with a record of its calls, which no program reads. -/
def Machine.recording {H : Type} (M : Machine Op Resp World Reply Env)
    (note : World → (op : Op) → Resp op → H → H) : Machine Op Resp (World × H) Reply Env where
  answer w op rep := (M.answer w.1 op rep).map (fun out => (out.1, out.2, note w.1 op out.1 w.2))
  env w e := (M.env w.1 e).map (fun w' => (w', w.2))
  main := M.main

/-! ## Invariants of runs -/

/-- An assertion about the world, and about the protocol state of the program if one is
running, that every action keeps which meets the side condition. -/
structure Invariant {State : Type} (M : Machine Op Resp World Reply Env)
    (P : Protocol Op Resp State) (G : Guard Op World Reply Env) (init : State)
    (final : State → Prop) (J : World → Option State → Prop) : Prop where
  /-- The program keeps to the protocol. -/
  main : P.wp M.main (fun _ s => final s) init
  env : ∀ w w' e s, J w s → G.env w e → M.env w e = some w' → J w' s
  start : ∀ w, J w none → J w (some init)
  step : ∀ w w' s op rep r, J w (some s) → P.allowed s op → G.reply w op rep →
    M.answer w op rep = some (r, w') → P.expects s op r ∧ J w' (some (P.next s op r))
  finish : ∀ w s, J w (some s) → final s → J w none
  crash : ∀ w s, J w (some s) → G.crash w → J w none

namespace Invariant

variable {State : Type} {M : Machine Op Resp World Reply Env} {P : Protocol Op Resp State}
variable {G : Guard Op World Reply Env} {init : State} {final : State → Prop}
variable {J : World → Option State → Prop}

/-- What the simulation relates: a configuration to the state of its program. -/
def Holds (P : Protocol Op Resp State) (final : State → Prop)
    (J : World → Option State → Prop) (c : Conf Op Resp World) : Prop :=
  match c.running with
  | none => J c.world none
  | some p => ∃ s, J c.world (some s) ∧ P.wp p (fun _ s' => final s') s

theorem holds_resume (h : Invariant M P G init final J) {p : Prog Op Resp Unit} {w : World}
    {s : State} (hJ : J w (some s)) (hp : P.wp p (fun _ s' => final s') s) :
    Holds P final J ⟨w, resume p⟩ := by
  cases p with
  | ret a => exact h.finish w s hJ hp
  | call op k => exact ⟨s, hJ, hp⟩

variable {c c' : Conf Op Resp World}

theorem exec (h : Invariant M P G init final J) {a : Action Reply Env} (hc : Holds P final J c)
    (ha : Machine.Meets G c a) (hx : M.exec c a = some c') : Holds P final J c' := by
  obtain ⟨w, running⟩ := c
  cases a with
  | env e =>
    obtain ⟨w', hw', rfl⟩ := Option.map_eq_some_iff.mp hx
    cases running with
    | none => exact h.env w w' e none hc ha hw'
    | some p =>
      obtain ⟨s, hJ, hp⟩ := hc
      exact ⟨s, h.env w w' e (some s) hJ ha hw', hp⟩
  | start =>
    cases running with
    | some p => cases hx
    | none =>
      cases hx
      exact h.holds_resume (h.start w hc) h.main
  | step rep =>
    rcases running with _ | p
    · cases hx
    obtain ⟨s, hJ, hp⟩ := hc
    cases p with
    | ret b => cases hx
    | call op k =>
      obtain ⟨⟨r, w'⟩, hw', rfl⟩ := Option.map_eq_some_iff.mp hx
      obtain ⟨hx', hJ'⟩ := h.step w w' s op rep r hJ hp.1 (ha op k rfl) hw'
      exact h.holds_resume hJ' (hp.2 r hx')
  | crash =>
    cases running with
    | none => cases hx
    | some p =>
      cases hx
      obtain ⟨s, hJ, -⟩ := hc
      exact h.crash w s hJ ha

/-- **Simulation.** Every configuration reached by actions that meet the side condition
satisfies the assertion, with some state of the protocol for the program still running. -/
theorem reach (h : Invariant M P G init final J) (hc : Holds P final J c) (hr : M.Reaches G c c') :
    Holds P final J c' := by
  induction hr with
  | refl => exact hc
  | step _ ha hx ih => exact h.exec ih ha hx

/-- Between two runs of the program the assertion holds without a protocol state. -/
theorem reach_idle (h : Invariant M P G init final J) (hc : Holds P final J c)
    (hr : M.Reaches G c c') (hid : c'.running = none) : J c'.world none := by
  have h' := h.reach hc hr
  rwa [Holds, hid] at h'

/-- A second assertion, kept under the first one and perhaps a stronger side condition. -/
theorem and {G' : Guard Op World Reply Env} {I : World → Option State → Prop}
    (h : Invariant M P G init final J) (hG : G'.Implies G)
    (env : ∀ w w' e s, J w s → I w s → G'.env w e → M.env w e = some w' → I w' s)
    (start : ∀ w, I w none → I w (some init))
    (step : ∀ w w' s op rep r, J w (some s) → I w (some s) → P.allowed s op → G'.reply w op rep →
      M.answer w op rep = some (r, w') → I w' (some (P.next s op r)))
    (finish : ∀ w s, I w (some s) → I w none) :
    Invariant M P G' init final (fun w s => J w s ∧ I w s) where
  main := h.main
  env w w' e s hs he hx := ⟨h.env w w' e s hs.1 (hG.env w e he) hx, env w w' e s hs.1 hs.2 he hx⟩
  start w hs := ⟨h.start w hs.1, start w hs.2⟩
  step w w' s op rep r hs ha hr hx := by
    obtain ⟨hexp, hJ⟩ := h.step w w' s op rep r hs.1 ha (hG.reply w op rep hr) hx
    exact ⟨hexp, hJ, step w w' s op rep r hs.1 hs.2 ha hr hx⟩
  finish w s hs hf := ⟨h.finish w s hs.1 hf, finish w s hs.2⟩
  crash w s hs hc := ⟨h.crash w s hs.1 (hG.crash w hc), finish w s hs.2⟩

/-- A record changes nothing about what holds in every run. -/
theorem recording {H : Type} {note : World → (op : Op) → Resp op → H → H}
    (h : Invariant M P .free init final J) :
    Invariant (M.recording note) P .free init final (fun w s => J w.1 s) where
  main := h.main
  env w w' e s hs _ hx := by
    obtain ⟨w₁, hw₁, rfl⟩ := Option.map_eq_some_iff.mp hx
    exact h.env w.1 w₁ e s hs trivial hw₁
  start w := h.start w.1
  step w w' s op rep r hs ha _ hx := by
    obtain ⟨out, hout, heq⟩ := Option.map_eq_some_iff.mp hx
    cases heq
    exact h.step w.1 _ s op rep _ hs ha trivial hout
  finish w := h.finish w.1
  crash w := h.crash w.1

/-- An operation about to be issued is allowed in a protocol state under the assertion. -/
theorem reach_issued (h : Invariant M P G init final J) (hc : Holds P final J c)
    (hr : M.Reaches G c c') {op : Op} {k : Resp op → Prog Op Resp Unit}
    (hop : c'.running = some (.call op k)) : ∃ s, J c'.world (some s) ∧ P.allowed s op := by
  have h' := h.reach hc hr
  rw [Holds, hop] at h'
  obtain ⟨s, hJ, hp⟩ := h'
  exact ⟨s, hJ, hp.1⟩

end Invariant

end

end Effect
