import IiotMonitoring.Lib.Program
import IiotMonitoring.Lib.Run
import Mathlib.Logic.Function.Basic

/-!
# Programs side by side on one store

Each session runs a program of its own on a store that all of them share, one operation at a time, in
any order. A discipline says what holds of the store at any time, what an operation may do, and what a
session may find changed between two of its operations. `Meets` is the promise of one program under a
discipline; programs that each meet it do so side by side.
-/

namespace IiotMonitoring

/-- What the sessions of a store agree on. `allowed` is what an operation may do to the store, and
`changes` what a session must expect of the others. -/
structure Discipline (σ : Type) {Op : Type} {Res : Op → Type}
    (answers : (op : Op) → σ → Res op → σ → Prop) where
  invariant : σ → Prop
  changes : σ → σ → Prop
  allowed : (op : Op) → σ → Res op → σ → Prop
  refl : ∀ store, changes store store
  trans : ∀ {first second third}, changes first second → changes second third → changes first third
  kept : ∀ {op store answer store'}, invariant store → allowed op store answer store' →
    invariant store' ∧ changes store store'

namespace Program

variable {σ Op α β : Type} {Res : Op → Type} {answers : (op : Op) → σ → Res op → σ → Prop}

/-- From this store on, with the changes of others before every operation and at the end, the program
makes only operations that are allowed and returns a value as promised. -/
def Meets (rules : Discipline σ answers) (post : α → σ → Prop) : Program Op Res α → σ → Prop
  | done value, store =>
      ∀ store', rules.invariant store' → rules.changes store store' → post value store'
  | call op next, store =>
      ∀ store', rules.invariant store' → rules.changes store store' →
        ∀ answer after, answers op store' answer after →
          rules.allowed op store' answer after ∧ (next answer).Meets rules post after

section Rules

variable {rules : Discipline σ answers} {post : α → σ → Prop}

/-- A promise is kept over the changes of others. -/
theorem Meets.later {program : Program Op Res α} {store store' : σ}
    (h : program.Meets rules post store) (hchanges : rules.changes store store') :
    program.Meets rules post store' := by
  cases program with
  | done value =>
      intro later hlater hrest
      exact h later hlater (rules.trans hchanges hrest)
  | call op next =>
      intro later hlater hrest
      exact h later hlater (rules.trans hchanges hrest)

theorem Meets.mono {post' : α → σ → Prop} (hpost : ∀ value store, post value store → post' value store)
    {program : Program Op Res α} {store : σ} (h : program.Meets rules post store) :
    program.Meets rules post' store := by
  induction program generalizing store with
  | done value =>
      intro later hlater hchanges
      exact hpost value later (h later hlater hchanges)
  | call op next ih =>
      intro later hlater hchanges answer after hanswer
      obtain ⟨hallowed, hrest⟩ := h later hlater hchanges answer after hanswer
      exact ⟨hallowed, ih answer hrest⟩

end Rules

end Program

/-! ### Runs side by side -/

/-- The store with what each session has still to do. -/
structure Sessions (ι σ Op α : Type) (Res : Op → Type) where
  programs : ι → Program Op Res α
  store : σ

section Runs

variable {ι σ Op α : Type} {Res : Op → Type} [DecidableEq ι]

/-- A session makes its next operation. -/
structure SessionStep (answers : (op : Op) → σ → Res op → σ → Prop) (before : Sessions ι σ Op α Res)
    (label : ι × Program.Answered Res) (after : Sessions ι σ Op α Res) : Prop where
  answered : answers label.2.1 before.store label.2.2 after.store
  advanced : ∃ next, before.programs label.1 = .call label.2.1 next ∧
    after.programs = Function.update before.programs label.1 (next label.2.2)

variable {answers : (op : Op) → σ → Res op → σ → Prop} {start state : Sessions ι σ Op α Res}
  {labels : List (ι × Program.Answered Res)}

/-- A run goes on with the answer to a session's next operation. -/
theorem sessions_answer (hrun : Trail (SessionStep answers) start labels state) (session : ι) {op : Op}
    {next : Res op → Program Op Res α} (hcall : state.programs session = .call op next) (answer : Res op)
    {store : σ} (hanswer : answers op state.store answer store) :
    Trail (SessionStep answers) start (labels ++ [(session, ⟨op, answer⟩)])
      ⟨Function.update state.programs session (next answer), store⟩ :=
  .step hrun ⟨hanswer, next, hcall, rfl⟩

/-- **Programs that each meet the discipline meet it side by side**, in any order of their
operations. -/
theorem sessions_meet {rules : Discipline σ answers} {post : ι → α → σ → Prop}
    (hstart : rules.invariant start.store)
    (hmeets : ∀ session, (start.programs session).Meets rules (post session) start.store)
    (hrun : Trail (SessionStep answers) start labels state) :
    rules.invariant state.store ∧
      ∀ session, (state.programs session).Meets rules (post session) state.store := by
  refine hrun.invariant (fun _ state => rules.invariant state.store ∧
    ∀ session, (state.programs session).Meets rules (post session) state.store) ⟨hstart, hmeets⟩ ?_
  rintro _ before ⟨session, op, answer⟩ after ⟨hinvariant, hbefore⟩ ⟨hanswer, next, hcall, hprograms⟩
  have hsession := hbefore session
  rw [hcall] at hsession
  obtain ⟨hallowed, hnext⟩ := hsession before.store hinvariant (rules.refl _) answer _ hanswer
  obtain ⟨hafter, hchanges⟩ := rules.kept hinvariant hallowed
  refine ⟨hafter, fun other => ?_⟩
  rw [hprograms]
  by_cases hother : other = session
  · subst hother
    rw [Function.update_self]
    exact hnext
  · rw [Function.update_of_ne hother]
    exact (hbefore other).later hchanges

/-- Every operation of a run is one that the discipline allows. -/
theorem sessions_allowed {rules : Discipline σ answers} {post : ι → α → σ → Prop}
    (hstart : rules.invariant start.store)
    (hmeets : ∀ session, (start.programs session).Meets rules (post session) start.store)
    (hrun : Trail (SessionStep answers) start labels state) {label : ι × Program.Answered Res}
    {after : Sessions ι σ Op α Res} (hstep : SessionStep answers state label after) :
    rules.allowed label.2.1 state.store label.2.2 after.store := by
  obtain ⟨hinvariant, hall⟩ := sessions_meet hstart hmeets hrun
  obtain ⟨next, hcall, -⟩ := hstep.advanced
  have hsession := hall label.1
  rw [hcall] at hsession
  exact (hsession state.store hinvariant (rules.refl _) _ _ hstep.answered).1

/-- The value of a session that has finished is as promised. -/
theorem sessions_post {rules : Discipline σ answers} {post : ι → α → σ → Prop}
    (hstart : rules.invariant start.store)
    (hmeets : ∀ session, (start.programs session).Meets rules (post session) start.store)
    (hrun : Trail (SessionStep answers) start labels state) {session : ι} {value : α}
    (hdone : state.programs session = .done value) : post session value state.store := by
  obtain ⟨hinvariant, hall⟩ := sessions_meet hstart hmeets hrun
  have hsession := hall session
  rw [hdone] at hsession
  exact hsession state.store hinvariant (rules.refl _)

/-- The operations of one session, in order. -/
def ownTrace (labels : List (ι × Program.Answered Res)) (session : ι) : List (Program.Answered Res) :=
  (labels.filter (·.1 = session)).map (·.2)

theorem ownTrace_append (labels : List (ι × Program.Answered Res)) (label : ι × Program.Answered Res)
    (session : ι) :
    ownTrace (labels ++ [label]) session =
      ownTrace labels session ++ if label.1 = session then [label.2] else [] := by
  unfold ownTrace
  rw [List.filter_append, List.map_append]
  by_cases hsession : label.1 = session <;> simp [hsession]

/-- What a program has still to do after these answers. -/
inductive Program.After {Op α : Type} {Res : Op → Type} :
    Program Op Res α → List (Program.Answered Res) → Program Op Res α → Prop where
  | nil (program : Program Op Res α) : After program [] program
  | call {op : Op} {next : Res op → Program Op Res α} {answer : Res op}
      {trace : List (Program.Answered Res)} {rest : Program Op Res α}
      (hrest : After (next answer) trace rest) : After (.call op next) (⟨op, answer⟩ :: trace) rest

theorem Program.After.snoc {program : Program Op Res α} {trace : List (Program.Answered Res)} {op : Op}
    {next : Res op → Program Op Res α} (h : program.After trace (.call op next)) (answer : Res op) :
    program.After (trace ++ [⟨op, answer⟩]) (next answer) := by
  generalize hrest : Program.call op next = rest at h
  induction h with
  | nil program =>
      subst hrest
      exact .call (.nil _)
  | call _ ih => exact .call (ih hrest)

theorem Program.After.of_done {value : α} {trace : List (Program.Answered Res)}
    {rest : Program Op Res α} (h : (Program.done value).After trace rest) :
    trace = [] ∧ rest = .done value := by
  cases h with
  | nil => exact ⟨rfl, rfl⟩

/-- A program that has returned made its first operation first. -/
theorem Program.After.of_call {op : Op} {next : Res op → Program Op Res α}
    {trace : List (Program.Answered Res)} {value : α}
    (h : (Program.call op next).After trace (.done value)) :
    ∃ answer later, trace = ⟨op, answer⟩ :: later ∧ (next answer).After later (.done value) := by
  cases h with
  | call hrest => exact ⟨_, _, rfl, hrest⟩

/-- Whatever the order, each session has run its own program. -/
theorem sessions_after (hrun : Trail (SessionStep answers) start labels state) (session : ι) :
    (start.programs session).After (ownTrace labels session) (state.programs session) := by
  refine hrun.invariant (fun labels state =>
    (start.programs session).After (ownTrace labels session) (state.programs session)) (.nil _) ?_
  rintro labels before ⟨actor, op, answer⟩ after hbefore ⟨-, next, hcall, hprograms⟩
  rw [ownTrace_append, hprograms]
  by_cases hactor : actor = session
  · subst hactor
    rw [hcall] at hbefore
    rw [Function.update_self, if_pos rfl]
    exact hbefore.snoc answer
  · rw [Function.update_of_ne (Ne.symm hactor), if_neg hactor, List.append_nil]
    exact hbefore

end Runs

end IiotMonitoring
