import Mathlib.Logic.Basic

/-!
# Programs over an interruptible device

A program issues operations one at a time and continues on their answers. What an operation does is
left to a relation on device states, so that one program can be run on a device that never fails, on
one whose operations may fail, or cut short between any two operations.

`Exec` is that run: it records every answered operation, and its outcome is `none` where the power
went before the program finished. The rules below split a run along the program's own sequencing.
-/

namespace IiotMonitoring

/-- A program issuing operations `op : Op`, each answered by a `Res op`. -/
inductive Program (Op : Type) (Res : Op → Type) (α : Type) : Type where
  | done (value : α)
  | call (op : Op) (next : Res op → Program Op Res α)

namespace Program

variable {Op : Type} {Res : Op → Type} {α β σ : Type}

def bind : Program Op Res α → (α → Program Op Res β) → Program Op Res β
  | done value, rest => rest value
  | call op next, rest => call op fun answer => (next answer).bind rest

instance : Monad (Program Op Res) where
  pure := done
  bind := bind

/-- The program that issues one operation and returns its answer. -/
def perform (op : Op) : Program Op Res (Res op) := call op done

@[simp]
theorem done_bind (value : α) (rest : α → Program Op Res β) :
    (done value >>= rest) = rest value := rfl

@[simp]
theorem call_bind (op : Op) (next : Res op → Program Op Res α) (rest : α → Program Op Res β) :
    (call op next >>= rest) = call op fun answer => next answer >>= rest := rfl

@[simp]
theorem perform_bind (op : Op) (rest : Res op → Program Op Res β) :
    (perform op >>= rest) = call op rest := rfl

theorem bind_done (program : Program Op Res α) : (program >>= done) = program := by
  induction program with
  | done value => rfl
  | call op next ih =>
      rw [call_bind]
      exact congrArg (call op) (funext ih)

theorem bind_assoc {γ : Type} (program : Program Op Res α) (first : α → Program Op Res β)
    (second : β → Program Op Res γ) :
    (program >>= first >>= second) = (program >>= fun value => first value >>= second) := by
  induction program with
  | done value => rfl
  | call op next ih =>
      simp only [call_bind]
      exact congrArg (call op) (funext ih)

instance : LawfulMonad (Program Op Res) :=
  LawfulMonad.mk' (Program Op Res) bind_done (fun _ _ => rfl) bind_assoc

/-! ### Runs that may be cut short -/

/-- One answered operation. -/
abbrev Answered (Res : Op → Type) : Type := (op : Op) × Res op

/-- A run of a program on a device whose operations answer as `answers` allows. The outcome is the
program's value, or `none` for a run cut before it. -/
inductive Exec (answers : (op : Op) → σ → Res op → σ → Prop) :
    Program Op Res α → σ → List (Answered Res) → Option α → σ → Prop where
  | cut (program : Program Op Res α) (state : σ) : Exec answers program state [] none state
  | done (value : α) (state : σ) : Exec answers (done value) state [] (some value) state
  | call {op : Op} {next : Res op → Program Op Res α} {state state' final : σ} {answer : Res op}
      {trace : List (Answered Res)} {outcome : Option α}
      (hanswer : answers op state answer state')
      (hrest : Exec answers (next answer) state' trace outcome final) :
      Exec answers (call op next) state (⟨op, answer⟩ :: trace) outcome final

section Rules

variable {answers : (op : Op) → σ → Res op → σ → Prop}

theorem exec_done_iff {value : α} {state final : σ} {trace : List (Answered Res)}
    {outcome : Option α} :
    Exec answers (done value) state trace outcome final ↔
      trace = [] ∧ final = state ∧ (outcome = none ∨ outcome = some value) := by
  constructor
  · intro h
    cases h with
    | cut => exact ⟨rfl, rfl, .inl rfl⟩
    | done => exact ⟨rfl, rfl, .inr rfl⟩
  · rintro ⟨rfl, rfl, rfl | rfl⟩
    · exact .cut _ _
    · exact .done _ _

theorem exec_call_iff {op : Op} {next : Res op → Program Op Res α} {state final : σ}
    {trace : List (Answered Res)} {outcome : Option α} :
    Exec answers (call op next) state trace outcome final ↔
      (trace = [] ∧ outcome = none ∧ final = state) ∨
        ∃ answer state' rest, trace = ⟨op, answer⟩ :: rest ∧ answers op state answer state' ∧
          Exec answers (next answer) state' rest outcome final := by
  constructor
  · intro h
    cases h with
    | cut => exact .inl ⟨rfl, rfl, rfl⟩
    | call hanswer hrest => exact .inr ⟨_, _, _, rfl, hanswer, hrest⟩
  · rintro (⟨rfl, rfl, rfl⟩ | ⟨answer, state', rest, rfl, hanswer, hrest⟩)
    · exact .cut _ _
    · exact .call hanswer hrest

/-- **Sequencing.** A run of `program >>= rest` was cut inside `program`, or finished it and went on
with a run of `rest`. -/
theorem exec_bind_iff {program : Program Op Res α} {rest : α → Program Op Res β} {state final : σ}
    {trace : List (Answered Res)} {outcome : Option β} :
    Exec answers (program >>= rest) state trace outcome final ↔
      (outcome = none ∧ Exec answers program state trace none final) ∨
        ∃ value middle before after, trace = before ++ after ∧
          Exec answers program state before (some value) middle ∧
          Exec answers (rest value) middle after outcome final := by
  induction program generalizing state trace with
  | done value =>
      rw [done_bind]
      constructor
      · exact fun h => .inr ⟨value, state, [], trace, rfl, .done _ _, h⟩
      · rintro (⟨rfl, h⟩ | ⟨value', middle, before, after, rfl, hbefore, hafter⟩)
        · obtain ⟨rfl, rfl, -⟩ := exec_done_iff.mp h
          exact .cut _ _
        · obtain ⟨rfl, rfl, hvalue⟩ := exec_done_iff.mp hbefore
          obtain rfl : value' = value := by simpa using hvalue
          exact hafter
  | call op next ih =>
      rw [call_bind]
      constructor
      · intro h
        rcases exec_call_iff.mp h with ⟨rfl, rfl, rfl⟩ | ⟨answer, state', tail, rfl, hanswer, hrest⟩
        · exact .inl ⟨rfl, .cut _ _⟩
        · rcases (ih answer).mp hrest with
            ⟨rfl, hcut⟩ | ⟨value, middle, before, after, rfl, hbefore, hafter⟩
          · exact .inl ⟨rfl, .call hanswer hcut⟩
          · exact .inr ⟨value, middle, _, after, rfl, .call hanswer hbefore, hafter⟩
      · rintro (⟨rfl, h⟩ | ⟨value, middle, before, after, rfl, hbefore, hafter⟩)
        · rcases exec_call_iff.mp h with ⟨rfl, -, rfl⟩ | ⟨answer, state', tail, rfl, hanswer, hrest⟩
          · exact .cut _ _
          · exact .call hanswer ((ih answer).mpr (.inl ⟨rfl, hrest⟩))
        · rcases exec_call_iff.mp hbefore with
            ⟨-, hnone, -⟩ | ⟨answer, state', tail, rfl, hanswer, hrest⟩
          · exact absurd hnone (by simp)
          · exact .call hanswer ((ih answer).mpr
              (.inr ⟨value, middle, tail, after, rfl, hrest, hafter⟩))

/-- A run that finished could have been cut at its end. -/
theorem Exec.interrupt {program : Program Op Res α} {state final : σ}
    {trace : List (Answered Res)} {outcome : Option α}
    (h : Exec answers program state trace outcome final) :
    Exec answers program state trace none final := by
  induction h with
  | cut => exact .cut _ _
  | done => exact .cut _ _
  | call hanswer _ ih => exact .call hanswer ih

/-- A run of a program whose result is passed through a function is a run of the program. -/
theorem exec_map_iff {program : Program Op Res α} {f : α → β} {state final : σ}
    {trace : List (Answered Res)} {outcome : Option β} :
    Exec answers (f <$> program) state trace outcome final ↔
      ∃ outcome', Exec answers program state trace outcome' final ∧ outcome = outcome'.map f := by
  rw [← bind_pure_comp, exec_bind_iff]
  constructor
  · rintro (⟨rfl, hcut⟩ | ⟨value, middle, before, after, rfl, hvalue, hreturn⟩)
    · exact ⟨none, hcut, rfl⟩
    · obtain ⟨rfl, rfl, houtcome⟩ := exec_done_iff.mp hreturn
      rw [List.append_nil]
      rcases houtcome with rfl | rfl
      · exact ⟨none, hvalue.interrupt, rfl⟩
      · exact ⟨some value, hvalue, rfl⟩
  · rintro ⟨outcome', hrun, rfl⟩
    cases outcome' with
    | none => exact .inl ⟨rfl, hrun⟩
    | some value => exact .inr ⟨value, final, trace, [], by simp, hrun, .done _ _⟩

/-- Every operation that the program may issue is allowed. -/
def Only (allowed : Op → Prop) : Program Op Res α → Prop
  | done _ => True
  | call op next => allowed op ∧ ∀ answer, (next answer).Only allowed

theorem Only.bind {allowed : Op → Prop} {program : Program Op Res α} {rest : α → Program Op Res β}
    (hprogram : program.Only allowed) (hrest : ∀ value, (rest value).Only allowed) :
    (program >>= rest).Only allowed := by
  induction program with
  | done value => exact hrest value
  | call op next ih => exact ⟨hprogram.1, fun answer => ih answer (hprogram.2 answer)⟩

/-- A run issues allowed operations, and keeps what each of them keeps. -/
theorem Exec.only {allowed : Op → Prop} {program : Program Op Res α} {state final : σ}
    {trace : List (Answered Res)} {outcome : Option α}
    (h : Exec answers program state trace outcome final) (honly : program.Only allowed) {view : σ → β}
    (hkeeps : ∀ op state answer state', allowed op → answers op state answer state' →
      view state' = view state) :
    (∀ answered ∈ trace, allowed answered.1) ∧ view final = view state := by
  induction h with
  | cut program state => exact ⟨List.forall_mem_nil _, rfl⟩
  | done value state => exact ⟨List.forall_mem_nil _, rfl⟩
  | call hanswer hrest ih =>
      obtain ⟨hops, hview⟩ := ih (honly.2 _)
      exact ⟨List.forall_mem_cons.mpr ⟨honly.1, hops⟩,
        hview.trans (hkeeps _ _ _ _ honly.1 hanswer)⟩

end Rules

/-! ### Uninterrupted runs on a deterministic device -/

/-- Run a program to its end on a device that answers by a function. -/
def run (device : (op : Op) → σ → Res op × σ) : Program Op Res α → σ → α × σ
  | done value, state => (value, state)
  | call op next, state => (next (device op state).1).run device (device op state).2

@[simp]
theorem run_done (device : (op : Op) → σ → Res op × σ) (value : α) (state : σ) :
    (done value : Program Op Res α).run device state = (value, state) := rfl

@[simp]
theorem run_call (device : (op : Op) → σ → Res op × σ) (op : Op)
    (next : Res op → Program Op Res α) (state : σ) :
    (call op next).run device state = (next (device op state).1).run device (device op state).2 :=
  rfl

@[simp]
theorem run_pure (device : (op : Op) → σ → Res op × σ) (value : α) (state : σ) :
    (pure value : Program Op Res α).run device state = (value, state) := rfl

@[simp]
theorem run_perform (device : (op : Op) → σ → Res op × σ) (op : Op) (state : σ) :
    (perform op : Program Op Res (Res op)).run device state = device op state := rfl

theorem run_bind (device : (op : Op) → σ → Res op × σ) (program : Program Op Res α)
    (rest : α → Program Op Res β) (state : σ) :
    (program >>= rest).run device state =
      (rest (program.run device state).1).run device (program.run device state).2 := by
  induction program generalizing state with
  | done value => rfl
  | call op next ih => exact ih _ _

@[simp]
theorem run_map (device : (op : Op) → σ → Res op × σ) (program : Program Op Res α) (f : α → β)
    (state : σ) :
    (f <$> program).run device state =
      (f (program.run device state).1, (program.run device state).2) := by
  rw [← bind_pure_comp, run_bind, run_pure]

/-- The operations of that run, with their answers. -/
def trace (device : (op : Op) → σ → Res op × σ) : Program Op Res α → σ → List (Answered Res)
  | done _, _ => []
  | call op next, state =>
      ⟨op, (device op state).1⟩ :: (next (device op state).1).trace device (device op state).2

@[simp]
theorem trace_done (device : (op : Op) → σ → Res op × σ) (value : α) (state : σ) :
    (done value : Program Op Res α).trace device state = [] := rfl

@[simp]
theorem trace_call (device : (op : Op) → σ → Res op × σ) (op : Op)
    (next : Res op → Program Op Res α) (state : σ) :
    (call op next).trace device state =
      ⟨op, (device op state).1⟩ :: (next (device op state).1).trace device (device op state).2 :=
  rfl

/-- The uninterrupted run is one of the device's runs. -/
theorem exec_run {answers : (op : Op) → σ → Res op → σ → Prop}
    (device : (op : Op) → σ → Res op × σ)
    (hdevice : ∀ op state, answers op state (device op state).1 (device op state).2)
    (program : Program Op Res α) (state : σ) :
    ∃ trace, Exec answers program state trace (some (program.run device state).1)
      (program.run device state).2 := by
  induction program generalizing state with
  | done value => exact ⟨[], .done _ _⟩
  | call op next ih =>
      obtain ⟨trace, htrace⟩ := ih (device op state).1 (device op state).2
      exact ⟨_, .call (hdevice op state) htrace⟩

end Program

end IiotMonitoring
