import StackScript.Proofs.Reachable
import StackScript.Proofs.Simulation

namespace StackScript

/-!
# What was printed before

A program does not see what was printed and recorded before it ran.  A machine with such a past runs
it as the machine without does, and what the program prints and records is added to the past.
-/

namespace Machine

/-- A machine that had printed and recorded something before it did what it has done. -/
def withPast (printed : String) (recorded : List Event) (machine : Machine) : Machine :=
  { machine with
    output := printed ++ machine.output
    journal := machine.journal ++ recorded }

/-- A machine whose past is forgotten. -/
def hushed (machine : Machine) : Machine :=
  { machine with
    output := ""
    journal := [] }

theorem withPast_of_hushed
    (machine : Machine) :
    machine.hushed.withPast machine.output machine.journal = machine := by
  simp [hushed, withPast]

end Machine

/-- Runs with and without a past stay in step. -/
def Simulation.withPast (printed : String) (recorded : List Event) : Simulation where
  toLikeness :=
    Likeness.identity
  machines machine machine' :=
    machine' = machine.withPast printed recorded
  limits :=
    Eq
  excused _ _ _ :=
    False
  allowed _ :=
    True
  vocabulary machines := by
    rw [machines]
    rfl
  push machines values := by
    obtain rfl := Likeness.identity.values_iff.mp values
    rw [machines]
    rfl
  take machines taken := by
    subst machines
    exact ⟨_, _, taken, Likeness.identity.forall₂_values_iff.mpr rfl, rfl⟩
  underflow machines failed := by
    subst machines
    exact .inl failed
  get? machines _ := by
    subst machines
    exact Likeness.identity.rel_values_refl _
  bind machines _ values := by
    obtain rfl := Likeness.identity.values_iff.mp values
    rw [machines]
    rfl
  printLine line machines := by
    rw [machines]
    simp [Machine.printLine, Machine.withPast, String.append_assoc]
  showStack machines _ := by
    rw [machines]
    simp [Machine.printLine, Machine.withPast, String.append_assoc]
  tooDeep machines noRoom := by
    subst machines
    exact .inl ⟨noRoom, rfl⟩
  deepen machines _ := by
    rw [machines]
    rfl
  enter machines code hasRoom := by
    obtain rfl := Likeness.identity.code_iff.mp code
    subst machines
    exact ⟨hasRoom, rfl⟩
  leave machines _ _ := by
    rw [machines]
    rfl
  excused_later excused _ _ :=
    excused
  excused_caught :=
    id

namespace Evaluation

/-- A program runs the same whatever was printed and recorded before. -/
theorem run_withPast
    (frames : Nat)
    (tokens : List Token)
    (machine : Machine)
    (printed : String)
    (recorded : List Event) :
    run frames tokens (machine.withPast printed recorded) =
      ⟨(run frames tokens machine).machine.withPast printed recorded,
        (run frames tokens machine).error⟩ := by
  obtain ⟨machines, errors⟩ :=
    (Simulation.withPast printed recorded).run_in_step id (fun _ => trivial) frames
      (Likeness.identity.code_iff.mpr rfl) rfl
  rw [← machines, ← Likeness.errors_eq id errors]

end Evaluation

namespace Session

/-- A session whose machine has forgotten its past. -/
def hushed (session : Session) : Session :=
  { session with machine := session.machine.hushed }

/-- What a source text prints when a session evaluates it. -/
def printed (session : Session) (source : String) : String :=
  (session.hushed.eval source).1.machine.output

section Hushing

variable (frames : Nat) (session : Session) (source : String)

/-- A session evaluates as without its past, which stays in front of what is printed. -/
theorem evalOn_eq_hushed :
    session.evalOn frames source =
      let answer := session.hushed.evalOn frames source
      ({ answer.1 with
          machine := answer.1.machine.withPast session.machine.output session.machine.journal },
        answer.2) := by
  have restored := session.machine.withPast_of_hushed
  cases accepted : StackScript.read source with
  | error error =>
      rw [evalOn_of_read_error _ accepted, evalOn_of_read_error _ accepted]
      simp only [hushed, restored]
  | ok tokens =>
      have ran :=
        Evaluation.run_withPast (frames - 1) tokens session.machine.hushed
          session.machine.output session.machine.journal
      rw [restored] at ran
      rw [evalOn_of_read_ok _ accepted, evalOn_of_read_ok _ accepted]
      simp only [hushed, ran]
      cases (Evaluation.run (frames - 1) tokens session.machine.hushed).error <;> rfl

/-- The past of a session makes no difference to the answers it gives. -/
theorem answer_evalOn_hushed :
    (session.hushed.evalOn frames source).2 = (session.evalOn frames source).2 := by
  rw [session.evalOn_eq_hushed]

/-- The past of a session makes no difference to the session that an evaluation leaves. -/
theorem hushed_evalOn :
    (session.hushed.evalOn frames source).1.hushed = (session.evalOn frames source).1.hushed := by
  rw [session.evalOn_eq_hushed]
  rfl

end Hushing

theorem answer_hushed
    (session : Session)
    (source : String) :
    (session.hushed.eval source).2 = (session.eval source).2 :=
  answer_evalOn_hushed _ session source

theorem hushed_eval
    (session : Session)
    (source : String) :
    (session.hushed.eval source).1.hushed = (session.eval source).1.hushed :=
  hushed_evalOn _ session source

/-- What an evaluation prints is added to what was printed before. -/
theorem output_eval
    (session : Session)
    (source : String) :
    (session.eval source).1.machine.output =
      session.machine.output ++ session.printed source := by
  rw [eval, session.evalOn_eq_hushed]
  rfl

end Session

end StackScript
