import StackScript.Proofs.BoundNames

namespace StackScript

/-!
# Where a host gives out

A host can give out at any moment of an evaluation, and the failure then passes through all the
calls that wait.  Each of them lowers the depth by the one that it has raised.  So however an
evaluation ends, all names that were bound and all text that was printed before come first, and as a
rule the depth is what it was.

There is one exception.  A call raises the depth, then it is recorded in the journal, and only then
it waits for its body.  If the host has not the frames to record it, the call does not wait, and
nobody lowers the depth again.  A run that ends in this way leaves the machine one call deeper than
it was.
-/

/--
What evaluation does not take back: names that are bound and text that is printed stay in front of
what comes later.  The depth is raised by a number of calls.
-/
structure Machine.Retained (before : Machine) (raised : Nat) (after : Machine) : Prop where
  depth :
    after.depth = before.depth + raised
  names :
    before.bindings.names <+: after.bindings.names
  output :
    ∃ printed, after.output = before.output ++ printed

namespace Machine

theorem Retained.refl
    (machine : Machine) :
    machine.Retained 0 machine where
  depth :=
    rfl
  names :=
    List.prefix_rfl
  output :=
    ⟨"", by simp⟩

theorem Retained.trans
    {first second third : Machine}
    {raised further : Nat}
    (earlier : first.Retained raised second)
    (later : second.Retained further third) :
    first.Retained (raised + further) third where
  depth := by
    rw [later.depth, earlier.depth, Nat.add_assoc]
  names :=
    earlier.names.trans later.names
  output := by
    obtain ⟨printed, output⟩ := earlier.output
    obtain ⟨printedLater, outputLater⟩ := later.output
    exact ⟨printed ++ printedLater, by rw [outputLater, output, String.append_assoc]⟩

/-- Lowering the depth takes back some of the calls that had raised it. -/
theorem Retained.lower
    {before after : Machine}
    {raised lowered : Nat}
    (retained : before.Retained (lowered + raised) after) :
    before.Retained raised { after with depth := after.depth - lowered } where
  depth := by
    have depth := retained.depth
    change after.depth - lowered = before.depth + raised
    omega
  names :=
    retained.names
  output :=
    retained.output

/-- A call raises the depth by one. -/
theorem Popped.retained_deepen
    {before after : Machine}
    (popped : before.Popped after) :
    before.Retained 1 (Evaluation.deepen after) := by
  obtain ⟨stack, rfl, _⟩ := popped
  exact ⟨rfl, List.prefix_rfl, "", by simp [Evaluation.deepen]⟩

/-- Binding a name leaves those that are bound in front, in their order. -/
theorem Rebinds.names_isPrefix
    {before after : Machine}
    (rebinds : before.Rebinds after) :
    before.bindings.names <+: after.bindings.names := by
  cases rebinds with
  | kept same =>
      exact same ▸ List.prefix_rfl
  | bound name value shape =>
      rw [shape]
      simp only [Bindings.names, Bindings.names_insertEntry]
      split
      · exact List.prefix_rfl
      · exact List.prefix_append _ _

end Machine

namespace Evaluation

/--
Whether an outcome takes nothing back from a machine.  The depth is what it was, or one more if the
host has failed a call that it had not the frames to record.
-/
def Retains (frames : Nat) (machine : Machine) (outcome : Outcome) : Prop :=
  machine.Retained 0 outcome.machine ∨
    frames % 4 < recordFrames ∧
      machine.Retained 1 outcome.machine ∧
      ∃ error, outcome.error = some error ∧ error.IsOfHost

theorem LeavesDepth.retains
    {frames : Nat}
    {machine : Machine}
    {outcome : Outcome}
    (leaves : LeavesDepth frames machine outcome)
    (names : machine.bindings.names <+: outcome.machine.bindings.names)
    (extended : machine.Extends outcome.machine) :
    Retains frames machine outcome := by
  rcases leaves with restored | ⟨few, raised, ofHost⟩
  · exact .inl ⟨restored, names, extended.output⟩
  · exact .inr ⟨few, ⟨raised, names, extended.output⟩, ofHost⟩

/-- What a call needs in order to raise the depth: a function as its target, and room for it. -/
structure Deepens (frames : Nat) (instruction : Instruction) (machine popped : Machine) : Prop where
  isCall :
    ∃ caller, instruction = .form .call caller
  function :
    ∃ body, target frames machine = (popped, .ok (.function body))
  room :
    popped.depth < popped.maxDepth

section Idle

variable {frames : Nat} {instruction : Instruction} {machine popped : Machine}

/-- A call that raises the depth and is not recorded leaves it raised. -/
theorem Deepens.step_idle
    (deepens : Deepens frames instruction machine popped)
    (tooFew : frames < recordFrames) :
    ∃ error : Error,
      error.IsOfHost ∧ step frames idle instruction machine = ⟨deepen popped, some error⟩ := by
  obtain ⟨⟨caller, rfl⟩, ⟨body, found⟩, room⟩ := deepens
  refine ⟨⟨.hostFailure, some caller⟩, .inl rfl, ?_⟩
  simp only [step, call_of_target_ok idle found, callValue, callFunction,
    if_neg (Int.not_le.mpr room), if_pos tooFew]
  rfl

/-- Every other instruction that enters no body leaves the depth as it is. -/
theorem depth_step_idle
    (notEntered : entered? frames instruction machine = none)
    (recorded : ∀ popped, Deepens frames instruction machine popped → recordFrames ≤ frames) :
    (step frames idle instruction machine).machine.depth = machine.depth := by
  by_cases isCall : ∃ caller, instruction = .form .call caller
  · obtain ⟨caller, rfl⟩ := isCall
    simp only [step, blame]
    cases found : target frames machine with
    | mk after result =>
        have sameDepth : after.depth = machine.depth := by
          obtain ⟨stack, rfl, _⟩ := popped_of_target found
          rfl
        cases result with
        | error cause =>
            rw [call_of_target_error idle found]
            exact sameDepth
        | ok callee =>
            rw [call_of_target_ok idle found]
            cases callee with
            | function body =>
                by_cases room : after.depth < after.maxDepth
                · have enough := recorded after ⟨⟨caller, rfl⟩, ⟨body, found⟩, room⟩
                  simp [entered?, found, Int.not_le.mpr room, Nat.not_lt.mpr enough] at notEntered
                · rw [callValue, callFunction, if_pos (Int.not_lt.mp room)]
                  exact sameDepth
            | builtin builtin =>
                exact (after.depth_apply builtin).trans sameDepth
            | _ =>
                exact sameDepth
  · exact depth_step_of_not_call (not_exists.mp isCall) machine

/-- An instruction that enters no body takes nothing back, unless it leaves the depth raised. -/
theorem step_idle_retained
    (notEntered : entered? frames instruction machine = none)
    (recorded : ∀ popped, Deepens frames instruction machine popped → recordFrames ≤ frames) :
    machine.Retained 0 (step frames idle instruction machine).machine where
  depth :=
    depth_step_idle notEntered recorded
  names :=
    (step_idle_rebinds frames instruction machine).names_isPrefix
  output :=
    (step_extends frames (fun _ machine => .refl machine) instruction machine).output

end Idle

end Evaluation

namespace Configuration

/-- Whether the next instruction is a call that raises the depth and is not recorded by the host. -/
def LosesCall (host : Host) (moment : Configuration) : Prop :=
  ∃ token rest popped,
    moment.control = .running (token :: rest) ∧
      Evaluation.Deepens (host.spare moment.callers.length) (Instruction.takeFirst token rest).1
        moment.machine popped ∧
      host.spare moment.callers.length < Evaluation.recordFrames

/-- Whether a failure of the host is being passed on. -/
def HostFailing (moment : Configuration) : Prop :=
  ∃ error, moment.control = .failing error ∧ error.IsOfHost

variable {host : Host} {machine : Machine} {raised : Nat} {configuration after : Configuration}

/-- The step behind a call that the host does not record passes on a failure of the host. -/
theorem LosesCall.next?
    (loses : configuration.LosesCall host) :
    ∃ popped error,
      configuration.machine.Popped popped ∧
        error.IsOfHost ∧
        configuration.next? host =
          some ⟨.failing error, configuration.callers, Evaluation.deepen popped⟩ := by
  obtain ⟨token, rest, popped, running, deepens, tooFew⟩ := loses
  obtain ⟨error, ofHost, stepped⟩ := deepens.step_idle tooFew
  obtain ⟨body, found⟩ := deepens.function
  refine ⟨popped, error, Evaluation.popped_of_target found, ofHost, ?_⟩
  obtain ⟨control, callers, current⟩ := configuration
  obtain rfl : control = _ :=
    running
  cases entered :
      Evaluation.entered? (host.spare callers.length) (Instruction.takeFirst token rest).1
        current with
  | none =>
      simp only [Configuration.next?, perform, entered, stepped]
      rfl
  | some call =>
      obtain ⟨caller, inner, inside⟩ := call
      obtain ⟨_, _, _, _, enough, _⟩ := Evaluation.entered_cases entered
      exact absurd tooFew (Nat.not_lt.mpr enough)

/-- In every other step the depth is raised and lowered with the number of the calls that wait. -/
theorem retained_of_next?
    (recorded : ¬configuration.LosesCall host)
    (retained : machine.Retained configuration.callers.length configuration.machine)
    (stepped : configuration.next? host = some after) :
    machine.Retained after.callers.length after.machine := by
  rcases next?_cases stepped with
      ⟨token, rest, instruction, behind, running, taken, performed⟩ |
        ⟨caller, callers, waiting, rfl⟩
  · rcases performed with ⟨notEntered, rfl⟩ | ⟨caller, body, inside, entered, rfl⟩
    · rw [settled_callers, settled_machine]
      refine retained.trans (Evaluation.step_idle_retained notEntered fun popped deepens => ?_)
      by_contra tooFew
      refine recorded ⟨token, rest, popped, running, ?_, Nat.lt_of_not_le tooFew⟩
      rwa [taken]
    · obtain ⟨popped, _, found, _, _, rfl⟩ := Evaluation.entered_cases entered
      obtain ⟨depth, names, output⟩ :=
        retained.trans (Evaluation.popped_of_target found).retained_deepen
      exact ⟨depth, names, output⟩
  · rw [waiting, List.length_cons, Nat.add_comm] at retained
    rw [settled_callers, settled_machine]
    exact retained.lower

/-- A failure of the host is passed on until the evaluation ends. -/
theorem HostFailing.next?
    (failing : configuration.HostFailing)
    (stepped : configuration.next? host = some after) :
    after.HostFailing := by
  obtain ⟨error, isFailing, ofHost⟩ := failing
  rcases next?_cases stepped with
      ⟨_, _, _, _, running, _⟩ | ⟨caller, callers, _, rfl⟩
  · cases running.symm.trans isFailing
  · rw [isFailing]
    exact ⟨error.caught.attach caller.token, rfl, ofHost.caught⟩

section Reaching

variable {tokens : List Token} (reached : (start host tokens machine).Reaches host configuration)

include reached

/-- At every moment the depth is raised by as many calls as wait, unless the host has failed. -/
theorem Reaches.retained
    (sound : ¬configuration.HostFailing) :
    machine.Retained configuration.callers.length configuration.machine := by
  have kept :=
    reached.holds
      (fun moment => moment.HostFailing ∨ machine.Retained moment.callers.length moment.machine)
      (fun {before after} stepped earlier => by
        rcases earlier with failing | retained
        · exact .inl (failing.next? stepped)
        by_cases loses : before.LosesCall host
        · obtain ⟨popped, error, _, ofHost, isNext⟩ := loses.next?
          cases isNext.symm.trans stepped
          exact .inl ⟨error, rfl, ofHost⟩
        · exact .inr (retained_of_next? loses retained stepped))
      (.inr (.refl machine))
  exact kept.resolve_left sound

end Reaching

/-- A failure of the host passes through all calls that wait, and each of them lowers the depth. -/
theorem reaches_unwound
    (host : Host)
    {error : Error}
    (ofHost : error.IsOfHost)
    (callers : List Caller)
    (machine : Machine) :
    ∃ passedOn : Error,
      passedOn.IsOfHost ∧
        Reaches host ⟨.failing error, callers, machine⟩
          (.ended
            ⟨{ machine with depth := machine.depth - callers.length }, some passedOn⟩) := by
  induction callers generalizing error machine with
  | nil =>
      exact ⟨error, ofHost, .refl⟩
  | cons caller callers inductionHypothesis =>
      let left := { machine with depth := machine.depth - 1 }
      obtain ⟨passedOn, isOfHost, unwound⟩ :=
        @inductionHypothesis (error.caught.attach caller.token) ofHost.caught left
      refine ⟨passedOn, isOfHost, .step rfl ?_⟩
      rw [List.length_cons, Nat.add_comm, ← Nat.sub_sub]
      exact unwound

/--
An evaluation whose host gives out ends with an error of the host, and its depth is raised by the
calls that had raised it without waiting.
-/
theorem Reaches.unwound
    {tokens : List Token}
    (reached : (start host tokens machine).Reaches host configuration)
    (sound : ¬configuration.HostFailing)
    {error : Error}
    (ofHost : error.IsOfHost)
    {struck : Machine}
    (retained : configuration.machine.Retained raised struck) :
    ∃ outcome passedOn,
      Reaches host ⟨.failing error, configuration.callers, struck⟩ (.ended outcome) ∧
        outcome.error = some passedOn ∧
        passedOn.IsOfHost ∧
        machine.Retained raised outcome.machine := by
  obtain ⟨passedOn, isOfHost, unwound⟩ := reaches_unwound host ofHost configuration.callers struck
  exact ⟨_, passedOn, unwound, rfl, isOfHost, ((reached.retained sound).trans retained).lower⟩

end Configuration

namespace Evaluation

end Evaluation

end StackScript
