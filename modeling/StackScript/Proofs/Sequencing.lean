import StackScript.Proofs.Balance
import StackScript.Proofs.Layout
import StackScript.Proofs.LexingLines
import StackScript.Proofs.Reachable

namespace StackScript

/-!
# One text after the other

A session can be given its texts one by one, or joined by newlines into a single one.  It makes no
difference: reading finds the tokens of both, the instructions of the second text follow those of
the first, and the second text does not notice that it stands further down.
-/

namespace Evaluation

/-- Instructions are carried out behind others once those have succeeded. -/
theorem execute_append
    (frames : Nat)
    (runBody : Runner)
    (first second : List Instruction)
    (machine : Machine) :
    execute frames runBody (first ++ second) machine =
      match execute frames runBody first machine with
      | ⟨after, none⟩ =>
          execute frames runBody second after
      | failed =>
          failed := by
  induction first generalizing machine with
  | nil =>
      rfl
  | cons instruction rest inductionHypothesis =>
      simp only [List.cons_append, execute]
      rcases step frames runBody instruction machine with ⟨after, _ | error⟩
      · exact inductionHypothesis after
      · rfl

/-- A program behind a balanced one runs when that has succeeded, and where it has ended. -/
theorem run_append
    (frames : Nat)
    {first : List Token}
    (balanced : Balanced first)
    (second : List Token)
    (machine : Machine) :
    run frames (first ++ second) machine =
      match run frames first machine with
      | ⟨after, none⟩ =>
          run frames second after
      | failed =>
          failed := by
  induction frames using framesInduction with
  | tooFew frames few =>
      rw [run_tooFew few, run_tooFew few]
      rfl
  | nested frames _ =>
      simp only [run]
      rw [Instruction.ofTokens_append balanced, execute_append]

end Evaluation

/-- Two readable texts, the second on a new line, are read as the tokens of both. -/
theorem read_append_newline
    {first second : String}
    {tokens tokens' : List Token}
    (readsFirst : read first = .ok tokens)
    (readsSecond : read second = .ok tokens') :
    read (first ++ "\n" ++ second) =
      .ok (tokens ++ tokens'.map (·.shift (first.length + 1) (first.toList.count '\n' + 1))) := by
  obtain ⟨lexedFirst, balancedFirst⟩ := read_eq_ok_iff.mp readsFirst
  obtain ⟨lexedSecond, balancedSecond⟩ := read_eq_ok_iff.mp readsSecond
  refine read_eq_ok_iff.mpr ⟨?_, balancedFirst.append ?_⟩
  · rw [lex_append_newline, lexedFirst, lexedSecond]
    rfl
  · apply balancedSecond.map
    intro token
    rfl

namespace Likeness.layout

theorem code_shift
    (tokens : List Token)
    (characters lines : Int) :
    layout.Code tokens (tokens.map (·.shift characters lines)) := by
  unfold Code
  rw [List.forall₂_map_right_iff, List.forall₂_same]
  intro token _
  exact ⟨rfl, rfl, rfl⟩

theorem values_refl
    (value : Value) :
    layout.Values value value := by
  refine (identity.values_iff.mpr rfl).coarsen ?_ fun _ => trivial
  rintro token _ rfl
  exact ⟨rfl, rfl, rfl⟩

end Likeness.layout

theorem Machine.Alike.refl
    (machine : Machine) :
    machine.Alike .layout machine where
  stack :=
    List.forall₂_same.mpr fun value _ => Likeness.layout.values_refl value
  bindings :=
    List.forall₂_same.mpr fun entry _ => ⟨rfl, Likeness.layout.values_refl entry.2⟩
  vocabulary :=
    rfl
  output :=
    rfl
  depth :=
    rfl
  maxDepth :=
    rfl

/-- Answers that are the same but for the layout of code and the place of an error. -/
inductive SameAnswer : Except Error (List Value) → Except Error (List Value) → Prop where
  | ok
      {values values' : List Value}
      (alike : List.Forall₂ Likeness.layout.Values values values') :
      SameAnswer (.ok values) (.ok values')
  | error
      {error error' : Error}
      (kind : error'.kind = error.kind)
      (message : error'.message = error.message) :
      SameAnswer (.error error) (.error error')

namespace Session

/-- Sessions that are the same but for the layout of stored code and their journals. -/
structure SameUpToLayout (session session' : Session) : Prop where
  machine :
    session.machine.Alike .layout session'.machine
  strict :
    session'.strict = session.strict
  limit :
    session'.limit = session.limit

/-- What an evaluation makes of the outcome of its run. -/
def settle (session : Session) (outcome : Outcome) : Session × Except Error (List Value) :=
  ({ session with machine := outcome.machine },
    match outcome.error with
    | some error =>
        .error error
    | none =>
        .ok outcome.machine.stack.toList)

theorem eval_eq_settle
    (session : Session)
    {source : String}
    {tokens : List Token}
    (accepted : read source = .ok tokens) :
    session.eval source =
      session.settle (Evaluation.run (Evaluation.hostFrames - 1) tokens session.machine) :=
  session.evalOn_of_read_ok accepted

theorem settle_sameUpToLayout
    (session : Session)
    {outcome outcome' : Outcome}
    (same : outcome.SameUpToLayout outcome') :
    (session.settle outcome).1.SameUpToLayout (session.settle outcome').1 ∧
      SameAnswer (session.settle outcome).2 (session.settle outcome').2 := by
  obtain ⟨machines, kind, message⟩ := same
  refine ⟨⟨machines, rfl, rfl⟩, ?_⟩
  rcases outcome with ⟨after, _ | error⟩
  · rcases outcome' with ⟨after', _ | error'⟩
    · exact .ok machines.toList
    · cases kind
  · rcases outcome' with ⟨after', _ | error'⟩
    · cases kind
    · exact .error (Option.some.inj kind) (Option.some.inj message)

/--
Evaluating two readable texts that are joined by a newline is evaluating one after the other.  If
the first fails, the joined text ends exactly as the first does, so that nothing of the second is
carried out.  Otherwise the joined text leaves the session that the second text leaves behind the
first, and gives the same answer: only the places that stored code remembers are different.
-/
theorem eval_append_newline
    (session : Session)
    {first second : String}
    {tokens tokens' : List Token}
    (readsFirst : read first = .ok tokens)
    (readsSecond : read second = .ok tokens') :
    let between := session.eval first
    let joined := session.eval (first ++ "\n" ++ second)
    (∀ error, between.2 = .error error → joined = between) ∧
      ∀ values,
        between.2 = .ok values →
          let separate := between.1.eval second
          separate.1.SameUpToLayout joined.1 ∧ SameAnswer separate.2 joined.2 := by
  intro between joined
  let further := tokens'.map (·.shift (first.length + 1) (first.toList.count '\n' + 1))
  have readsJoined : read (first ++ "\n" ++ second) = .ok (tokens ++ further) :=
    read_append_newline readsFirst readsSecond
  have isBetween : between = _ :=
    session.eval_eq_settle readsFirst
  have isJoined : joined = _ :=
    session.eval_eq_settle readsJoined
  rw [Evaluation.run_append _ (balanced_of_read readsFirst)] at isJoined
  -- The joined text runs as the first does, and what follows depends on how that ends.
  rcases ended : Evaluation.run (Evaluation.hostFrames - 1) tokens session.machine with
    ⟨after, _ | error⟩
  · rw [ended] at isBetween isJoined
    refine ⟨fun error failed => ?_, fun values _ => ?_⟩
    · rw [isBetween] at failed
      cases failed
    · have same :=
        Evaluation.run_sameUpToLayout (Evaluation.hostFrames - 1)
          (Likeness.layout.code_shift tokens' (first.length + 1) (first.toList.count '\n' + 1))
          (Machine.Alike.refl after)
      rw [isBetween, isJoined, eval_eq_settle _ readsSecond]
      exact session.settle_sameUpToLayout same
  · rw [ended] at isBetween isJoined
    refine ⟨fun _ _ => isJoined.trans isBetween.symm, fun values succeeded => ?_⟩
    rw [isBetween] at succeeded
    cases succeeded

/-- A text that binds a function, and ends in a comment. -/
def squaring : String :=
  "square \x7b n n * \x7d fn = n 3 = # to be squared"

/-- A text that calls the function, prints, and fails to add a number to a block. -/
def applying : String :=
  "print_arg square call = print call\n\x7b 1 -2 \x7d 4 +"

/-- The joined text prints and fails as the second text does behind the first. -/
theorem eval_append_newline_squaring :
    ((begin 50 false).eval squaring).2 = .ok [] ∧
      (((begin 50 false).eval squaring).1.eval applying).1.machine.output = "9\n" ∧
      ((begin 50 false).eval (squaring ++ "\n" ++ applying)).1.machine.output = "9\n" ∧
      SameAnswer
        (((begin 50 false).eval squaring).1.eval applying).2
        ((begin 50 false).eval (squaring ++ "\n" ++ applying)).2 := by
  have readsFirst : read squaring = .ok ((read squaring).toOption.getD []) := by
    decide +kernel
  have readsSecond : read applying = .ok ((read applying).toOption.getD []) := by
    decide +kernel
  have succeeds : ((begin 50 false).eval squaring).2 = .ok [] := by
    decide +kernel
  have prints :
      (((begin 50 false).eval squaring).1.eval applying).1.machine.output = "9\n" := by
    decide +kernel
  obtain ⟨same, sameAnswer⟩ :=
    ((begin 50 false).eval_append_newline readsFirst readsSecond).2 [] succeeds
  exact ⟨succeeds, prints, same.machine.output.trans prints, sameAnswer⟩

end Session

end StackScript
