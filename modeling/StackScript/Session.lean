import StackScript.Evaluation
import StackScript.Reading
import StackScript.Settings
import StackScript.Text.Lines
import StackScript.Text.Utf8

namespace StackScript

/-!
# Sessions

A session reads and evaluates source text on one machine.  Bindings and operands persist from one
evaluation to the next.  Source is read completely before anything runs, so text that cannot be read
or whose braces do not nest has no effect.  A program, in contrast to a mere evaluation, is expected
to leave the stack empty.
-/

/-- A machine, with the policy for leftover values and the depth limit that a reset restores. -/
structure Session where
  machine : Machine
  strict : Bool
  limit : Int
  deriving DecidableEq

/-- What a session is asked to be; what is left open is taken from the settings. -/
structure SessionOptions where
  maxDepth : Option Int := none
  strict : Option Bool := none
  preamble : String := ""

/-- Why a session cannot start; text printed before the failure is kept. -/
inductive StartFailure where
  | setting (refusal : SettingError)
  | preamble (error : Error) (output : String)

/-- Why a file cannot be run. -/
inductive FileFailure where
  | undecodable (fault : Text.Utf8Fault)
  | failed (error : Error)

namespace Session

/-- The depth limit that a session starts with. -/
def depthLimit (environment : Environment) (options : SessionOptions) : Except SettingError Int :=
  match options.maxDepth with
  | some depth =>
      .ok depth
  | none =>
      Settings.maxCallDepth environment

/-- A session with a fresh machine. -/
def begin (limit : Int) (strict : Bool) : Session where
  machine :=
    Machine.fresh limit
  strict :=
    strict
  limit :=
    limit

/--
Evaluate a source text on a host with the given number of frames, one of which this takes itself,
and return the values on the stack, bottom first.
-/
def evalOn
    (frames : Nat)
    (session : Session)
    (source : String) :
    Session × Except Error (List Value) :=
  match read source with
  | .error error =>
      (session, .error error)
  | .ok tokens =>
      let outcome := Evaluation.run (frames - 1) tokens session.machine
      let after := { session with machine := outcome.machine }
      match outcome.error with
      | some error =>
          (after, .error error)
      | none =>
          (after, .ok outcome.machine.stack.toList)

/-- Evaluate a source text and return the values on the stack, bottom first. -/
def eval (session : Session) (source : String) : Session × Except Error (List Value) :=
  session.evalOn Evaluation.hostFrames source

/-- Start a session: read the settings, then evaluate the preamble. -/
def start (environment : Environment) (options : SessionOptions) : Except StartFailure Session :=
  match depthLimit environment options with
  | .error refusal =>
      .error (.setting refusal)
  | .ok limit =>
      let session := begin limit (options.strict.getD (Settings.strictStack environment))
      if options.preamble = "" then
        .ok session
      else
        match session.eval options.preamble with
        | (after, .error error) =>
            .error (.preamble error after.machine.output)
        | (after, .ok _) =>
            .ok after

/-- Record an event in the machine's journal. -/
def record (session : Session) (event : Event) : Session :=
  { session with machine := session.machine.record event }

/-- Change the depth limit until the next reset. -/
def limitDepth (session : Session) (limit : Int) : Session :=
  { session with machine := { session.machine with maxDepth := limit } }

/-- Remove all values from the stack. -/
def clearStack (session : Session) : Session :=
  { session with machine := { session.machine with stack := Stack.empty } }

/-- Run a source text as a whole program, on a host of which this takes one frame. -/
def runOn (frames : Nat) (session : Session) (source : String) : Session × Except Error Unit :=
  match (session.record (.running source.length)).evalOn (frames - 1) source with
  | (after, .error error) =>
      (after, .error error)
  | (after, .ok []) =>
      (after.clearStack, .ok ())
  | (after, .ok values) =>
      if after.strict then
        (after.clearStack, .error ⟨.leftovers values, none⟩)
      else
        (after.clearStack.record (.discarded values), .ok ())

/-- Run a source text as a whole program. -/
def run (session : Session) (source : String) : Session × Except Error Unit :=
  session.runOn Evaluation.hostFrames source

/-- The source text in a file. -/
def sourceOf (content : List UInt8) : Except Text.Utf8Fault String :=
  (Text.decodeUtf8 content).map Text.withNewlines

/-- Run the program in a file; one frame of the host is taken when the program begins. -/
def runFile
    (session : Session)
    (path : String)
    (content : List UInt8) :
    Session × Except FileFailure Unit :=
  match sourceOf content with
  | .error fault =>
      (session, .error (.undecodable fault))
  | .ok source =>
      match (session.record (.loaded path)).runOn (Evaluation.hostFrames - 1) source with
      | (after, .error error) =>
          (after, .error (.failed error))
      | (after, .ok ()) =>
          (after, .ok ())

/-- Drop all bindings and operands; what was printed and recorded stays. -/
def reset (session : Session) : Session :=
  { session with
    machine :=
      { Machine.fresh session.limit with
        output := session.machine.output
        journal := session.machine.journal } }

/-- The text printed since it was last taken, which is then forgotten. -/
def takeOutput (session : Session) : String × Session :=
  (session.machine.output,
    { session with machine := { session.machine with output := "" } })

end Session

end StackScript
