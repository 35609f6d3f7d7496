/-!
# Time that passes only while everything waits

A process consists of steps that can be taken right now and of timers. As long as some step can be taken no time
passes; when none can, the clock jumps to the next timer. Somebody who waits for the process looks at it
only in between, and at most until a deadline; a timer of the process that goes off right at the deadline comes
too late.

## Main definitions

* `Process` - what can happen now, and when something will happen by itself
* `Process.settle` - all steps that can be taken now
* `Process.waitFor` - letting time pass until something holds, or a deadline is reached
-/

namespace BrokerSession

/-- A process with states in `ω`, each of which knows its time in milliseconds. -/
structure Process (ω : Type) where
  /-- A step that can be taken now. -/
  step : ω → Option ω
  /-- The next time at which something happens by itself. -/
  wake? : ω → Option Nat
  now : ω → Nat
  /-- The same state at a later time. -/
  tick : Nat → ω → ω
  /-- A bound on the steps that can be taken without a new demand. -/
  bound : ω → Nat

namespace Process

variable {ω : Type}

/-- Up to so many steps. -/
def steps (p : Process ω) : Nat → ω → ω
  | 0, w => w
  | n + 1, w =>
    match p.step w with
    | some w => p.steps n w
    | none => w

/-- All steps that can be taken now. -/
def settle (p : Process ω) (w : ω) : ω := p.steps (p.bound w) w

/-- How waiting ends. -/
inductive Waited (ω : Type) where
  /-- What was waited for came true. -/
  | met (w : ω)
  /-- The deadline was reached first. -/
  | expired (w : ω)
  /-- Nothing will ever happen again. -/
  | stuck (w : ω)

/-- The state at the end of waiting. -/
def Waited.state : Waited ω → ω
  | met w => w
  | expired w => w
  | stuck w => w

/-- Whether what was waited for came true. -/
def Waited.isMet : Waited ω → Bool
  | met _ => true
  | _ => false

/-- Lets time pass, over up to so many timers. -/
def waitSteps (p : Process ω) (goal : ω → Bool) (deadline : Option Nat) : Nat → ω → Waited ω
  | 0, w => .stuck w
  | n + 1, w =>
    let w := p.settle w
    if goal w then .met w
    else
      match p.wake? w, deadline with
      | none, none => .stuck w
      | none, some end_ => .expired (p.tick end_ w)
      | some time, none => p.waitSteps goal deadline n (p.tick time w)
      | some time, some end_ =>
        if end_ ≤ time then .expired (p.tick end_ w)
        else p.waitSteps goal deadline n (p.tick time w)

/-- Lets time pass until something holds or a deadline is reached. What holds already is not waited for. -/
def waitFor (p : Process ω) (goal : ω → Bool) (deadline : Option Nat) (w : ω) : Waited ω :=
  if goal w then .met w else p.waitSteps goal deadline (p.bound w + 1) w

/-- Lets so many milliseconds pass. -/
def sleep (p : Process ω) (millis : Nat) (w : ω) : ω :=
  (p.waitFor (fun _ => false) (some (p.now w + millis)) w).state

end Process

end BrokerSession
