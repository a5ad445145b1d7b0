/-
# Actions of a process

An action changes the machine and gives a value, or ends, or waits for something
and then goes on. What is done while it waits is left to the other processes, so
an action that waits hands the machine out and gets it back later. Time passes
only where an action spends it, and at the deadline the process is stopped where
it stands.

Key definitions: `Shell.Condition`, `Shell.Flow`, `Shell.Action`, `Action.spend`, `Action.await`,
`Action.repeatTurns`.
-/
import StressBench.Shell.Process

namespace StressBench
namespace Shell

/-- What a process waits for. -/
inductive Condition
  /-- The clock has come to a time. -/
  | time (nanoseconds : Nat)
  /-- A pipe holds bytes, or nobody is left to put some in. -/
  | input (pipe : Nat)
  /-- A pipe has room, or nobody is left to take bytes out. -/
  | space (pipe : Nat)
  /-- Nobody else is left to put bytes into a pipe. -/
  | released (pipe : Nat)
  /-- Processes have ended, or the clock has come to a time. -/
  | ended (processes : List Nat) (limit : Option Nat)
  /-- Nothing but a signal. -/
  | signal
  deriving DecidableEq, Repr

/-- How an action goes: it is done, it has failed, or it waits. -/
inductive Flow (α : Type)
  | done (value : α) (machine : Machine)
  | fail (ending : Ending) (machine : Machine)
  | wait (condition : Condition) (machine : Machine) (next : Machine → Flow α)

/-- What a process does. -/
def Action (α : Type) := Machine → Flow α

namespace Flow

variable {α β γ : Type}

/-- Goes on with the value when it is there. -/
def andThen (f : α → Action β) : Flow α → Flow β
  | .done a m => f a m
  | .fail e m => .fail e m
  | .wait c m next => .wait c m fun m => andThen f (next m)

/-- Goes on in another way when the flow has failed. -/
def otherwise (f : Ending → Action α) : Flow α → Flow α
  | .done a m => .done a m
  | .fail e m => f e m
  | .wait c m next => .wait c m fun m => otherwise f (next m)

end Flow

namespace Action

variable {α β : Type}

/-- Does one thing after the other. -/
@[always_inline, inline]
def bind (act : Action α) (f : α → Action β) : Action β := fun m =>
  match act m with
  | .done a m => f a m
  | .fail e m => .fail e m
  | .wait c m next => .wait c m fun m => Flow.andThen f (next m)

/-- Does another thing if the first fails. -/
@[always_inline, inline]
def rescue (act : Action α) (f : Ending → Action α) : Action α := fun m =>
  match act m with
  | .done a m => .done a m
  | .fail e m => f e m
  | .wait c m next => .wait c m fun m => Flow.otherwise f (next m)

instance : Monad Action where
  pure a := fun m => .done a m
  bind := bind

instance : MonadExceptOf Ending Action where
  throw e := fun m => .fail e m
  tryCatch := rescue

/-! ### The machine -/

/-- The process. -/
@[inline]
def own : Action Process := fun m => .done m.process m

/-- The system. -/
@[inline]
def system : Action System := fun m => .done m.system m

/-- Changes the process. -/
@[inline]
def change (f : Process → Process) : Action Unit := fun m =>
  .done () ⟨f m.process, m.system⟩

/-- Changes the system. -/
@[inline]
def changeSystem (f : System → System) : Action Unit := fun m =>
  .done () ⟨m.process, f m.system⟩

/-- The disk. -/
def disk : Action Disk := do
  return (← system).disk

/-- Puts another disk in place. -/
def setDisk (disk : Disk) : Action Unit :=
  changeSystem fun s => { s with disk }

/-! ### Time and signals -/

/-- The signals that have no effect on a process. -/
def harmlessSignals : List Nat := [0, 17, 18, 23, 28]

/-- The signals that hold a process up. -/
def holdingSignals : List Nat := [19, 20, 21, 22]

/-- Hands the machine out until a condition is met or a signal is there. -/
def yield (condition : Condition) : Action Unit := fun m =>
  .wait condition m fun m => .done () m

/-- Deals with one signal: the script may take care of it or want to hear nothing of
it, else it ends the process unless it is harmless. -/
def receive (signal : Nat) : Action Unit := do
  let p ← own
  match p.traps.lookup signal with
  | some [] => pure ()
  | some _ =>
    if p.isShell then
      unless p.caught.contains signal do change fun p => { p with caught := p.caught ++ [signal] }
    else throw (.killed signal)
  | none =>
    if harmlessSignals.contains signal then pure ()
    else if holdingSignals.contains signal then yield .signal
    else throw (.killed signal)

/-- Deals with the signals that have come. -/
def attend : Action Unit := do
  let s ← system
  unless s.signals.isEmpty do
    let id := (← own).id
    let mine := s.signals.filter fun p => p.1 == id
    unless mine.isEmpty do
      changeSystem fun s => { s with signals := s.signals.filter fun p => p.1 != id }
      for (_, signal) in mine do
        receive signal

/-- Waits. It may also be a signal that ends the waiting. -/
def await (condition : Condition) : Action Unit := do
  yield condition
  attend

/-- How long a process may work while others are ready to. -/
def quantum : Nat := 2000000

/-- Lets time pass with work. At the deadline the process is stopped. -/
def spend (nanoseconds : Nat) : Action Unit := do
  let p ← own
  let clock := p.clock + nanoseconds
  change fun p => { p with clock }
  let s ← system
  match s.deadline with
  | some limit =>
    if limit ≤ clock then throw .stopped
  | none => pure ()
  if p.clock / quantum < clock / quantum && !s.alive.isEmpty then yield (.time clock)
  attend

/-- Repeats an action as long as it says so, at most so often. -/
def repeatTurns : Nat → Action Bool → Action Unit
  | 0, _ => throw .stopped
  | n + 1, turn => do
    if ← turn then repeatTurns n turn

/-- More turns than any loop takes that comes to an end. -/
def turnMax : Nat := 1000000000

/-- Goes on without end, so that only a deadline or a signal stops it. -/
def forever : Action α := do
  repeatTurns turnMax do
    await .signal
    return true
  throw .stopped

/-- Repeats an action until it gives a value. -/
def repeatUntil : Nat → Action (Option α) → Action α
  | 0, _ => throw .stopped
  | n + 1, turn => do
    match ← turn with
    | some a => return a
    | none => repeatUntil n turn

/-- Goes on from one state to the next as long as there is one. -/
def iterate {σ : Type} : Nat → σ → (σ → Action (Option σ)) → Action Unit
  | 0, _, _ => throw .stopped
  | n + 1, state, step => do
    match ← step state with
    | some next => iterate n next step
    | none => return

/-- Goes on from one state to the next until there is a result. -/
def loop {σ α : Type} : Nat → σ → (σ → Action (σ ⊕ α)) → Action α
  | 0, _, _ => throw .stopped
  | n + 1, state, step => do
    match ← step state with
    | .inl next => loop n next step
    | .inr a => return a

/-- The way in which an action ends that gives a status. -/
def ending (act : Action Nat) : Action Ending := do
  try
    return .exit (← act)
  catch e => return e

/-- Does nothing until a time has come, whatever signals come meanwhile. -/
def sleepUntil (nanoseconds : Nat) : Action Unit :=
  repeatTurns turnMax do
    if (← own).clock < nanoseconds then
      await (.time nanoseconds)
      return true
    else return false

/-- Lets time pass without work. -/
def sleep (nanoseconds : Nat) : Action Unit := do
  sleepUntil ((← own).clock + nanoseconds)

end Action

end Shell
end StressBench
