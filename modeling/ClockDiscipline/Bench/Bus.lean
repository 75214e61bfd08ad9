/-
  ClockDiscipline/Bench/Bus.lean
  ==============================
  **A clock behind a bus that answers from a script.**
-/
import ClockDiscipline.Switch.Clock

namespace ClockDiscipline.Bench

/-! ### The scripted bus -/

inductive BusFailure where
  | fault
deriving DecidableEq, Repr

def BusFailure.text : BusFailure → String
  | .fault => "spi fault"

/-- The failure of a reference that has run out of answers. -/
inductive ReferenceFailure where
  | nowFailed
deriving DecidableEq, Repr

def ReferenceFailure.text : ReferenceFailure → String
  | .nowFailed => "now failed"

inductive BusCall where
  | writeRate (bits : UInt32)
  | setTime (ticks : UInt64)
  | addTime (ticks : UInt64)
  | readCounter
  /-- A transfer of bytes, as many of which come back. -/
  | frame (sent : List UInt8)
deriving DecidableEq, Repr

/-- How often something still succeeds; for ever if there is no number. -/
abbrev Budget := Option Nat

/-- What is left of a budget after one use, if it allows one. -/
def spend : Budget → Option Budget
  | none => some none
  | some 0 => none
  | some (n + 1) => some (some n)

structure BusWorld where
  /-- What the reference answers, oldest first. -/
  now : List (Option Instant) := []
  /-- What the counter answers. -/
  reads : List (Option UInt64) := []
  rateBudget : Budget := none
  setBudget : Budget := none
  addBudget : Budget := none
  transferBudget : Budget := none
  calls : Array BusCall := #[]

namespace BusWorld

def record (w : BusWorld) (call : BusCall) : BusWorld := { w with calls := w.calls.push call }

/-- The next answer of the counter. -/
def nextRead (w : BusWorld) : Except BusFailure UInt64 × BusWorld :=
  match w.reads with
  | some ticks :: rest => (.ok ticks, { w with reads := rest })
  | none :: rest => (.error .fault, { w with reads := rest })
  | [] => (.error .fault, w)

end BusWorld

/-- A write that its budget may forbid. -/
def budgeted (call : BusCall) (budget : BusWorld → Budget)
    (setBudget : Budget → BusWorld → BusWorld) : Action BusWorld (Except BusFailure Unit) :=
  Action.perform fun w =>
    match spend (budget w) with
    | none => (.error .fault, w)
    | some left => (.ok (), (setBudget left w).record call)

def scriptedBus : ClockBus BusWorld BusFailure where
  writeRate rate :=
    budgeted (.writeRate rate.bits) (·.rateBudget) fun b w => { w with rateBudget := b }
  readCounter := Action.perform fun w => (w.record .readCounter).nextRead
  setTime ticks := budgeted (.setTime ticks) (·.setBudget) fun b w => { w with setBudget := b }
  addTime ticks := budgeted (.addTime ticks) (·.addBudget) fun b w => { w with addBudget := b }

def scriptedReference : Action BusWorld (Except ReferenceFailure Instant) :=
  Action.perform fun w =>
    match w.now with
    | some t :: rest => (.ok t, { w with now := rest })
    | none :: rest => (.error .nowFailed, { w with now := rest })
    | [] => (.error .nowFailed, w)

/-! ### The scripted switch -/

/-- Whether a frame reads registers. -/
def isRead (sent : List UInt8) : Bool := Switch.wordAt sent 0 &&& Switch.writeBit == 0

/-- The bytes with which the switch answers that its clock stands at `ticks`,
    as many as are clocked out meanwhile. -/
def clockReply (sent : List UInt8) (ticks : UInt64) : List UInt8 :=
  let reply := List.replicate 4 0 ++ Switch.wordBytes (Switch.lowWord ticks) ++
    Switch.wordBytes (Switch.highWord ticks)
  sent.mapIdx fun i _ => reply.getD i 0

def scriptedTransfer : Switch.Transfer BusWorld BusFailure := fun sent =>
  Action.perform fun w =>
    match spend w.transferBudget with
    | none => (.error .fault, w)
    | some left =>
      let w := ({ w with transferBudget := left } : BusWorld).record (.frame sent)
      if isRead sent then
        let (answer, w) := w.nextRead
        (answer.map (clockReply sent), w)
      else (.ok (sent.map fun _ => 0), w)

end ClockDiscipline.Bench
