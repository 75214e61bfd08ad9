/-
  ClockDiscipline/Port/Reception.lean
  ===================================
  **Reports of port states that come in over a connection.**

  There is one report on a line.  Blank lines are skipped and lines that are
  no report are noted; a line that is not UTF-8 ends the connection.
-/
import ClockDiscipline.Journal
import ClockDiscipline.Port.Update
import ClockDiscipline.Text.Blank
import ClockDiscipline.Text.Quoted

namespace ClockDiscipline

/-! ### Lines -/

/-- Leave out a carriage return at the end. -/
def dropReturn (line : List UInt8) : List UInt8 :=
  if line.getLast? = some 13 then line.dropLast else line

/-- The lines of a stream of bytes.  What follows the last line feed is a line
    too, unless it is empty, and it keeps a carriage return. -/
def linesOfBytes : List UInt8 → List UInt8 → List (List UInt8)
  | line, [] => if line.isEmpty then [] else [line.reverse]
  | line, b :: rest =>
    if b = 10 then dropReturn line.reverse :: linesOfBytes [] rest
    else linesOfBytes (b :: line) rest

/-- The text of a line, if it is UTF-8. -/
def lineText? (line : List UInt8) : Option String := String.fromUTF8? ⟨line.toArray⟩

/-! ### Receiving -/

/-- What a line comes to. -/
inductive ReceivedLine where
  | blank
  | report (update : PortUpdate)
  /-- It is no report, and why. -/
  | invalid (line why : String)
deriving DecidableEq, Repr

def ReceivedLine.ofText (line : String) : ReceivedLine :=
  if Text.isBlank line then .blank
  else match PortUpdate.ofLine line with
    | .ok update => .report update
    | .error e => .invalid line (e.message line)

/-- What has come in over a connection. -/
structure Reception where
  updates : List PortUpdate := []
  /-- How many lines were no report. -/
  invalid : Nat := 0
  /-- Whether the connection ended with a line that is not UTF-8. -/
  failed : Bool := false
  journal : List Entry := []

namespace Reception

/-- Note a report. -/
def reportEntry (update : PortUpdate) : Entry :=
  ⟨.debug, s!"port {update.port.toNat} reported state {update.state.debugText}"⟩

/-- Note a line that is no report. -/
def invalidEntry (line why : String) : Entry :=
  ⟨.warn, s!"Ignoring invalid port state update {Text.quoted line}: {why}"⟩

def failedEntry : Entry :=
  ⟨.warn, "Port state connection failed: stream did not contain valid UTF-8"⟩

/-- Receive lines.  If nobody wants reports any more, the first one ends the
    connection. -/
def ofLines (wanted : Bool) : List (List UInt8) → Reception
  | [] => {}
  | line :: rest =>
    match lineText? line with
    | none => { failed := true, journal := [failedEntry] }
    | some text =>
      match ReceivedLine.ofText text with
      | .blank => ofLines wanted rest
      | .report update =>
        if wanted then
          let r := ofLines wanted rest
          { r with updates := update :: r.updates, journal := reportEntry update :: r.journal }
        else { journal := [reportEntry update] }
      | .invalid line why =>
        let r := ofLines wanted rest
        { r with invalid := r.invalid + 1, journal := invalidEntry line why :: r.journal }

/-- Receive a stream of bytes. -/
def ofBytes (wanted : Bool) (bytes : List UInt8) : Reception :=
  ofLines wanted (linesOfBytes [] bytes)

end Reception

end ClockDiscipline
