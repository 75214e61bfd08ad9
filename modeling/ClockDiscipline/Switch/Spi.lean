/-
  ClockDiscipline/Switch/Spi.lean
  ===============================
  **The SPI device that a switch is connected to.**

  A device is set up when it is opened.  Each transfer then clocks bytes out
  and as many bytes in.
-/
import ClockDiscipline.Kernel.File
import ClockDiscipline.Switch.Clock

namespace ClockDiscipline.Switch

open Kernel

/-! ### Requests -/

/-- A setting of an SPI device. -/
inductive SpiSetting where
  /-- When data is sampled: on the second edge of the clock. -/
  | mode
  | bitsPerWord
  | maxSpeed (hz : UInt32)
deriving DecidableEq, Repr

namespace SpiSetting

def request : SpiSetting → Request
  | .mode => ⟨.toKernel, 1, 'k', 1⟩
  | .bitsPerWord => ⟨.toKernel, 1, 'k', 3⟩
  | .maxSpeed _ => ⟨.toKernel, 4, 'k', 4⟩

def value : SpiSetting → UInt32
  | .mode => 1
  | .bitsPerWord => 8
  | .maxSpeed hz => hz

/-- What is set when a device is opened. -/
def all (speedHz : UInt32) : List SpiSetting := [.mode, .bitsPerWord, .maxSpeed speedHz]

end SpiSetting

/-- Bytes to be clocked out. -/
structure SpiMessage where
  sent : List UInt8
  speedHz : UInt32
deriving DecidableEq, Repr

namespace SpiMessage

/-- The request of one transfer. -/
def request : Request := ⟨.toKernel, 32, 'k', 0⟩

/-- The last two words of the description of a transfer: the bits of a word,
    and nothing out of the ordinary. -/
def tailWords : List UInt32 := [SpiSetting.bitsPerWord.value <<< 16, 0]

end SpiMessage

/-- What the kernel is asked about SPI devices. -/
structure SpiInterface (W F : Type) where
  openFile : String → Action W (Except Errno F)
  set : F → SpiSetting → Action W (Except Errno Unit)
  transfer : F → SpiMessage → Action W (Except Errno (List UInt8))

/-! ### Devices -/

inductive SpiError where
  | cannotOpen (name : String) (error : FileError)
  | transfer (error : Errno)
deriving DecidableEq, Repr

/-- How an error is written inside a message. -/
def SpiError.text : SpiError → String
  | .cannotOpen name e => s!"Open \x7b name: {Text.quoted name}, source: {e.text} \x7d"
  | .transfer e => s!"Transfer({e.text})"

/-- An open device and its speed. -/
structure SpiDevice (F : Type) where
  file : F
  speedHz : UInt32

variable {W F : Type}

/-- Make settings one after the other, up to the first that fails. -/
def applySettings (kernel : SpiInterface W F) (file : F) :
    List SpiSetting → Action W (Except Errno Unit)
  | [] => return .ok ()
  | setting :: rest => do
    match ← kernel.set file setting with
    | .error e => return .error e
    | .ok () => applySettings kernel file rest

/-- Open and set up the device at a path. -/
def openSpi (kernel : SpiInterface W F) (path : String) (speedHz : UInt32) :
    Action W (Except SpiError (SpiDevice F)) := do
  match ← withPath kernel.openFile path with
  | .error e => return .error (.cannotOpen path e)
  | .ok file =>
    match ← applySettings kernel file (SpiSetting.all speedHz) with
    | .error e => return .error (.transfer e)
    | .ok () =>
      Action.log .debug s!"opened {path} at {speedHz.toNat}Hz"
      return .ok ⟨file, speedHz⟩

/-- Transfers on a device. -/
def spiTransfer (kernel : SpiInterface W F) (device : SpiDevice F) : Transfer W SpiError :=
  fun sent => return (← kernel.transfer device.file ⟨sent, device.speedHz⟩).mapError .transfer

end ClockDiscipline.Switch
