/-
  ClockDiscipline/Switch/Frame.lean
  =================================
  **Transfers with the registers of an SJA1105 switch.**

  A transfer starts with a header word: the direction, the address of the
  first register and, when reading, the number of registers.  The words of the
  registers follow.  Every word is sent with its most significant byte first.
-/

namespace ClockDiscipline.Switch

/-! ### Words and bytes -/

/-- The bytes of a word, most significant first. -/
def wordBytes (w : UInt32) : List UInt8 :=
  [(w >>> 24).toUInt8, (w >>> 16).toUInt8, (w >>> 8).toUInt8, w.toUInt8]

def byteAt (bytes : List UInt8) (i : Nat) : UInt32 := (bytes.getD i 0).toUInt32

/-- The word of four bytes from a position on; bytes that are missing are
    zero. -/
def wordAt (bytes : List UInt8) (i : Nat) : UInt32 :=
  byteAt bytes i <<< 24 ||| byteAt bytes (i + 1) <<< 16 ||| byteAt bytes (i + 2) <<< 8 |||
    byteAt bytes (i + 3)

/-! ### Headers -/

def writeBit : UInt32 := 0x80000000

def addressMask : UInt32 := 0x1fffff

/-- The most registers that one transfer reads. -/
def maxReadWords : Nat := 64

def addressField (address : UInt32) : UInt32 := (address &&& addressMask) <<< 4

def writeHeader (address : UInt32) : UInt32 := addressField address ||| writeBit

/-- A count of zero stands for the most registers there can be. -/
def readHeader (address : UInt32) (count : Nat) : UInt32 :=
  addressField address ||| (UInt32.ofNat (count % maxReadWords)) <<< 25

/-! ### Transfers -/

/-- The bytes that write words to the registers from an address on. -/
def writeFrame (address : UInt32) (words : List UInt32) : List UInt8 :=
  wordBytes (writeHeader address) ++ words.flatMap wordBytes

/-- The bytes that read a number of registers. -/
def readFrame (address : UInt32) (count : Nat) : List UInt8 :=
  wordBytes (readHeader address count) ++ List.replicate (4 * count) 0

/-- The words of the registers in the bytes that came back. -/
def replyWords (count : Nat) (reply : List UInt8) : List UInt32 :=
  (List.range count).map fun i => wordAt reply (4 + 4 * i)

end ClockDiscipline.Switch
