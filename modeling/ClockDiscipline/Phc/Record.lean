/-
  ClockDiscipline/Phc/Record.lean
  ===============================
  **Events as the bytes that a clock device hands out.**

  A record is 32 bytes long: the time of the edge, the channel, and words that
  nobody needs.  Every number has its least significant byte first.
-/
import ClockDiscipline.Edge.Event

namespace ClockDiscipline.Phc

/-- What is known of an edge. -/
structure EventRecord where
  secs : Int64
  nanos : UInt32
  channel : UInt32
  flags : UInt32
deriving DecidableEq, Repr

namespace EventRecord

/-- The bytes of a record. -/
def size : Nat := 32

/-- The number of bytes, the least significant first. -/
def littleEndian : List UInt8 → Nat
  | [] => 0
  | b :: rest => b.toNat + 256 * littleEndian rest

/-- A number as so many bytes. -/
def littleEndianBytes : Nat → Nat → List UInt8
  | 0, _ => []
  | count + 1, n => UInt8.ofNat n :: littleEndianBytes count (n / 256)

theorem length_littleEndianBytes (count n : Nat) :
    (littleEndianBytes count n).length = count := by
  induction count generalizing n with
  | zero => rfl
  | succ count ih => simp [littleEndianBytes, ih]

/-- A number that fits into its bytes is read back from them. -/
theorem littleEndian_littleEndianBytes (count n : Nat) (fits : n < Nat.pow 256 count) :
    littleEndian (littleEndianBytes count n) = n := by
  induction count generalizing n with
  | zero =>
    have : n = 0 := Nat.lt_one_iff.mp fits
    rw [this]
    rfl
  | succ count ih =>
    have small : n / 256 < Nat.pow 256 count := by
      apply Nat.div_lt_of_lt_mul
      rw [Nat.mul_comm]
      exact fits
    simp only [littleEndianBytes, littleEndian, ih _ small, UInt8.toNat_ofNat']
    omega

/-- The field of a record at a position. -/
def fieldAt (bytes : List UInt8) (position length : Nat) : Nat :=
  littleEndian ((bytes.drop position).take length)

/-- Read a record; bytes that are missing count as zero. -/
def ofBytes (bytes : List UInt8) : EventRecord where
  secs := (UInt64.ofNat (fieldAt bytes 0 8)).toInt64
  nanos := UInt32.ofNat (fieldAt bytes 8 4)
  channel := UInt32.ofNat (fieldAt bytes 16 4)
  flags := UInt32.ofNat (fieldAt bytes 20 4)

def bytes (r : EventRecord) : List UInt8 :=
  littleEndianBytes 8 r.secs.toUInt64.toNat ++ littleEndianBytes 4 r.nanos.toNat ++
    littleEndianBytes 4 0 ++ littleEndianBytes 4 r.channel.toNat ++
    littleEndianBytes 4 r.flags.toNat ++ littleEndianBytes 8 0

theorem length_bytes (r : EventRecord) : r.bytes.length = size := by
  simp [bytes, size, length_littleEndianBytes]

/-- A record is read back from its bytes. -/
theorem ofBytes_bytes (r : EventRecord) : ofBytes r.bytes = r := by
  have secs := littleEndian_littleEndianBytes 8 r.secs.toUInt64.toNat r.secs.toUInt64.toNat_lt
  have nanos := littleEndian_littleEndianBytes 4 r.nanos.toNat r.nanos.toNat_lt
  have channel := littleEndian_littleEndianBytes 4 r.channel.toNat r.channel.toNat_lt
  have flags := littleEndian_littleEndianBytes 4 r.flags.toNat r.flags.toNat_lt
  have fields : fieldAt r.bytes 0 8 = r.secs.toUInt64.toNat ∧ fieldAt r.bytes 8 4 = r.nanos.toNat ∧
      fieldAt r.bytes 16 4 = r.channel.toNat ∧ fieldAt r.bytes 20 4 = r.flags.toNat := by
    refine ⟨?_, ?_, ?_, ?_⟩
    · exact secs
    · exact nanos
    · exact channel
    · exact flags
  obtain ⟨h0, h1, h2, h3⟩ := fields
  simp [ofBytes, h0, h1, h2, h3]

/-- The event of a record, if its time is in range. -/
def event (r : EventRecord) : Checked EdgeEvent := do
  return ⟨r.channel, ← Instant.ofSecsNanos r.secs r.nanos⟩

end EventRecord

end ClockDiscipline.Phc
