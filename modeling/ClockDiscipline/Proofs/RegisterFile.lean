/-
  ClockDiscipline/Proofs/RegisterFile.lean
  ========================================
  **The switch at the other end of the wire.**

  `RegisterFile` is the chip: it decodes the bytes of a transfer by itself,
  stores a burst of words register by register, and when both words of the
  clock have been written, puts them into the clock or adds them to it, as its
  control register says.  A byte comes back for each byte that is sent, and
  what is no frame, such as a read that clocks out too few bytes, faults.  Any
  transfer may fail, and has no effect then.  Whatever is asked of the clock
  behind such a wire, clock and rate are what the calls that succeeded make of
  them, and a failure changes neither (`served_switch`).  A failure between the
  two transfers of one call leaves the control register behind, but each call
  writes that register first.
-/
import ClockDiscipline.Proofs.Transactions
import ClockDiscipline.Switch.Clock
import Mathlib.Algebra.Group.Nat.Defs

namespace ClockDiscipline.Switch

open ClockDiscipline.Action

variable {W β γ : Type}

/-! ### The chip -/

def bigEndian (a b c d : UInt8) : UInt32 :=
  UInt32.ofNat (((a.toNat * 256 + b.toNat) * 256 + c.toNat) * 256 + d.toNat)

/-- The words of a transfer; bytes that do not fill a word are dropped. -/
def words : List UInt8 → List UInt32
  | a :: b :: c :: d :: rest => bigEndian a b c d :: words rest
  | _ => []

/-- The registers of a switch, and its clock. -/
structure RegisterFile where
  registers : UInt32 → UInt32
  clock : UInt64

structure ClockSetting where
  clock : UInt64
  rate : RateRegister

namespace RegisterFile

def setting (chip : RegisterFile) : ClockSetting :=
  ⟨chip.clock, ⟨chip.registers rateAddress⟩⟩

/-- Store words in the registers from an address on. -/
def store (chip : RegisterFile) (address : UInt32) : List UInt32 → RegisterFile
  | [] => chip
  | word :: rest =>
    store { chip with registers := fun a => if a = address then word else chip.registers a }
      (address + 1) rest

/-- Put the words of the clock into effect. -/
def latch (chip : RegisterFile) : RegisterFile :=
  let value := UInt64.ofNat
    ((chip.registers (clockAddress + 1)).toNat * 2 ^ 32 + (chip.registers clockAddress).toNat)
  { chip with clock :=
      if chip.registers controlAddress &&& controlAdd = 0 then value else chip.clock + value }

/-- Write a burst.  The clock changes if both of its words are written. -/
def write (chip : RegisterFile) (address : UInt32) (burst : List UInt32) : RegisterFile :=
  let stored := chip.store address burst
  if address ≤ clockAddress ∧ clockAddress.toNat + 2 ≤ address.toNat + burst.length then
    stored.latch
  else stored

/-- What a register shows when it is read. -/
def read (chip : RegisterFile) (address : UInt32) : UInt32 :=
  if address = clockAddress then UInt32.ofNat (chip.clock.toNat % 2 ^ 32)
  else if address = clockAddress + 1 then UInt32.ofNat (chip.clock.toNat / 2 ^ 32)
  else chip.registers address

/-- How many registers a header asks for: it has six bits for that, where zero
    stands for 64. -/
def readCount (header : UInt32) : Nat :=
  let field := (header >>> 25 &&& 0x3f).toNat
  if field = 0 then 64 else field

/-- The bytes that come back for the bytes sent, one for each of them, and the
    chip after that.  The header has the direction in its first bit, and the
    address after the number of registers to read.  What lacks a header is no
    frame, nor is what clocks out too few bytes, or too many, for the registers
    to be read. -/
def transfer (chip : RegisterFile) (sent : List UInt8) : Option (List UInt8 × RegisterFile) :=
  match words sent with
  | [] => none
  | header :: burst =>
    let address := header >>> 4 &&& 0x1fffff
    if header &&& 0x80000000 = 0 then
      if sent.length = 4 + 4 * readCount header then
        some (List.replicate 4 0 ++ (List.range (readCount header)).flatMap fun i =>
          wordBytes (chip.read (address + UInt32.ofNat i)), chip)
      else none
    else some (sent.map fun _ => 0, chip.write address burst)

end RegisterFile

/-- What is answered to bytes sent to the chip.  Whether a transfer fails is up
    to the world beside it, and one that fails does not reach the chip; but
    whatever is sent has to be a frame. -/
def exchange (faults : W → Option β × W) (sent : List UInt8) :
    RegisterFile × W → Checked (Except β (List UInt8)) × (RegisterFile × W)
  | (chip, w) =>
    match chip.transfer sent, faults w with
    | none, (_, w) => (.error .unforeseen, (chip, w))
    | some _, (some e, w) => (.ok (.error e), (chip, w))
    | some (reply, chip), (none, w) => (.ok (.ok reply), (chip, w))

/-- A wire to the chip. -/
def wire (faults : W → Option β × W) : Transfer (RegisterFile × W) β := fun sent => do
  Action.checked (← Action.perform (exchange faults sent))

/-! ### Words and bytes -/

/-- Disjoint bits may as well be added. -/
theorem or_eq_add {x y k : Nat} (hx : x % 2 ^ k = 0) (hy : y < 2 ^ k) : x ||| y = x + y := by
  obtain ⟨b, rfl⟩ := Nat.dvd_of_mod_eq_zero hx
  exact (Nat.two_pow_add_eq_or_of_lt hy b).symm

theorem bigEndian_bytes (w : UInt32) :
    bigEndian (w >>> 24).toUInt8 (w >>> 16).toUInt8 (w >>> 8).toUInt8 w.toUInt8 = w := by
  apply UInt32.toNat_inj.mp
  have hw := w.toNat_lt
  simp only [bigEndian, UInt32.toNat_ofNat', UInt32.toNat_toUInt8, UInt32.toNat_shiftRight,
    UInt32.toNat_ofNat, Nat.shiftRight_eq_div_pow]
  simp only [Nat.reduceMod, Nat.reducePow] at *
  omega

theorem words_wordBytes_append (w : UInt32) (rest : List UInt8) :
    words (wordBytes w ++ rest) = w :: words rest := by
  show bigEndian _ _ _ _ :: words rest = _
  rw [bigEndian_bytes]

theorem words_flatMap_wordBytes (ws : List UInt32) : words (ws.flatMap wordBytes) = ws := by
  induction ws with
  | nil => rfl
  | cons w ws ih => rw [List.flatMap_cons, words_wordBytes_append, ih]

theorem or_bytes (a b c d : UInt8) :
    a.toUInt32 <<< 24 ||| b.toUInt32 <<< 16 ||| c.toUInt32 <<< 8 ||| d.toUInt32 =
      bigEndian a b c d := by
  apply UInt32.toNat_inj.mp
  have ha := a.toNat_lt
  have hb := b.toNat_lt
  have hc := c.toNat_lt
  have hd := d.toNat_lt
  simp only [bigEndian, UInt32.toNat_ofNat', UInt32.toNat_or, UInt32.toNat_shiftLeft,
    UInt8.toNat_toUInt32, UInt32.toNat_ofNat, Nat.shiftLeft_eq]
  simp only [Nat.reduceMod, Nat.reducePow] at *
  rw [or_eq_add (x := a.toNat * 16777216 % 4294967296) (k := 24) (by omega) (by omega),
    or_eq_add (y := c.toNat * 256 % 4294967296) (k := 16) (by omega) (by omega),
    or_eq_add (k := 8) (by omega) (by omega)]
  omega

theorem joinWords_split (ticks : UInt64) :
    joinWords (UInt32.ofNat (ticks.toNat % 2 ^ 32)) (UInt32.ofNat (ticks.toNat / 2 ^ 32)) =
      ticks := by
  apply UInt64.toNat_inj.mp
  have hticks := ticks.toNat_lt
  simp only [joinWords, UInt64.toNat_or, UInt64.toNat_shiftLeft, UInt32.toNat_toUInt64,
    UInt32.toNat_ofNat', UInt64.toNat_ofNat, Nat.shiftLeft_eq]
  simp only [Nat.reduceMod, Nat.reducePow] at *
  rw [or_eq_add (k := 32) (by omega) (by omega)]
  omega

theorem ofNat_words (ticks : UInt64) :
    UInt64.ofNat ((highWord ticks).toNat * 2 ^ 32 + (lowWord ticks).toNat) = ticks := by
  apply UInt64.toNat_inj.mp
  have hticks := ticks.toNat_lt
  simp only [lowWord, highWord, UInt64.toNat_ofNat', UInt64.toNat_toUInt32,
    UInt64.toNat_shiftRight, UInt64.toNat_ofNat, Nat.shiftRight_eq_div_pow]
  simp only [Nat.reduceMod, Nat.reducePow] at *
  omega

/-! ### What the chip makes of a frame -/

theorem address_writeHeader (address : UInt32) :
    writeHeader address >>> 4 &&& 0x1fffff = address &&& 0x1fffff := by
  apply UInt32.toNat_inj.mp
  have haddress := address.toNat_lt
  simp only [writeHeader, addressField, addressMask, writeBit, UInt32.toNat_or, UInt32.toNat_and,
    UInt32.toNat_shiftLeft, UInt32.toNat_shiftRight, UInt32.toNat_ofNat, Nat.shiftLeft_eq,
    Nat.shiftRight_eq_div_pow]
  simp only [Nat.reduceMod, Nat.reducePow] at *
  have hmask : (2097151 : Nat) = 2 ^ 21 - 1 := rfl
  rw [hmask, Nat.and_two_pow_sub_one_eq_mod, Nat.and_two_pow_sub_one_eq_mod, Nat.or_comm,
    or_eq_add (k := 31) (by omega) (by omega)]
  omega

theorem writeHeader_isWrite (address : UInt32) : writeHeader address &&& 0x80000000 ≠ 0 := by
  intro hzero
  have hbit := congrArg (fun w => w.toBitVec.getLsbD 31) hzero
  simp [writeHeader, writeBit] at hbit

namespace RegisterFile

variable {chip : RegisterFile}

/-- As many bytes come back as are sent. -/
theorem length_transfer {sent reply : List UInt8} {chip' : RegisterFile}
    (htransfer : chip.transfer sent = some (reply, chip')) : reply.length = sent.length := by
  have hread (f : Nat → UInt32) (count : Nat) :
      ((List.range count).flatMap fun i => wordBytes (f i)).length = 4 * count := by
    simp only [List.length_flatMap, wordBytes, List.length_cons, List.length_nil,
      List.map_const', List.sum_replicate_nat, List.length_range]
    omega
  unfold transfer at htransfer
  split at htransfer
  · cases htransfer
  · split at htransfer
    · split at htransfer
      · next hlength =>
        cases htransfer
        rw [List.length_append, List.length_replicate, hread, hlength]
      · cases htransfer
    · cases htransfer
      exact List.length_map ..

/-- A frame that writes is decoded as the burst it was made of. -/
theorem transfer_writeFrame (address : UInt32) (ws : List UInt32) :
    chip.transfer (writeFrame address ws) =
      some ((writeFrame address ws).map fun _ => 0, chip.write (address &&& 0x1fffff) ws) := by
  simp only [transfer, writeFrame, words_wordBytes_append, words_flatMap_wordBytes,
    address_writeHeader, writeHeader_isWrite, if_false]

/-- A frame that reads the clock gets its two words, and changes nothing. -/
theorem transfer_readFrame :
    chip.transfer (readFrame clockAddress 2) =
      some (List.replicate 4 0 ++ wordBytes (chip.read clockAddress) ++
        wordBytes (chip.read (clockAddress + 1)), chip) := by
  have hheader : readHeader clockAddress 2 = 0x04000180 := by decide
  simp only [transfer, readFrame, words_wordBytes_append, hheader]
  rfl

/-- The clock is out of reach of a write of one word. -/
theorem write_word (address word : UInt32) :
    chip.write address [word] =
      { chip with registers := fun a => if a = address then word else chip.registers a } := by
  have hclock : clockAddress.toNat = 24 := rfl
  have hshort : ¬(address ≤ clockAddress ∧ clockAddress.toNat + 2 ≤ address.toNat + 1) := by
    rw [UInt32.le_iff_toNat_le]
    omega
  simp only [write, List.length_singleton, if_neg hshort]
  rfl

/-- A write of both words of the clock leaves the control register and the rate
    alone. -/
theorem write_clock_setting (ticks : UInt64) :
    (chip.write clockAddress [lowWord ticks, highWord ticks]).setting =
      { chip.setting with clock :=
          if chip.registers controlAddress &&& controlAdd = 0 then ticks
          else chip.clock + ticks } := by
  have hboth : clockAddress ≤ clockAddress ∧
      clockAddress.toNat + 2 ≤ clockAddress.toNat + [lowWord ticks, highWord ticks].length :=
    ⟨UInt32.le_refl _, Nat.le_refl _⟩
  have hlow : ¬clockAddress = clockAddress + 1 := by decide
  have hcontrol : ¬controlAddress = clockAddress + 1 ∧ ¬controlAddress = clockAddress := by decide
  have hrate : ¬rateAddress = clockAddress + 1 ∧ ¬rateAddress = clockAddress := by decide
  simp only [setting, write, if_pos hboth, latch, store, if_true, if_neg hlow,
    if_neg hcontrol.1, if_neg hcontrol.2, if_neg hrate.1, if_neg hrate.2, ofNat_words]

end RegisterFile

theorem wordAt_length (front rest : List UInt8) (w : UInt32) :
    wordAt (front ++ wordBytes w ++ rest) front.length = w := by
  simp only [wordAt, byteAt, List.getD_eq_getElem?_getD, List.append_assoc,
    List.getElem?_append_right (Nat.le_refl _), List.getElem?_append_right (Nat.le_add_right _ _),
    Nat.sub_self, Nat.add_sub_cancel_left]
  exact (or_bytes ..).trans (bigEndian_bytes w)

/-- The words in the bytes that come back are those that the chip has sent. -/
theorem replyWords_two (low high : UInt32) :
    replyWords 2 (List.replicate 4 0 ++ wordBytes low ++ wordBytes high) = [low, high] := by
  have hlow := wordAt_length (List.replicate 4 0) (wordBytes high) low
  have hhigh := wordAt_length (List.replicate 4 0 ++ wordBytes low) [] high
  rw [List.append_nil] at hhigh
  exact List.cons_eq_cons.mpr ⟨hlow, List.cons_eq_cons.mpr ⟨hhigh, rfl⟩⟩

/-! ### Calls -/

/-- What can be asked of a clock behind a bus. -/
inductive ClockCall where
  | writeRate (rate : RateRegister)
  | readCounter
  | setTime (ticks : UInt64)
  | addTime (ticks : UInt64)

namespace ClockCall

def make (bus : ClockBus W β) : ClockCall → Action W (Transaction β γ)
  | .writeRate rate => return .rate rate (← bus.writeRate rate)
  | .readCounter => return .counter (← bus.readCounter)
  | .setTime ticks => return .set ticks (← bus.setTime ticks)
  | .addTime ticks => return .add ticks (← bus.addTime ticks)

/-- Make calls one after the other, whatever they are answered. -/
def makeAll (bus : ClockBus W β) : List ClockCall → Action W (List (Transaction β γ))
  | [] => return []
  | call :: rest => do
    let answered ← call.make bus
    return answered :: (← makeAll bus rest)

/-- The call that a transaction belongs to.  The reference is on no bus. -/
def ofTransaction : Transaction β γ → Option ClockCall
  | .rate rate _ => some (.writeRate rate)
  | .counter _ => some .readCounter
  | .set ticks _ => some (.setTime ticks)
  | .add ticks _ => some (.addTime ticks)
  | .reference _ => none

end ClockCall

/-- What a call makes of the clock and its rate.  Only success counts. -/
def ClockSetting.after (setting : ClockSetting) : Transaction β γ → ClockSetting
  | .rate written (.ok ()) => { setting with rate := written }
  | .set ticks (.ok ()) => { setting with clock := ticks }
  | .add ticks (.ok ()) => { setting with clock := setting.clock + ticks }
  | .rate _ (.error _) | .set _ (.error _) | .add _ (.error _) => setting
  | .counter _ | .reference _ => setting

/-! ### Calls over the wire -/

section Wire

variable (faults : W → Option β × W) {m : Machine (RegisterFile × W)}

def Faulty : Prop :=
  ∃ w e, (faults w).1 = some e

/-- A frame is answered, or the transfer fails and does not reach the chip. -/
theorem wire_cases {sent reply : List UInt8} {chip' : RegisterFile}
    (htransfer : m.world.1.transfer sent = some (reply, chip')) :
    (∃ e w, faults m.world.2 = (some e, w) ∧
      Returns (wire faults sent) m (.error e) { m with world := (m.world.1, w) }) ∨
    ∃ w, Returns (wire faults sent) m (.ok reply) { m with world := (chip', w) } := by
  rcases hfault : faults m.world.2 with ⟨_ | e, w⟩
  · exact .inr ⟨w, by simp [wire, exchange, htransfer, hfault]⟩
  · exact .inl ⟨e, w, rfl, by simp [wire, exchange, htransfer, hfault]⟩

/-- A burst is stored, or it failed and there is nothing to see of it. -/
theorem writeWords_wire (address : UInt32) (ws : List UInt32) :
    ∃ answer m', Returns (writeWords (wire faults) address ws) m answer m' ∧
      match answer with
      | .ok () => m'.world.1 = m.world.1.write (address &&& 0x1fffff) ws
      | .error _ => m'.world.1 = m.world.1 ∧ Faulty faults := by
  have hanswer {answer : Except β (List UInt8)} {m' : Machine (RegisterFile × W)}
      (hwire : Returns (wire faults (writeFrame address ws)) m answer m') :
      Returns (writeWords (wire faults) address ws) m (answer.map fun _ => ()) m' := by
    simp only [writeWords, returns_bind, returns_pure]
    exact ⟨answer, m', hwire, rfl, rfl⟩
  rcases wire_cases faults (RegisterFile.transfer_writeFrame address ws) with
    ⟨e, w, hfault, hwire⟩ | ⟨w, hwire⟩
  · exact ⟨_, _, hanswer hwire, rfl, m.world.2, e, by rw [hfault]⟩
  · exact ⟨_, _, hanswer hwire, rfl⟩

/-- The control register is written first, so it does not matter what a call
    before this one left there. -/
theorem writeClock_wire (control ticks) (hvalid : control = 0 ∨ control = controlAdd) :
    ∃ answer m', Returns (writeClock (wire faults) control ticks) m answer m' ∧
      match answer with
      | .ok () => m'.world.1.setting = { m.world.1.setting with clock :=
          if control = 0 then ticks else m.world.1.clock + ticks }
      | .error _ => m'.world.1.setting = m.world.1.setting ∧ Faulty faults := by
  obtain ⟨answer, m₁, hcontrol, hchip₁⟩ := writeWords_wire faults (m := m)
    controlAddress [controlValid ||| control]
  cases answer with
  | error e =>
    refine ⟨.error e, m₁, ?_, ?_, hchip₁.2⟩
    · simp only [writeClock, returns_bind]
      exact ⟨_, m₁, hcontrol, returns_pure.mpr ⟨rfl, rfl⟩⟩
    · rw [hchip₁.1]
  | ok =>
    obtain ⟨answer, m₂, hvalue, hchip₂⟩ := writeWords_wire faults (m := m₁)
      clockAddress [lowWord ticks, highWord ticks]
    have hreturns : Returns (writeClock (wire faults) control ticks) m answer m₂ := by
      simp only [writeClock, returns_bind]
      exact ⟨_, m₁, hcontrol, hvalue⟩
    rw [RegisterFile.write_word] at hchip₁
    have hsetting : m₁.world.1.setting = m.world.1.setting := by
      rw [hchip₁]
      rfl
    have hregister : m₁.world.1.registers controlAddress = controlValid ||| control := by
      rw [hchip₁]
      rfl
    refine ⟨answer, m₂, hreturns, ?_⟩
    -- the control register is written either way, but it is no part of the setting
    cases answer with
    | error e => exact ⟨by rw [hchip₂.1, hsetting], hchip₂.2⟩
    | ok =>
      have haddress : clockAddress &&& 0x1fffff = clockAddress := by decide
      have hadd : (controlValid ||| control) &&& controlAdd = 0 ↔ control = 0 := by
        rcases hvalid with rfl | rfl <;> decide
      rw [haddress] at hchip₂
      rw [hchip₂, RegisterFile.write_clock_setting, hregister, hsetting]
      simp only [hadd]
      rw [show m₁.world.1.clock = m.world.1.clock from congrArg ClockSetting.clock hsetting]

theorem readClock_wire :
    ∃ answer m', Returns (readClock (wire faults)) m answer m' ∧ m'.world.1 = m.world.1 ∧
      match answer with
      | .ok ticks => ticks = m.world.1.clock
      | .error _ => Faulty faults := by
  rcases wire_cases faults (m := m) RegisterFile.transfer_readFrame with
    ⟨e, w, hfault, hwire⟩ | ⟨w, hwire⟩
  · refine ⟨.error e, { m with world := (m.world.1, w) }, ?_, rfl, m.world.2, e, by rw [hfault]⟩
    simp only [readClock, returns_bind, returns_pure]
    exact ⟨_, _, hwire, rfl, rfl⟩
  · refine ⟨.ok m.world.1.clock, { m with world := (m.world.1, w) }, ?_, rfl, rfl⟩
    simp only [readClock, returns_bind, returns_pure]
    refine ⟨_, _, hwire, ?_, rfl⟩
    simp only [Except.map, replyWords_two]
    exact congrArg Except.ok (joinWords_split _).symm

/-- What a call does to the chip, and what it tells about it. -/
structure Served (faults : W → Option β × W) (chip : RegisterFile) (call : ClockCall)
    (answered : Transaction β γ) (chip' : RegisterFile) : Prop where
  answers : ClockCall.ofTransaction answered = some call
  setting : chip'.setting = chip.setting.after answered
  counter : ∀ ticks, answered = .counter (.ok ticks) → ticks = chip.clock
  failed : answered.Failed → Faulty faults

theorem make_wire (call : ClockCall) :
    ∃ (answered : Transaction β γ) (m' : Machine (RegisterFile × W)),
      Returns (call.make (clockBus (wire faults))) m answered m' ∧
      Served faults m.world.1 call answered m'.world.1 := by
  cases call with
  | writeRate rate =>
    obtain ⟨answer, m', hwrite, hchip⟩ := writeWords_wire faults (m := m)
      rateAddress [rate.bits]
    refine ⟨.rate rate answer, m', ?_, rfl, ?_, by simp, ?_⟩
    · simp only [ClockCall.make, returns_bind, returns_pure]
      exact ⟨answer, m', hwrite, rfl, rfl⟩
    · cases answer with
      | error e => rw [hchip.1]; rfl
      | ok => rw [hchip, RegisterFile.write_word]; rfl
    · rintro ⟨e, rfl⟩
      exact hchip.2
  | readCounter =>
    obtain ⟨answer, m', hread, hchip, hanswer⟩ := readClock_wire faults (m := m)
    refine ⟨.counter answer, m', ?_, rfl, ?_, ?_, ?_⟩
    · simp only [ClockCall.make, returns_bind, returns_pure]
      exact ⟨answer, m', hread, rfl, rfl⟩
    · rw [hchip]
      rfl
    · rintro ticks ⟨⟩
      exact hanswer
    · rintro ⟨e, rfl⟩
      exact hanswer
  | setTime ticks =>
    obtain ⟨answer, m', hwrite, hchip⟩ := writeClock_wire faults (m := m)
      0 ticks (.inl rfl)
    refine ⟨.set ticks answer, m', ?_, rfl, ?_, by simp, ?_⟩
    · simp only [ClockCall.make, returns_bind, returns_pure]
      exact ⟨answer, m', hwrite, rfl, rfl⟩
    · cases answer with
      | error e => exact hchip.1
      | ok => exact hchip
    · rintro ⟨e, rfl⟩
      exact hchip.2
  | addTime ticks =>
    obtain ⟨answer, m', hwrite, hchip⟩ := writeClock_wire faults (m := m)
      controlAdd ticks (.inr rfl)
    refine ⟨.add ticks answer, m', ?_, rfl, ?_, by simp, ?_⟩
    · simp only [ClockCall.make, returns_bind, returns_pure]
      exact ⟨answer, m', hwrite, rfl, rfl⟩
    · cases answer with
      | error e => exact hchip.1
      | ok => exact hchip
    · rintro ⟨e, rfl⟩
      exact hchip.2

/-- Calls are answered one by one, and clock and rate are what those that
    succeeded make of them: a call that failed is as if it had not been made.
    The counter shows what the calls before it came to. -/
theorem served_switch (calls : List ClockCall)
    (m : Machine (RegisterFile × W)) :
    ∃ (answered : List (Transaction β γ)) (m' : Machine (RegisterFile × W)),
      Returns (ClockCall.makeAll (clockBus (wire faults)) calls) m answered m' ∧
      answered.map ClockCall.ofTransaction = calls.map some ∧
      m'.world.1.setting = answered.foldl ClockSetting.after m.world.1.setting ∧
      (∀ before ticks rest, answered = before ++ .counter (.ok ticks) :: rest →
        ticks = (before.foldl ClockSetting.after m.world.1.setting).clock) ∧
      ((∃ x ∈ answered, x.Failed) → Faulty faults) := by
  -- each call starts from the setting that the one before it has left
  induction calls generalizing m with
  | nil => exact ⟨[], m, returns_pure.mpr ⟨rfl, rfl⟩, rfl, rfl, by simp, by simp⟩
  | cons call calls ih =>
    obtain ⟨first, m₁, hfirst, hserved⟩ := make_wire faults (γ := γ) (m := m) call
    obtain ⟨answered, m', hrest, hcalls, hsetting, hcounter, hfailed⟩ := ih m₁
    refine ⟨first :: answered, m', ?_, ?_, ?_, ?_, ?_⟩
    · simp only [ClockCall.makeAll, returns_bind, returns_pure]
      exact ⟨first, m₁, hfirst, answered, m', hrest, rfl, rfl⟩
    · rw [List.map_cons, List.map_cons, hserved.answers, hcalls]
    · rw [List.foldl_cons, ← hserved.setting, hsetting]
    · intro before ticks rest hsplit
      cases before with
      | nil => exact hserved.counter ticks (List.cons.inj hsplit).1
      | cons _ before =>
        obtain ⟨rfl, hafter⟩ := List.cons.inj hsplit
        rw [List.foldl_cons, ← hserved.setting]
        exact hcounter before ticks rest hafter
    · rintro ⟨x, hx, hx_failed⟩
      rcases List.mem_cons.mp hx with rfl | hx
      · exact hserved.failed hx_failed
      · exact hfailed ⟨x, hx, hx_failed⟩

end Wire

/-- Time is to be added, but only the control register is reached.  The call
    after that replaces the clock all the same. -/
example :
    let faults : List Bool → Option Unit × List Bool
      | failing :: rest => (if failing then some () else none, rest)
      | [] => (none, [])
    let calls : List ClockCall := [.setTime 1000, .addTime 7, .setTime 5]
    let run := ClockCall.makeAll (γ := Unit) (clockBus (wire faults)) calls
    (run.outcome ⟨(⟨fun _ => 0, 0⟩, [false, false, false, true]), #[]⟩).2.world.1.clock = 5 := by
  decide +kernel

end ClockDiscipline.Switch
