/-
  ClockDiscipline/Bench/Kernel.lean
  =================================
  **The kernel of a simulated computer.**

  An open file is the position of its device file, so all that have a file
  open see the same device.
-/
import ClockDiscipline.Bench.Bus
import ClockDiscipline.Bench.Computer
import ClockDiscipline.Phc.Opening
import ClockDiscipline.Time.Realtime

namespace ClockDiscipline.Bench

open Kernel

/-! ### Paths -/

/-- Whether a path is one of a device, whether or not there is such a device. -/
def isDevicePath (path : String) : Bool :=
  path.startsWith "/dev/ptp" || path.startsWith "/dev/spidev"

/-- The file at a path that is not one of a device. -/
def Computer.plainFile (c : Computer) (path : String) : Except Errno TreeEntry :=
  if isDevicePath path then .error .noEntry else c.tree.find path

/-- The path of a file once links are followed. -/
def realPath (path : String) : Action Computer (Except Errno String) :=
  Action.perform fun c =>
    match (c.find? path).bind (c.files[·]?) with
    | some d => (.ok d.name, c)
    | none => ((c.plainFile path).map fun entry => Path.ofNames true entry.place, c)

/-! ### Network interfaces -/

/-- Where a network interface is. -/
def interfacePlace (name : String) : Place := ["sys", "class", "net", name]

/-- Where the clocks of an interface are. -/
def clocksPlace (name : String) : Place := interfacePlace name ++ ["device", "ptp"]

/-- The directories of an interface and its clocks. -/
def interfaceTree (name : String) (clocks : Option (List String)) : FileTree :=
  let below := match clocks with
    | none => []
    | some entries =>
      [interfacePlace name ++ ["device"], clocksPlace name] ++
        entries.map fun entry => clocksPlace name ++ [entry]
  (interfacePlace name :: below).map (⟨·, .directory, false⟩)

/-- The files of a computer and of its interfaces. -/
def Computer.wholeTree (c : Computer) : FileTree :=
  c.interfaces.flatMap (fun (name, clocks) => interfaceTree name clocks) ++ c.tree

/-- The entries of the directory of an interface's clocks. -/
def clocksOfInterface (name : String) : Action Computer (Option (List String)) :=
  Action.perform fun c =>
    match c.wholeTree.locate s!"/sys/class/net/{name}/device/ptp" with
    | .error _ => (none, c)
    | .ok place => ((c.interfaces.find? fun (n, _) => clocksPlace n == place).bind (·.2), c)

/-! ### Requests -/

/-- Make a request of a file unless it is to fail. -/
def fileRequest {α : Type} (operation : Operation) (f : DeviceFile → α)
    (effect : DeviceFile → Computer → Computer) (position : Nat) :
    Action Computer (Except Errno α) :=
  Action.perform fun c =>
    match c.files[position]? with
    | none => (.error .noEntry, c)
    | some d =>
      match d.failure? operation with
      | some e => (.error e, c)
      | none => (.ok (f d), effect d c)

/-- Open a file that is no device, for reading and writing. -/
def openPlain (path : String) : Action Computer (Except Errno Nat) :=
  Action.perform fun c =>
    match c.plainFile path with
    | .error e => (.error e, c)
    | .ok ⟨_, .directory, _⟩ => (.error .isDirectory, c)
    | .ok ⟨_, .socket .., _⟩ => (.error .notOpenable, c)
    | .ok ⟨_, .file _, false⟩ => (.error .denied, c)
    | .ok ⟨_, .file _, true⟩ => (.ok c.files.length, { c with files := c.files ++ [.plain] })

def openFile (path : String) : Action Computer (Except Errno Nat) := do
  match (← Action.perform fun c => (c.find? path, c)) with
  | none => openPlain path
  | some position => fileRequest .opening (fun _ => position) (fun _ c => c) position

/-- A time as seconds, rounded towards the past, and nanoseconds. -/
def splitTime (nanos : Int64) : Int64 × UInt32 :=
  let t := SystemTime.ofNanos nanos
  (t.secs, t.nanos)

/-- Read what is next of the content of a file. -/
def readBytes (position count : Nat) : Action Computer (Except Errno (List UInt8)) :=
  Action.perform fun c =>
    match c.files[position]? with
    | none => (.error .noEntry, c)
    | some d => (.ok (d.content.take count),
        c.modify position fun d => { d with content := d.content.drop count })

/-- The flags of files: those with content are readable. -/
def currentFlags (c : Computer) (positions : List Nat) : List PollFlags :=
  positions.map fun position => if c.isReadable position then 1 else 0

/-- Look at files without waiting. -/
def look (positions : List Nat) : Action Computer PollResult :=
  Action.perform fun c => (.returned (currentFlags c positions), c)

def clockKernel : Phc.Interface Computer Nat where
  openFile := openFile
  realPath := realPath
  clocksOfInterface := clocksOfInterface
  readTime position :=
    fileRequest .readTime (fun d => splitTime d.time)
      (fun _ c => c.modify position fun d => { d with time := d.time + d.step }) position
  readFrequency := fileRequest .readFrequency (·.frequency) fun _ c => c
  adjust position adjustment :=
    fileRequest .adjust (fun _ => ())
      (fun d c => (c.modify position (·.adjust adjustment)).record (.adjusted d.name adjustment))
      position
  capabilities :=
    fileRequest .capabilities (fun d => ⟨d.maxAdjustment, d.pins⟩)
      fun d c => c.record (.capabilities d.name)
  setInput position request :=
    fileRequest (.ofRequest request) (fun _ => ())
      (fun d c => c.record (.input d.name request)) position
  readBytes := readBytes
  poll positions _ := look positions

/-! ### SPI -/

/-- What the switch answers to a frame, if it answers. -/
def switchReply (sent : List UInt8) (c : Computer) : Except Errno (List UInt8) × Computer :=
  if isRead sent then
    match c.reads with
    | some ticks :: rest => (.ok (clockReply sent ticks), { c with reads := rest })
    | none :: rest => (.error .inputOutput, { c with reads := rest })
    | [] => (.error .inputOutput, c)
  else (.ok (sent.map fun _ => 0), c)

/-- A transfer; only one that succeeds is recorded. -/
def transferMessage (position : Nat) (message : Switch.SpiMessage) :
    Action Computer (Except Errno (List UInt8)) :=
  Action.perform fun c =>
    match c.files[position]? with
    | none => (.error .noEntry, c)
    | some d =>
      match d.failure? .message with
      | some e => (.error e, c)
      | none =>
        match switchReply message.sent c with
        | (.error e, c) => (.error e, c)
        | (.ok reply, c) => (.ok reply, c.record (.message d.name message))

def spiKernel : Switch.SpiInterface Computer Nat where
  openFile := openFile
  set position setting :=
    fileRequest .setup (fun _ => ()) (fun d c => c.record (.setting d.name setting)) position
  transfer := transferMessage

/-! ### Sockets -/

/-- Look for something in the tree of files. -/
def treeRequest {α : Type} (f : FileTree → Except Errno α) : Action Computer (Except Errno α) :=
  Action.perform fun c => (f c.tree, c)

/-- Change the tree of files. -/
def treeChange (f : FileTree → Except Errno FileTree) : Action Computer (Except Errno Unit) :=
  Action.perform fun c =>
    match f c.tree with
    | .ok tree => (.ok (), { c with tree := tree })
    | .error e => (.error e, c)

def socketKernel : SocketInterface Computer where
  kindAt path := treeRequest fun t => (·.node.kind) <$> t.find path
  remove path := treeChange (·.remove path)
  bind service path := treeChange (·.bind service path)
  setMode mode path := treeChange (·.setMode mode path)

end ClockDiscipline.Bench
