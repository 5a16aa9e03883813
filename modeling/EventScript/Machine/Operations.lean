import EventScript.Machine.Action

/-!
# Operations on a machine

The single operations of a context: starting, stopping and resuming, the call stack, the operand
readers, variables and switches. The host performs them directly, and commands are made of them.

An operation that is refused leaves the machine as it was. The one exception is reading an address
that points beyond the script: the address itself has been read by then.
-/

namespace EventScript.Action

variable {κ α : Type}

/-! ## Starting and stopping -/

/-- Starts a script from its first byte, in place of anything in progress. -/
def start (script : Script) (table : CommandTable κ) : Action κ Unit :=
  ⟨fun m ↦
    if m.enabled then
      { result := .ok ()
        machine := { m with
          toContext := { m.cleared table with activity := .script script.start } }
        events := (if m.mode = .paused then [] else [.preempting m.mode]) ++
          [.started script.length table.name] }
    else ⟨.error .disabled, m, [.startRefused]⟩⟩

/-- Starts a native task with no script behind it. -/
def startNative (task : NativeTask) : Action κ Unit :=
  ⟨fun m ↦
    if m.enabled then
      { result := .ok ()
        machine := { m with toContext := { m.cleared m.table with activity := .native task } }
        events := [.nativeStarted] }
    else ⟨.error .disabled, m, [.startRefused]⟩⟩

/-- Lets a parked script go on. -/
def resume : Action κ Unit :=
  ⟨fun m ↦
    if !m.enabled then ⟨.error .disabled, m, []⟩
    else match m.activity, m.parked with
      | .paused, some cursor =>
        ⟨.ok (), { m with activity := .script cursor, parked := none }, [.resumed cursor.offset]⟩
      | _, _ => ⟨.error .nothingToResume, m, []⟩⟩

/-- Stops the script; nothing is left to resume. -/
def stop : Action κ Unit := modify Context.halted

/-- Hands control to a native task and parks the running script, if there is one. -/
def runNative (task : NativeTask) : Action κ Unit :=
  modify fun c ↦
    { c with
      activity := .native task
      parked := match c.activity with
        | .script cursor => some cursor
        | _ => c.parked }

/-! ## The call stack -/

/-- Saves the current place and goes on at the target. -/
def call (target : Cursor) : Action κ Unit :=
  ⟨fun m ↦
    match m.activity with
    | .script cursor =>
      if m.depth < stackCapacity then
        ⟨.ok (), { m with activity := .script target, callStack := cursor :: m.callStack }, []⟩
      else
        ⟨.error (.stackOverflow stackCapacity), m, [.callRefused target.offset m.depth]⟩
    | _ => ⟨.error (.notRunning "call"), m, []⟩⟩

/-- Goes back to the place saved last. -/
def ret : Action κ Unit :=
  ⟨fun m ↦
    match m.activity, m.callStack with
    | .script _, cursor :: rest =>
      ⟨.ok (), { m with activity := .script cursor, callStack := rest }, []⟩
    | .script _, [] => ⟨.error .stackUnderflow, m, []⟩
    | _, _ => ⟨.error (.notRunning "return"), m, []⟩⟩

/-- Goes on at the target. -/
def jump (target : Cursor) : Action κ Unit :=
  ⟨fun m ↦
    match m.activity with
    | .script _ => ⟨.ok (), { m with activity := .script target }, []⟩
    | _ => ⟨.error (.notRunning "jump"), m, []⟩⟩

/-! ## Operands -/

/-- Reads from the running script; the operation is named in the refusal. -/
def readWith (operation : String) (read : Cursor → Except Fault (α × Cursor)) : Action κ α :=
  ⟨fun m ↦
    match m.activity with
    | .script cursor =>
      match read cursor with
      | .ok (value, next) => ⟨.ok value, { m with activity := .script next }, []⟩
      | .error e => ⟨.error e, m, []⟩
    | _ => ⟨.error (.notRunning operation), m, []⟩⟩

/-- Reads a byte operand. -/
def readU8 : Action κ UInt8 := readWith "read_u8" Cursor.readU8

/-- Reads a two-byte operand. -/
def readU16 : Action κ UInt16 := readWith "read_u16" Cursor.readU16

/-- Reads a four-byte operand. -/
def readU32 : Action κ UInt32 := readWith "read_u32" Cursor.readU32

/-- Reads an address operand and finds its place in the running script. -/
def readTarget : Action κ Cursor :=
  ⟨fun m ↦
    match m.activity with
    | .script cursor =>
      match cursor.readU32 with
      | .error e => ⟨.error e, m, []⟩
      | .ok (address, next) =>
        let target := address.toNat
        let length := cursor.script.length
        { result :=
            if target ≤ length then .ok ⟨cursor.script, target⟩
            else .error (.corruptProgram cursor.offset (.targetOutOfBounds target length))
          machine := { m with activity := .script next } }
    | _ => ⟨.error (.notRunning "read_target"), m, []⟩⟩

/-! ## Tables -/

/-- Binds another table. The command that is running is not affected; the next one is looked up in
the new table. -/
def setTable (table : CommandTable κ) : Action κ Unit :=
  ⟨fun m ↦ ⟨.ok (), { m with table := table }, [.rebound m.table.name table.name]⟩⟩

/-- Binds another table and hands back the one that was bound. -/
def swapTable (table : CommandTable κ) : Action κ (CommandTable κ) := do
  let m ← machine
  setTable table
  return m.table

/-! ## Variables -/

/-- The value of a bank. -/
def readBank (bank : Nat) : Action κ UInt32 :=
  ⟨fun m ↦
    if h : bank < 4 then ⟨.ok m.banks[bank], m, []⟩
    else ⟨.error (.invalidBankIndex bank), m, []⟩⟩

/-- Changes a bank. -/
def writeBank (bank : Nat) (value : UInt32) : Action κ Unit :=
  ⟨fun m ↦
    if h : bank < 4 then ⟨.ok (), { m with banks := m.banks.set bank value }, []⟩
    else ⟨.error (.invalidBankIndex bank), m, []⟩⟩

/-- The value of a temporary. -/
def readTemporary (id : UInt16) : Action κ UInt16 := ⟨fun m ↦ ⟨m.temporaries.get id, m, []⟩⟩

/-- Changes a temporary. -/
def writeTemporary (id value : UInt16) : Action κ Unit :=
  ⟨fun m ↦
    match m.temporaries.set id value with
    | .ok temporaries => ⟨.ok (), { m with temporaries := temporaries }, []⟩
    | .error e => ⟨.error e, m, []⟩⟩

/-! ## Switches -/

/-- Sets the comparison result. -/
def setComparison (value : UInt8) : Action κ Unit := modify fun c ↦ { c with comparison := value }

/-- Switches the context on or off. -/
def setEnabled (enabled : Bool) : Action κ Unit := modify fun c ↦ { c with enabled := enabled }

/-- Gives the player control, or takes it. -/
def setInputControl (enabled : Bool) : Action κ Unit :=
  modify fun c ↦ { c with inputControl := enabled }

/-- Imposes a direction on the player. -/
def setDirection (direction : UInt8) : Action κ Unit :=
  modify fun c ↦ { c with direction := direction }

/-- Changes how far a step goes. -/
def setPolicy (policy : Policy) : Action κ Unit := modify fun c ↦ { c with policy := policy }

end EventScript.Action
