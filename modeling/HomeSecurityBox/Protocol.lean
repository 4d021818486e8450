import HomeSecurityBox.Base.ByteMemory

/-!
The command codes and the result codes shared by the box and its clients.
A code outside the enumeration but inside the valid range is accepted by the
packet check and answered by the default branch of the dispatcher.
-/

namespace HomeSecurityBox.Protocol

open ByteMemory

inductive HsbCmd
  | boxDiscover
  | boxDiscoverResp
  | getDevs
  | getDevsResp
  | getInfo
  | getInfoResp
  | getStatus
  | getStatusResp
  | setStatus
  | getTimer
  | getTimerResp
  | setTimer
  | delTimer
  | getDelay
  | getDelayResp
  | setDelay
  | delDelay
  | getLinkage
  | getLinkageResp
  | setLinkage
  | delLinkage
  | probeDev
  | event
  | doAction
  | result
  deriving DecidableEq, Repr

def HsbCmd.code : HsbCmd → UInt16
  | .boxDiscover => 0x8801
  | .boxDiscoverResp => 0x8802
  | .getDevs => 0x8811
  | .getDevsResp => 0x8812
  | .getInfo => 0x8813
  | .getInfoResp => 0x8814
  | .getStatus => 0x8821
  | .getStatusResp => 0x8822
  | .setStatus => 0x8823
  | .getTimer => 0x8831
  | .getTimerResp => 0x8832
  | .setTimer => 0x8833
  | .delTimer => 0x8834
  | .getDelay => 0x8841
  | .getDelayResp => 0x8842
  | .setDelay => 0x8843
  | .delDelay => 0x8844
  | .getLinkage => 0x8851
  | .getLinkageResp => 0x8852
  | .setLinkage => 0x8853
  | .delLinkage => 0x8854
  | .probeDev => 0x8861
  | .event => 0x8871
  | .doAction => 0x8881
  | .result => 0x88A1

def hsbCmdLast : UInt16 := 0x88A2

def HsbCmd.all : List HsbCmd :=
  [.boxDiscover, .boxDiscoverResp, .getDevs, .getDevsResp, .getInfo, .getInfoResp,
    .getStatus, .getStatusResp, .setStatus, .getTimer, .getTimerResp, .setTimer,
    .delTimer, .getDelay, .getDelayResp, .setDelay, .delDelay, .getLinkage,
    .getLinkageResp, .setLinkage, .delLinkage, .probeDev, .event, .doAction, .result]

/-- The enumerator a `switch` on the 16-bit code reaches, if there is one. -/
def HsbCmd.ofCode (code : UInt16) : Option HsbCmd :=
  HsbCmd.all.find? fun cmd => cmd.code == code

def hsbCmdValid (x : UInt16) : Bool :=
  decide (HsbCmd.boxDiscover.code ≤ x) && decide (x < hsbCmdLast)

@[simp] theorem HsbCmd.ofCode_code (cmd : HsbCmd) : HsbCmd.ofCode cmd.code = some cmd := by
  cases cmd <;> decide

theorem HsbCmd.code_of_ofCode {code : UInt16} {cmd : HsbCmd}
    (h : HsbCmd.ofCode code = some cmd) : cmd.code = code := by
  have hfound := List.find?_some h
  exact eq_of_beq hfound

theorem HsbCmd.ofCode_eq_some_iff (code : UInt16) (cmd : HsbCmd) :
    HsbCmd.ofCode code = some cmd ↔ code = cmd.code := by
  constructor
  · intro h
    exact (HsbCmd.code_of_ofCode h).symm
  · rintro rfl
    exact HsbCmd.ofCode_code cmd

theorem HsbCmd.code_valid (cmd : HsbCmd) : hsbCmdValid cmd.code = true := by
  cases cmd <;> decide

inductive HsbErrorNo
  | ok
  | invalidMsg
  | notSupported
  | badParam
  | noMemory
  | entryExists
  | entryNotFound
  | actFailed
  | others
  | undefined8
  | undefined9
  | undefined10
  | undefined11
  | undefined12
  | undefined13
  | undefined14
  | undefined15
  | last
  deriving DecidableEq, Repr

/-- The value of an enumerator as the `int` the operations return. -/
def HsbErrorNo.code : HsbErrorNo → ℤ
  | .ok => 0
  | .invalidMsg => 1
  | .notSupported => 2
  | .badParam => 3
  | .noMemory => 4
  | .entryExists => 5
  | .entryNotFound => 6
  | .actFailed => 7
  | .others => 8
  | .undefined8 => 9
  | .undefined9 => 10
  | .undefined10 => 11
  | .undefined11 => 12
  | .undefined12 => 13
  | .undefined13 => 14
  | .undefined14 => 15
  | .undefined15 => 16
  | .last => 17

/-- The `int` an operation hands to its caller. -/
def retCode {α : Type*} : Except ℤ α → ℤ
  | .ok _ => HsbErrorNo.ok.code
  | .error code => code

/-- A frame under construction: its length and the buffer it is built in. -/
structure Frame where
  len : ℕ
  buf : Memory

def Frame.bytes (frame : Frame) : List UInt8 := take frame.buf frame.len

def makeCmdHdr (buf : Memory) (cmd : HsbCmd) (len : ℕ) : Memory :=
  set16 (set16 buf 0 cmd.code) 2 (UInt16.ofNat len)

theorem Frame.bytes_length (frame : Frame) : frame.bytes.length = frame.len := take_length _ _

@[simp] theorem get16_makeCmdHdr_cmd (buf : Memory) (cmd : HsbCmd) (len : ℕ) :
    get16 (makeCmdHdr buf cmd len) 0 = cmd.code := by
  rw [makeCmdHdr, get16_set16_other _ _ _ _ (by omega), get16_set16]

@[simp] theorem get16_makeCmdHdr_len (buf : Memory) (cmd : HsbCmd) (len : ℕ) :
    get16 (makeCmdHdr buf cmd len) 2 = UInt16.ofNat len := by
  rw [makeCmdHdr, get16_set16]

end HomeSecurityBox.Protocol
