import Mathlib.Logic.Function.Basic
import HomeSecurityBox.Protocol

/-!
The records of the device module. A zeroed C record is the structure of its
default values. The union of an act or a response is a sum over its type tag.
The reply pointer of an act is only ever compared with NULL or with another
pointer, so its type stays a parameter.
-/

namespace HomeSecurityBox.DeviceData

def hsbStatusTypeWorkMode : UInt16 := 4

def hsbActTypeRemoteControl : UInt16 := 1

def hsbWorkModeAll : UInt32 := 0xFF

def checkBit (a b : ℕ) : Bool := a.testBit b

structure HsbAction where
  devid : UInt32 := 0
  id : UInt16 := 0
  param1 : UInt16 := 0
  param2 : UInt32 := 0
  deriving DecidableEq, Repr

structure HsbEvt where
  devid : UInt32 := 0
  id : UInt16 := 0
  param1 : UInt16 := 0
  param2 : UInt32 := 0
  deriving DecidableEq, Repr

structure HsbStatus where
  devid : UInt32 := 0
  num : UInt32 := 0
  id : Vector UInt16 8 := Vector.replicate 8 0
  val : Vector UInt16 8 := Vector.replicate 8 0
  deriving DecidableEq, Repr

/-- A status of one pair. -/
def HsbStatus.ofPair (devid : UInt32) (id val : UInt16) : HsbStatus where
  devid := devid
  num := 1
  id := (Vector.replicate 8 0).set 0 id
  val := (Vector.replicate 8 0).set 0 val

structure HsbProbe where
  drvid : UInt32 := 0
  deriving DecidableEq, Repr

inductive HsbActBody
  | probe (probe : HsbProbe)
  | setStatus (status : HsbStatus)
  | getStatus (status : HsbStatus)
  | doAction (action : HsbAction)
  deriving DecidableEq, Repr

structure HsbAct (ρ : Type) where
  body : HsbActBody
  reply : Option ρ
  deriving DecidableEq, Repr

inductive HsbRespBody
  | result (retVal : ℤ)
  | event (event : HsbEvt)
  | status (status : HsbStatus)
  deriving DecidableEq, Repr

structure HsbResp (ρ : Type) where
  body : HsbRespBody
  reply : Option ρ
  deriving DecidableEq, Repr

def HsbRespBody.isEvent : HsbRespBody → Bool
  | .event _ => true
  | _ => false

structure HsbTimer where
  id : UInt16 := 0
  workMode : UInt8 := 0
  flag : UInt8 := 0
  hour : UInt8 := 0
  min : UInt8 := 0
  sec : UInt8 := 0
  wday : UInt8 := 0
  actId : UInt16 := 0
  actParam1 : UInt16 := 0
  actParam2 : UInt32 := 0
  deriving DecidableEq, Repr

structure HsbTimerStatus where
  active : Bool := false
  expired : Bool := false
  deriving DecidableEq, Repr

structure HsbDelay where
  id : UInt16 := 0
  workMode : UInt8 := 0
  flag : UInt8 := 0
  evtId : UInt16 := 0
  evtParam1 : UInt16 := 0
  evtParam2 : UInt32 := 0
  actId : UInt16 := 0
  actParam1 : UInt16 := 0
  actParam2 : UInt32 := 0
  delaySec : UInt32 := 0
  deriving DecidableEq, Repr

structure HsbDelayStatus where
  active : Bool := false
  started : Bool := false
  startTm : ℤ := 0
  deriving DecidableEq, Repr

structure HsbLinkage where
  id : UInt16 := 0
  workMode : UInt8 := 0
  flag : UInt8 := 0
  evtId : UInt16 := 0
  evtParam1 : UInt16 := 0
  evtParam2 : UInt32 := 0
  actDevid : UInt32 := 0
  actId : UInt16 := 0
  actParam1 : UInt16 := 0
  actParam2 : UInt32 := 0
  deriving DecidableEq, Repr

structure HsbLinkageStatus where
  active : Bool := false
  deriving DecidableEq, Repr

abbrev hsbDevMaxTimerNum : ℕ := 32
abbrev hsbDevMaxDelayNum : ℕ := 8
abbrev hsbDevMaxLinkageNum : ℕ := 8

structure HsbDevInfo where
  cls : UInt32 := 0
  interface : UInt32 := 0
  mac : Vector UInt8 8 := Vector.replicate 8 0
  deriving DecidableEq, Repr

/-- The two tables of device operations that drivers pass to `dev_online`. -/
inductive HsbDevOp
  | virtualSwitchOp
  | sampleOp
  deriving DecidableEq, Repr

structure HsbDevDrv where
  id : UInt32
  deriving DecidableEq, Repr

structure HsbDev where
  id : UInt32
  info : HsbDevInfo
  workMode : UInt32 := hsbWorkModeAll
  timer : Vector HsbTimer hsbDevMaxTimerNum := Vector.replicate _ {}
  timerStatus : Vector HsbTimerStatus hsbDevMaxTimerNum := Vector.replicate _ {}
  delay : Vector HsbDelay hsbDevMaxDelayNum := Vector.replicate _ {}
  delayStatus : Vector HsbDelayStatus hsbDevMaxDelayNum := Vector.replicate _ {}
  link : Vector HsbLinkage hsbDevMaxLinkageNum := Vector.replicate _ {}
  linkStatus : Vector HsbLinkageStatus hsbDevMaxLinkageNum := Vector.replicate _ {}
  driver : HsbDevDrv
  op : Option HsbDevOp
  deriving DecidableEq, Repr

/-- The device control block; `asyncQueue` is the queue of the worker thread. -/
structure HsbDeviceCb (ρ : Type) where
  queue : List HsbDev := []
  offq : List HsbDev := []
  driverq : List HsbDevDrv := []
  devId : UInt32 := 1
  workMode : UInt32 := 0
  secToday : ℕ := 0
  asyncQueue : List (HsbAct ρ) := []
  deriving DecidableEq, Repr

end HomeSecurityBox.DeviceData
