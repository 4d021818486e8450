import HomeSecurityBox.StatusCodec

/-!
The frames of the zigbee driver and the checks on its responses. An operation
builds its frame behind a 12-byte radio header, waits, and on waking up reads
the shared receive buffer; the two halves are kept apart here because other
steps come between them. The frame array is not cleared, so the frames take its
stale contents.
-/

namespace HomeSecurityBox.Zigbee

open ByteMemory Protocol DeviceData StatusCodec

inductive CzCmd
  | deviceDiscover
  | deviceDiscoverResp
  | getStatus
  | getStatusResp
  | setStatus
  | statusChanged
  | event
  | doAction
  | keepAlive
  | result
  deriving DecidableEq, Repr

def CzCmd.code : CzCmd → UInt16
  | .deviceDiscover => 0x9101
  | .deviceDiscoverResp => 0x9102
  | .getStatus => 0x9111
  | .getStatusResp => 0x9112
  | .setStatus => 0x9113
  | .statusChanged => 0x9114
  | .event => 0x9121
  | .doAction => 0x9131
  | .keepAlive => 0x9141
  | .result => 0x9191

inductive CzPktType
  | uc
  | bc
  | mc
  deriving DecidableEq, Repr

def CzPktType.code : CzPktType → UInt16
  | .uc => 0
  | .bc => 1
  | .mc => 2

def czHeaderMagic : UInt16 := 0x55AA
def czHeaderLen : ℕ := 12
def czDefaultEp : UInt16 := 10

/-- The size of the `wbuf` array of an operation. -/
def wbufSize : ℕ := 64

structure CzInfo where
  devClass : UInt16 := 0
  interface : UInt16 := 0
  mac : Vector UInt8 8 := Vector.replicate 8 0
  deriving DecidableEq, Repr

structure CzDev where
  id : UInt32
  shortAddr : UInt16
  endPoint : UInt16
  info : CzInfo := {}
  deriving DecidableEq, Repr

def findDevById (queue : List CzDev) (devid : UInt32) : Option CzDev :=
  queue.find? fun dev => dev.id == devid

/-- The radio header of a frame with `len` bytes behind it, then its own
command header. -/
def frameHeader (wbuf : Memory) (len : ℕ) (type : CzPktType)
    (shortAddr endPoint transId : UInt16) (cmd : CzCmd) : Memory :=
  let wbuf := set16 wbuf 0 czHeaderMagic
  let wbuf := set16 wbuf 2 (UInt16.ofNat (len + czHeaderLen))
  let wbuf := set16 wbuf 4 type.code
  let wbuf := set16 wbuf 6 shortAddr
  let wbuf := set16 wbuf 8 endPoint
  let wbuf := set16 wbuf 10 transId
  let wbuf := set16 wbuf czHeaderLen cmd.code
  set16 wbuf (czHeaderLen + 2) (UInt16.ofNat len)

def probeFrame (wbuf : Memory) : Frame :=
  ⟨8 + czHeaderLen, frameHeader wbuf 8 .bc 0xFFFF czDefaultEp 0 .deviceDiscover⟩

def setStatusFrame (wbuf : Memory) (dev : CzDev) (transId : UInt16) (status : HsbStatus) :
    Option Frame :=
  let len := (4 + 4 * status.num).toNat
  let wbuf := frameHeader wbuf len .uc dev.shortAddr dev.endPoint transId .setStatus
  (encodePairs wbufSize (czHeaderLen + 4) status status.num.toNat wbuf).map
    fun wbuf => ⟨len + czHeaderLen, wbuf⟩

def getStatusFrame (wbuf : Memory) (dev : CzDev) (transId : UInt16) : Frame :=
  let wbuf := frameHeader wbuf 8 .uc dev.shortAddr dev.endPoint transId .getStatus
  ⟨8 + czHeaderLen, set32 wbuf (czHeaderLen + 4) 0xffffffff⟩

def setActionFrame (wbuf : Memory) (dev : CzDev) (transId : UInt16) (act : HsbAction) :
    Frame :=
  let wbuf := frameHeader wbuf 12 .uc dev.shortAddr dev.endPoint transId .doAction
  let wbuf := set16 wbuf (czHeaderLen + 4) act.id
  let wbuf := set16 wbuf (czHeaderLen + 6) act.param1
  ⟨12 + czHeaderLen, set32 wbuf (czHeaderLen + 8) act.param2⟩

/-- The check of a result frame that ends both setting operations. -/
def resultCode (recvBuf : Memory) (recvLen : ℕ) : ℤ :=
  let ptr := shift recvBuf czHeaderLen
  let len : ℤ := (recvLen : ℤ) - czHeaderLen
  if get16 ptr 0 ≠ CzCmd.result.code ∨ ((get16 ptr 2).toNat : ℤ) ≠ len then
    HsbErrorNo.invalidMsg.code
  else if get16 ptr 4 = 0 then HsbErrorNo.actFailed.code
  else HsbErrorNo.ok.code

/-- What `sample_get_status` makes of the receive buffer when it wakes up. -/
def statusResult (recvBuf : Memory) (recvLen : ℕ) (status : HsbStatus) :
    Option (ℤ × HsbStatus) :=
  let ptr := shift recvBuf czHeaderLen
  let len : ℤ := (recvLen : ℤ) - czHeaderLen
  let rlen := (get16 ptr 2).toNat
  if get16 ptr 0 ≠ CzCmd.getStatusResp.code ∨ (rlen : ℤ) ≠ len then
    some (HsbErrorNo.invalidMsg.code, status)
  else (decodeStatus ptr rlen status).map fun status => (HsbErrorNo.ok.code, status)

/-- One undisturbed call of `sample_get_status`: the wait ends with a response
in the receive buffer or times out. -/
def sampleGetStatus (queue : List CzDev) (wake : Option (Memory × ℕ)) (status : HsbStatus) :
    Option (ℤ × HsbStatus) :=
  match findDevById queue status.devid with
  | none => some (HsbErrorNo.entryNotFound.code, status)
  | some _ =>
      match wake with
      | none => some (HsbErrorNo.others.code, status)
      | some (recvBuf, recvLen) => statusResult recvBuf recvLen status

end HomeSecurityBox.Zigbee
