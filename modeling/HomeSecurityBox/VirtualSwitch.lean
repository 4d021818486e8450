import HomeSecurityBox.StatusCodec

/-!
The device operations of the virtual switch driver. A request is one datagram
to the address of the device; the transfer itself (socket, send, receive with
time-out) is a parameter that returns the length received, or -1, and the
receive buffer.
-/

namespace HomeSecurityBox.VirtualSwitch

open ByteMemory Protocol DeviceData StatusCodec

inductive VsCmd
  | deviceDiscover
  | deviceDiscoverResp
  | getInfo
  | getInfoResp
  | getStatus
  | getStatusResp
  | setStatus
  | statusChanged
  | event
  | doAction
  | keepAlive
  | result
  deriving DecidableEq, Repr

def VsCmd.code : VsCmd → UInt16
  | .deviceDiscover => 0x8901
  | .deviceDiscoverResp => 0x8902
  | .getInfo => 0x8911
  | .getInfoResp => 0x8912
  | .getStatus => 0x8921
  | .getStatusResp => 0x8922
  | .setStatus => 0x8923
  | .statusChanged => 0x8924
  | .event => 0x8931
  | .doAction => 0x8941
  | .keepAlive => 0x8951
  | .result => 0x89A1

def minVsCmdLen : ℤ := 2

/-- The size of the `wbuf` array of a request. -/
def wbufSize : ℕ := 64

structure VsInfo where
  devClass : UInt16 := 0
  interface : UInt16 := 0
  mac : Vector UInt8 6 := Vector.replicate 6 0
  deriving DecidableEq, Repr

structure VsDev where
  id : UInt32
  ip : UInt32
  idleTime : ℕ := 0
  info : VsInfo := {}
  deriving DecidableEq, Repr

/-- A request to an address: the result of `_transfer` and its receive buffer. -/
abbrev Transfer := UInt32 → List UInt8 → ℤ × Memory

def findDevById (queue : List VsDev) (devid : UInt32) : Option VsDev :=
  queue.find? fun dev => dev.id == devid

def cmdHeader (cmd : VsCmd) (len : ℕ) : Memory :=
  set16 (set16 zeros 0 cmd.code) 2 (UInt16.ofNat len)

/-- The length is computed in 32 bits; an access outside `wbuf` or the eight
entries of the status is `none`. -/
def setStatusFrame (status : HsbStatus) : Option Frame :=
  let len := (4 + 4 * status.num).toNat
  (encodePairs wbufSize 4 status status.num.toNat (cmdHeader .setStatus len)).map
    fun wbuf => ⟨len, wbuf⟩

def getStatusFrame : Frame :=
  ⟨8, set32 (cmdHeader .getStatus 8) 4 0xffffffff⟩

def setActionFrame (act : HsbAction) : Frame :=
  let wbuf := cmdHeader .doAction 12
  let wbuf := set16 wbuf 4 act.id
  let wbuf := set16 wbuf 6 act.param1
  ⟨12, set32 wbuf 8 act.param2⟩

/-- The check of a result datagram that ends both setting operations. -/
def resultCode (ret : ℤ) (rbuf : Memory) : ℤ :=
  if ret < minVsCmdLen then HsbErrorNo.invalidMsg.code
  else if get16 rbuf 0 ≠ VsCmd.result.code ∨ ((get16 rbuf 2).toNat : ℤ) ≠ ret then
    HsbErrorNo.invalidMsg.code
  else if get16 rbuf 4 = 0 then HsbErrorNo.actFailed.code
  else HsbErrorNo.ok.code

def virtualSwitchSetStatus (queue : List VsDev) (transfer : Transfer) (status : HsbStatus) :
    Option ℤ :=
  match findDevById queue status.devid with
  | none => some HsbErrorNo.entryNotFound.code
  | some dev =>
      (setStatusFrame status).map fun frame =>
        let received := transfer dev.ip frame.bytes
        resultCode received.1 received.2

def virtualSwitchGetStatus (queue : List VsDev) (transfer : Transfer) (status : HsbStatus) :
    Option (ℤ × HsbStatus) :=
  match findDevById queue status.devid with
  | none => some (HsbErrorNo.entryNotFound.code, status)
  | some dev =>
      let received := transfer dev.ip getStatusFrame.bytes
      let ret := received.1
      let rbuf := received.2
      let rlen := (get16 rbuf 2).toNat
      if ret < minVsCmdLen then some (HsbErrorNo.invalidMsg.code, status)
      else if get16 rbuf 0 ≠ VsCmd.getStatusResp.code ∨ ret ≠ (rlen : ℤ) then
        some (HsbErrorNo.invalidMsg.code, status)
      else (decodeStatus rbuf rlen status).map fun status => (HsbErrorNo.ok.code, status)

def virtualSwitchSetAction (queue : List VsDev) (transfer : Transfer) (act : HsbAction) : ℤ :=
  match findDevById queue act.devid with
  | none => HsbErrorNo.entryNotFound.code
  | some dev =>
      let received := transfer dev.ip (setActionFrame act).bytes
      resultCode received.1 received.2

end HomeSecurityBox.VirtualSwitch
