import HomeSecurityBox.DeviceData

/-!
The mapping of remote control keys to the codes of a remote driver. A driver
without a key table passes the key on unchanged.
-/

namespace HomeSecurityBox.RemoteCtl

open ByteMemory Protocol DeviceData

abbrev HsbRemoteKey := UInt32

structure HsbKeyMap where
  key : HsbRemoteKey
  data : List UInt8
  deriving DecidableEq, Repr

/-- The entries before the terminating `HSB_REMOTE_KEY_INVALID`. -/
def cochipN9201KeyMap : List HsbKeyMap :=
  [⟨0, [0x30, 0, 0, 0]⟩, ⟨1, [0x31, 0, 0, 0]⟩, ⟨2, [0x32, 0, 0, 0]⟩,
    ⟨3, [0x33, 0, 0, 0]⟩, ⟨4, [0x34, 0, 0, 0]⟩, ⟨5, [0x35, 0, 0, 0]⟩,
    ⟨6, [0x36, 0, 0, 0]⟩, ⟨7, [0x37, 0, 0, 0]⟩, ⟨8, [0x38, 0, 0, 0]⟩,
    ⟨9, [0x39, 0, 0, 0]⟩, ⟨10, [0x43, 0, 0, 0]⟩, ⟨11, [0x42, 0, 0, 0]⟩]

structure HsbRemoteDriver where
  id : UInt16
  dataLen : ℕ
  keyMap : Option (List HsbKeyMap)
  deriving DecidableEq, Repr

def remoteDrv : List HsbRemoteDriver :=
  [⟨0, 1, some cochipN9201KeyMap⟩, ⟨1, 2, none⟩, ⟨2, 3, none⟩]

/-- The first `dataLen` bytes of the key data overwrite the low bytes of `param2`. -/
def copyKeyData (param2 : UInt32) (data : List UInt8) (dataLen : ℕ) : UInt32 :=
  get32 (load (data.take dataLen) (set32 zeros 0 param2)) 0

def remoteKeyMapping (drvid : UInt16) (key : HsbRemoteKey) (act : HsbAction) :
    Except ℤ HsbAction :=
  match remoteDrv[drvid.toNat]? with
  | none => .error HsbErrorNo.badParam.code
  | some drv =>
      match drv.keyMap with
      | none => .ok { act with id := hsbActTypeRemoteControl, param1 := drvid, param2 := key }
      | some keyMap =>
          match keyMap.find? (fun entry => entry.key == key) with
          | some entry =>
              .ok { act with
                id := hsbActTypeRemoteControl
                param1 := drvid
                param2 := copyKeyData act.param2 entry.data drv.dataLen }
          | none => .error HsbErrorNo.others.code

end HomeSecurityBox.RemoteCtl
