import HomeSecurityBox.Base.CursorLoop
import HomeSecurityBox.Registry
import HomeSecurityBox.VirtualSwitch

/-!
The device list of the virtual switch driver and the monitor thread that keeps
it: devices enter it by their discovery response, are refreshed by their
datagrams and leave it when they have been idle for too long. The core is told
of both ends.
-/

namespace HomeSecurityBox.VsDriver

open ByteMemory CursorLoop Protocol DeviceData Device DeviceEvents Registry VirtualSwitch

variable {ρ : Type}

def virtualSwitchDrv : HsbDevDrv := ⟨1⟩

/-- The control block of the core and the list of the driver. -/
structure VsState (ρ : Type) where
  cb : HsbDeviceCb ρ
  queue : List VsDev := []

def findDevByIp (queue : List VsDev) (addr : UInt32) : Option VsDev :=
  queue.find? fun dev => dev.ip == addr

def findDevByMac (queue : List VsDev) (mac : Vector UInt8 6) : Option VsDev :=
  queue.find? fun dev => dev.info.mac == mac

/-- The zeroed record with the class, the interface and six bytes of address. -/
def devInfo (info : VsInfo) : HsbDevInfo where
  cls := UInt32.ofNat info.devClass.toNat
  interface := UInt32.ofNat info.interface.toNat
  mac := info.mac ++ Vector.replicate 2 (0 : UInt8)

def registerDevice (s : VsState ρ) (addr : UInt32) (info : VsInfo) : Option (VsState ρ) :=
  match findDevByMac s.queue info.mac with
  | some _ => some s
  | none =>
      (devOnline s.cb virtualSwitchDrv.id (devInfo info) (some .virtualSwitchOp)).map fun done =>
        { cb := done.cb, queue := s.queue ++ [{ id := done.devid, ip := addr, info := info }] }

/-- One iteration of the loop over the devices; the end of the list ends it. -/
def timeoutBody (len id : ℕ) (s : VsState ρ) : ℕ × VsState ρ :=
  match s.queue[id]? with
  | none => (len - id, s)
  | some dev =>
      if dev.idleTime > 10 then
        (0, { cb := (devOffline s.cb dev.id).2.1, queue := s.queue.eraseIdx id })
      else (1, { s with queue := s.queue.set id { dev with idleTime := dev.idleTime + 1 } })

/-- The length is taken before the loop; no run of it needs more iterations. -/
def removeTimeoutDev (s : VsState ρ) : Option (VsState ρ) :=
  let len := s.queue.length
  (loop (timeoutBody len) len (len + 1) 0 s).map Prod.snd

def refreshDevice (dev : VsDev) : VsDev := { dev with idleTime := 0 }

inductive VsEvtType
  | sensorTriggered
  | sensorRecovered
  | keyPressed
  | irKey
  deriving DecidableEq, Repr

def VsEvtType.ofCode : UInt16 → Option VsEvtType
  | 0 => some .sensorTriggered
  | 1 => some .sensorRecovered
  | 2 => some .keyPressed
  | 3 => some .irKey
  | _ => none

/-- A key is one of the three work modes or undefined. -/
def key (cb : HsbDeviceCb ρ) (key : UInt16) : HsbDeviceCb ρ :=
  if key < 3 then (setBoxWorkMode cb (UInt32.ofNat key.toNat)).2.1 else cb

def event (cb : HsbDeviceCb ρ) (devid : UInt32) (id param : UInt16) (param2 : UInt32) :
    HsbDeviceCb ρ :=
  match VsEvtType.ofCode id with
  | some .sensorTriggered => (devEvent cb devid .sensorTriggered param 0).1
  | some .sensorRecovered => (devEvent cb devid .sensorRecovered param 0).1
  | some .keyPressed => key cb param
  | some .irKey => (devEvent cb devid .irKey param param2).1
  | none => cb

def statusUpdated (cb : HsbDeviceCb ρ) (devid : UInt32) (id val : UInt16) : HsbDeviceCb ρ :=
  (devEvent cb devid .statusUpdated id (UInt32.ofNat val.toNat)).1

/-- What the command of a datagram does for the device that sent it. -/
def dealDatagram (cb : HsbDeviceCb ρ) (devid : UInt32) (rbuf : Memory) : HsbDeviceCb ρ :=
  if get16 rbuf 0 = VsCmd.statusChanged.code then
    statusUpdated cb devid (get16 rbuf 4) (get16 rbuf 6)
  else if get16 rbuf 0 = VsCmd.event.code then
    event cb devid (get16 rbuf 4) (get16 rbuf 6) (get32 rbuf 8)
  else cb

/-- A datagram of `ret` bytes. An address that is not known sets off a probe, whose
responses are steps of their own. -/
def recvDatagram (s : VsState ρ) (addr : UInt32) (rbuf : Memory) (ret : ℕ) : VsState ρ :=
  if ret < 4 ∨ (get16 rbuf 2).toNat ≠ ret then s
  else
    match findDevByIp s.queue addr with
    | none => s
    | some dev =>
        { cb := dealDatagram s.cb dev.id rbuf
          queue := s.queue.modify (s.queue.findIdx fun dev => dev.ip == addr) refreshDevice }

/-- The steps of the monitor thread and the discovery responses it accepts. -/
inductive VsStep
  | discovered (addr : UInt32) (info : VsInfo)
  | datagram (addr : UInt32) (rbuf : Memory) (ret : ℕ)
  | timeout

def vsStep (s : VsState ρ) : VsStep → Option (VsState ρ)
  | .discovered addr info => registerDevice s addr info
  | .datagram addr rbuf ret => some (recvDatagram s addr rbuf ret)
  | .timeout => removeTimeoutDev s

/-- A device that has gone through twelve calls without a refresh. -/
def expired (dev : VsDev) : Bool := decide (dev.idleTime > 10)

def tickIdle (dev : VsDev) : VsDev := { dev with idleTime := dev.idleTime + 1 }

/-- The calls of `dev_offline` in the order of the list. -/
def offlineAll (cb : HsbDeviceCb ρ) (devs : List VsDev) : HsbDeviceCb ρ :=
  devs.foldl (fun cb dev => (devOffline cb dev.id).2.1) cb

/-- The loop with the devices in front of it already done. -/
theorem timeoutLoop_eq (len fuel : ℕ) (cb : HsbDeviceCb ρ) (front rest : List VsDev)
    (hlen : front.length + rest.length ≤ len) (hfuel : rest.length < fuel) :
    (loop (timeoutBody len) len fuel front.length ⟨cb, front ++ rest⟩).map Prod.snd =
      some ⟨offlineAll cb (rest.filter expired),
        front ++ (rest.filter fun dev => !expired dev).map tickIdle⟩ := by
  induction rest generalizing fuel cb front with
  | nil =>
    obtain ⟨fuel, rfl⟩ := Nat.exists_eq_succ_of_ne_zero (Nat.ne_of_gt hfuel)
    by_cases hend : front.length < len
    · have hbody : timeoutBody len front.length (⟨cb, front ++ []⟩ : VsState ρ) =
          (len - front.length, ⟨cb, front ++ []⟩) := by
        simp [timeoutBody]
      rw [loop_succ_of_lt _ _ _ hend, hbody]
      rw [loop_of_le _ _ _ (by simp only; omega)]
      rfl
    · rw [loop_of_le _ _ _ (Nat.le_of_not_lt hend)]
      rfl
  | cons dev rest ih =>
    obtain ⟨fuel, rfl⟩ := Nat.exists_eq_succ_of_ne_zero (Nat.ne_of_gt (Nat.zero_lt_of_lt hfuel))
    rw [List.length_cons] at hlen hfuel
    have hhere : (front ++ dev :: rest)[front.length]? = some dev := by simp
    rw [loop_succ_of_lt _ _ _ (by omega)]
    by_cases hidle : dev.idleTime > 10
    · have hbody : timeoutBody len front.length (⟨cb, front ++ dev :: rest⟩ : VsState ρ) =
          (0, ⟨(devOffline cb dev.id).2.1, front ++ rest⟩) := by
        simp only [timeoutBody, hhere, if_pos hidle]
        rw [List.eraseIdx_append_of_length_le (Nat.le_refl _)]
        simp
      rw [hbody]
      have hexpired : expired dev = true := decide_eq_true hidle
      rw [List.filter_cons_of_pos hexpired, List.filter_cons_of_neg (by simp [hexpired])]
      exact ih fuel _ front (by omega) (by omega)
    · have hbody : timeoutBody len front.length (⟨cb, front ++ dev :: rest⟩ : VsState ρ) =
          (1, ⟨cb, (front ++ [tickIdle dev]) ++ rest⟩) := by
        simp only [timeoutBody, hhere, if_neg hidle]
        simp [tickIdle]
      rw [hbody]
      have hexpired : expired dev = false := decide_eq_false hidle
      rw [List.filter_cons_of_neg (by simp [hexpired]),
        List.filter_cons_of_pos (by simp [hexpired])]
      have hdone := ih fuel cb (front ++ [tickIdle dev])
        (by rw [List.length_append, List.length_singleton]; omega) (by omega)
      rw [List.length_append, List.length_singleton] at hdone
      rw [hdone, List.map_cons, List.append_assoc, List.singleton_append]

/-- The devices that have been idle for too long go offline and leave the list; the
others have been idle once more. -/
theorem removeTimeoutDev_eq (s : VsState ρ) :
    removeTimeoutDev s =
      some ⟨offlineAll s.cb (s.queue.filter expired),
        (s.queue.filter fun dev => !expired dev).map tickIdle⟩ :=
  timeoutLoop_eq s.queue.length (s.queue.length + 1) s.cb [] s.queue (by simp) (by omega)

end HomeSecurityBox.VsDriver
