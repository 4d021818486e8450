import HomeSecurityBox.Base.Keyed
import HomeSecurityBox.Base.Simulation
import HomeSecurityBox.ConfigStore
import HomeSecurityBox.DelayRule
import HomeSecurityBox.TimerSafety

/-!
The configuration store over whole runs of the box. Behind the map that clients see
stands a map of the entries of all devices: going offline hides the entries of a
device, coming back shows them again, and besides the requests of clients only a
one-shot timer that acts takes an entry away.
-/

namespace HomeSecurityBox.ConfigRuns

open ByteMemory Protocol DeviceData Device Registry TcpPacket TimerTick ConfigStore Box
open RegistryRuns TimerSafety Transitions

variable {ρ : Type}

/-- The entries of all devices and the ids of those that are online. -/
structure Store where
  entries : ConfigMap
  online : List UInt32

/-- What the store is told: a request, a device that comes or leaves, the timer slots
that have acted. -/
inductive StoreLabel
  | request (request : ConfigRequest)
  | appeared (devid : UInt32)
  | left (devid : UInt32)
  | acted (keys : List ConfigKey)
  | other

/-- Bit 7 of the weekdays of a timer, in the bytes of its frame. -/
def oneShot (content : List UInt8) : Bool := checkBit (content.getD 11 0).toNat 7

namespace Store

def empty : Store := ⟨fun _ => none, []⟩

def visible (st : Store) : ConfigMap := fun key =>
  if key.devid ∈ st.online then st.entries key else none

def serve (st : Store) : ConfigRequest → ConfigReply × Store
  | .set key content =>
      if key.devid ∈ st.online ∧ key.slot.toNat < key.kind.slots then
        (.result .ok, { st with entries := Function.update st.entries key (some content) })
      else (.result .badParam, st)
  | .get key =>
      match st.visible key with
      | some content => (.found key.kind content, st)
      | none => (.result .badParam, st)
  | .del key =>
      match st.visible key with
      | some _ => (.result .ok, { st with entries := Function.update st.entries key none })
      | none => (.result .badParam, st)

/-- A one-shot timer is gone once it has acted. -/
def afterActs (m : ConfigMap) (keys : List ConfigKey) : ConfigMap := fun key =>
  if key ∈ keys then (m key).filter fun content => !oneShot content else m key

def next (st : Store) : StoreLabel → Store
  | .request request => (st.serve request).2
  | .appeared devid => { st with online := st.online ++ [devid] }
  | .left devid => { st with online := st.online.erase devid }
  | .acted keys => { st with entries := afterActs st.entries keys }
  | .other => st

/-- The bytes of the reply to a request. -/
def shown (st : Store) : StoreLabel → List (List UInt8)
  | .request request => [(st.serve request).1.bytes]
  | _ => []

def machine : Reference Store StoreLabel (List UInt8) := ⟨next, shown⟩

/-- Clients are served from what is visible, and change nothing else. -/
theorem serve_visible (st : Store) (request : ConfigRequest) :
    ConfigMap.serve st.online st.visible request =
      ((st.serve request).1, (st.serve request).2.visible) := by
  have hupdate : ∀ (key : ConfigKey) (entry : Option (List UInt8)), key.devid ∈ st.online →
      Function.update st.visible key entry =
        ({ st with entries := Function.update st.entries key entry } : Store).visible := by
    intro key entry honline
    funext other
    by_cases hother : other = key
    · simp only [hother, visible, Function.update_self, if_pos honline]
    · simp only [visible, Function.update_of_ne hother]
  cases request with
  | set key content =>
    simp only [ConfigMap.serve, serve]
    by_cases hset : key.devid ∈ st.online ∧ key.slot.toNat < key.kind.slots
    · rw [if_pos hset, if_pos hset, hupdate key _ hset.1]
    · rw [if_neg hset, if_neg hset]
  | get key =>
    simp only [ConfigMap.serve, serve]
    cases st.visible key <;> rfl
  | del key =>
    simp only [ConfigMap.serve, serve]
    cases hkey : st.visible key with
    | none => rfl
    | some content =>
      have honline : key.devid ∈ st.online := by
        by_contra haway
        rw [visible, if_neg haway] at hkey
        contradiction
      simp only [hupdate key none honline]

theorem serve_online (st : Store) (request : ConfigRequest) :
    (st.serve request).2.online = st.online := by
  cases request <;> simp only [serve] <;> split <;> rfl

/-- What a request leaves of the devices that are offline. -/
theorem serve_away (st : Store) (request : ConfigRequest) (key : ConfigKey)
    (haway : key.devid ∉ st.online) : (st.serve request).2.entries key = st.entries key := by
  have hother : ∀ (target : ConfigKey) (entry : Option (List UInt8)),
      target.devid ∈ st.online → Function.update st.entries target entry key =
        st.entries key := by
    intro target entry htarget
    apply Function.update_of_ne
    rintro rfl
    exact haway htarget
  cases request with
  | set target content =>
    simp only [serve]
    split
    · rename_i hset
      exact hother target _ hset.1
    · rfl
  | get target =>
    simp only [serve]
    split <;> rfl
  | del target =>
    simp only [serve]
    split
    · rename_i content hfound
      apply hother target none
      by_contra htarget
      rw [visible, if_neg htarget] at hfound
      contradiction
    · rfl

end Store

/-- The map with every device online. -/
def keptOf (cb : HsbDeviceCb ρ) : ConfigMap := refOf { cb with queue := cb.queue ++ cb.offq }

def storeOf (s : BoxState ρ) : Store := ⟨keptOf s.cb, getDevIdList s.cb⟩

/-- An entry is read from the device that has the id. -/
theorem refOf_congr {cb cb' : HsbDeviceCb ρ} {key : ConfigKey}
    (h : findDev cb' key.devid = findDev cb key.devid) : refOf cb' key = refOf cb key := by
  obtain ⟨kind, devid, slot⟩ := key
  cases kind <;> simp only [refOf, ConfigFormat.view, SlotTable.find, h]

theorem keptOf_congr {cb cb' : HsbDeviceCb ρ} (hqueue : cb'.queue = cb.queue)
    (hoffq : cb'.offq = cb.offq) : keptOf cb' = keptOf cb := by
  funext key
  apply refOf_congr
  simp only [findDev, hqueue, hoffq]

/-- Online devices are looked up first. -/
theorem keptOf_eq (cb : HsbDeviceCb ρ) (key : ConfigKey) :
    keptOf cb key =
      if key.devid ∈ getDevIdList cb then refOf cb key
      else refOf { cb with queue := cb.offq } key := by
  have happend : findDev { cb with queue := cb.queue ++ cb.offq } key.devid =
      (findDev cb key.devid).or (findDev { cb with queue := cb.offq } key.devid) :=
    List.find?_append
  by_cases honline : key.devid ∈ getDevIdList cb
  · rw [if_pos honline]
    obtain ⟨dev, hdev⟩ := Option.ne_none_iff_exists'.mp ((findDev_ne_none_iff cb _).mpr honline)
    apply refOf_congr
    rw [happend, hdev, Option.some_or]
  · rw [if_neg honline]
    have hnone : findDev cb key.devid = none :=
      by_contra fun hfound => honline ((findDev_ne_none_iff cb _).mp hfound)
    apply refOf_congr
    rw [happend, hnone, Option.none_or]

theorem refOf_offline {cb : HsbDeviceCb ρ} {key : ConfigKey}
    (haway : key.devid ∉ getDevIdList cb) : refOf cb key = none := by
  have hnone : findDev cb key.devid = none :=
    by_contra fun hfound => haway ((findDev_ne_none_iff cb _).mp hfound)
  obtain ⟨kind, devid, slot⟩ := key
  cases kind <;> simp only [refOf, ConfigFormat.view, SlotTable.find, hnone, Option.bind_none,
    Option.map_none]

theorem storeOf_visible (s : BoxState ρ) : (storeOf s).visible = refOf s.cb := by
  funext key
  simp only [Store.visible, storeOf, keptOf_eq]
  by_cases honline : key.devid ∈ getDevIdList s.cb
  · rw [if_pos honline, if_pos honline]
  · rw [if_neg honline, refOf_offline honline]

/-- The request in a packet that is accepted. The length in the header is not compared
with the layout of the command: a short packet is read on in the buffer. -/
def bufRequest (buf : Memory) : Option ConfigRequest :=
  let key := fun kind => (⟨kind, get32 buf 4, get16 buf 8⟩ : ConfigKey)
  let set := fun kind =>
    some (ConfigRequest.set (key kind) (take (shift buf 4) (kind.frameLen - 4)))
  match HsbCmd.ofCode (get16 buf 0) with
  | some .setTimer => set .timer
  | some .getTimer => some (.get (key .timer))
  | some .delTimer => some (.del (key .timer))
  | some .setDelay => set .delay
  | some .getDelay => some (.get (key .delay))
  | some .delDelay => some (.del (key .delay))
  | some .setLinkage => set .linkage
  | some .getLinkage => some (.get (key .linkage))
  | some .delLinkage => some (.del (key .linkage))
  | _ => none

theorem dispatchCmd_request (cb : HsbDeviceCb ρ) (buf : Memory) (len : ℕ) (reply : ρ) :
    match bufRequest buf with
    | some request => Serves cb request (dispatchCmd cb buf len reply (get16 buf 0))
    | none => SameDevices cb (dispatchCmd cb buf len reply (get16 buf 0)).cb := by
  have hpushed : ∀ act, SameDevices cb (pushAct cb act) := fun act => ⟨rfl, rfl, rfl, rfl, rfl⟩
  unfold bufRequest dispatchCmd
  cases HsbCmd.ofCode (get16 buf 0) with
  | none => exact SameDevices.refl cb
  | some c =>
    cases c
    case setTimer => exact timerFormat_represents.set_serves cb buf
    case getTimer => exact timerFormat_represents.get_serves cb _ _
    case delTimer => exact timerFormat_represents.del_serves cb _ _
    case setDelay => exact delayFormat_represents.set_serves cb buf
    case getDelay => exact delayFormat_represents.get_serves cb _ _
    case delDelay => exact delayFormat_represents.del_serves cb _ _
    case setLinkage => exact linkageFormat_represents.set_serves cb buf
    case getLinkage => exact linkageFormat_represents.get_serves cb _ _
    case delLinkage => exact linkageFormat_represents.del_serves cb _ _
    case getInfo =>
      simp only [answer_cb]
      exact SameDevices.refl cb
    case getStatus | setStatus | probeDev => exact hpushed _
    case doAction =>
      dsimp only
      cases readAction buf with
      | error code => exact SameDevices.refl cb
      | ok act => exact hpushed _
    all_goals exact SameDevices.refl cb

theorem dispatchCmd_offq (cb : HsbDeviceCb ρ) (buf : Memory) (len : ℕ) (reply : ρ) :
    (dispatchCmd cb buf len reply (get16 buf 0)).cb.offq = cb.offq := by
  rcases dispatchCmd_written cb buf len reply with hsame | ⟨dev, f, -, -, hcb⟩
  · exact hsame.offq
  · rw [hcb]
    rfl

/-- A request is served from the store. -/
theorem serves_store {s : BoxState ρ} {request : ConfigRequest} {done : Dispatch ρ}
    (h : Serves s.cb request done) (hoffq : done.cb.offq = s.cb.offq) :
    done.frame.map Frame.bytes = some ((storeOf s).serve request).1.bytes ∧
      storeOf { s with cb := done.cb } = ((storeOf s).serve request).2 := by
  have hserve : ConfigMap.serve (getDevIdList s.cb) (refOf s.cb) request =
      (((storeOf s).serve request).1, ((storeOf s).serve request).2.visible) := by
    rw [← (storeOf s).serve_visible request, storeOf_visible]
    rfl
  have honline : ((storeOf s).serve request).2.online = getDevIdList s.cb :=
    (storeOf s).serve_online request
  refine ⟨by rw [h.reply, hserve], ?_⟩
  have hentries : keptOf done.cb = ((storeOf s).serve request).2.entries := by
    funext key
    rw [keptOf_eq, h.online]
    by_cases hkey : key.devid ∈ getDevIdList s.cb
    · simp only [if_pos hkey, h.map, hserve, Store.visible, honline]
    · have haway : refOf { done.cb with queue := done.cb.offq } key =
          refOf { s.cb with queue := s.cb.offq } key := by
        apply refOf_congr
        simp only [findDev, hoffq]
      have hkept : keptOf s.cb key = refOf { s.cb with queue := s.cb.offq } key := by
        rw [keptOf_eq, if_neg hkey]
      rw [if_neg hkey, haway, ← hkept]
      exact ((storeOf s).serve_away request key hkey).symm
  show (⟨keptOf done.cb, getDevIdList done.cb⟩ : Store) = _
  rw [hentries, h.online, ← honline]

theorem storeOf_sameDevices {s : BoxState ρ} {cb : HsbDeviceCb ρ} (h : SameDevices s.cb cb) :
    storeOf { s with cb := cb } = storeOf s := by
  have honline : getDevIdList cb = getDevIdList s.cb := congrArg (List.map HsbDev.id) h.queue
  simp only [storeOf, keptOf_congr h.queue h.offq, honline]

/-- The entries do not depend on where a device is. -/
theorem keptOf_perm {cb cb' : HsbDeviceCb ρ} (hids : (roster cb).Distinct HsbDev.id)
    (hperm : (cb'.queue ++ cb'.offq).Perm (cb.queue ++ cb.offq)) : keptOf cb' = keptOf cb := by
  funext key
  exact refOf_congr (Keyed.find?_perm hids hperm key.devid)

/-- A table that is empty on a new device. -/
theorem refOf_created {cb : HsbDeviceCb ρ} {key : ConfigKey} {info : HsbDevInfo}
    {drv : HsbDevDrv} {op : Option HsbDevOp} {id : UInt32}
    (h : findDev cb key.devid = some { id := id, info := info, driver := drv, op := op }) :
    refOf cb key = none := by
  obtain ⟨kind, devid, slot⟩ := key
  cases kind <;>
    simp [refOf, ConfigFormat.view, SlotTable.find, h, SlotTable.record, timerFormat, timerTable,
      delayFormat, delayTable, linkageFormat, linkageTable]

theorem keptOf_created {s : BoxState ρ} (hs : Accounted s) (info : HsbDevInfo) (drv : HsbDevDrv)
    (op : Option HsbDevOp) (cb : HsbDeviceCb ρ)
    (hqueue : cb.queue = s.cb.queue ++
      [{ id := s.cb.devId, info := info, driver := drv, op := op }])
    (hoffq : cb.offq = s.cb.offq) : keptOf cb = keptOf s.cb := by
  funext key
  have hlookup : findDev { cb with queue := cb.queue ++ cb.offq } key.devid =
      ((s.cb.queue.find? fun dev => dev.id == key.devid).or
        (if s.cb.devId == key.devid then
          some { id := s.cb.devId, info := info, driver := drv, op := op } else none)).or
        (s.cb.offq.find? fun dev => dev.id == key.devid) := by
    simp only [findDev, hqueue, hoffq, List.find?_append, List.find?_singleton]
  by_cases hkey : s.cb.devId = key.devid
  · have hnew : ∀ dev ∈ s.cb.queue ++ s.cb.offq, ¬(dev.id == key.devid) = true := by
      intro dev hdev hid
      have hbelow := (hs.below dev hdev).2
      rw [eq_of_beq hid, ← hkey] at hbelow
      exact absurd hbelow (UInt32.lt_irrefl _)
    have hqueueNone : (s.cb.queue.find? fun dev => dev.id == key.devid) = none :=
      List.find?_eq_none.mpr fun dev hdev => hnew dev (List.mem_append_left _ hdev)
    rw [hqueueNone, Option.none_or, if_pos (beq_iff_eq.mpr hkey), Option.some_or] at hlookup
    have hnone : keptOf s.cb key = none :=
      refOf_offline fun hmem => (findDev_ne_none_iff _ _).mpr hmem (List.find?_eq_none.mpr hnew)
    rw [hnone]
    exact refOf_created hlookup
  · apply refOf_congr
    rw [hlookup, if_neg (fun h => hkey (eq_of_beq h)), Option.or_none, ← List.find?_append]
    rfl

theorem online_store {s : BoxState ρ} (hs : Accounted s) {drvid : UInt32} {info : HsbDevInfo}
    {op : Option HsbDevOp} {done : Onlined ρ} (h : devOnline s.cb drvid info op = some done)
    (assigned : List (DevKey × UInt32)) :
    storeOf { s with cb := done.cb, assigned := assigned } =
      (storeOf s).next (.appeared (onlineId s.cb drvid info)) := by
  rw [← devOnline_devid h]
  obtain ⟨i, dev, acts, hdev, -, hid, hcb⟩ | ⟨-, drv, dev, acts, -, rfl, hid, hcb⟩ :=
    devOnline_eq_some h
  · have hperm : (done.cb.queue ++ done.cb.offq).Perm (s.cb.queue ++ s.cb.offq) := by
      have hrejoin := (roster s.cb).members_rejoin i
      simp only [Roster.rejoin, roster, hdev, Roster.members] at hrejoin
      rw [hcb]
      exact hrejoin
    have hentries := keptOf_perm hs.ids hperm
    simp only [storeOf, Store.next, hentries, hid]
    simp only [getDevIdList, hcb, List.map_append, List.map_singleton]
  · have hentries := keptOf_created hs info drv op done.cb (by rw [hcb]) (by rw [hcb])
    simp only [storeOf, Store.next, hentries, hid]
    simp only [getDevIdList, hcb, List.map_append, List.map_singleton]

theorem offline_store {s : BoxState ρ} (hs : Accounted s) (devid : UInt32) :
    storeOf { s with cb := (devOffline s.cb devid).2.1 } = (storeOf s).next (.left devid) := by
  rcases devOffline_cases s.cb devid with ⟨hunknown, hsame⟩ | ⟨i, dev, acts, hdev, rfl, -, hcb⟩
  · have haway : devid ∉ getDevIdList s.cb := by
      intro hmem
      obtain ⟨dev, hdev, hid⟩ := List.mem_map.mp hmem
      exact hunknown dev hdev hid
    simp only [hsame, Store.next, storeOf, List.erase_of_not_mem haway]
  · have hperm : ((devOffline s.cb dev.id).2.1.queue ++ (devOffline s.cb dev.id).2.1.offq).Perm
        (s.cb.queue ++ s.cb.offq) := by
      have hleave := (roster s.cb).members_leave i
      simp only [Roster.leave, roster, hdev, Roster.members] at hleave
      rw [hcb]
      exact hleave
    have hentries := keptOf_perm hs.ids hperm
    obtain ⟨hi, hget⟩ := List.getElem?_eq_some_iff.mp hdev
    have honline : getDevIdList (devOffline s.cb dev.id).2.1 =
        (getDevIdList s.cb).erase dev.id := by
      have herase := hs.online_ids.erase_getElem i (by simpa using hi)
      rw [List.getElem_map, hget] at herase
      simp only [getDevIdList, hcb]
      rw [herase, List.eraseIdx_map]
    simp only [storeOf, Store.next, hentries, honline]

/-- The timer slots whose acts a tick queues. -/
def actedKeys (cb : HsbDeviceCb ρ) (now : ℕ) : List ConfigKey :=
  (checkTimerAndDelay cb now).devs.flatMap fun tick => tick.fired.filterMap fun act =>
    match act.1 with
    | .timer i => some ⟨.timer, tick.dev.id, UInt16.ofNat i.val⟩
    | .delay _ => none

def TimerActed (tick : DevTick) (slot : UInt16) : Prop :=
  ∃ i body, (Source.timer i, body) ∈ tick.fired ∧ slot = UInt16.ofNat i.val

theorem mem_actedKeys {cb : HsbDeviceCb ρ} {now : ℕ} {key : ConfigKey} :
    key ∈ actedKeys cb now ↔ ∃ tick ∈ (checkTimerAndDelay cb now).devs,
      key.kind = .timer ∧ tick.dev.id = key.devid ∧ TimerActed tick key.slot := by
  simp only [actedKeys, List.mem_flatMap, List.mem_filterMap]
  constructor
  · rintro ⟨tick, htick, ⟨source, body⟩, hfired, hkey⟩
    cases source with
    | timer i =>
      cases Option.some.inj hkey
      exact ⟨tick, htick, rfl, rfl, i, body, hfired, rfl⟩
    | delay i => contradiction
  · rintro ⟨tick, htick, hkind, hid, i, body, hfired, hslot⟩
    obtain ⟨kind, devid, slot⟩ := key
    exact ⟨tick, htick, (.timer i, body), hfired, by simp only at *; rw [hkind, hid, hslot]⟩

theorem timerRecord_eq (dev : HsbDev) (slot : UInt16) (h : slot.toNat < hsbDevMaxTimerNum) :
    timerTable.record dev slot =
      if (dev.timerStatus.get ⟨slot.toNat, h⟩).active then some (dev.timer.get ⟨slot.toNat, h⟩)
      else none := dif_pos h

/-- A slot that acts keeps its timer, unless that is a one-shot timer. -/
theorem checkTimer_record {workMode : UInt32} {now : ℕ} {timer : HsbTimer}
    {status : HsbTimerStatus} (h : timerDue workMode (localtime now) timer status = true) :
    (if (checkTimer workMode (localtime now) timer status).2.active then
        some (checkTimer workMode (localtime now) timer status).1 else none) =
      (some timer).filter fun timer => !checkBit timer.wday.toNat 7 := by
  obtain ⟨hactive, -⟩ := timerDue_spec h
  cases honce : checkBit timer.wday.toNat 7 <;>
    simp only [checkTimer, h, honce, hactive, Option.filter_some, Bool.not_true, Bool.not_false,
      Bool.false_eq_true, if_true, if_false]

/-- One check takes away the one-shot timers that it lets act. -/
theorem checkDev_timerRecord (workMode : UInt32) (now last : ℕ) (dev : HsbDev) (slot : UInt16) :
    (¬TimerActed (checkDevTimerAndDelay workMode now last dev) slot →
      timerTable.record (checkDevTimerAndDelay workMode now last dev).dev slot =
        timerTable.record dev slot) ∧
    (TimerActed (checkDevTimerAndDelay workMode now last dev) slot →
      timerTable.record (checkDevTimerAndDelay workMode now last dev).dev slot =
        (timerTable.record dev slot).filter fun timer => !checkBit timer.wday.toNat 7) := by
  by_cases hslot : slot.toNat < hsbDevMaxTimerNum
  · have hofNat : ∀ i : Fin hsbDevMaxTimerNum, slot = UInt16.ofNat i.val →
        i = ⟨slot.toNat, hslot⟩ := by
      rintro i rfl
      have hi := i.isLt
      apply Fin.ext
      show i.val = i.val % 2 ^ 16
      unfold hsbDevMaxTimerNum at hi
      omega
    obtain ⟨htimers, -, -⟩ := atDayStart_fields now last dev
    have hactive := atDayStart_active now last dev ⟨slot.toNat, hslot⟩
    rw [timerRecord_eq _ slot hslot, timerRecord_eq _ slot hslot]
    rcases checkDev_cases workMode now last dev with ⟨-, hcheck⟩ | ⟨-, hcheck⟩
    · rw [hcheck]
      refine ⟨fun _ => by rw [htimers, hactive], ?_⟩
      rintro ⟨i, body, hfired, -⟩
      exact absurd hfired List.not_mem_nil
    · rw [hcheck]
      have hstatus := checkSlots_timerStatus workMode now (atDayStart now last dev)
        ⟨slot.toNat, hslot⟩
      have htimer : (checkSlots workMode now (atDayStart now last dev)).timer.get
          ⟨slot.toNat, hslot⟩ =
          (checkTimer workMode (localtime now) (dev.timer.get ⟨slot.toNat, hslot⟩)
            ((atDayStart now last dev).timerStatus.get ⟨slot.toNat, hslot⟩)).1 := by
        rw [← htimers]
        simp only [checkSlots, get_ofFn]
        rfl
      rw [htimers] at hstatus
      have hdue_iff : TimerActed ⟨secToday (localtime now),
          checkSlots workMode now (atDayStart now last dev),
          firedSlots workMode now (atDayStart now last dev)⟩ slot ↔
          timerDue workMode (localtime now) (dev.timer.get ⟨slot.toNat, hslot⟩)
            ((atDayStart now last dev).timerStatus.get ⟨slot.toNat, hslot⟩) = true := by
        constructor
        · rintro ⟨i, body, hfired, hi⟩
          have hdue := ((mem_firedSlots_timer _ _ _ _ _).mp hfired).1
          rw [hofNat i hi, htimers] at hdue
          exact hdue
        · intro hdue
          rw [← htimers] at hdue
          refine ⟨⟨slot.toNat, hslot⟩, _, (mem_firedSlots_timer _ _ _ _ _).mpr ⟨hdue, rfl⟩, ?_⟩
          exact UInt16.ofNat_toNat.symm
      rw [hdue_iff, htimer, hstatus]
      constructor
      · intro hnot
        have hkept : checkTimer workMode (localtime now) (dev.timer.get ⟨slot.toNat, hslot⟩)
            ((atDayStart now last dev).timerStatus.get ⟨slot.toNat, hslot⟩) =
            (dev.timer.get ⟨slot.toNat, hslot⟩,
              (atDayStart now last dev).timerStatus.get ⟨slot.toNat, hslot⟩) := by
          simp only [checkTimer, Bool.of_not_eq_true hnot, Bool.not_false, if_true]
        rw [hkept, hactive]
      · intro hdue
        obtain ⟨hon, -⟩ := timerDue_spec hdue
        rw [checkTimer_record hdue, ← hactive, hon, if_pos rfl]
  · have hnone : ∀ d : HsbDev, timerTable.record d slot = none := fun d => dif_neg hslot
    rw [hnone, hnone]
    exact ⟨fun _ => rfl, fun _ => rfl⟩

/-- A record is read from the records and from which slots are active. -/
theorem record_congr {R S : Type} (t : SlotTable R S) {dev dev' : HsbDev}
    (hrecs : t.recs dev' = t.recs dev)
    (hactive : ∀ i (hi : i < t.size), t.active (t.stats dev')[i] = t.active (t.stats dev)[i])
    (slot : UInt16) : t.record dev' slot = t.record dev slot := by
  unfold SlotTable.record
  by_cases hslot : slot.toNat < t.size
  · simp only [dif_pos hslot, hrecs, hactive]
  · simp only [dif_neg hslot]

theorem checkDelay_active (workMode : UInt32) (now : ℕ) (delay : HsbDelay)
    (status : HsbDelayStatus) :
    (checkDelay workMode now delay status).active = status.active := by
  simp only [checkDelay]
  split <;> rfl

theorem delayRecord_congr {dev dev' : HsbDev} (hdelay : dev'.delay = dev.delay)
    (hstatus : ∀ i, (dev'.delayStatus.get i).active = (dev.delayStatus.get i).active)
    (slot : UInt16) : delayTable.record dev' slot = delayTable.record dev slot := by
  apply record_congr delayTable hdelay
  intro i hi
  exact hstatus ⟨i, hi⟩

theorem checkDev_delayRecord (workMode : UInt32) (now last : ℕ) (dev : HsbDev) (slot : UInt16) :
    delayTable.record (checkDevTimerAndDelay workMode now last dev).dev slot =
      delayTable.record dev slot := by
  have hdelay : (atDayStart now last dev).delay = dev.delay := by
    rcases atDayStart_cases now last dev with h | h <;> simp only [h, rearmDev]
  have hstatus := DelayRule.atDayStart_delayStatus now last dev
  rcases checkDev_cases workMode now last dev with ⟨-, hcheck⟩ | ⟨-, hcheck⟩
  · rw [hcheck]
    exact delayRecord_congr hdelay (fun i => by rw [hstatus]) slot
  · rw [hcheck]
    apply delayRecord_congr
    · simp only [checkSlots, hdelay]
    · intro i
      simp only [checkSlots, get_ofFn, checkDelay_active, hstatus]
      rfl

theorem linkageRecord_congr {dev dev' : HsbDev} (hlink : dev'.link = dev.link)
    (hstatus : dev'.linkStatus = dev.linkStatus) (slot : UInt16) :
    linkageTable.record dev' slot = linkageTable.record dev slot := by
  apply record_congr linkageTable hlink
  intro i hi
  simp only [linkageTable, hstatus]

theorem checkDev_linkageRecord (workMode : UInt32) (now last : ℕ) (dev : HsbDev)
    (slot : UInt16) :
    linkageTable.record (checkDevTimerAndDelay workMode now last dev).dev slot =
      linkageTable.record dev slot := by
  have hstart : (atDayStart now last dev).link = dev.link ∧
      (atDayStart now last dev).linkStatus = dev.linkStatus := by
    rcases atDayStart_cases now last dev with h | h <;> simp only [h, rearmDev, and_self]
  rcases checkDev_cases workMode now last dev with ⟨-, hcheck⟩ | ⟨-, hcheck⟩
  · rw [hcheck]
    exact linkageRecord_congr hstart.1 hstart.2 slot
  · rw [hcheck]
    apply linkageRecord_congr
    · simp only [checkSlots, hstart.1]
    · simp only [checkSlots, hstart.2]

/-- A tick keeps the ids of the online devices. -/
theorem tick_ids (cb : HsbDeviceCb ρ) (now : ℕ) :
    (checkTimerAndDelay cb now).devs.map (fun tick => tick.dev.id) = getDevIdList cb :=
  map_checkQueue HsbDev.id cb.workMode now
    (fun last dev => (checkDev_fields cb.workMode now last dev).1) cb.secToday cb.queue

theorem getDevIdList_tick (cb : HsbDeviceCb ρ) (now : ℕ) :
    getDevIdList (checkTimerAndDelay cb now).cb = getDevIdList cb := by
  rw [getDevIdList, checkTimerAndDelay_queue, List.map_map]
  exact tick_ids cb now

theorem findDev_id {cb : HsbDeviceCb ρ} {devid : UInt32} {dev : HsbDev}
    (h : findDev cb devid = some dev) : dev.id = devid := by
  have hfound := List.find?_some h
  exact eq_of_beq hfound

/-- The device that a tick leaves under an id is the check of the one that had it. -/
theorem findDev_tick {cb : HsbDeviceCb ρ} (now : ℕ) {devid : UInt32} {dev : HsbDev}
    (hids : (cb.queue.map HsbDev.id).Nodup) (h : findDev cb devid = some dev) :
    ∃ last, findDev (checkTimerAndDelay cb now).cb devid =
        some (checkDevTimerAndDelay cb.workMode now last dev).dev ∧
      ∀ tick ∈ (checkTimerAndDelay cb now).devs, tick.dev.id = devid →
        tick = checkDevTimerAndDelay cb.workMode now last dev := by
  have hid := findDev_id h
  subst hid
  obtain ⟨pos, hpos⟩ := List.getElem?_of_mem (List.mem_of_find?_eq_some h)
  obtain ⟨last, htick⟩ : ∃ last, (checkTimerAndDelay cb now).devs[pos]? =
      some (checkDevTimerAndDelay cb.workMode now last dev) := by
    refine ⟨if pos = 0 then cb.secToday else now % secondsPerDay, ?_⟩
    simp only [checkTimerAndDelay, checkQueue_getElem?, hpos, Option.map_some]
  have hmem := List.mem_of_getElem? htick
  refine ⟨last, ?_, ?_⟩
  · have hqueue : (getDevIdList (checkTimerAndDelay cb now).cb).Nodup := by
      rw [getDevIdList_tick]
      exact hids
    have hfound := Keyed.find?_key hqueue
      (by rw [checkTimerAndDelay_queue]; exact List.mem_map_of_mem hmem)
    rw [(checkDev_fields cb.workMode now _ dev).1] at hfound
    exact hfound
  · intro tick hother hid
    have hids' : ((checkTimerAndDelay cb now).devs.map (fun tick => tick.dev.id)).Nodup := by
      rw [tick_ids]
      exact hids
    apply List.inj_on_of_nodup_map hids' hother hmem
    rw [hid, (checkDev_fields cb.workMode now _ dev).1]

/-- A tick changes the map by the acts of one-shot timers only. -/
theorem refOf_tick {cb : HsbDeviceCb ρ} (hids : (cb.queue.map HsbDev.id).Nodup) (now : ℕ) :
    refOf (checkTimerAndDelay cb now).cb = Store.afterActs (refOf cb) (actedKeys cb now) := by
  have hfilter : ∀ (p : List UInt8 → Bool) (f : HsbTimer → List UInt8) (o : Option HsbTimer),
      (o.filter fun timer => p (f timer)).map f = (o.map f).filter p := by
    intro p f o
    cases o with
    | none => rfl
    | some timer => cases hp : p (f timer) <;> simp [Option.filter_some, hp]
  funext key
  unfold Store.afterActs
  cases hfind : findDev cb key.devid with
  | none =>
    have haway : key.devid ∉ getDevIdList cb :=
      fun hmem => (findDev_ne_none_iff cb _).mpr hmem hfind
    rw [refOf_offline haway, refOf_offline ((getDevIdList_tick cb now).symm ▸ haway)]
    simp
  | some dev =>
    obtain ⟨last, hafter, honly⟩ := findDev_tick now hids hfind
    obtain ⟨kind, devid, slot⟩ := key
    have hother : kind ≠ .timer → ⟨kind, devid, slot⟩ ∉ actedKeys cb now := by
      intro hkind hmem
      obtain ⟨-, -, htimer, -⟩ := mem_actedKeys.mp hmem
      exact hkind htimer
    cases kind with
    | timer =>
      have hacted : (⟨.timer, devid, slot⟩ : ConfigKey) ∈ actedKeys cb now ↔
          TimerActed (checkDevTimerAndDelay cb.workMode now last dev) slot := by
        rw [mem_actedKeys]
        constructor
        · rintro ⟨tick, htick, -, hid, hslot⟩
          rw [← honly tick htick hid]
          exact hslot
        · intro hslot
          have hmem := List.mem_of_find?_eq_some hafter
          rw [checkTimerAndDelay_queue] at hmem
          obtain ⟨tick, htick, hdev⟩ := List.mem_map.mp hmem
          have hid : tick.dev.id = devid := by
            rw [hdev]
            exact findDev_id hafter
          rw [← honly tick htick hid] at hslot
          exact ⟨tick, htick, rfl, hid, hslot⟩
      obtain ⟨hkept, hgone⟩ := checkDev_timerRecord cb.workMode now last dev slot
      simp only [refOf, ConfigFormat.view, SlotTable.find, hafter, hfind, Option.bind_some]
      by_cases hslot : TimerActed (checkDevTimerAndDelay cb.workMode now last dev) slot
      · rw [if_pos (hacted.mpr hslot), ← hfilter]
        exact congrArg _ (hgone hslot)
      · rw [if_neg (fun h => hslot (hacted.mp h))]
        exact congrArg _ (hkept hslot)
    | delay =>
      rw [if_neg (hother (by simp))]
      simp only [refOf, ConfigFormat.view, SlotTable.find, hafter, hfind, Option.bind_some]
      exact congrArg _ (checkDev_delayRecord cb.workMode now last dev slot)
    | linkage =>
      rw [if_neg (hother (by simp))]
      simp only [refOf, ConfigFormat.view, SlotTable.find, hafter, hfind, Option.bind_some]
      exact congrArg _ (checkDev_linkageRecord cb.workMode now last dev slot)

theorem tick_store {s : BoxState ρ} (hs : Accounted s) (now : ℕ) :
    storeOf { s with cb := (checkTimerAndDelay s.cb now).cb, clock := now } =
      (storeOf s).next (.acted (actedKeys s.cb now)) := by
  have honline := getDevIdList_tick s.cb now
  have hoffq : (checkTimerAndDelay s.cb now).cb.offq = s.cb.offq := by
    simp only [checkTimerAndDelay, DeviceEvents.pushOwnActs_eq]
  have hentries : keptOf (checkTimerAndDelay s.cb now).cb =
      Store.afterActs (keptOf s.cb) (actedKeys s.cb now) := by
    funext key
    rw [keptOf_eq, honline, refOf_tick hs.online_ids, Store.afterActs, Store.afterActs, keptOf_eq]
    by_cases hkey : key.devid ∈ getDevIdList s.cb
    · rw [if_pos hkey, if_pos hkey]
    · have hquiet : key ∉ actedKeys s.cb now := by
        intro hmem
        obtain ⟨tick, htick, -, hid, -⟩ := mem_actedKeys.mp hmem
        apply hkey
        rw [← hid, ← tick_ids s.cb now]
        exact List.mem_map_of_mem htick
      rw [if_neg hkey, if_neg hkey, if_neg hquiet]
      apply refOf_congr
      simp only [findDev, hoffq]
  simp only [storeOf, Store.next, hentries, honline]

def storeLabel (s : BoxState ρ) : BoxStep ρ → StoreLabel
  | .online drvid info _ => .appeared (onlineId s.cb drvid info)
  | .offline devid => .left devid
  | .packet buf len _ =>
      if checkTcpPktValid buf len = 0 then
        match bufRequest buf with
        | some request => .request request
        | none => .other
      else .other
  | .tick now => .acted (actedKeys s.cb now)
  | .event .. | .mode _ | .act _ => .other

/-- What the box writes to a client that sets, gets or deletes an entry. -/
def answers (s : BoxState ρ) : BoxStep ρ → List (List UInt8)
  | .packet buf len reply =>
      if (bufRequest buf).isSome then (dealTcpPacket s.cb buf len reply).written.toList else []
  | _ => []

theorem packet_store (s : BoxState ρ) (buf : Memory) (len : ℕ) (reply : ρ) :
    storeOf { s with cb := (dealTcpPacket s.cb buf len reply).cb } =
        (storeOf s).next (storeLabel s (.packet buf len reply)) ∧
      answers s (.packet buf len reply) =
        (storeOf s).shown (storeLabel s (.packet buf len reply)) := by
  simp only [dealTcpPacket, storeLabel, answers]
  by_cases haccept : checkTcpPktValid buf len = 0
  · rw [if_neg (not_not.mpr haccept), if_pos haccept]
    have hdone := dispatchCmd_request s.cb buf len reply
    cases hrequest : bufRequest buf with
    | none =>
      rw [hrequest] at hdone
      exact ⟨storeOf_sameDevices hdone, rfl⟩
    | some request =>
      rw [hrequest] at hdone
      obtain ⟨hreply, hstore⟩ := serves_store hdone (dispatchCmd_offq s.cb buf len reply)
      refine ⟨hstore, ?_⟩
      simp only [Option.isSome_some, if_true, hreply, Option.toList_some, Store.shown]
  · rw [if_pos haccept, if_neg haccept]
    refine ⟨rfl, ?_⟩
    simp only [Option.toList_none, ite_self, Store.shown]

/-- What every step of the box is to the store. -/
theorem boxStep_store {s s' : BoxState ρ} {step : BoxStep ρ} (hs : Accounted s)
    (h : boxStep s step = some s') :
    storeOf s' = (storeOf s).next (storeLabel s step) ∧
      answers s step = (storeOf s).shown (storeLabel s step) := by
  cases step with
  | online drvid info op =>
    obtain ⟨done, hdone, rfl⟩ := Option.map_eq_some_iff.mp h
    exact ⟨online_store hs hdone _, rfl⟩
  | offline devid =>
    cases Option.some.inj h
    exact ⟨offline_store hs devid, rfl⟩
  | event devid type param1 param2 =>
    cases Option.some.inj h
    exact ⟨storeOf_sameDevices (devEvent_sameDevices s.cb devid type param1 param2), rfl⟩
  | mode mode =>
    cases Option.some.inj h
    exact ⟨storeOf_sameDevices (setBoxWorkMode_sameDevices s.cb mode), rfl⟩
  | packet buf len reply =>
    cases Option.some.inj h
    exact packet_store s buf len reply
  | act drivers =>
    simp only [boxStep] at h
    cases hqueue : s.cb.asyncQueue with
    | nil =>
      rw [hqueue] at h
      contradiction
    | cons act rest =>
      rw [hqueue] at h
      obtain ⟨done, hdone, rfl⟩ := Option.map_eq_some_iff.mp h
      obtain ⟨hq, hoffq, hdriverq, hdevId, hsec⟩ :=
        processDevAct_sameDevices _ drivers act done hdone
      exact ⟨storeOf_sameDevices ⟨hq, hoffq, hdriverq, hdevId, hsec⟩, rfl⟩
  | tick now =>
    rw [boxStep_tick h]
    exact ⟨tick_store hs now, rfl⟩

theorem boxStep_matches : Matches boxStep Admitted (Accounted (ρ := ρ)) Store.machine storeOf
    storeLabel answers :=
  fun _ _ _ hs _ h => boxStep_store hs h

theorem admitted_preserves : Preserves boxStep Admitted (Accounted (ρ := ρ)) :=
  fun _ _ _ hs hadmitted h => effect_accounted (boxStep_effect h) hadmitted hs

theorem storeOf_start (drivers : List HsbDevDrv) :
    storeOf (BoxState.start drivers : BoxState ρ) = Store.empty := by
  have hentries : keptOf (BoxState.start drivers : BoxState ρ).cb = fun _ => none := by
    funext key
    exact refOf_offline List.not_mem_nil
  simp only [storeOf, hentries]
  rfl

/-- In every run the replies to requests are those of a store that starts empty, and
that only the accepted requests and the acts of one-shot timers change. -/
theorem config_store_over_runs (drivers : List HsbDevDrv) (steps : List (BoxStep ρ))
    (t : BoxState ρ) (hguard : Guarded boxStep Admitted (BoxState.start drivers) steps)
    (hrun : run boxStep (BoxState.start drivers) steps = some t) :
    let labels := collect boxStep (fun s step => [storeLabel s step]) (BoxState.start drivers) steps
    storeOf t = Store.machine.after Store.empty labels ∧
      collect boxStep answers (BoxState.start drivers) steps =
        Store.machine.output Store.empty labels := by
  have hruns := run_simulates admitted_preserves boxStep_matches steps _ t
    (accounted_start drivers) hguard hrun
  rw [storeOf_start] at hruns
  exact hruns

/-- SET_TIMER for slot 0 of device 1, every day at noon, and GET_TIMER for it. -/
def setNoon : Memory :=
  load [0x33, 0x88, 24, 0, 1, 0, 0, 0, 0, 0, 0xFF, 1, 12, 0, 0, 0x7F, 5, 0, 1, 0, 0, 0, 0, 0]
    zeros

def getNoon : Memory := load [0x31, 0x88, 12, 0, 1, 0, 0, 0, 0, 0, 0, 0] zeros

/-- The device leaves and comes back, and its timer acts. -/
def awayAndBack : List (BoxStep Unit) :=
  [.offline 1, .packet getNoon 12 (), .online 1 { cls := 1 } (some .virtualSwitchOp),
    .tick 43202, .packet getNoon 12 ()]

def oneDevice : List (BoxStep Unit) := [.online 1 { cls := 1 } (some .virtualSwitchOp)]

def noonSteps : List (BoxStep Unit) := oneDevice ++ .packet setNoon 24 () :: awayAndBack

theorem config_store_over_runs_noon :
    ∃ t labels, run boxStep (BoxState.start [⟨1⟩]) noonSteps = some t ∧
      storeOf t = Store.machine.after Store.empty labels ∧
      Store.machine.output Store.empty labels =
        [(ConfigReply.result .ok).bytes, (ConfigReply.result .badParam).bytes,
          (ConfigReply.found .timer
            [1, 0, 0, 0, 0, 0, 0xFF, 1, 12, 0, 0, 0x7F, 5, 0, 1, 0, 0, 0, 0, 0]).bytes] := by
  have hruns : (run boxStep (BoxState.start [⟨1⟩]) noonSteps).isSome = true := by
    decide +kernel
  have hguard : Guarded boxStep Admitted (BoxState.start [⟨1⟩]) noonSteps := by
    decide +kernel
  have hanswers : collect boxStep answers (BoxState.start [⟨1⟩]) noonSteps =
      [(ConfigReply.result .ok).bytes, (ConfigReply.result .badParam).bytes,
        (ConfigReply.found .timer
          [1, 0, 0, 0, 0, 0, 0xFF, 1, 12, 0, 0, 0x7F, 5, 0, 1, 0, 0, 0, 0, 0]).bytes] := by
    decide +kernel
  obtain ⟨t, hrun⟩ := Option.isSome_iff_exists.mp hruns
  obtain ⟨hstore, houtput⟩ := config_store_over_runs [⟨1⟩] noonSteps t hguard hrun
  exact ⟨t, _, hrun, hstore, houtput ▸ hanswers⟩

/-- A label that can change an entry with the given content. -/
def Touches (key : ConfigKey) (content : List UInt8) : StoreLabel → Prop
  | .request (.set target _) => target = key
  | .request (.del target) => target = key
  | .acted keys => key ∈ keys ∧ oneShot content = true
  | .request (.get _) | .appeared _ | .left _ | .other => False

instance (key : ConfigKey) (content : List UInt8) :
    (label : StoreLabel) → Decidable (Touches key content label)
  | .request (.set target _) => inferInstanceAs (Decidable (target = key))
  | .request (.del target) => inferInstanceAs (Decidable (target = key))
  | .acted keys => inferInstanceAs (Decidable (key ∈ keys ∧ oneShot content = true))
  | .request (.get _) | .appeared _ | .left _ | .other => inferInstanceAs (Decidable False)

theorem Store.next_keeps {st : Store} {label : StoreLabel} {key : ConfigKey}
    {content : List UInt8} (h : ¬Touches key content label)
    (hentry : st.entries key = some content) : (st.next label).entries key = some content := by
  have hupdate : ∀ target entry, target ≠ key →
      Function.update st.entries target entry key = some content := by
    intro target entry hother
    rw [Function.update_of_ne (Ne.symm hother), hentry]
  cases label with
  | request request =>
    cases request with
    | set target bytes =>
      simp only [Store.next, Store.serve]
      split
      · exact hupdate target _ h
      · exact hentry
    | get target =>
      simp only [Store.next, Store.serve]
      split <;> exact hentry
    | del target =>
      simp only [Store.next, Store.serve]
      split
      · exact hupdate target _ h
      · exact hentry
  | acted keys =>
    simp only [Store.next, Store.afterActs]
    split
    · rename_i hmem
      have hrecurring : oneShot content = false := by
        by_contra honce
        exact h ⟨hmem, Bool.of_not_eq_false honce⟩
      simp only [hentry, Option.filter_some, hrecurring, Bool.not_false, if_true]
    · exact hentry
  | appeared _ | left _ | other => exact hentry

/-- The box and a step that leaves an entry alone. -/
def KeepsEntry (key : ConfigKey) (content : List UInt8) (s : BoxState ρ) (step : BoxStep ρ) :
    Prop := Admitted s step ∧ ¬Touches key content (storeLabel s step)

instance (key : ConfigKey) (content : List UInt8) (s : BoxState ρ) (step : BoxStep ρ) :
    Decidable (KeepsEntry key content s step) :=
  inferInstanceAs (Decidable (Admitted s step ∧ ¬Touches key content (storeLabel s step)))

theorem packet_reply {s : BoxState ρ} {buf : Memory} {len : ℕ} (reply : ρ)
    {request : ConfigRequest} (hrequest : bufRequest buf = some request)
    (haccept : checkTcpPktValid buf len = 0) :
    (dealTcpPacket s.cb buf len reply).written = some ((storeOf s).serve request).1.bytes ∧
      storeOf { s with cb := (dealTcpPacket s.cb buf len reply).cb } =
        ((storeOf s).serve request).2 := by
  have hdone := dispatchCmd_request s.cb buf len reply
  rw [hrequest] at hdone
  obtain ⟨hreply, hstore⟩ := serves_store hdone (dispatchCmd_offq s.cb buf len reply)
  simp only [dealTcpPacket, if_neg (not_not.mpr haccept)]
  exact ⟨hreply, hstore⟩

/-- A SET that is answered OK has entered the bytes of the packet. -/
theorem set_enters {s s' : BoxState ρ} {key : ConfigKey} {content : List UInt8} {buf : Memory}
    {len : ℕ} {reply : ρ} (hset : bufRequest buf = some (.set key content))
    (hok : (dealTcpPacket s.cb buf len reply).written = some (ConfigReply.result .ok).bytes)
    (hstep : boxStep s (.packet buf len reply) = some s') :
    (storeOf s').entries key = some content := by
  have hvalid : checkTcpPktValid buf len = 0 := by
    by_contra hreject
    simp only [dealTcpPacket, if_pos hreject, reduceCtorEq] at hok
  obtain ⟨hreply, hstore⟩ := packet_reply (s := s) reply hset hvalid
  have hdiffer : (ConfigReply.result .ok).bytes ≠ (ConfigReply.result .badParam).bytes := by
    decide
  rw [hok] at hreply
  rw [← Option.some.inj hstep]
  show (storeOf { s with cb := (dealTcpPacket s.cb buf len reply).cb }).entries key = _
  rw [hstore]
  simp only [Store.serve] at hreply ⊢
  split
  · exact Function.update_self ..
  · rename_i hslot
    rw [if_neg hslot] at hreply
    exact absurd (Option.some.inj hreply) hdiffer

theorem keepsEntry_preserves (key : ConfigKey) (content : List UInt8) :
    Preserves boxStep (KeepsEntry key content)
      (fun s : BoxState ρ => Accounted s ∧ (storeOf s).entries key = some content) := by
  intro s step s' hinv hok h
  refine ⟨admitted_preserves s step s' hinv.1 hok.1 h, ?_⟩
  rw [(boxStep_store hinv.1 h).1]
  exact Store.next_keeps hok.2 hinv.2

/-- A SET that is answered OK holds until the entry is set or deleted again, or is a
one-shot timer that acts: while the device is online a GET returns the bytes that were
set, whatever has happened to the device in between. -/
theorem entry_lasts (drivers : List HsbDevDrv) (steps : List (BoxStep ρ)) (s : BoxState ρ)
    (hguard : Guarded boxStep Admitted (BoxState.start drivers) steps)
    (hrun : run boxStep (BoxState.start drivers) steps = some s)
    (key : ConfigKey) (content : List UInt8) (buf : Memory) (len : ℕ) (reply : ρ)
    (hset : bufRequest buf = some (.set key content))
    (hok : (dealTcpPacket s.cb buf len reply).written = some (ConfigReply.result .ok).bytes)
    (later : List (BoxStep ρ)) (s' t : BoxState ρ)
    (hstep : boxStep s (.packet buf len reply) = some s')
    (hkeeps : Guarded boxStep (KeepsEntry key content) s' later)
    (hlater : run boxStep s' later = some t) (ask : Memory) (n : ℕ) (reply' : ρ)
    (hget : bufRequest ask = some (.get key)) (haccept : checkTcpPktValid ask n = 0) :
    (dealTcpPacket t.cb ask n reply').written =
      some (if key.devid ∈ getDevIdList t.cb then ConfigReply.found key.kind content
        else .result .badParam).bytes := by
  have hs := accounted_run steps _ s (accounted_start drivers) hguard hrun
  have hadmitted : Admitted s (.packet buf len reply) := ⟨trivial, trivial⟩
  have hs' := admitted_preserves s _ s' hs hadmitted hstep
  have hentry := set_enters hset hok hstep
  obtain ⟨-, hlast⟩ := run_invariant_guarded (keepsEntry_preserves key content) later s' t
    ⟨hs', hentry⟩ hkeeps hlater
  rw [(packet_reply _ hget haccept).1]
  simp only [Store.serve, Store.visible, hlast]
  by_cases honline : key.devid ∈ getDevIdList t.cb
  · rw [if_pos honline, if_pos (show key.devid ∈ (storeOf t).online from honline)]
  · rw [if_neg honline, if_neg (show key.devid ∉ (storeOf t).online from honline)]

theorem entry_lasts_noon :
    ∃ t : BoxState Unit, t.cb.asyncQueue.length = 1 ∧
      (dealTcpPacket t.cb getNoon 12 ()).written = some (ConfigReply.found .timer
        [1, 0, 0, 0, 0, 0, 0xFF, 1, 12, 0, 0, 0x7F, 5, 0, 1, 0, 0, 0, 0, 0]).bytes := by
  have hruns : (run boxStep (BoxState.start [⟨1⟩]) oneDevice).bind (fun s =>
        (boxStep s (.packet setNoon 24 ())).bind fun s' =>
          (run boxStep s' awayAndBack).map fun t =>
            (decide (Guarded boxStep (KeepsEntry ⟨.timer, 1, 0⟩
              [1, 0, 0, 0, 0, 0, 0xFF, 1, 12, 0, 0, 0x7F, 5, 0, 1, 0, 0, 0, 0, 0]) s' awayAndBack),
              (dealTcpPacket s.cb setNoon 24 ()).written, getDevIdList t.cb,
              t.cb.asyncQueue.length)) =
      some (true, some (ConfigReply.result .ok).bytes, [1], 1) := by
    decide +kernel
  have hguard : Guarded boxStep Admitted (BoxState.start [⟨1⟩]) oneDevice := by
    decide +kernel
  obtain ⟨s, hrun, hrest⟩ := Option.bind_eq_some_iff.mp hruns
  obtain ⟨s', hstep, hrest⟩ := Option.bind_eq_some_iff.mp hrest
  obtain ⟨t, hlater, hseen⟩ := Option.map_eq_some_iff.mp hrest
  simp only [Prod.mk.injEq, decide_eq_true_eq] at hseen
  obtain ⟨hkeeps, hok, honline, hacts⟩ := hseen
  have hreply := entry_lasts [⟨1⟩] oneDevice s hguard hrun ⟨.timer, 1, 0⟩ _ setNoon 24 ()
    (by decide +kernel) hok awayAndBack s' t hstep hkeeps hlater getNoon 12 ()
    (by decide +kernel) (by decide +kernel)
  rw [honline] at hreply
  exact ⟨t, hacts, hreply⟩

end HomeSecurityBox.ConfigRuns
