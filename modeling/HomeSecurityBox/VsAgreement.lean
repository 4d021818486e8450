import HomeSecurityBox.Base.Keyed
import HomeSecurityBox.Box
import HomeSecurityBox.VsDriver

/-!
The list of the virtual switch driver and the online queue of the core, over runs
of discovery responses, datagrams and time-outs. Both lists grow at their end by
the same device and lose the same devices by id, so they name the same devices in
the same order, as long as the core gives no id twice.
-/

namespace HomeSecurityBox.VsAgreement

open ByteMemory Protocol DeviceData Device DeviceEvents Registry VirtualSwitch VsDriver Box
  Transitions

variable {ρ : Type}

/-- No device is known to the driver or to the core. -/
def start (drivers : List HsbDevDrv) : VsState ρ := { cb := { driverq := drivers } }

/-- What the core and the driver know a device by. -/
def coreName (dev : HsbDev) : UInt32 × Vector UInt8 8 := (dev.id, dev.info.mac)

def driverName (dev : VsDev) : UInt32 × Vector UInt8 8 := (dev.id, (devInfo dev.info).mac)

/-- The ids of the first `n` devices that are created. -/
def givenIds (n : ℕ) : List UInt32 := (List.range n).map fun k => UInt32.ofNat (k + 1)

/-- The number of devices created so far; none is ever destroyed. -/
def created (s : VsState ρ) : ℕ := (roster s.cb).members.length

structure Agree (s : VsState ρ) : Prop where
  names : created s ≤ 2 ^ 32 → s.cb.queue.map coreName = s.queue.map driverName
  drivers : ∀ dev ∈ (roster s.cb).members, dev.driver.id = virtualSwitchDrv.id
  macs : (s.queue.map fun dev => dev.info.mac).Nodup
  given : ((roster s.cb).members.map HsbDev.id).Perm (givenIds (created s))
  counter : s.cb.devId = UInt32.ofNat (created s + 1)

theorem givenIds_succ (n : ℕ) : givenIds (n + 1) = givenIds n ++ [UInt32.ofNat (n + 1)] := by
  simp only [givenIds, List.range_succ, List.map_append, List.map_singleton]

/-- The counter takes every value once before it comes round. -/
theorem givenIds_nodup {n : ℕ} (h : n ≤ 2 ^ 32) : (givenIds n).Nodup := by
  apply List.Nodup.map_on ?_ List.nodup_range
  intro j hj k hk hjk
  have hj := List.mem_range.mp hj
  have hk := List.mem_range.mp hk
  have hsame := congrArg UInt32.toNat hjk
  simp only [UInt32.toNat_ofNat'] at hsame
  omega

theorem Agree.ids {s : VsState ρ} (hs : Agree s) (hcount : created s ≤ 2 ^ 32) :
    ((roster s.cb).members.map HsbDev.id).Nodup :=
  hs.given.nodup_iff.mpr (givenIds_nodup hcount)

theorem Agree.online_ids {s : VsState ρ} (hs : Agree s) (hcount : created s ≤ 2 ^ 32) :
    (s.cb.queue.map HsbDev.id).Nodup :=
  Roster.Distinct.present (hs.ids hcount)

theorem Agree.same_ids {s : VsState ρ} (hs : Agree s) (hcount : created s ≤ 2 ^ 32) :
    s.cb.queue.map HsbDev.id = s.queue.map VsDev.id := by
  have hnames := congrArg (List.map Prod.fst) (hs.names hcount)
  rw [List.map_map, List.map_map] at hnames
  exact hnames

theorem agree_start (drivers : List HsbDevDrv) : Agree (start drivers : VsState ρ) := by
  refine ⟨fun _ => rfl, ?_, List.nodup_nil, List.Perm.refl _, rfl⟩
  intro dev hdev
  exact absurd hdev List.not_mem_nil

theorem findDevByMac_none {queue : List VsDev} {mac : Vector UInt8 6}
    (h : findDevByMac queue mac = none) : mac ∉ queue.map fun dev => dev.info.mac := by
  rw [Keyed.mem_map_iff_find?, not_not]
  exact h

theorem devInfo_mac_inj {info info' : VsInfo} (h : (devInfo info).mac = (devInfo info').mac) :
    info.mac = info'.mac := by
  exact Vector.append_inj_left h

/-- The driver brings online only what the core does not have online. -/
theorem Agree.announces {s : VsState ρ} (hs : Agree s) (hcount : created s ≤ 2 ^ 32)
    {info : VsInfo} (h : findDevByMac s.queue info.mac = none) :
    ∀ dev ∈ s.cb.queue, devKey dev ≠ (virtualSwitchDrv.id, (devInfo info).mac) := by
  intro dev hdev hkey
  have hname : coreName dev ∈ s.queue.map driverName := by
    rw [← hs.names hcount]
    exact List.mem_map_of_mem hdev
  obtain ⟨listed, hlisted, hsame⟩ := List.mem_map.mp hname
  have hmac : (devInfo listed.info).mac = (devInfo info).mac :=
    (congrArg Prod.snd hsame).trans (congrArg Prod.snd hkey)
  apply findDevByMac_none h
  rw [← devInfo_mac_inj hmac]
  exact List.mem_map_of_mem hlisted

theorem registerDevice_cases {s s' : VsState ρ} {addr : UInt32} {info : VsInfo}
    (h : registerDevice s addr info = some s') :
    (findDevByMac s.queue info.mac ≠ none ∧ s' = s) ∨
      findDevByMac s.queue info.mac = none ∧ ∃ (done : Onlined ρ) (listed : VsDev),
        devOnline s.cb virtualSwitchDrv.id (devInfo info) (some .virtualSwitchOp) = some done ∧
        listed = { id := done.devid, ip := addr, info := info } ∧
        s' = { cb := done.cb, queue := s.queue ++ [listed] } := by
  unfold registerDevice at h
  cases hfind : findDevByMac s.queue info.mac with
  | some dev =>
    rw [hfind] at h
    exact Or.inl ⟨Option.some_ne_none dev, (Option.some.inj h).symm⟩
  | none =>
    rw [hfind] at h
    obtain ⟨done, hdone, hs'⟩ := Option.map_eq_some_iff.mp h
    exact Or.inr ⟨rfl, done, _, hdone, rfl, hs'.symm⟩

theorem macs_append {queue : List VsDev} {dev : VsDev}
    (hqueue : (queue.map fun dev => dev.info.mac).Nodup)
    (hnew : findDevByMac queue dev.info.mac = none) :
    ((queue ++ [dev]).map fun dev => dev.info.mac).Nodup := by
  apply Keyed.nodup_map_append hqueue
  intro other hother hmac
  apply findDevByMac_none hnew
  rw [← hmac]
  exact List.mem_map_of_mem hother

/-- A device comes back to the core and to the list of the driver. -/
theorem Agree.rejoined {s : VsState ρ} {i : ℕ} {dev : HsbDev} {listed : VsDev} (hs : Agree s)
    (hdev : s.cb.offq[i]? = some dev) (hname : coreName dev = driverName listed)
    (hmacs : ((s.queue ++ [listed]).map fun dev => dev.info.mac).Nodup) (acts : List (HsbAct ρ)) :
    let s' : VsState ρ :=
      { cb := { s.cb with
          queue := s.cb.queue ++ [dev]
          offq := s.cb.offq.eraseIdx i
          asyncQueue := acts }
        queue := s.queue ++ [listed] }
    Agree s' ∧ created s ≤ created s' := by
  intro s'
  have hperm : (roster s'.cb).members.Perm (roster s.cb).members := by
    have hrejoin : (roster s.cb).rejoin i = roster s'.cb := by
      simp only [Roster.rejoin, roster, hdev, s']
    rw [← hrejoin]
    exact (roster s.cb).members_rejoin i
  have hcount : created s' = created s := hperm.length_eq
  refine ⟨⟨?_, ?_, hmacs, ?_, ?_⟩, Nat.le_of_eq hcount.symm⟩
  · intro hbound
    rw [hcount] at hbound
    simp only [s', List.map_append, List.map_singleton, hs.names hbound, hname]
  · intro other hother
    exact hs.drivers other (hperm.mem_iff.mp hother)
  · rw [hcount]
    exact (hperm.map HsbDev.id).trans hs.given
  · rw [hcount]
    exact hs.counter

/-- A new device takes the next id. -/
theorem Agree.enrolled {s : VsState ρ} {dev : HsbDev} {listed : VsDev} (hs : Agree s)
    (hid : dev.id = s.cb.devId) (hdriver : dev.driver.id = virtualSwitchDrv.id)
    (hname : coreName dev = driverName listed)
    (hmacs : ((s.queue ++ [listed]).map fun dev => dev.info.mac).Nodup) (acts : List (HsbAct ρ)) :
    let s' : VsState ρ :=
      { cb := { s.cb with
          queue := s.cb.queue ++ [dev]
          devId := s.cb.devId + 1
          asyncQueue := acts }
        queue := s.queue ++ [listed] }
    Agree s' ∧ created s ≤ created s' := by
  intro s'
  have hperm : (roster s'.cb).members.Perm (dev :: (roster s.cb).members) :=
    (roster s.cb).members_enrol dev
  have hcount : created s' = created s + 1 := hperm.length_eq
  refine ⟨⟨?_, ?_, hmacs, ?_, ?_⟩, by omega⟩
  · intro hbound
    have hnames := hs.names (by omega)
    simp only [s', List.map_append, List.map_singleton, hnames, hname]
  · intro other hother
    rcases List.mem_cons.mp (hperm.mem_iff.mp hother) with rfl | hold
    · exact hdriver
    · exact hs.drivers other hold
  · rw [hcount, givenIds_succ]
    refine (hperm.map HsbDev.id).trans ?_
    rw [List.map_cons, hid, hs.counter]
    exact (hs.given.cons _).trans (List.perm_append_singleton _ _).symm
  · rw [hcount]
    show s.cb.devId + 1 = _
    rw [hs.counter]
    exact (UInt32.ofNat_add _ 1).symm

theorem registerDevice_agree {s s' : VsState ρ} {addr : UInt32} {info : VsInfo}
    (h : registerDevice s addr info = some s') (hs : Agree s) :
    Agree s' ∧ created s ≤ created s' := by
  rcases registerDevice_cases h with ⟨-, rfl⟩ | ⟨hmac, done, listed, hdone, hlisted, rfl⟩
  · exact ⟨hs, Nat.le_refl _⟩
  · have hmacs : ((s.queue ++ [listed]).map fun dev => dev.info.mac).Nodup := by
      apply macs_append hs.macs
      rw [hlisted]
      exact hmac
    obtain ⟨i, dev, acts, hdev, hkey, hid, hcb⟩ | ⟨-, drv, dev, acts, hdrv, hnew, hid, hcb⟩ :=
      devOnline_eq_some hdone
    · have hname : coreName dev = driverName listed := by
        have hsame : dev.info.mac = (devInfo info).mac := congrArg Prod.snd hkey
        rw [coreName, driverName, hlisted, hid, hsame]
      rw [hcb]
      exact hs.rejoined hdev hname hmacs acts
    · have hname : coreName dev = driverName listed := by
        rw [coreName, driverName, hlisted, hid, hnew]
      have hdriver : dev.driver.id = virtualSwitchDrv.id := by
        rw [hnew]
        have hfound := List.find?_some hdrv
        exact eq_of_beq hfound
      rw [hcb]
      exact hs.enrolled (hnew ▸ rfl) hdriver hname hmacs acts

theorem Agree.of_sameDevices {s : VsState ρ} {cb : HsbDeviceCb ρ} {queue : List VsDev}
    (hs : Agree s) (hsame : SameDevices s.cb cb)
    (hnames : queue.map driverName = s.queue.map driverName)
    (hmacs : queue.map (fun dev => dev.info.mac) = s.queue.map fun dev => dev.info.mac) :
    Agree ⟨cb, queue⟩ ∧ created s ≤ created (⟨cb, queue⟩ : VsState ρ) := by
  have hroster : roster cb = roster s.cb := by
    unfold roster
    rw [hsame.queue, hsame.offq]
  have hcount : created (⟨cb, queue⟩ : VsState ρ) = created s := by
    unfold created
    rw [hroster]
  refine ⟨⟨?_, ?_, ?_, ?_, ?_⟩, Nat.le_of_eq hcount.symm⟩
  · rw [hcount, hsame.queue, hnames]
    exact hs.names
  · rw [hroster]
    exact hs.drivers
  · rw [hmacs]
    exact hs.macs
  · rw [hcount, hroster]
    exact hs.given
  · rw [hcount, hsame.devId]
    exact hs.counter

theorem dealDatagram_sameDevices (cb : HsbDeviceCb ρ) (devid : UInt32) (rbuf : Memory) :
    SameDevices cb (dealDatagram cb devid rbuf) := by
  unfold dealDatagram
  split
  · exact devEvent_sameDevices _ _ _ _ _
  · split
    · unfold event
      split
      · exact devEvent_sameDevices _ _ _ _ _
      · exact devEvent_sameDevices _ _ _ _ _
      · unfold key
        split
        · exact setBoxWorkMode_sameDevices _ _
        · exact SameDevices.refl cb
      · exact devEvent_sameDevices _ _ _ _ _
      · exact SameDevices.refl cb
    · exact SameDevices.refl cb

theorem map_modify_refresh {β : Type} (g : VsDev → β) (hg : ∀ dev, g (refreshDevice dev) = g dev)
    (queue : List VsDev) (id : ℕ) : (queue.modify id refreshDevice).map g = queue.map g := by
  apply List.ext_getElem?
  intro n
  simp only [List.getElem?_map, List.getElem?_modify]
  by_cases hn : id = n
  · cases queue[n]? with
    | none => simp [hn]
    | some dev => simp [hn, hg]
  · simp [hn]

theorem recvDatagram_agree (s : VsState ρ) (addr : UInt32) (rbuf : Memory) (ret : ℕ)
    (hs : Agree s) :
    Agree (recvDatagram s addr rbuf ret) ∧ created s ≤ created (recvDatagram s addr rbuf ret) := by
  unfold recvDatagram
  split
  · exact ⟨hs, Nat.le_refl _⟩
  · cases findDevByIp s.queue addr with
    | none => exact ⟨hs, Nat.le_refl _⟩
    | some dev =>
      apply hs.of_sameDevices (dealDatagram_sameDevices s.cb dev.id rbuf)
      · exact map_modify_refresh driverName (fun _ => rfl) s.queue _
      · exact map_modify_refresh (fun dev => dev.info.mac) (fun _ => rfl) s.queue _

/-- Going offline moves devices between the queues of the core and changes nothing
else that the agreement rests on. -/
theorem offlineAll_members (cb : HsbDeviceCb ρ) (devs : List VsDev) :
    (roster (offlineAll cb devs)).members.Perm (roster cb).members ∧
      (offlineAll cb devs).devId = cb.devId := by
  induction devs generalizing cb with
  | nil => exact ⟨List.Perm.refl _, rfl⟩
  | cons dev rest ih =>
    have hone : (roster (devOffline cb dev.id).2.1).members.Perm (roster cb).members ∧
        (devOffline cb dev.id).2.1.devId = cb.devId := by
      rcases devOffline_cases cb dev.id with ⟨-, hsame⟩ | ⟨i, gone, acts, hgone, -, -, hcb⟩
      · rw [hsame]
        exact ⟨List.Perm.refl _, rfl⟩
      · have hleave : (roster cb).leave i = ⟨cb.queue.eraseIdx i, cb.offq ++ [gone]⟩ := by
          simp only [Roster.leave, roster, hgone]
        have hperm := (roster cb).members_leave i
        rw [hleave] at hperm
        rw [hcb]
        exact ⟨hperm, rfl⟩
    obtain ⟨hperm, hdevId⟩ := ih (devOffline cb dev.id).2.1
    exact ⟨hperm.trans hone.1, hdevId.trans hone.2⟩

/-- With ids of their own the devices that go offline leave the queue, no others. -/
theorem devOffline_queue (cb : HsbDeviceCb ρ) (hids : (cb.queue.map HsbDev.id).Nodup)
    (devid : UInt32) :
    (devOffline cb devid).2.1.queue = cb.queue.filter fun dev => dev.id != devid := by
  rw [← Keyed.eraseIdx_findIdx_eq_filter hids devid]
  simp only [devOffline]
  cases hdev : cb.queue[cb.queue.findIdx fun dev => dev.id == devid]? with
  | none =>
    have hend := List.getElem?_eq_none_iff.mp hdev
    exact (List.eraseIdx_of_length_le hend).symm
  | some dev => simp only [devUpdated, devEvent_eq]

theorem offlineAll_queue (cb : HsbDeviceCb ρ) (hids : (cb.queue.map HsbDev.id).Nodup)
    (devs : List VsDev) :
    (offlineAll cb devs).queue =
      cb.queue.filter fun dev => decide (dev.id ∉ devs.map VsDev.id) := by
  induction devs generalizing cb with
  | nil => simp [offlineAll]
  | cons gone rest ih =>
    have hqueue := devOffline_queue cb hids gone.id
    have hkept : ((devOffline cb gone.id).2.1.queue.map HsbDev.id).Nodup := by
      rw [hqueue]
      exact hids.sublist (List.filter_sublist.map _)
    have hrest := ih (devOffline cb gone.id).2.1 hkept
    rw [hqueue, List.filter_filter] at hrest
    refine hrest.trans ?_
    apply List.filter_congr
    intro dev _
    by_cases hgone : dev.id = gone.id
    · simp [hgone]
    · simp [hgone]

theorem filter_ids_congr {queue : List HsbDev} {listed : List VsDev}
    (hnames : queue.map coreName = listed.map driverName) (ids : List UInt32) :
    (queue.filter fun dev => decide (dev.id ∉ ids)).map coreName =
      (listed.filter fun dev => decide (dev.id ∉ ids)).map driverName := by
  have hfiltered := congrArg (List.filter fun name => decide (name.1 ∉ ids)) hnames
  rw [List.filter_map, List.filter_map] at hfiltered
  exact hfiltered

/-- The devices that have expired are those whose ids are taken offline. -/
theorem filter_expired_ids {listed : List VsDev} (hids : (listed.map VsDev.id).Nodup) :
    (listed.filter fun dev => decide (dev.id ∉ (listed.filter expired).map VsDev.id)) =
      listed.filter fun dev => !expired dev := by
  apply List.filter_congr
  intro dev hdev
  by_cases hexpired : expired dev = true
  · have hmem : dev.id ∈ (listed.filter expired).map VsDev.id :=
      List.mem_map_of_mem (List.mem_filter.mpr ⟨hdev, hexpired⟩)
    simp only [hmem, not_true_eq_false, decide_false, hexpired, Bool.not_true]
  · have hnot : dev.id ∉ (listed.filter expired).map VsDev.id := by
      intro hmem
      obtain ⟨other, hother, hid⟩ := List.mem_map.mp hmem
      obtain ⟨hlisted, hotherExpired⟩ := List.mem_filter.mp hother
      rw [List.inj_on_of_nodup_map hids hlisted hdev hid] at hotherExpired
      exact hexpired hotherExpired
    simp only [hnot, not_false_eq_true, decide_true, hexpired, Bool.not_false]

theorem removeTimeoutDev_agree {s s' : VsState ρ} (h : removeTimeoutDev s = some s')
    (hs : Agree s) : Agree s' ∧ created s ≤ created s' := by
  rw [removeTimeoutDev_eq] at h
  obtain rfl := (Option.some.inj h).symm
  obtain ⟨hperm, hdevId⟩ := offlineAll_members s.cb (s.queue.filter expired)
  have hcount : created (⟨offlineAll s.cb (s.queue.filter expired),
      (s.queue.filter fun dev => !expired dev).map tickIdle⟩ : VsState ρ) = created s :=
    hperm.length_eq
  refine ⟨⟨?_, ?_, ?_, ?_, ?_⟩, Nat.le_of_eq hcount.symm⟩
  · intro hbound
    rw [hcount] at hbound
    have hids : (s.queue.map VsDev.id).Nodup := by
      rw [← hs.same_ids hbound]
      exact hs.online_ids hbound
    have hticked : ((s.queue.filter fun dev => !expired dev).map tickIdle).map driverName =
        (s.queue.filter fun dev => !expired dev).map driverName := by
      rw [List.map_map]
      rfl
    rw [hticked, ← filter_expired_ids hids, ← filter_ids_congr (hs.names hbound)]
    exact congrArg _ (offlineAll_queue s.cb (hs.online_ids hbound) _)
  · intro dev hdev
    exact hs.drivers dev (hperm.mem_iff.mp hdev)
  · rw [List.map_map]
    exact hs.macs.sublist (List.filter_sublist.map _)
  · rw [hcount]
    exact (hperm.map HsbDev.id).trans hs.given
  · rw [hcount]
    exact hdevId.trans hs.counter

theorem vsStep_agree {s s' : VsState ρ} {step : VsStep} (h : vsStep s step = some s')
    (hs : Agree s) : Agree s' ∧ created s ≤ created s' := by
  cases step with
  | discovered addr info => exact registerDevice_agree h hs
  | datagram addr rbuf ret =>
    cases Option.some.inj h
    exact recvDatagram_agree s addr rbuf ret hs
  | timeout => exact removeTimeoutDev_agree h hs

inductive VsNote
  | called
  | seen (mac : Vector UInt8 6)
  deriving DecidableEq, Repr

/-- A step calls `_remove_timeout_dev`, or it registers or refreshes a device. -/
def note (s : VsState ρ) : VsStep → List VsNote
  | .discovered _ info =>
      match findDevByMac s.queue info.mac with
      | some _ => []
      | none => [.seen info.mac]
  | .datagram addr rbuf ret =>
      if ret < 4 ∨ (get16 rbuf 2).toNat ≠ ret then []
      else
        match findDevByIp s.queue addr with
        | none => []
        | some dev => [.seen dev.info.mac]
  | .timeout => [.called]

/-- The calls behind the last note that a device was seen; newest first. -/
def idleCalls : List VsNote → Vector UInt8 6 → ℕ
  | [], _ => 0
  | .called :: rest, mac => idleCalls rest mac + 1
  | .seen seen :: rest, mac => if seen = mac then 0 else idleCalls rest mac

structure Traced (ρ : Type) where
  state : VsState ρ
  notes : List VsNote := []

def tracedStep (s : Traced ρ) (step : VsStep) : Option (Traced ρ) :=
  (vsStep s.state step).map fun state => ⟨state, note s.state step ++ s.notes⟩

/-- The idle time of a device counts the calls since it was last seen. -/
structure Counted (s : Traced ρ) : Prop where
  idle : ∀ dev ∈ s.state.queue, dev.idleTime = idleCalls s.notes dev.info.mac
  bound : ∀ dev ∈ s.state.queue, dev.idleTime ≤ 11

theorem mem_modify_refresh {queue : List VsDev} {addr : UInt32} {found dev : VsDev}
    (hmacs : (queue.map fun dev => dev.info.mac).Nodup)
    (hfind : findDevByIp queue addr = some found)
    (h : dev ∈ queue.modify (queue.findIdx fun dev => dev.ip == addr) refreshDevice) :
    dev = refreshDevice found ∨ dev ∈ queue ∧ found.info.mac ≠ dev.info.mac := by
  have hat : queue[queue.findIdx fun dev => dev.ip == addr]? = some found := by
    rw [← List.find?_eq_getElem?_findIdx]
    exact hfind
  obtain ⟨n, hn⟩ := List.getElem?_of_mem h
  rw [List.getElem?_modify] at hn
  obtain ⟨old, hold, hdev⟩ := Option.map_eq_some_iff.mp hn
  by_cases hsame : (queue.findIdx fun dev => dev.ip == addr) = n
  · rw [if_pos hsame] at hdev
    rw [hsame, hold] at hat
    rw [← hdev, Option.some.inj hat]
    exact Or.inl rfl
  · rw [if_neg hsame] at hdev
    subst hdev
    refine Or.inr ⟨List.mem_of_getElem? hold, ?_⟩
    intro hmac
    apply hsame
    have hlen : (queue.findIdx fun dev => dev.ip == addr) <
        (queue.map fun dev => dev.info.mac).length := by
      rw [List.length_map]
      exact (List.getElem?_eq_some_iff.mp hat).1
    apply (List.getElem?_inj hlen hmacs).mp
    rw [List.getElem?_map, List.getElem?_map, hat, hold, Option.map_some, Option.map_some, hmac]

theorem registerDevice_counted {s : Traced ρ} {s' : VsState ρ} {addr : UInt32} {info : VsInfo}
    (h : registerDevice s.state addr info = some s') (hs : Counted s) :
    Counted ⟨s', note s.state (.discovered addr info) ++ s.notes⟩ := by
  rcases registerDevice_cases h with ⟨hknown, rfl⟩ | ⟨hmac, done, listed, -, hlisted, rfl⟩
  · obtain ⟨dev, hdev⟩ := Option.ne_none_iff_exists'.mp hknown
    simp only [note, hdev]
    exact hs
  · simp only [note, hmac]
    have hall : ∀ dev ∈ s.state.queue ++ [listed],
        dev ∈ s.state.queue ∧ info.mac ≠ dev.info.mac ∨ dev = listed := by
      intro dev hdev
      rcases List.mem_append.mp hdev with hold | hnew
      · refine Or.inl ⟨hold, ?_⟩
        intro hsame
        apply findDevByMac_none hmac
        rw [hsame]
        exact List.mem_map_of_mem hold
      · exact Or.inr (List.mem_singleton.mp hnew)
    refine ⟨?_, ?_⟩
    · intro dev hdev
      rcases hall dev hdev with ⟨hold, hother⟩ | rfl
      · simp only [List.singleton_append, idleCalls, if_neg hother]
        exact hs.idle dev hold
      · simp only [List.singleton_append, idleCalls, hlisted, if_true]
    · intro dev hdev
      rcases hall dev hdev with ⟨hold, -⟩ | rfl
      · exact hs.bound dev hold
      · rw [hlisted]
        exact Nat.zero_le 11

theorem recvDatagram_counted {s : Traced ρ} (addr : UInt32) (rbuf : Memory) (ret : ℕ)
    (hagree : Agree s.state) (hs : Counted s) :
    Counted ⟨recvDatagram s.state addr rbuf ret,
      note s.state (.datagram addr rbuf ret) ++ s.notes⟩ := by
  by_cases hshort : ret < 4 ∨ (get16 rbuf 2).toNat ≠ ret
  · simp only [recvDatagram, note, if_pos hshort]
    exact hs
  · simp only [recvDatagram, note, if_neg hshort]
    cases hfind : findDevByIp s.state.queue addr with
    | none => exact hs
    | some found =>
      refine ⟨?_, ?_⟩
      · intro dev hdev
        rcases mem_modify_refresh hagree.macs hfind hdev with rfl | ⟨hold, hother⟩
        · simp only [List.singleton_append, idleCalls, refreshDevice, if_true]
        · simp only [List.singleton_append, idleCalls, if_neg hother]
          exact hs.idle dev hold
      · intro dev hdev
        rcases mem_modify_refresh hagree.macs hfind hdev with rfl | ⟨hold, -⟩
        · exact Nat.zero_le 11
        · exact hs.bound dev hold

theorem removeTimeoutDev_counted {s : Traced ρ} {s' : VsState ρ}
    (h : removeTimeoutDev s.state = some s') (hs : Counted s) :
    Counted ⟨s', note s.state .timeout ++ s.notes⟩ := by
  rw [removeTimeoutDev_eq] at h
  obtain rfl := (Option.some.inj h).symm
  refine ⟨?_, ?_⟩
  · intro dev hdev
    obtain ⟨old, hold, rfl⟩ := List.mem_map.mp hdev
    have hidle := hs.idle old (List.mem_of_mem_filter hold)
    simp only [note, List.singleton_append, idleCalls, tickIdle, hidle]
  · intro dev hdev
    obtain ⟨old, hold, rfl⟩ := List.mem_map.mp hdev
    have hkept := (List.mem_filter.mp hold).2
    simp only [expired, Bool.not_eq_true', decide_eq_false_iff_not] at hkept
    show old.idleTime + 1 ≤ 11
    omega

theorem tracedStep_counted {s s' : Traced ρ} {step : VsStep} (h : tracedStep s step = some s')
    (hagree : Agree s.state) (hs : Counted s) : Counted s' := by
  obtain ⟨state, hstate, rfl⟩ := Option.map_eq_some_iff.mp h
  cases step with
  | discovered addr info => exact registerDevice_counted hstate hs
  | datagram addr rbuf ret =>
    cases Option.some.inj hstate
    exact recvDatagram_counted addr rbuf ret hagree hs
  | timeout => exact removeTimeoutDev_counted hstate hs

theorem registerDevice_keeps_online {s s' : VsState ρ} {addr : UInt32} {info : VsInfo}
    (h : registerDevice s addr info = some s') {id : UInt32} (hid : id ∈ getDevIdList s.cb) :
    id ∈ getDevIdList s'.cb := by
  rcases registerDevice_cases h with ⟨-, rfl⟩ | ⟨-, done, listed, hdone, -, rfl⟩
  · exact hid
  · unfold getDevIdList at hid ⊢
    obtain ⟨i, dev, acts, -, -, -, hcb⟩ | ⟨-, drv, dev, acts, -, -, -, hcb⟩ :=
      devOnline_eq_some hdone
    · rw [hcb, List.map_append]
      exact List.mem_append_left _ hid
    · rw [hcb, List.map_append]
      exact List.mem_append_left _ hid

theorem recvDatagram_online (s : VsState ρ) (addr : UInt32) (rbuf : Memory) (ret : ℕ) :
    getDevIdList (recvDatagram s addr rbuf ret).cb = getDevIdList s.cb := by
  unfold recvDatagram
  split
  · rfl
  · cases findDevByIp s.queue addr with
    | none => rfl
    | some dev =>
      exact congrArg (List.map HsbDev.id) (dealDatagram_sameDevices s.cb dev.id rbuf).queue

/-- A time-out takes offline what has expired and nothing else. -/
theorem offlineAll_online {s : VsState ρ} (hs : Agree s) (hcount : created s ≤ 2 ^ 32)
    {dev : VsDev} (hdev : dev ∈ s.queue) :
    dev.id ∈ getDevIdList (offlineAll s.cb (s.queue.filter expired)) ↔ expired dev = false := by
  have honline := hs.online_ids hcount
  have hids : (s.queue.map VsDev.id).Nodup := by
    rw [← hs.same_ids hcount]
    exact honline
  have hlisted : dev.id ∈ getDevIdList (offlineAll s.cb (s.queue.filter expired)) ↔
      dev.id ∉ (s.queue.filter expired).map VsDev.id := by
    unfold getDevIdList
    rw [offlineAll_queue s.cb honline]
    constructor
    · intro hmem
      obtain ⟨kept, hkept, hid⟩ := List.mem_map.mp hmem
      rw [← hid]
      exact of_decide_eq_true (List.mem_filter.mp hkept).2
    · intro hnot
      have hmem : dev.id ∈ s.cb.queue.map HsbDev.id := by
        rw [hs.same_ids hcount]
        exact List.mem_map_of_mem hdev
      obtain ⟨core, hcore, hid⟩ := List.mem_map.mp hmem
      rw [← hid] at hnot ⊢
      exact List.mem_map_of_mem (List.mem_filter.mpr ⟨hcore, decide_eq_true hnot⟩)
  rw [hlisted]
  constructor
  · intro hnot
    by_contra hexpired
    apply hnot
    exact List.mem_map_of_mem (List.mem_filter.mpr ⟨hdev, Bool.of_not_eq_false hexpired⟩)
  · intro hkept hmem
    obtain ⟨other, hother, hid⟩ := List.mem_map.mp hmem
    obtain ⟨hin, hexpired⟩ := List.mem_filter.mp hother
    rw [List.inj_on_of_nodup_map hids hin hdev hid, hkept] at hexpired
    contradiction

/-- A device goes offline in the twelfth call since it was last seen. -/
theorem taken_offline_iff {s s' : Traced ρ} {step : VsStep} (h : tracedStep s step = some s')
    (hagree : Agree s.state) (hcounted : Counted s) (hcount : created s.state ≤ 2 ^ 32)
    {dev : VsDev} (hdev : dev ∈ s.state.queue) :
    dev.id ∉ getDevIdList s'.state.cb ↔
      step = .timeout ∧ idleCalls s.notes dev.info.mac + 1 = 12 := by
  obtain ⟨state, hstate, rfl⟩ := Option.map_eq_some_iff.mp h
  have honline : dev.id ∈ getDevIdList s.state.cb := by
    unfold getDevIdList
    rw [hagree.same_ids hcount]
    exact List.mem_map_of_mem hdev
  cases step with
  | discovered addr info =>
    have hstill := registerDevice_keeps_online hstate honline
    exact ⟨fun hgone => absurd hstill hgone, fun htimeout => absurd htimeout.1 nofun⟩
  | datagram addr rbuf ret =>
    cases Option.some.inj hstate
    rw [← recvDatagram_online s.state addr rbuf ret] at honline
    exact ⟨fun hgone => absurd honline hgone, fun htimeout => absurd htimeout.1 nofun⟩
  | timeout =>
    have hdone : removeTimeoutDev s.state = some state := hstate
    rw [removeTimeoutDev_eq] at hdone
    obtain rfl := (Option.some.inj hdone).symm
    rw [offlineAll_online hagree hcount hdev, Bool.not_eq_false, expired, decide_eq_true_iff,
      ← hcounted.idle dev hdev]
    have hbound := hcounted.bound dev hdev
    constructor
    · intro hidle
      exact ⟨rfl, by omega⟩
    · rintro ⟨-, hidle⟩
      omega

theorem traced_run {drivers : List HsbDevDrv} {steps : List VsStep} {t : Traced ρ}
    (hrun : run tracedStep ⟨start drivers, []⟩ steps = some t) : Agree t.state ∧ Counted t := by
  have hkept : ∀ (s : Traced ρ) (step : VsStep) (s' : Traced ρ),
      Agree s.state ∧ Counted s → tracedStep s step = some s' → Agree s'.state ∧ Counted s' := by
    rintro s step s' ⟨hagree, hcounted⟩ hstep
    refine ⟨?_, tracedStep_counted hstep hagree hcounted⟩
    obtain ⟨state, hstate, rfl⟩ := Option.map_eq_some_iff.mp hstep
    exact (vsStep_agree hstate hagree).1
  refine run_invariant hkept steps _ t ⟨agree_start drivers, ⟨?_, ?_⟩⟩ hrun
  · intro dev hdev
    exact absurd hdev List.not_mem_nil
  · intro dev hdev
    exact absurd hdev List.not_mem_nil

/-- In every run from empty lists that creates at most `2 ^ 32` devices, the core has
online, of this driver, exactly the ids of the driver's list, in the same order and
each once; the addresses in the list differ; and a device of the list is taken
offline by a step if and only if that is the twelfth call of `_remove_timeout_dev`
since the device was registered or refreshed. -/
theorem driver_core_agree (drivers : List HsbDevDrv) (steps : List VsStep) (t : Traced ρ)
    (hrun : run tracedStep ⟨start drivers, []⟩ steps = some t)
    (hcount : created t.state ≤ 2 ^ 32) :
    (t.state.cb.queue.filter fun dev => dev.driver.id == virtualSwitchDrv.id).map HsbDev.id =
        t.state.queue.map VsDev.id ∧
      (t.state.queue.map VsDev.id).Nodup ∧
      (t.state.queue.map fun dev => dev.info.mac).Nodup ∧
      ∀ step t', tracedStep t step = some t' → ∀ dev ∈ t.state.queue,
        (dev.id ∉ getDevIdList t'.state.cb ↔
          step = .timeout ∧ idleCalls t.notes dev.info.mac + 1 = 12) := by
  obtain ⟨hagree, hcounted⟩ := traced_run hrun
  have hown : (t.state.cb.queue.filter fun dev => dev.driver.id == virtualSwitchDrv.id) =
      t.state.cb.queue := by
    apply List.filter_eq_self.mpr
    intro dev hdev
    exact beq_iff_eq.mpr (hagree.drivers dev (List.mem_append_left _ hdev))
  refine ⟨?_, ?_, hagree.macs, ?_⟩
  · rw [hown]
    exact hagree.same_ids hcount
  · rw [← hagree.same_ids hcount]
    exact hagree.online_ids hcount
  · intro step t' hstep dev hdev
    exact taken_offline_iff hstep hagree hcounted hcount hdev

/-- A switch answers a probe and is then silent for eleven calls. -/
def silentSwitch : List VsStep := .discovered 7 {} :: List.replicate 11 .timeout

theorem driver_core_agree_silent :
    ∃ (t t' : Traced Unit) (dev : VsDev),
      run tracedStep ⟨start [virtualSwitchDrv], []⟩ silentSwitch = some t ∧
      tracedStep t .timeout = some t' ∧ dev ∈ t.state.queue ∧
      dev.id ∉ getDevIdList t'.state.cb := by
  have hruns : (run tracedStep (⟨start [virtualSwitchDrv], []⟩ : Traced Unit) silentSwitch).bind
      (fun t => (tracedStep t .timeout).bind fun _ => t.state.queue.head?.map fun dev =>
        (created t.state, idleCalls t.notes dev.info.mac)) = some (1, 11) := by decide +kernel
  obtain ⟨t, hrun, hnext⟩ := Option.bind_eq_some_iff.mp hruns
  obtain ⟨t', hstep, hhead⟩ := Option.bind_eq_some_iff.mp hnext
  obtain ⟨dev, hdev, hcalls⟩ := Option.map_eq_some_iff.mp hhead
  simp only [Prod.mk.injEq] at hcalls
  have hmem : dev ∈ t.state.queue := List.mem_of_head? hdev
  have hagree := driver_core_agree [virtualSwitchDrv] silentSwitch t hrun (by omega)
  refine ⟨t, t', dev, hrun, hstep, hmem, ?_⟩
  exact (hagree.2.2.2 .timeout t' hstep dev hmem).mpr ⟨rfl, by omega⟩

/-- The address whose bytes are those of a number. -/
def macOf (k : ℕ) : Vector UInt8 6 :=
  #v[UInt8.ofNat k, UInt8.ofNat (k / 256), UInt8.ofNat (k / 65536), UInt8.ofNat (k / 16777216),
    UInt8.ofNat (k / 4294967296), UInt8.ofNat (k / 1099511627776)]

theorem macOf_inj {j k : ℕ} (hj : j < 2 ^ 48) (hk : k < 2 ^ 48) (h : macOf j = macOf k) :
    j = k := by
  have hlist := congrArg (fun mac : Vector UInt8 6 => mac.toList.map UInt8.toNat) h
  simp only [macOf, Vector.toList_mk, List.map_cons, List.map_nil, UInt8.toNat_ofNat',
    List.cons.injEq, and_true] at hlist
  omega

def discoverAll (n : ℕ) : List VsStep :=
  (List.range n).map fun k => .discovered 0 { mac := macOf k }

theorem discoverAll_succ (n : ℕ) :
    discoverAll (n + 1) = discoverAll n ++ [.discovered 0 { mac := macOf n }] := by
  simp only [discoverAll, List.range_succ, List.map_append, List.map_singleton]

/-- Every address is answered by a device of its own. -/
theorem discoverAll_run (n : ℕ) (hn : n ≤ 2 ^ 48) :
    ∃ t : VsState Unit, run vsStep (start [virtualSwitchDrv]) (discoverAll n) = some t ∧
      t.cb.offq = [] ∧ t.cb.driverq = [virtualSwitchDrv] ∧ t.cb.devId = UInt32.ofNat (n + 1) ∧
      t.queue.map VsDev.id = givenIds n ∧
      t.queue.map (fun dev => dev.info.mac) = (List.range n).map macOf := by
  induction n with
  | zero => exact ⟨_, rfl, rfl, rfl, rfl, rfl, rfl⟩
  | succ n ih =>
    obtain ⟨t, hrun, hoffq, hdriverq, hdevId, hids, hmacs⟩ := ih (by omega)
    have hnew : findDevByMac t.queue (macOf n) = none := by
      apply List.find?_eq_none.mpr
      intro dev hdev hmac
      have hmem : dev.info.mac ∈ (List.range n).map macOf := by
        rw [← hmacs]
        exact List.mem_map_of_mem hdev
      obtain ⟨k, hk, hsame⟩ := List.mem_map.mp hmem
      have hlt := List.mem_range.mp hk
      have heq := macOf_inj (by omega) (by omega) (hsame.trans (eq_of_beq hmac))
      omega
    have honline : ∃ done, devOnline t.cb virtualSwitchDrv.id (devInfo { mac := macOf n })
        (some .virtualSwitchOp) = some done ∧ done.devid = t.cb.devId ∧
          done.cb.offq = [] ∧ done.cb.driverq = [virtualSwitchDrv] ∧
          done.cb.devId = t.cb.devId + 1 := by
      have hdrv : findDrv t.cb virtualSwitchDrv.id = some virtualSwitchDrv := by
        unfold findDrv
        rw [hdriverq]
        rfl
      simp only [devOnline, hoffq, List.findIdx_nil, List.getElem?_nil, hdrv, Option.map_some,
        createDev, devUpdated, devEvent_eq, hdriverq]
      exact ⟨_, rfl, rfl, rfl, rfl, rfl⟩
    obtain ⟨done, hdone, hid, hoffq', hdriverq', hdevId'⟩ := honline
    refine ⟨⟨done.cb, t.queue ++ [{ id := done.devid, ip := 0, info := { mac := macOf n } }]⟩,
      ?_, hoffq', hdriverq', ?_, ?_, ?_⟩
    · rw [discoverAll_succ, run_append, hrun]
      simp only [Option.bind_some, run, vsStep, registerDevice, hnew, hdone, Option.map_some]
    · rw [hdevId', hdevId]
      exact (UInt32.ofNat_add _ 1).symm
    · rw [List.map_append, hids, givenIds_succ, List.map_singleton, hid, hdevId]
    · rw [List.map_append, hmacs, List.range_succ, List.map_append]
      rfl

/-- After `2 ^ 32 + 1` devices the list of the driver holds the id 1 twice. -/
theorem id_given_twice :
    ∃ t : VsState Unit,
      run vsStep (start [virtualSwitchDrv]) (discoverAll (2 ^ 32 + 1)) = some t ∧
      ¬ (t.queue.map VsDev.id).Nodup := by
  obtain ⟨t, hrun, -, -, -, hids, -⟩ := discoverAll_run (2 ^ 32 + 1) (by omega)
  refine ⟨t, hrun, ?_⟩
  rw [hids]
  intro hnodup
  have hsame := List.inj_on_of_nodup_map hnodup (x := 0) (y := 2 ^ 32)
    (List.mem_range.mpr (by omega)) (List.mem_range.mpr (by omega)) (by decide)
  omega

end HomeSecurityBox.VsAgreement
