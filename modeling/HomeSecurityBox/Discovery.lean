import HomeSecurityBox.Base.Transitions
import HomeSecurityBox.VsDriver

/-!
The probe of the virtual switch driver: it broadcasts a request and takes what comes
back for three seconds. The least length of a response starts at the eight bytes of
the request, is compared as an unsigned number with a result that can be -1, and is
the length of a response only after a first packet has passed.
-/

namespace HomeSecurityBox.Discovery

open ByteMemory Protocol VirtualSwitch VsDriver Transitions

variable {ρ : Type}

/-- What `recvfrom_timeout` finds. -/
inductive Received
  | datagram (addr : UInt32) (bytes : List UInt8)
  | timedOut
  | failed
  deriving DecidableEq, Repr

/-- One call of it; `left` is what `select` leaves in `tv`, in microseconds. -/
structure Iteration where
  received : Received
  left : ℕ
  deriving DecidableEq, Repr

/-- The locals of the loop. The buffer and the address start with what the stack holds. -/
structure ProbeState (ρ : Type) where
  vs : VsState ρ
  rbuf : Memory
  devaddr : UInt32
  count : ℕ := 8
  ended : Bool := false

/-- The size of `rbuf`. -/
def rbufSize : ℕ := 64

/-- The conversion of an `int` to `size_t`. -/
def toSize (ret : ℤ) : ℕ := (ret % 4294967296).toNat

/-- The return value, the buffer and the address behind the call. -/
def recvfromTimeout (s : ProbeState ρ) : Received → ℤ × Memory × UInt32
  | .datagram addr bytes =>
      let bytes := bytes.take rbufSize
      (bytes.length, load bytes s.rbuf, addr)
  | .timedOut => (0, s.rbuf, s.devaddr)
  | .failed => (-1, s.rbuf, s.devaddr)

/-- The arguments of `_register_device`, if an iteration calls it: the address and
the pointer to the info. -/
def registerCall (s : ProbeState ρ) (received : Received) : Option (UInt32 × Memory) :=
  let (ret, rbuf, devaddr) := recvfromTimeout s received
  if toSize ret < s.count then none
  else
    let count := 32
    let cmd := get16 rbuf 0
    let len := get16 rbuf 2
    if cmd ≠ VsCmd.deviceDiscoverResp.code ∨ len.toNat ≠ count then none
    else some (devaddr, shift rbuf 8)

/-- The fields of the info that the registration reads. -/
def readInfo (info : Memory) : VsInfo where
  devClass := get16 info 0
  interface := get16 info 2
  mac := Vector.ofFn fun i => info (4 + i.val)

/-- The loop ends when no whole second or no fraction of one is left. -/
def probeStep (s : ProbeState ρ) (it : Iteration) : Option (ProbeState ρ) :=
  if s.ended then none
  else
    let (ret, rbuf, devaddr) := recvfromTimeout s it.received
    let next : ProbeState ρ :=
      { s with
        rbuf := rbuf
        devaddr := devaddr
        count := if toSize ret < s.count then s.count else 32
        ended := !(decide (0 < it.left / 1000000) && decide (0 < it.left % 1000000)) }
    match registerCall s it.received with
    | none => some next
    | some (addr, info) =>
        (registerDevice s.vs addr (readInfo info)).map fun vs => { next with vs := vs }

/-- Command and length of a discovery response. -/
def HeaderOk (m : Memory) : Prop :=
  get16 m 0 = VsCmd.deviceDiscoverResp.code ∧ get16 m 2 = 32

instance (m : Memory) : Decidable (HeaderOk m) :=
  inferInstanceAs (Decidable
    (get16 m 0 = VsCmd.deviceDiscoverResp.code ∧ get16 m 2 = 32))

/-- A discovery response with room for its info. -/
def IsResponse (bytes : List UInt8) : Prop :=
  32 ≤ bytes.length ∧ HeaderOk (load bytes zeros)

/-- What an iteration registers is the response that it received, from its sender. -/
def Justified (s : ProbeState ρ) (it : Iteration) : Prop :=
  ∀ addr info, registerCall s it.received = some (addr, info) →
    ∃ bytes, it.received = .datagram addr bytes ∧ IsResponse bytes ∧
      take info 24 = (bytes.drop 8).take 24

/-- The two ways to mistake something for a response: a first packet too short for the
info, and a failed call while the buffer holds the header of an earlier response. -/
def Mistaken (s : ProbeState ρ) (it : Iteration) : Prop :=
  match it.received with
  | .datagram _ bytes => s.count = 8 ∧ 8 ≤ bytes.length ∧ bytes.length < 32 ∧
      HeaderOk (load bytes zeros)
  | .timedOut => False
  | .failed => HeaderOk s.rbuf

/-- The least length is that of the request or that of a response. -/
def CountOk (s : ProbeState ρ) : Prop := s.count = 8 ∨ s.count = 32

theorem toSize_length (n : ℕ) (h : n ≤ rbufSize) : toSize n = n := by
  unfold rbufSize at h
  unfold toSize
  omega

/-- What the loop reads of a datagram does not depend on the cut at 64 bytes. -/
theorem load_take_agree_load (bytes : List UInt8) (stale : Memory) {n : ℕ}
    (hn : n ≤ (bytes.take rbufSize).length) :
    AgreeBelow n (load (bytes.take rbufSize) stale) (load bytes zeros) := by
  intro i hi
  have hcut : (bytes.take rbufSize).length ≤ bytes.length := List.length_take_le' _ _
  rw [load_lt _ _ _ (by omega), load_lt _ _ _ (by omega), List.getElem_take]

theorem headerOk_congr {m m' : Memory} (h : AgreeBelow 4 m m') : HeaderOk m ↔ HeaderOk m' := by
  unfold HeaderOk
  rw [h.get16 (by omega), h.get16 (by omega)]

theorem registerCall_eq_some_iff (s : ProbeState ρ) (received : Received) (addr : UInt32)
    (info : Memory) :
    registerCall s received = some (addr, info) ↔
      s.count ≤ toSize (recvfromTimeout s received).1 ∧
        HeaderOk (recvfromTimeout s received).2.1 ∧
        addr = (recvfromTimeout s received).2.2 ∧
        info = shift (recvfromTimeout s received).2.1 8 := by
  have hlen : ∀ len : UInt16, len.toNat = 32 ↔ len = 32 := fun len => by
    rw [← UInt16.toNat_inj]
    rfl
  simp only [registerCall, HeaderOk, ne_eq, hlen]
  generalize recvfromTimeout s received = r
  split
  · rename_i hshort
    simp only [reduceCtorEq, false_iff]
    omega
  · rename_i hlong
    split
    · rename_i hbad
      simp only [reduceCtorEq, false_iff]
      rintro ⟨-, ⟨hcmd, hsize⟩, -, -⟩
      exact hbad.elim (fun hother => hother hcmd) fun hother => hother hsize
    · rename_i hgood
      simp only [not_or, not_not] at hgood
      constructor
      · intro hcall
        obtain ⟨rfl, rfl⟩ := Prod.mk.inj (Option.some.inj hcall)
        exact ⟨Nat.le_of_not_lt hlong, hgood, rfl, rfl⟩
      · rintro ⟨-, -, rfl, rfl⟩
        rfl

/-- Only a mistake registers without a reason. -/
theorem justified_iff (s : ProbeState ρ) (it : Iteration) (hs : CountOk s) :
    Justified s it ↔ ¬ Mistaken s it := by
  unfold Justified Mistaken
  cases hreceived : it.received with
  | timedOut =>
    simp only [not_false_eq_true, iff_true]
    intro addr info hcall
    obtain ⟨hcount, -⟩ := (registerCall_eq_some_iff s _ addr info).mp hcall
    have hzero : toSize 0 = 0 := by decide
    simp only [recvfromTimeout, hzero] at hcount
    unfold CountOk at hs
    omega
  | failed =>
    constructor
    · intro h hheader
      have hcount : s.count ≤ toSize (-1) := by
        have hhuge : toSize (-1) = 4294967295 := by decide
        unfold CountOk at hs
        omega
      obtain ⟨bytes, hdatagram, -⟩ := h s.devaddr (shift s.rbuf 8)
        ((registerCall_eq_some_iff s .failed _ _).mpr ⟨hcount, hheader, rfl, rfl⟩)
      contradiction
    · intro hheader addr info hcall
      exact absurd ((registerCall_eq_some_iff s _ addr info).mp hcall).2.1 hheader
  | datagram addr bytes =>
    have hcut : (bytes.take rbufSize).length = min 64 bytes.length := List.length_take
    have hsize := toSize_length (bytes.take rbufSize).length
      (Nat.le_trans (Nat.le_of_eq hcut) (Nat.min_le_left _ _))
    constructor
    · rintro h ⟨hcount, hlow, hhigh, hheader⟩
      have hagree := load_take_agree_load bytes s.rbuf (show 4 ≤ _ by omega)
      have hcall := (registerCall_eq_some_iff s (.datagram addr bytes) addr
        (shift (load (bytes.take rbufSize) s.rbuf) 8)).mpr
        ⟨by simp only [recvfromTimeout, hsize]; omega,
          (headerOk_congr hagree).mpr hheader, rfl, rfl⟩
      obtain ⟨bytes', hbytes, hresponse, -⟩ := h _ _ hcall
      cases hbytes
      exact absurd hresponse.1 (by omega)
    · intro hmistake addr' info hcall
      obtain ⟨hcount, hheader, rfl, rfl⟩ := (registerCall_eq_some_iff s _ addr' info).mp hcall
      simp only [recvfromTimeout] at hcount hheader ⊢
      rw [hsize] at hcount
      have height : 8 ≤ (bytes.take rbufSize).length := by
        unfold CountOk at hs
        omega
      have hagree := load_take_agree_load bytes s.rbuf (Nat.le_refl _)
      have hbytes := (headerOk_congr (hagree.mono (by omega))).mp hheader
      have hroom : 32 ≤ bytes.length := by
        by_contra hshort
        unfold CountOk at hs
        exact hmistake ⟨by omega, by omega, by omega, hbytes⟩
      refine ⟨bytes, rfl, ⟨hroom, hbytes⟩, ?_⟩
      have hinfo : AgreeBelow 24 (shift (load (bytes.take rbufSize) s.rbuf) 8)
          (shift (load bytes zeros) 8) := fun i hi => hagree (8 + i) (by omega)
      rw [hinfo.take (Nat.le_refl 24), take_shift_load bytes zeros 8 24 (by omega)]

theorem probeStep_countOk {s s' : ProbeState ρ} {it : Iteration} (hs : CountOk s)
    (h : probeStep s it = some s') : CountOk s' := by
  have hnext : s'.count = if toSize (recvfromTimeout s it.received).1 < s.count then s.count
      else 32 := by
    unfold probeStep at h
    split at h
    · contradiction
    · simp only at h
      split at h
      · rw [← Option.some.inj h]
      · obtain ⟨vs, -, hvs⟩ := Option.map_eq_some_iff.mp h
        rw [← hvs]
  unfold CountOk
  rw [hnext]
  split
  · exact hs
  · exact Or.inr rfl

/-- Before the first call nothing is known of the buffer and the address. -/
def ProbeState.start (vs : VsState ρ) (stale : Memory) (devaddr : UInt32) : ProbeState ρ where
  vs := vs
  rbuf := stale
  devaddr := devaddr

/-- A probe registers nothing but responses exactly when it makes neither mistake. -/
theorem probe_justified_iff (vs : VsState ρ) (stale : Memory) (devaddr : UInt32)
    (its : List Iteration) (s : ProbeState ρ)
    (hrun : run probeStep (ProbeState.start vs stale devaddr) its = some s) :
    Guarded probeStep Justified (ProbeState.start vs stale devaddr) its ↔
      Guarded probeStep (fun s it => ¬ Mistaken s it) (ProbeState.start vs stale devaddr) its :=
  guarded_congr (fun _ _ _ hs h => probeStep_countOk hs h)
    (fun s it _ hs _ => justified_iff s it hs) its _ s (Or.inl rfl) hrun

/-- A response of a lamp. -/
def lampResponse : List UInt8 :=
  [0x02, 0x89, 32, 0, 0, 0, 0, 0, 1, 0, 2, 0, 1, 2, 3, 4, 5, 6] ++ List.replicate 14 0

/-- The box with the driver registered and an empty list. -/
def noDevices : VsState Unit := { cb := { driverq := [virtualSwitchDrv] } }

/-- The lamp answers and the time runs out. -/
def lampIterations : List Iteration :=
  [⟨.datagram 7 lampResponse, 2500000⟩, ⟨.timedOut, 0⟩]

theorem probe_justified_iff_lamp :
    ∃ s, run probeStep (ProbeState.start noDevices zeros 0) lampIterations = some s ∧
      s.vs.queue.map VsDev.ip = [7] ∧
      (Guarded probeStep Justified (ProbeState.start noDevices zeros 0) lampIterations ↔
        Guarded probeStep (fun s it => ¬ Mistaken s it) (ProbeState.start noDevices zeros 0)
          lampIterations) := by
  have hips : (run probeStep (ProbeState.start noDevices zeros 0) lampIterations).map
      (fun s => s.vs.queue.map VsDev.ip) = some [7] := by decide +kernel
  obtain ⟨s, hrun, hs⟩ := Option.map_eq_some_iff.mp hips
  exact ⟨s, hrun, hs, probe_justified_iff noDevices zeros 0 lampIterations s hrun⟩

/-- Eight bytes with the header of a response. -/
def headerOnly : List UInt8 := [0x02, 0x89, 32, 0, 0, 0, 0, 0]

/-- They register a device that nobody described. -/
theorem header_registers :
    ∃ s, run probeStep (ProbeState.start noDevices zeros 0)
        [⟨.datagram 7 headerOnly, 2500000⟩] = some s ∧
      s.vs.queue.map VsDev.ip = [7] ∧
      ¬ Guarded probeStep Justified (ProbeState.start noDevices zeros 0)
        [⟨.datagram 7 headerOnly, 2500000⟩] := by
  have hips : (run probeStep (ProbeState.start noDevices zeros 0)
      [⟨.datagram 7 headerOnly, 2500000⟩]).map (fun s => s.vs.queue.map VsDev.ip) =
        some [7] := by decide +kernel
  obtain ⟨s, hrun, hs⟩ := Option.map_eq_some_iff.mp hips
  refine ⟨s, hrun, hs, ?_⟩
  rintro ⟨hjustified, -⟩
  have hmistaken : Mistaken (ProbeState.start noDevices zeros 0)
      ⟨.datagram 7 headerOnly, 2500000⟩ :=
    ⟨rfl, by decide, by decide, by decide, by decide⟩
  exact (justified_iff _ _ (Or.inl rfl)).mp hjustified hmistaken

end HomeSecurityBox.Discovery
