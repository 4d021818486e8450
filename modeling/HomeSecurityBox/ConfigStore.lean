import HomeSecurityBox.SlotTables
import HomeSecurityBox.TcpPacket

/-!
The configuration store that clients see. Timers, delays and linkages are entries
of one map from kinds, device ids and slots to the bytes of a frame behind its
header; SET and DEL change one entry or fail, GET answers with the bytes. The
packets are shown to be answered from this map.
-/

namespace HomeSecurityBox.ConfigStore

open ByteMemory Protocol DeviceData Device TcpPacket

variable {ρ : Type}

inductive ConfigKind
  | timer
  | delay
  | linkage
  deriving DecidableEq, Repr

structure ConfigKey where
  kind : ConfigKind
  devid : UInt32
  slot : UInt16
  deriving DecidableEq, Repr

/-- The slots of a device. -/
def ConfigKind.slots : ConfigKind → ℕ
  | .timer => 32
  | .delay => 8
  | .linkage => 8

/-- The length of a SET frame and of the response to a GET. -/
def ConfigKind.frameLen : ConfigKind → ℕ
  | .timer => 24
  | .delay => 32
  | .linkage => 32

def ConfigKind.respCmd : ConfigKind → HsbCmd
  | .timer => .getTimerResp
  | .delay => .getDelayResp
  | .linkage => .getLinkageResp

inductive ConfigRequest
  | set (key : ConfigKey) (content : List UInt8)
  | get (key : ConfigKey)
  | del (key : ConfigKey)
  deriving DecidableEq, Repr

inductive ConfigReply
  | result (code : HsbErrorNo)
  | found (kind : ConfigKind) (content : List UInt8)
  deriving DecidableEq, Repr

/-- The reference: what the last successful SET wrote under a key. -/
abbrev ConfigMap := ConfigKey → Option (List UInt8)

namespace ConfigMap

def serve (online : List UInt32) (m : ConfigMap) : ConfigRequest → ConfigReply × ConfigMap
  | .set key content =>
      if key.devid ∈ online ∧ key.slot.toNat < key.kind.slots then
        (.result .ok, Function.update m key (some content))
      else (.result .badParam, m)
  | .get key =>
      match m key with
      | some content => (.found key.kind content, m)
      | none => (.result .badParam, m)
  | .del key =>
      match m key with
      | some _ => (.result .ok, Function.update m key none)
      | none => (.result .badParam, m)

def serveAll (online : List UInt32) : ConfigMap → List ConfigRequest →
    List ConfigReply × ConfigMap
  | m, [] => ([], m)
  | m, request :: rest =>
      let done := serve online m request
      let later := serveAll online done.2 rest
      (done.1 :: later.1, later.2)

end ConfigMap

/-- How the records of a table travel: what a SET frame is read into, and the frame
that answers a GET. -/
structure ConfigFormat (R S : Type) where
  table : SlotTable R S
  read : Memory → R
  reply : Memory → UInt32 → R → Frame

def timerFormat : ConfigFormat HsbTimer HsbTimerStatus :=
  ⟨timerTable, readTimer, replyGetTimer⟩

def delayFormat : ConfigFormat HsbDelay HsbDelayStatus :=
  ⟨delayTable, readDelay, replyGetDelay⟩

def linkageFormat : ConfigFormat HsbLinkage HsbLinkageStatus :=
  ⟨linkageTable, readLinkage, replyGetLinkage⟩

def respHeader (kind : ConfigKind) : Memory := makeCmdHdr zeros kind.respCmd kind.frameLen

namespace ConfigFormat

variable {R S : Type}

/-- The bytes of a record from offset 4 of its frame on. -/
def content (F : ConfigFormat R S) (devid : UInt32) (r : R) : List UInt8 :=
  (F.reply zeros devid r).bytes.drop 4

def view (F : ConfigFormat R S) (cb : HsbDeviceCb ρ) (devid : UInt32) (slot : UInt16) :
    Option (List UInt8) := (F.table.find cb devid slot).map (F.content devid)

end ConfigFormat

/-- The map that the control block stands for. -/
def refOf (cb : HsbDeviceCb ρ) : ConfigMap := fun key =>
  match key.kind with
  | .timer => timerFormat.view cb key.devid key.slot
  | .delay => delayFormat.view cb key.devid key.slot
  | .linkage => linkageFormat.view cb key.devid key.slot

/-- A response header in front of the bytes of a frame. -/
def overlay (header buf : Memory) : Memory := fun i => if i < 4 then header i else buf i

theorem overlay_header (header buf : Memory) : AgreeBelow 4 header (overlay header buf) := by
  intro i hi
  simp only [overlay, if_pos hi]

theorem get8_overlay (header buf : Memory) (off : ℕ) (h : 4 ≤ off) :
    get8 (overlay header buf) off = get8 buf off := by
  simp only [get8, overlay, if_neg (Nat.not_lt.mpr h)]

theorem get16_overlay (header buf : Memory) (off : ℕ) (h : 4 ≤ off) :
    get16 (overlay header buf) off = get16 buf off :=
  get16_of_agree _ _ _ (get8_overlay header buf off h)
    (get8_overlay header buf (off + 1) (by omega))

theorem get32_overlay (header buf : Memory) (off : ℕ) (h : 4 ≤ off) :
    get32 (overlay header buf) off = get32 buf off :=
  get32_of_agree _ _ _ (get16_overlay header buf off h)
    (get16_overlay header buf (off + 2) (by omega))

theorem take_overlay (header buf : Memory) (n : ℕ) :
    take (overlay header buf) (4 + n) = take header 4 ++ take (shift buf 4) n := by
  apply List.ext_getElem (by simp)
  intro i hi hi'
  rw [take_length] at hi
  by_cases hheader : i < 4
  · rw [List.getElem_append_left (by rw [take_length]; exact hheader)]
    simp [take, overlay, hheader]
  · rw [List.getElem_append_right (by rw [take_length]; omega)]
    simp only [take, overlay, shift, List.getElem_map, List.getElem_range, List.length_map,
      List.length_range, if_neg hheader]
    congr 1
    omega

/-- A format whose responses carry the header of the kind and give back what was read
from a SET frame. -/
structure ConfigFormat.Carries {R S : Type} (F : ConfigFormat R S) (kind : ConfigKind) :
    Prop where
  slot : ∀ buf, F.table.slotOf (F.read buf) = get16 buf 8
  len : ∀ devid r, (F.reply zeros devid r).len = kind.frameLen
  header : ∀ devid r, AgreeBelow 4 (F.reply zeros devid r).buf (respHeader kind)
  copies : ∀ buf, AgreeBelow kind.frameLen (F.reply zeros (get32 buf 4) (F.read buf)).buf
    (overlay (respHeader kind) buf)

theorem timerFormat_carries : timerFormat.Carries .timer where
  slot _ := rfl
  len _ _ := rfl
  header devid r := by
    simp only [timerFormat, replyGetTimer]
    refine AgreeBelow.set32_above ?_ (by omega) _
    iterate 2 refine AgreeBelow.set16_above ?_ (by omega) _
    iterate 6 refine AgreeBelow.set8_above ?_ (by omega) _
    refine AgreeBelow.set16_above ?_ (by omega) _
    exact (AgreeBelow.refl 4 _).set32_above (by omega) _
  copies buf := by
    have hstart := overlay_header (respHeader .timer) buf
    have hcopied :=
      hstart.copy32.copy16.copy8.copy8.copy8.copy8.copy8.copy8.copy16.copy16.copy32
    simp (disch := omega) only [get8_overlay, get16_overlay, get32_overlay] at hcopied
    exact hcopied

theorem delayFormat_carries : delayFormat.Carries .delay where
  slot _ := rfl
  len _ _ := rfl
  header devid r := by
    simp only [delayFormat, replyGetDelay]
    iterate 2 refine AgreeBelow.set32_above ?_ (by omega) _
    iterate 2 refine AgreeBelow.set16_above ?_ (by omega) _
    refine AgreeBelow.set32_above ?_ (by omega) _
    iterate 2 refine AgreeBelow.set16_above ?_ (by omega) _
    iterate 2 refine AgreeBelow.set8_above ?_ (by omega) _
    refine AgreeBelow.set16_above ?_ (by omega) _
    exact (AgreeBelow.refl 4 _).set32_above (by omega) _
  copies buf := by
    have hstart := overlay_header (respHeader .delay) buf
    have hcopied :=
      hstart.copy32.copy16.copy8.copy8.copy16.copy16.copy32.copy16.copy16.copy32.copy32
    simp (disch := omega) only [get8_overlay, get16_overlay, get32_overlay] at hcopied
    exact hcopied

theorem linkageFormat_carries : linkageFormat.Carries .linkage where
  slot _ := rfl
  len _ _ := rfl
  header devid r := by
    simp only [linkageFormat, replyGetLinkage]
    refine AgreeBelow.set32_above ?_ (by omega) _
    iterate 2 refine AgreeBelow.set16_above ?_ (by omega) _
    iterate 2 refine AgreeBelow.set32_above ?_ (by omega) _
    iterate 2 refine AgreeBelow.set16_above ?_ (by omega) _
    iterate 2 refine AgreeBelow.set8_above ?_ (by omega) _
    refine AgreeBelow.set16_above ?_ (by omega) _
    exact (AgreeBelow.refl 4 _).set32_above (by omega) _
  copies buf := by
    have hstart := overlay_header (respHeader .linkage) buf
    have hcopied :=
      hstart.copy32.copy16.copy8.copy8.copy16.copy16.copy32.copy32.copy16.copy16.copy32
    simp (disch := omega) only [get8_overlay, get16_overlay, get32_overlay] at hcopied
    exact hcopied

namespace ConfigFormat

variable {R S : Type} {F : ConfigFormat R S} {kind : ConfigKind}

theorem Carries.reply_bytes (h : F.Carries kind) (devid : UInt32) (r : R) :
    (F.reply zeros devid r).bytes = take (respHeader kind) 4 ++ F.content devid r := by
  have hfour : 4 ≤ (F.reply zeros devid r).len := by
    rw [h.len]
    cases kind <;> decide
  have htake : (F.reply zeros devid r).bytes.take 4 = take (respHeader kind) 4 := by
    rw [← (h.header devid r).take (Nat.le_refl 4)]
    simp only [Frame.bytes, take, ← List.map_take, List.take_range, Nat.min_eq_left hfour]
  rw [← htake]
  exact (List.take_append_drop 4 _).symm

/-- The record of a SET frame travels back as the bytes of the frame. -/
theorem Carries.content_read (h : F.Carries kind) (buf : Memory) :
    F.content (get32 buf 4) (F.read buf) = take (shift buf 4) (kind.frameLen - 4) := by
  have hlen : kind.frameLen = 4 + (kind.frameLen - 4) := by cases kind <;> decide
  have hbytes : (F.reply zeros (get32 buf 4) (F.read buf)).bytes =
      take (respHeader kind) 4 ++ take (shift buf 4) (kind.frameLen - 4) := by
    rw [Frame.bytes, h.len, (h.copies buf).take (Nat.le_refl _), hlen, take_overlay]
    simp
  rw [content, hbytes]
  exact List.drop_left' (take_length _ _)

end ConfigFormat

theorem view_put_other {R S R' S' : Type} {F : ConfigFormat R S} {F' : ConfigFormat R' S'}
    (h : F.table.Apart F'.table) (hlawful : F.table.Lawful) (cb : HsbDeviceCb ρ)
    (devid : UInt32) (i : ℕ) (hslot : i < F.table.size) (r : R) (f : S → S) (other : UInt32)
    (slot : UInt16) :
    F'.view (HsbDeviceCb.updateDev cb devid (F.table.put i hslot r f)) other slot =
      F'.view cb other slot := by
  simp only [ConfigFormat.view, h.find_put hlawful]

/-- The table of one kind, its place in the map and what it leaves alone. -/
structure Represents {R S : Type} (F : ConfigFormat R S) (kind : ConfigKind) : Prop where
  lawful : F.table.Lawful
  carries : F.Carries kind
  size : F.table.size = kind.slots
  view : ∀ {ρ : Type} (cb : HsbDeviceCb ρ) devid slot,
    refOf cb ⟨kind, devid, slot⟩ = F.view cb devid slot
  others : ∀ {ρ : Type} (cb : HsbDeviceCb ρ) devid i h r f key, key.kind ≠ kind →
    refOf (HsbDeviceCb.updateDev cb devid (F.table.put i h r f)) key = refOf cb key

theorem timerFormat_represents : Represents timerFormat .timer where
  lawful := timerTable_lawful
  carries := timerFormat_carries
  size := rfl
  view _ _ _ := rfl
  others cb devid i h r f key hkind := by
    have hdelay : timerFormat.table.Apart delayFormat.table :=
      ⟨fun _ _ _ => rfl, fun _ _ _ => rfl⟩
    have hlinkage : timerFormat.table.Apart linkageFormat.table :=
      ⟨fun _ _ _ => rfl, fun _ _ _ => rfl⟩
    obtain ⟨kind, other, slot⟩ := key
    cases kind with
    | timer => exact absurd rfl hkind
    | delay => exact view_put_other hdelay timerTable_lawful cb devid i h r f other slot
    | linkage => exact view_put_other hlinkage timerTable_lawful cb devid i h r f other slot

theorem delayFormat_represents : Represents delayFormat .delay where
  lawful := delayTable_lawful
  carries := delayFormat_carries
  size := rfl
  view _ _ _ := rfl
  others cb devid i h r f key hkind := by
    have htimer : delayFormat.table.Apart timerFormat.table :=
      ⟨fun _ _ _ => rfl, fun _ _ _ => rfl⟩
    have hlinkage : delayFormat.table.Apart linkageFormat.table :=
      ⟨fun _ _ _ => rfl, fun _ _ _ => rfl⟩
    obtain ⟨kind, other, slot⟩ := key
    cases kind with
    | timer => exact view_put_other htimer delayTable_lawful cb devid i h r f other slot
    | delay => exact absurd rfl hkind
    | linkage => exact view_put_other hlinkage delayTable_lawful cb devid i h r f other slot

theorem linkageFormat_represents : Represents linkageFormat .linkage where
  lawful := linkageTable_lawful
  carries := linkageFormat_carries
  size := rfl
  view _ _ _ := rfl
  others cb devid i h r f key hkind := by
    have htimer : linkageFormat.table.Apart timerFormat.table :=
      ⟨fun _ _ _ => rfl, fun _ _ _ => rfl⟩
    have hdelay : linkageFormat.table.Apart delayFormat.table :=
      ⟨fun _ _ _ => rfl, fun _ _ _ => rfl⟩
    obtain ⟨kind, other, slot⟩ := key
    cases kind with
    | timer => exact view_put_other htimer linkageTable_lawful cb devid i h r f other slot
    | delay => exact view_put_other hdelay linkageTable_lawful cb devid i h r f other slot
    | linkage => exact absurd rfl hkind

/-- The frame of a reply. -/
def ConfigReply.bytes : ConfigReply → List UInt8
  | .result code => (replyResult zeros code.code).bytes
  | .found kind content => take (respHeader kind) 4 ++ content

/-- A dispatched command does what the map does with a request. -/
structure Serves (cb : HsbDeviceCb ρ) (request : ConfigRequest) (done : Dispatch ρ) : Prop where
  reply : done.frame.map Frame.bytes =
    some ((refOf cb).serve (getDevIdList cb) request).1.bytes
  map : refOf done.cb = ((refOf cb).serve (getDevIdList cb) request).2
  online : getDevIdList done.cb = getDevIdList cb

namespace Represents

variable {R S : Type} {F : ConfigFormat R S} {kind : ConfigKind}

/-- One write to the table is one change of the map. -/
theorem refOf_put (h : Represents F kind) (cb : HsbDeviceCb ρ) (devid : UInt32) (i : UInt16)
    (hdev : findDev cb devid ≠ none) (hslot : i.toNat < F.table.size) (r : R) (f : S → S)
    (entry : Option R) (hentry : ∀ s, (if F.table.active (f s) then some r else none) = entry) :
    refOf (HsbDeviceCb.updateDev cb devid (F.table.put i.toNat hslot r f)) =
      Function.update (refOf cb) ⟨kind, devid, i⟩ (entry.map (F.content devid)) := by
  funext key
  by_cases hkey : key = ⟨kind, devid, i⟩
  · rw [hkey, Function.update_self, h.view, ConfigFormat.view,
      h.lawful.find_put cb devid i hdev hslot r f entry hentry, if_pos ⟨rfl, rfl⟩]
  · rw [Function.update_of_ne hkey]
    by_cases hkind : key.kind = kind
    · obtain ⟨kind', other, slot⟩ := key
      simp only at hkind
      subst hkind
      have hother : ¬(other = devid ∧ slot = i) := by
        rintro ⟨rfl, rfl⟩
        exact hkey rfl
      rw [h.view, h.view, ConfigFormat.view, ConfigFormat.view,
        h.lawful.find_put cb devid i hdev hslot r f entry hentry, if_neg hother]
    · exact h.others cb devid _ hslot r f key hkind

theorem get_serves (h : Represents F kind) (cb : HsbDeviceCb ρ) (devid : UInt32)
    (slot : UInt16) :
    Serves cb (.get ⟨kind, devid, slot⟩)
      (answer cb (F.table.get cb devid slot) (F.reply zeros devid)) := by
  have hview := h.view cb devid slot
  rw [F.table.get_eq]
  cases hfind : F.table.find cb devid slot with
  | none =>
    have hmap : refOf cb ⟨kind, devid, slot⟩ = none := by
      rw [hview, ConfigFormat.view, hfind, Option.map_none]
    constructor
    · simp only [ConfigMap.serve, hmap]
      rfl
    · simp only [ConfigMap.serve, hmap]
      rfl
    · rfl
  | some r =>
    have hmap : refOf cb ⟨kind, devid, slot⟩ = some (F.content devid r) := by
      rw [hview, ConfigFormat.view, hfind, Option.map_some]
    constructor
    · simp only [ConfigMap.serve, hmap, answer, Option.map_some, h.carries.reply_bytes]
      rfl
    · simp only [ConfigMap.serve, hmap]
      rfl
    · rfl

theorem set_serves (h : Represents F kind) (cb : HsbDeviceCb ρ) (buf : Memory) :
    Serves cb (.set ⟨kind, get32 buf 4, get16 buf 8⟩ (take (shift buf 4) (kind.frameLen - 4)))
      (confirm cb (F.table.set cb (get32 buf 4) (F.read buf))) := by
  have hiff : (get32 buf 4 ∈ getDevIdList cb ∧ (get16 buf 8).toNat < kind.slots) ↔
      F.table.HasSlot cb (get32 buf 4) (F.table.slotOf (F.read buf)) := by
    rw [SlotTable.HasSlot, findDev_ne_none_iff, h.carries.slot, h.size]
  by_cases hslot : F.table.HasSlot cb (get32 buf 4) (F.table.slotOf (F.read buf))
  · have hserve : (refOf cb).serve (getDevIdList cb)
        (.set ⟨kind, get32 buf 4, get16 buf 8⟩ (take (shift buf 4) (kind.frameLen - 4))) =
        (.result .ok, Function.update (refOf cb) ⟨kind, get32 buf 4, get16 buf 8⟩
          (some (take (shift buf 4) (kind.frameLen - 4)))) := if_pos (hiff.mpr hslot)
    rw [F.table.set_of_hasSlot cb _ _ hslot]
    constructor
    · rw [hserve]
      rfl
    · rw [hserve]
      have hentry : ∀ s, (if F.table.active (F.table.arm s) then some (F.read buf) else none) =
          some (F.read buf) := by
        intro s
        rw [if_pos (h.lawful.active_arm s)]
      have hput := h.refOf_put cb (get32 buf 4) _ hslot.1 hslot.2 (F.read buf) F.table.arm _ hentry
      rw [Option.map_some, h.carries.content_read] at hput
      exact hput.trans (by rw [h.carries.slot])
    · exact getDevIdList_updateDev cb _ _ (h.lawful.id_put _ _ _ _)
  · have hserve : (refOf cb).serve (getDevIdList cb)
        (.set ⟨kind, get32 buf 4, get16 buf 8⟩ (take (shift buf 4) (kind.frameLen - 4))) =
        (.result .badParam, refOf cb) := if_neg (fun hset => hslot (hiff.mp hset))
    rw [F.table.set_of_not_hasSlot cb _ _ hslot]
    constructor
    · rw [hserve]
      rfl
    · rw [hserve]
      rfl
    · rfl

theorem del_serves (h : Represents F kind) (cb : HsbDeviceCb ρ) (devid : UInt32)
    (slot : UInt16) :
    Serves cb (.del ⟨kind, devid, slot⟩) (confirm cb (F.table.del cb devid slot)) := by
  have hview := h.view cb devid slot
  cases hfind : F.table.find cb devid slot with
  | none =>
    have hmap : refOf cb ⟨kind, devid, slot⟩ = none := by
      rw [hview, ConfigFormat.view, hfind, Option.map_none]
    rw [F.table.del_of_find_none cb devid slot hfind]
    constructor
    · simp only [ConfigMap.serve, hmap]
      rfl
    · simp only [ConfigMap.serve, hmap]
      rfl
    · rfl
  | some r =>
    have hmap : refOf cb ⟨kind, devid, slot⟩ = some (F.content devid r) := by
      rw [hview, ConfigFormat.view, hfind, Option.map_some]
    have hslot := SlotTable.find_some_slot hfind
    rw [F.table.del_of_find_some cb devid slot r hfind]
    constructor
    · simp only [ConfigMap.serve, hmap]
      rfl
    · simp only [ConfigMap.serve, hmap]
      have hentry : ∀ s, (if F.table.active (F.table.disarm s) then some F.table.blank
          else none) = none := by
        intro s
        rw [if_neg (by rw [h.lawful.active_disarm]; decide)]
      exact h.refOf_put cb devid slot hslot.1 hslot.2 F.table.blank F.table.disarm _ hentry
    · exact getDevIdList_updateDev cb _ _ (h.lawful.id_put _ _ _ _)

end Represents

/-- The request of a well-formed frame: a SET frame has the length of its layout, a GET
or DEL frame holds the device and the slot. -/
def wireRequest (buf : Memory) : Option ConfigRequest :=
  let len := (get16 buf 2).toNat
  let key := fun kind => (⟨kind, get32 buf 4, get16 buf 8⟩ : ConfigKey)
  let set := fun kind =>
    if len = ConfigKind.frameLen kind then
      some (ConfigRequest.set (key kind) (take (shift buf 4) (kind.frameLen - 4)))
    else none
  let get := fun kind => if 10 ≤ len then some (ConfigRequest.get (key kind)) else none
  let del := fun kind => if 10 ≤ len then some (ConfigRequest.del (key kind)) else none
  match HsbCmd.ofCode (get16 buf 0) with
  | some .setTimer => set .timer
  | some .getTimer => get .timer
  | some .delTimer => del .timer
  | some .setDelay => set .delay
  | some .getDelay => get .delay
  | some .delDelay => del .delay
  | some .setLinkage => set .linkage
  | some .getLinkage => get .linkage
  | some .delLinkage => del .linkage
  | _ => none

theorem dispatchCmd_serves (cb : HsbDeviceCb ρ) (buf : Memory) (len : ℕ) (reply : ρ)
    (request : ConfigRequest) (hrequest : wireRequest buf = some request) :
    Serves cb request (dispatchCmd cb buf len reply (get16 buf 0)) := by
  have htaken : ∀ {p : Prop} [Decidable p] {r : ConfigRequest},
      (if p then some r else none) = some request → r = request := by
    intro p _ r h
    by_cases hp : p
    · rw [if_pos hp] at h
      exact Option.some.inj h
    · rw [if_neg hp] at h
      contradiction
  unfold wireRequest at hrequest
  unfold dispatchCmd
  cases hcmd : HsbCmd.ofCode (get16 buf 0) with
  | none => simp only [hcmd, reduceCtorEq] at hrequest
  | some c =>
    rw [hcmd] at hrequest
    cases c
    case setTimer =>
      rw [← htaken hrequest]
      exact timerFormat_represents.set_serves cb buf
    case getTimer =>
      rw [← htaken hrequest]
      exact timerFormat_represents.get_serves cb _ _
    case delTimer =>
      rw [← htaken hrequest]
      exact timerFormat_represents.del_serves cb _ _
    case setDelay =>
      rw [← htaken hrequest]
      exact delayFormat_represents.set_serves cb buf
    case getDelay =>
      rw [← htaken hrequest]
      exact delayFormat_represents.get_serves cb _ _
    case delDelay =>
      rw [← htaken hrequest]
      exact delayFormat_represents.del_serves cb _ _
    case setLinkage =>
      rw [← htaken hrequest]
      exact linkageFormat_represents.set_serves cb buf
    case getLinkage =>
      rw [← htaken hrequest]
      exact linkageFormat_represents.get_serves cb _ _
    case delLinkage =>
      rw [← htaken hrequest]
      exact linkageFormat_represents.del_serves cb _ _
    all_goals contradiction

/-- A packet in the receive buffer, with the bytes received from it on. -/
structure Packet (ρ : Type) where
  buf : Memory
  len : ℕ
  reply : ρ

def Packet.WellFormed (packet : Packet ρ) : Prop :=
  checkTcpPktValid packet.buf packet.len = 0 ∧ wireRequest packet.buf ≠ none

instance (packet : Packet ρ) : Decidable packet.WellFormed :=
  inferInstanceAs (Decidable
    (checkTcpPktValid packet.buf packet.len = 0 ∧ wireRequest packet.buf ≠ none))

/-- The packets one after the other: what each writes and the state behind them. -/
def dealPackets : HsbDeviceCb ρ → List (Packet ρ) → List (Option (List UInt8)) × HsbDeviceCb ρ
  | cb, [] => ([], cb)
  | cb, packet :: rest =>
      let done := dealTcpPacket cb packet.buf packet.len packet.reply
      let later := dealPackets done.cb rest
      (done.written :: later.1, later.2)

theorem dealTcpPacket_serves (cb : HsbDeviceCb ρ) (packet : Packet ρ) (request : ConfigRequest)
    (haccept : checkTcpPktValid packet.buf packet.len = 0)
    (hrequest : wireRequest packet.buf = some request) :
    (dealTcpPacket cb packet.buf packet.len packet.reply).written =
        some ((refOf cb).serve (getDevIdList cb) request).1.bytes ∧
      refOf (dealTcpPacket cb packet.buf packet.len packet.reply).cb =
        ((refOf cb).serve (getDevIdList cb) request).2 ∧
      getDevIdList (dealTcpPacket cb packet.buf packet.len packet.reply).cb =
        getDevIdList cb := by
  have hserves := dispatchCmd_serves cb packet.buf packet.len packet.reply request hrequest
  unfold dealTcpPacket
  rw [if_neg (not_not.mpr haccept)]
  exact ⟨hserves.reply, hserves.map, hserves.online⟩

/-- A set key on an online device, an unknown device, a slot out of range, and what
GET, DEL and GET say about the key. -/
def storeDialogue : List (Packet Unit) :=
  let set := fun devid slot : UInt8 => [0x33, 0x88, 24, 0, devid, 0, 0, 0, slot, 0, 7, 1, 6, 30,
    0, 0x7f, 2, 0, 3, 0, 4, 0, 0, 0]
  let get : List UInt8 := [0x31, 0x88, 12, 0, 1, 0, 0, 0, 5, 0, 0, 0]
  let del : List UInt8 := [0x34, 0x88, 12, 0, 1, 0, 0, 0, 5, 0, 0, 0]
  [set 1 5, set 2 5, set 1 40, get, del, get].map fun bytes => ⟨load bytes zeros, bytes.length, ()⟩

end HomeSecurityBox.ConfigStore
