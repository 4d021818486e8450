import HomeSecurityBox.DeviceEvents

/-!
The worker thread's handling of one act. The operations of the drivers are a
parameter here: what they return, and `none` where they leave the bounds of
their arrays. An act ends in at most one response to its client; changing the
work mode sends an event in front of it.
-/

namespace HomeSecurityBox.DevAct

open Protocol DeviceData Device DeviceEvents

variable {ρ : Type}

/-- The driver functions behind the operation tables. -/
structure DriverCalls where
  probe : HsbDevDrv → ℤ
  getStatus : HsbDevOp → HsbStatus → Option (ℤ × HsbStatus)
  setStatus : HsbDevOp → HsbStatus → Option ℤ
  setAction : HsbDevOp → HsbAction → ℤ

def probeDev (cb : HsbDeviceCb ρ) (drivers : DriverCalls) (drvId : UInt32) : ℤ :=
  match findDrv cb drvId with
  | none => HsbErrorNo.badParam.code
  | some drv => drivers.probe drv

def getDevStatus (cb : HsbDeviceCb ρ) (drivers : DriverCalls) (status : HsbStatus) :
    Option (ℤ × HsbStatus) :=
  match findDev cb status.devid with
  | none => some (HsbErrorNo.entryNotFound.code, status)
  | some dev =>
      match dev.op with
      | none => some (HsbErrorNo.notSupported.code, status)
      | some op => drivers.getStatus op status

/-- Device id 0 is the box itself; its work mode is set here. -/
def setDevStatus (cb : HsbDeviceCb ρ) (drivers : DriverCalls) (status : HsbStatus) :
    Option (ℤ × HsbDeviceCb ρ × List (HsbResp ρ)) :=
  if status.devid = 0 ∧ status.id.get 0 = hsbStatusTypeWorkMode then
    some (setBoxWorkMode cb (UInt32.ofNat (status.val.get 0).toNat))
  else
    match findDev cb status.devid with
    | none => some (HsbErrorNo.entryNotFound.code, cb, [])
    | some dev =>
        match dev.op with
        | none => some (HsbErrorNo.notSupported.code, cb, [])
        | some op => (drivers.setStatus op status).map fun ret => (ret, cb, [])

def setDevAction (cb : HsbDeviceCb ρ) (drivers : DriverCalls) (act : HsbAction) : ℤ :=
  match findDev cb act.devid with
  | none => HsbErrorNo.entryNotFound.code
  | some dev =>
      match dev.op with
      | none => HsbErrorNo.notSupported.code
      | some op => drivers.setAction op act

/-- A processed act: the new state and the calls of `notify_resp`, in order. -/
structure Processed (ρ : Type) where
  cb : HsbDeviceCb ρ
  notices : List (HsbResp ρ)

/-- The result of an act that nobody waits for is dropped. -/
def resultNotices (reply : Option ρ) (ret : ℤ) : List (HsbResp ρ) :=
  match reply with
  | none => []
  | some r => [⟨.result ret, some r⟩]

/-- A status request is answered even without a reply pointer; such a response
matches no client. -/
def statusNotices (reply : Option ρ) (answer : ℤ × HsbStatus) : List (HsbResp ρ) :=
  if HsbErrorNo.ok.code ≠ answer.1 then [⟨.result answer.1, reply⟩]
  else [⟨.status answer.2, reply⟩]

def processDevAct (cb : HsbDeviceCb ρ) (drivers : DriverCalls) (act : HsbAct ρ) :
    Option (Processed ρ) :=
  match act.body with
  | .probe probe => some ⟨cb, resultNotices act.reply (probeDev cb drivers probe.drvid)⟩
  | .setStatus status =>
      (setDevStatus cb drivers status).map fun done =>
        ⟨done.2.1, done.2.2 ++ resultNotices act.reply done.1⟩
  | .getStatus status =>
      (getDevStatus cb drivers status).map fun answer =>
        ⟨cb, statusNotices act.reply answer⟩
  | .doAction action =>
      some ⟨cb, resultNotices act.reply (setDevAction cb drivers action)⟩

theorem resultNotices_reply (reply : Option ρ) (ret : ℤ) (resp : HsbResp ρ)
    (h : resp ∈ resultNotices reply ret) : resp.reply = reply := by
  unfold resultNotices at h
  split at h
  · exact absurd h List.not_mem_nil
  · rw [List.mem_singleton.mp h]

theorem statusNotices_reply (reply : Option ρ) (answer : ℤ × HsbStatus) (resp : HsbResp ρ)
    (h : resp ∈ statusNotices reply answer) : resp.reply = reply := by
  unfold statusNotices at h
  split at h
  · rw [List.mem_singleton.mp h]
  · rw [List.mem_singleton.mp h]

/-- What setting a status may queue and send. -/
theorem setDevStatus_spec (cb : HsbDeviceCb ρ) (drivers : DriverCalls) (status : HsbStatus)
    (done : ℤ × HsbDeviceCb ρ × List (HsbResp ρ))
    (h : setDevStatus cb drivers status = some done) :
    QueuesOwnActs cb done.2.1 ∧
      ∀ resp ∈ done.2.2, resp.body.isEvent = true := by
  unfold setDevStatus at h
  split at h
  · rw [← Option.some.inj h]
    exact setBoxWorkMode_spec cb _
  · split at h
    · rw [← Option.some.inj h]
      exact ⟨QueuesOwnActs.refl cb, by simp⟩
    · split at h
      · rw [← Option.some.inj h]
        exact ⟨QueuesOwnActs.refl cb, by simp⟩
      · obtain ⟨ret, -, hdone⟩ := Option.map_eq_some_iff.mp h
        rw [← hdone]
        exact ⟨QueuesOwnActs.refl cb, by simp⟩

/-- A processed act queues acts of the box only, and every response but an event
goes to the client of the act. -/
theorem processDevAct_spec (cb : HsbDeviceCb ρ) (drivers : DriverCalls) (act : HsbAct ρ)
    (done : Processed ρ) (h : processDevAct cb drivers act = some done) :
    QueuesOwnActs cb done.cb ∧
      ∀ resp ∈ done.notices, resp.body.isEvent = true ∨ resp.reply = act.reply := by
  unfold processDevAct at h
  split at h
  · rw [← Option.some.inj h]
    exact ⟨QueuesOwnActs.refl cb, fun resp hresp => Or.inr (resultNotices_reply _ _ resp hresp)⟩
  · obtain ⟨done', hset, hdone⟩ := Option.map_eq_some_iff.mp h
    obtain ⟨hacts, hevents⟩ := setDevStatus_spec cb drivers _ done' hset
    rw [← hdone]
    refine ⟨hacts, ?_⟩
    intro resp hresp
    rcases List.mem_append.mp hresp with hevent | hresult
    · exact Or.inl (hevents resp hevent)
    · exact Or.inr (resultNotices_reply _ _ resp hresult)
  · obtain ⟨answer, -, hdone⟩ := Option.map_eq_some_iff.mp h
    rw [← hdone]
    exact ⟨QueuesOwnActs.refl cb, fun resp hresp => Or.inr (statusNotices_reply _ _ resp hresp)⟩
  · rw [← Option.some.inj h]
    exact ⟨QueuesOwnActs.refl cb, fun resp hresp => Or.inr (resultNotices_reply _ _ resp hresp)⟩

end HomeSecurityBox.DevAct
