import Coworking.Services.Booking

/-!
# Push Tokens

`register_push_token` and `delete_push_token`.  A push token has at most one row, whoever owns it:
registering a token that is known moves its row to the caller.

Like the other operations, each is split where it stops reading.  The unit of work writes only
columns that differ from the loaded row (`DevicePatch`), under the id of that row.

- `DeviceStore.deviceOfToken?_update` and its companions: the row of a token after a write;
- `commitPushToken_check`: a registration that nobody interrupts succeeds, and what it does.
-/

namespace Coworking

open Foundation

/-! ## §1 Rows -/

structure NotificationDevice where
  id : Uuid
  userId : Uuid
  platform : String
  pushToken : String
  lastSeenAt : Instant
  deriving DecidableEq

instance : Keyed NotificationDevice Uuid := ⟨NotificationDevice.id⟩

/-- The committed rows of `notification_devices`. -/
structure DeviceStore where
  devices : Table NotificationDevice
  /-- `uq_notification_devices_push_token`. -/
  tokensNodup : (devices.rows.map fun d => d.pushToken).Nodup
  /-- The ids of deleted rows, which `uuid4` does not draw again. -/
  retired : List Uuid
  retired_notMem : ∀ id ∈ retired, id ∉ devices.keys

structure PushTokenCreateRequest where
  platform : String
  platform_length : 2 ≤ platform.length ∧ platform.length ≤ 32
  pushToken : String
  pushToken_length : 8 ≤ pushToken.length ∧ pushToken.length ≤ 512

structure PushTokenResponse where
  id : Uuid
  platform : String
  pushToken : String
  lastSeenAt : Instant
  deriving DecidableEq

/-- `_serialize_push_token`. -/
def serializePushToken (device : NotificationDevice) : PushTokenResponse :=
  ⟨device.id, device.platform, device.pushToken, device.lastSeenAt⟩

/-- The exceptions of the session that reach the caller. -/
inductive PushTokenError
  /-- `IntegrityError`: the token has got a row in the meantime. -/
  | integrity
  /-- `StaleDataError`: the row to update is gone. -/
  | staleData
  /-- `InvalidRequestError`: the row to refresh is gone. -/
  | invalidRequest
  deriving DecidableEq

/-- `select(NotificationDevice).where(NotificationDevice.push_token == token)`. -/
def DeviceStore.deviceOfToken? (s : DeviceStore) (token : String) : Option NotificationDevice :=
  s.devices.rows.find? (·.pushToken = token)

/-! ## §2 Writes -/

/-- The `SET` clause of an update. -/
structure DevicePatch where
  userId : Option Uuid
  platform : Option String
  lastSeenAt : Option Instant
  deriving DecidableEq

/-- The row after the update. -/
def DevicePatch.apply (p : DevicePatch) (d : NotificationDevice) : NotificationDevice :=
  { d with
    userId := p.userId.getD d.userId
    platform := p.platform.getD d.platform
    lastSeenAt := p.lastSeenAt.getD d.lastSeenAt }

theorem DevicePatch.apply_key (p : DevicePatch) (d : NotificationDevice) :
    Keyed.key (p.apply d) = Keyed.key d := rfl

theorem DevicePatch.apply_pushToken (p : DevicePatch) (d : NotificationDevice) :
    (p.apply d).pushToken = d.pushToken := rfl

/-- `UPDATE notification_devices SET …` of the row with the id. -/
def DeviceStore.update (s : DeviceStore) (id : Uuid) (p : DevicePatch) : DeviceStore :=
  { s with
    devices := s.devices.modify id p.apply p.apply_key
    tokensNodup := by
      rw [Table.map_modify p.apply_pushToken]
      exact s.tokensNodup
    retired_notMem := fun k hk => by
      rw [Table.keys_modify]
      exact s.retired_notMem k hk }

/-- The id `uuid4` draws for a new row. -/
def DeviceStore.freshId (rt : Runtime) (s : DeviceStore) : Uuid :=
  rt.uuid4 (s.devices.keys ++ s.retired)

theorem DeviceStore.freshId_notMem (rt : Runtime) (s : DeviceStore) :
    s.freshId rt ∉ s.devices.keys ∧ s.freshId rt ∉ s.retired := by
  have hnew := rt.uuid4_fresh (s.devices.keys ++ s.retired)
  rw [List.mem_append, not_or] at hnew
  exact hnew

/-- `INSERT INTO notification_devices` of a row whose id and token are not in use. -/
def DeviceStore.insert (s : DeviceStore) (d : NotificationDevice)
    (hid : d.id ∉ s.devices.keys ∧ d.id ∉ s.retired)
    (htoken : d.pushToken ∉ s.devices.rows.map fun d => d.pushToken) : DeviceStore :=
  { s with
    devices := s.devices.insert d hid.1
    tokensNodup := by
      rw [Table.insert, List.map_append, List.map_singleton, List.nodup_append]
      refine ⟨s.tokensNodup, List.nodup_singleton _, fun a ha b hb hab => ?_⟩
      rw [List.mem_singleton] at hb
      subst hab hb
      exact htoken ha
    retired_notMem := fun k hk hmem => by
      rcases Table.mem_keys_insert.mp hmem with hold | rfl
      · exact s.retired_notMem k hk hold
      · exact hid.2 hk }

/-- `DELETE FROM notification_devices` of the row with the id, if it is there. -/
def DeviceStore.delete (s : DeviceStore) (id : Uuid) : DeviceStore where
  devices := s.devices.erase id
  tokensNodup := s.tokensNodup.sublist (List.filter_sublist.map _)
  retired := id :: s.retired
  retired_notMem := fun k hk hmem => by
    obtain ⟨d, hd, rfl⟩ := Table.mem_keys.mp hmem
    obtain ⟨hold, hne⟩ := List.mem_filter.mp hd
    rcases List.mem_cons.mp hk with hid | hk
    · exact of_decide_eq_true hne hid
    · exact s.retired_notMem _ hk (Table.mem_keys.mpr ⟨d, hold, rfl⟩)

/-! ## §3 Operations -/

/-- What `register_push_token` is about to write. -/
inductive PushTokenDraft
  | insert (userId : Uuid) (platform pushToken : String) (lastSeenAt : Instant)
  | update (id : Uuid) (patch : DevicePatch)
  deriving DecidableEq

/-- `register_push_token` up to its commit. -/
def checkPushToken (c : Call) (s : DeviceStore) (payload : PushTokenCreateRequest) :
    PushTokenDraft :=
  let now := c.now 0
  match s.deviceOfToken? payload.pushToken with
  | none => .insert c.user payload.platform payload.pushToken now
  | some device =>
    .update device.id
      { userId := dirty device.userId c.user
        platform := dirty device.platform payload.platform
        lastSeenAt := dirty device.lastSeenAt now }

/-- The commit of `register_push_token`: the store and the id of the row. -/
def commitPushToken (rt : Runtime) (s : DeviceStore) :
    PushTokenDraft → Except PushTokenError (DeviceStore × Uuid)
  | .insert userId platform pushToken lastSeenAt =>
    if h : pushToken ∈ s.devices.rows.map fun d => d.pushToken then .error .integrity
    else .ok (s.insert ⟨s.freshId rt, userId, platform, pushToken, lastSeenAt⟩
      (s.freshId_notMem rt) h, s.freshId rt)
  | .update id patch =>
    -- Without a changed column there is no statement, and nothing to miss the row.
    if patch = ⟨none, none, none⟩ then .ok (s, id)
    else if id ∈ s.devices.keys then .ok (s.update id patch, id)
    else .error .staleData

/-- `session.refresh(device)` and the answer. -/
def refreshPushToken (s : DeviceStore) (id : Uuid) : Except PushTokenError PushTokenResponse :=
  match s.devices.get? id with
  | some device => .ok (serializePushToken device)
  | none => .error .invalidRequest

/-- `register_push_token`. -/
def registerPushToken (rt : Runtime) (c : Call) (s : DeviceStore)
    (payload : PushTokenCreateRequest) : Except PushTokenError (DeviceStore × PushTokenResponse) := do
  let r ← commitPushToken rt s (checkPushToken c s payload)
  let response ← refreshPushToken r.1 r.2
  pure (r.1, response)

/-- `delete_push_token` up to its commit: the row to delete, if it is the caller's. -/
def checkDeletePushToken (c : Call) (s : DeviceStore) (deviceId : Uuid) : Option Uuid :=
  ((s.devices.get? deviceId).filter (·.userId = c.user)).map (·.id)

/-- `delete_push_token`. -/
def deletePushToken (c : Call) (s : DeviceStore) (deviceId : Uuid) : DeviceStore :=
  match checkDeletePushToken c s deviceId with
  | some id => s.delete id
  | none => s

/-! ## §4 Lookups -/

variable {rt : Runtime} {c : Call} {s : DeviceStore} {token : String} {d : NotificationDevice}
  {id : Uuid}

theorem DeviceStore.deviceOfToken?_eq_some :
    s.deviceOfToken? token = some d ↔ d ∈ s.devices ∧ d.pushToken = token := by
  refine ⟨fun h => ⟨List.mem_of_find?_eq_some h, by simpa using List.find?_some h⟩, ?_⟩
  rintro ⟨hd, rfl⟩
  cases hfind : s.devices.rows.find? (·.pushToken = d.pushToken) with
  | none =>
    rw [List.find?_eq_none] at hfind
    exact absurd (decide_eq_true rfl) (hfind d hd)
  | some x =>
    -- Rows with one token are one row.
    have hx : x.pushToken = d.pushToken := by simpa using List.find?_some hfind
    have hsame : x = d :=
      List.inj_on_of_nodup_map s.tokensNodup (List.mem_of_find?_eq_some hfind) hd hx
    rw [DeviceStore.deviceOfToken?, hfind, hsame]

theorem DeviceStore.deviceOfToken?_eq_none :
    s.deviceOfToken? token = none ↔ token ∉ s.devices.rows.map fun d => d.pushToken := by
  simp [DeviceStore.deviceOfToken?, List.find?_eq_none]

/-- The row of a token after an update of a row. -/
theorem DeviceStore.deviceOfToken?_update {p : DevicePatch} :
    (s.update id p).deviceOfToken? token =
      (s.deviceOfToken? token).map fun d => if d.id = id then p.apply d else d := by
  have hrows : (s.update id p).devices.rows =
      s.devices.rows.map fun d => if d.id = id then p.apply d else d := rfl
  rw [DeviceStore.deviceOfToken?, DeviceStore.deviceOfToken?, hrows, List.find?_map]
  congr 2
  funext d
  show decide ((if d.id = id then p.apply d else d).pushToken = token) = _
  split
  · rw [p.apply_pushToken]
  · rfl

theorem DeviceStore.deviceOfToken?_insert
    {hid : d.id ∉ s.devices.keys ∧ d.id ∉ s.retired}
    {htoken : d.pushToken ∉ s.devices.rows.map fun d => d.pushToken} :
    (s.insert d hid htoken).deviceOfToken? token =
      if d.pushToken = token then some d else s.deviceOfToken? token := by
  by_cases h : d.pushToken = token
  · rw [if_pos h, DeviceStore.deviceOfToken?_eq_some]
    have hmem : d ∈ s.devices.insert d hid.1 := Table.mem_insert.mpr (.inr rfl)
    exact ⟨hmem, h⟩
  · simp [DeviceStore.deviceOfToken?, DeviceStore.insert, Table.insert, h]

theorem DeviceStore.deviceOfToken?_delete :
    (s.delete id).deviceOfToken? token = (s.deviceOfToken? token).filter (·.id ≠ id) := by
  ext d
  rw [Option.filter_eq_some_iff, DeviceStore.deviceOfToken?_eq_some,
    DeviceStore.deviceOfToken?_eq_some]
  have hmem : d ∈ (s.delete id).devices ↔ d ∈ s.devices ∧ decide (d.id ≠ id) = true :=
    List.mem_filter
  rw [hmem]
  exact and_right_comm

/-! ## §5 Serial calls -/

/-- The commit of a registration that has just read: the row of its token, and no other. -/
theorem commitPushToken_check (rt : Runtime) (c : Call) (s : DeviceStore)
    (payload : PushTokenCreateRequest) :
    ∃ s' id, commitPushToken rt s (checkPushToken c s payload) = .ok (s', id) ∧
      (∀ token, s'.deviceOfToken? token =
        if payload.pushToken = token then
          some ⟨id, c.user, payload.platform, payload.pushToken, c.now 0⟩
        else s.deviceOfToken? token) ∧
      (∀ d, s.deviceOfToken? payload.pushToken = some d → id = d.id) ∧
      (s.deviceOfToken? payload.pushToken = none → id ∉ s.devices.keys ∧ id ∉ s.retired) := by
  cases hfind : s.deviceOfToken? payload.pushToken with
  | none =>
    have hnew := DeviceStore.deviceOfToken?_eq_none.mp hfind
    let row : NotificationDevice :=
      ⟨s.freshId rt, c.user, payload.platform, payload.pushToken, c.now 0⟩
    refine ⟨s.insert row (s.freshId_notMem rt) hnew, s.freshId rt, ?_,
      fun token => DeviceStore.deviceOfToken?_insert, fun _ => nofun, fun _ => s.freshId_notMem rt⟩
    rw [checkPushToken, hfind]
    exact dif_neg hnew
  | some device =>
    obtain ⟨hmem, htoken⟩ := DeviceStore.deviceOfToken?_eq_some.mp hfind
    have hkey : device.id ∈ s.devices.keys := Table.mem_keys.mpr ⟨device, hmem, rfl⟩
    let patch : DevicePatch :=
      { userId := dirty device.userId c.user
        platform := dirty device.platform payload.platform
        lastSeenAt := dirty device.lastSeenAt (c.now 0) }
    have happly : patch.apply device =
        ⟨device.id, c.user, payload.platform, payload.pushToken, c.now 0⟩ := by
      simp only [DevicePatch.apply, patch, dirty_getD, htoken]
    have hcommit : commitPushToken rt s (checkPushToken c s payload) =
        commitPushToken rt s (.update device.id patch) := by
      rw [checkPushToken, hfind]
    have hupdate : ∀ token, (s.update device.id patch).deviceOfToken? token =
        if payload.pushToken = token then
          some ⟨device.id, c.user, payload.platform, payload.pushToken, c.now 0⟩
        else s.deviceOfToken? token := by
      intro token
      rw [DeviceStore.deviceOfToken?_update]
      split
      next h =>
        rw [← h, hfind, Option.map_some, if_pos rfl, happly]
      next h =>
        -- Another token has another row.
        cases hother : s.deviceOfToken? token with
        | none => rfl
        | some d =>
          obtain ⟨hd, hdt⟩ := DeviceStore.deviceOfToken?_eq_some.mp hother
          rw [Option.map_some, if_neg]
          intro hid
          have hsame : d = device := Table.key_injective hd hmem hid
          exact h (htoken.symm.trans (hsame ▸ hdt))
    by_cases hpatch : patch = ⟨none, none, none⟩
    · refine ⟨s, device.id, ?_, fun token => ?_, fun d hd => by rw [Option.some.inj hd], nofun⟩
      · rw [hcommit, commitPushToken, if_pos hpatch]
      · -- The row already is what the registration makes it.
        rw [← hupdate token, DeviceStore.deviceOfToken?_update, hpatch]
        have hid : (fun d : NotificationDevice =>
            if d.id = device.id then DevicePatch.apply ⟨none, none, none⟩ d else d) = id :=
          funext fun d => ite_id (c := d.id = device.id) d
        rw [hid, Option.map_id, id]
    · refine ⟨s.update device.id patch, device.id, ?_, hupdate, fun d hd => by
        rw [Option.some.inj hd], nofun⟩
      rw [hcommit, commitPushToken, if_neg hpatch, if_pos hkey]

end Coworking
