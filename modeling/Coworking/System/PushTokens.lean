import Coworking.Foundation.Interleaving
import Coworking.Services.PushToken
import Coworking.System.Operation

/-!
# The Registry of Push Tokens

What `notification_devices` is for: a registry that says, for each token, whose it is.  Registering
a token makes it the caller's; deleting a device ends its registration if it is the caller's.

- `Registry`, `RegistryStep`: the registry and its two operations, without tables;
- `registryStep_of_call`: a serial call is a step of the registry;
- `push_token_since`: the rows of a reached store are the registrations that still stand;
- `deviceRequests`: registrations and deletions that interleave;
- `push_tokens_refine_iff`: the interleavings that are runs of the registry in the order of their
  commits, exactly.
-/

namespace Coworking

open Foundation

variable {rt : Runtime} {c : Call} {s s' : DeviceStore} {token : String} {id : Uuid}
  {d : NotificationDevice}

/-! ## §1 The registry -/

structure Registration where
  device : Uuid
  userId : Uuid
  platform : String
  lastSeenAt : Instant
  deriving DecidableEq

/-- Who a token is registered to. -/
abbrev Registry := String → Option Registration

inductive RegistryOp
  | register (userId : Uuid) (platform pushToken : String) (now : Instant)
  | delete (userId device : Uuid)

/-- A registered token keeps its device; another one gets a device that is not in use. -/
inductive RegistryStep : Registry → RegistryOp → Registry → Prop
  | register {reg : Registry} {userId device : Uuid} {platform pushToken : String} {now : Instant} :
      (∀ r, reg pushToken = some r → r.device = device) →
      (reg pushToken = none → ∀ token r, reg token = some r → r.device ≠ device) →
      RegistryStep reg (.register userId platform pushToken now)
        (Function.update reg pushToken (some ⟨device, userId, platform, now⟩))
  | delete {reg : Registry} {userId device : Uuid} :
      RegistryStep reg (.delete userId device)
        fun token => (reg token).filter fun r => ¬ (r.device = device ∧ r.userId = userId)

/-- A row as the registration of its token. -/
def NotificationDevice.registration (d : NotificationDevice) : Registration :=
  ⟨d.id, d.userId, d.platform, d.lastSeenAt⟩

/-- The registry a table of devices stands for. -/
def DeviceStore.registry (s : DeviceStore) : Registry :=
  fun token => (s.deviceOfToken? token).map NotificationDevice.registration

theorem DeviceStore.registry_eq_some {r : Registration} :
    s.registry token = some r ↔ ∃ d, s.deviceOfToken? token = some d ∧ d.registration = r :=
  Option.map_eq_some_iff

theorem DeviceStore.registry_eq_none : s.registry token = none ↔ s.deviceOfToken? token = none :=
  Option.map_eq_none_iff

/-! ## §2 Serial calls -/

inductive DeviceOp
  | register (payload : PushTokenCreateRequest)
  | delete (deviceId : Uuid)

structure DeviceEvent where
  call : Call
  op : DeviceOp

/-- The store after a call; an exception leaves it as it was. -/
def deviceStep (rt : Runtime) (s : DeviceStore) (e : DeviceEvent) : DeviceStore :=
  match e.op with
  | .register payload =>
    match registerPushToken rt e.call s payload with
    | .ok r => r.1
    | .error _ => s
  | .delete deviceId => deletePushToken e.call s deviceId

/-- One atomic call. -/
def DeviceStep (rt : Runtime) (s : DeviceStore) (e : DeviceEvent) (s' : DeviceStore) : Prop :=
  s' = deviceStep rt s e

/-- Any calls are a run. -/
theorem deviceRun (s : DeviceStore) (es : List DeviceEvent) :
    Run (DeviceStep rt) s es (es.foldl (deviceStep rt) s) := by
  induction es generalizing s with
  | nil => exact .nil _
  | cons e es ih =>
    have hfirst : DeviceStep rt s e (deviceStep rt s e) := rfl
    exact (Run.single hfirst).append (ih _)

/-- What a call asks of the registry. -/
def DeviceEvent.registryOp (e : DeviceEvent) : RegistryOp :=
  match e.op with
  | .register payload =>
    .register e.call.user payload.platform payload.pushToken (e.call.now 0)
  | .delete deviceId => .delete e.call.user deviceId

/-- **A registration that nobody interrupts** succeeds, and answers with the row of its token. -/
theorem registerPushToken_spec (rt : Runtime) (c : Call) (s : DeviceStore)
    (payload : PushTokenCreateRequest) :
    ∃ s' id, commitPushToken rt s (checkPushToken c s payload) = .ok (s', id) ∧
      registerPushToken rt c s payload =
        .ok (s', ⟨id, payload.platform, payload.pushToken, c.now 0⟩) ∧
      RegistryStep s.registry (.register c.user payload.platform payload.pushToken (c.now 0))
        s'.registry ∧
      s'.deviceOfToken? payload.pushToken =
        some ⟨id, c.user, payload.platform, payload.pushToken, c.now 0⟩ := by
  obtain ⟨s', id, hcommit, hrows, hkept, hnew⟩ := commitPushToken_check rt c s payload
  have hrow := hrows payload.pushToken
  rw [if_pos rfl] at hrow
  have hget : s'.devices.get? id =
      some ⟨id, c.user, payload.platform, payload.pushToken, c.now 0⟩ :=
    Table.get?_eq_some.mpr ⟨(DeviceStore.deviceOfToken?_eq_some.mp hrow).1, rfl⟩
  refine ⟨s', id, hcommit, ?_, ?_, hrow⟩
  · rw [registerPushToken, hcommit]
    show (refreshPushToken s' id >>= _) = _
    rw [refreshPushToken, hget]
    rfl
  · have hregistry : s'.registry = Function.update s.registry payload.pushToken
        (some ⟨id, c.user, payload.platform, c.now 0⟩) := by
      funext token
      rw [DeviceStore.registry, hrows token, Function.update_apply]
      by_cases h : payload.pushToken = token
      · rw [if_pos h, if_pos h.symm]
        rfl
      · rw [if_neg h, if_neg (Ne.symm h)]
        rfl
    rw [hregistry]
    refine .register (fun r hr => ?_) fun hnone token r hr => ?_
    · obtain ⟨d, hd, rfl⟩ := DeviceStore.registry_eq_some.mp hr
      exact (hkept d hd).symm
    · -- The id of a new row is not that of any other.
      obtain ⟨d, hd, rfl⟩ := DeviceStore.registry_eq_some.mp hr
      rintro rfl
      exact (hnew (DeviceStore.registry_eq_none.mp hnone)).1
        (Table.mem_keys.mpr ⟨d, (DeviceStore.deviceOfToken?_eq_some.mp hd).1, rfl⟩)

/-- Deleting a row ends one registration. -/
theorem DeviceStore.registry_delete (s : DeviceStore) (id : Uuid) :
    (s.delete id).registry = fun token => (s.registry token).filter fun r => r.device ≠ id := by
  funext token
  rw [DeviceStore.registry, DeviceStore.registry, DeviceStore.deviceOfToken?_delete]
  cases s.deviceOfToken? token with
  | none => rfl
  | some d =>
    by_cases h : d.id = id <;> simp [Option.filter, NotificationDevice.registration, h]

/-- A deletion by its user ends the registration of a device. -/
theorem DeviceStore.filter_registry {user : Uuid}
    (h : ∀ d, s.devices.get? id = some d → d.userId = user) :
    (fun token => (s.registry token).filter fun r => r.device ≠ id) =
      fun token => (s.registry token).filter fun r => ¬ (r.device = id ∧ r.userId = user) := by
  funext token
  cases hr : s.registry token with
  | none => rfl
  | some r =>
    obtain ⟨d, hd, rfl⟩ := DeviceStore.registry_eq_some.mp hr
    have huser : d.id = id → d.userId = user := fun hid =>
      h d (Table.get?_eq_some.mpr ⟨(DeviceStore.deviceOfToken?_eq_some.mp hd).1, hid⟩)
    have hsame : decide (d.registration.device ≠ id) =
        decide (¬ (d.registration.device = id ∧ d.registration.userId = user)) :=
      decide_eq_decide.mpr (not_congr ⟨fun hid => ⟨hid, huser hid⟩, And.left⟩)
    rw [Option.filter_some, Option.filter_some, hsame]

/-- **A serial call is a step of the registry.** -/
theorem registryStep_of_call (rt : Runtime) (s : DeviceStore) (e : DeviceEvent) :
    RegistryStep s.registry e.registryOp (deviceStep rt s e).registry := by
  obtain ⟨c, op⟩ := e
  cases op with
  | register payload =>
    obtain ⟨s', id, -, hok, hstep, -⟩ := registerPushToken_spec rt c s payload
    simp only [deviceStep, hok]
    exact hstep
  | delete deviceId =>
    show RegistryStep s.registry (.delete c.user deviceId) (deletePushToken c s deviceId).registry
    unfold deletePushToken checkDeletePushToken
    cases hget : (s.devices.get? deviceId).filter (·.userId = c.user) with
    | some d =>
      obtain ⟨hd, huser⟩ := Option.filter_eq_some_iff.mp hget
      have hid : d.id = deviceId := Table.key_of_get? hd
      show RegistryStep s.registry _ (s.delete d.id).registry
      have hown : ∀ d', s.devices.get? deviceId = some d' → d'.userId = c.user := by
        intro d' hd'
        rw [← Option.mem_unique hd hd']
        exact of_decide_eq_true huser
      rw [hid, DeviceStore.registry_delete, DeviceStore.filter_registry hown]
      exact .delete
    | none =>
      -- There is no such registration to end.
      have hsame : s.registry = fun token => (s.registry token).filter fun r =>
          ¬ (r.device = deviceId ∧ r.userId = c.user) := by
        funext token
        cases hr : s.registry token with
        | none => rfl
        | some r =>
          obtain ⟨d, hd, rfl⟩ := DeviceStore.registry_eq_some.mp hr
          have hnot : ¬ (d.registration.device = deviceId ∧ d.registration.userId = c.user) := by
            rintro ⟨hid, huser⟩
            have hd' : s.devices.get? deviceId = some d :=
              Table.get?_eq_some.mpr ⟨(DeviceStore.deviceOfToken?_eq_some.mp hd).1, hid⟩
            have hown : d.userId = c.user := huser
            rw [hd', Option.filter_some, if_pos (decide_eq_true hown)] at hget
            cases hget
          rw [Option.filter_some, if_pos (decide_eq_true hnot)]
      have hstep : RegistryStep s.registry (.delete c.user deviceId) _ := .delete
      rw [← hsame] at hstep
      exact hstep

/-! ## §3 The registrations that stand -/

/-- The call registered the token of the row as the row says and answered with its id, which is
that of the device the token had before. -/
structure Registers (rt : Runtime) (d : NotificationDevice) (s : DeviceStore) (e : DeviceEvent)
    (_s' : DeviceStore) : Prop where
  answer : ∃ payload s₁ response, e.op = .register payload ∧ payload.pushToken = d.pushToken ∧
    payload.platform = d.platform ∧
    registerPushToken rt e.call s payload = .ok (s₁, response) ∧ response.id = d.id
  user : e.call.user = d.userId
  lastSeenAt : e.call.now 0 = d.lastSeenAt
  device : ∀ d', s.deviceOfToken? d.pushToken = some d' → d'.id = d.id

/-- The call registers the token of the row once more, or is its owner's deletion. -/
def Supersedes (d : NotificationDevice) (_s : DeviceStore) (e : DeviceEvent)
    (_s' : DeviceStore) : Prop :=
  (∃ payload, e.op = .register payload ∧ payload.pushToken = d.pushToken) ∨
    e.op = .delete d.id ∧ e.call.user = d.userId

theorem DeviceStore.registry_eq_registration (hmem : d ∈ s.devices) :
    s.registry d.pushToken = some d.registration :=
  DeviceStore.registry_eq_some.mpr ⟨d, DeviceStore.deviceOfToken?_eq_some.mpr ⟨hmem, rfl⟩, rfl⟩

/-- A row is the registration of its token. -/
theorem DeviceStore.mem_of_registry (h : s.registry d.pushToken = some d.registration) :
    d ∈ s.devices := by
  obtain ⟨d', hd', hr⟩ := DeviceStore.registry_eq_some.mp h
  obtain ⟨hmem, htoken⟩ := DeviceStore.deviceOfToken?_eq_some.mp hd'
  obtain rfl : d' = d := by
    obtain ⟨id, userId, platform, pushToken, lastSeenAt⟩ := d
    obtain ⟨rfl, rfl, rfl, rfl⟩ := Registration.mk.inj hr
    obtain rfl : d'.pushToken = pushToken := htoken
    rfl
  exact hmem

/-- The row that a registration answers with is stored, and is the only one of its token. -/
theorem DeviceStep.registered {c : Call} {payload : PushTokenCreateRequest}
    (h : DeviceStep rt s ⟨c, .register payload⟩ s') :
    ∃ id, registerPushToken rt c s payload =
        .ok (s', ⟨id, payload.platform, payload.pushToken, c.now 0⟩) ∧
      s'.deviceOfToken? payload.pushToken =
        some ⟨id, c.user, payload.platform, payload.pushToken, c.now 0⟩ := by
  obtain ⟨s₁, id, -, hok, -, hrow⟩ := registerPushToken_spec rt c s payload
  have hs : s' = s₁ := by
    rw [DeviceStep, deviceStep] at h
    dsimp only at h
    rw [h, hok]
  subst hs
  exact ⟨id, hok, hrow⟩

/-- The row of a registration is stored. -/
theorem Registers.stored {e : DeviceEvent} (hevent : Registers rt d s e s')
    (h : DeviceStep rt s e s') : d ∈ s'.devices := by
  obtain ⟨c, op⟩ := e
  obtain ⟨payload, s₁, response, rfl, htoken, hplatform, hanswer, hsame⟩ := hevent.answer
  obtain ⟨id, hok, hrow⟩ := h.registered
  obtain ⟨-, rfl⟩ := Prod.mk.inj (Except.ok.inj (hok.symm.trans hanswer))
  have hid : id = d.id := hsame
  have huser : c.user = d.userId := hevent.user
  have hnow : c.now 0 = d.lastSeenAt := hevent.lastSeenAt
  rw [hid, huser, hplatform, htoken, hnow] at hrow
  exact (DeviceStore.deviceOfToken?_eq_some.mp hrow).1

/-- **One call and one row.**  A row that is there after the call was registered by it, or was
there and has not been superseded. -/
theorem registered_step {e : DeviceEvent} (h : DeviceStep rt s e s') (hmem : d ∈ s'.devices) :
    Registers rt d s e s' ∨ d ∈ s.devices ∧ ¬ Supersedes d s e s' := by
  have hstep := registryStep_of_call rt s e
  rw [← h] at hstep
  have hreg := DeviceStore.registry_eq_registration hmem
  obtain ⟨c, op⟩ := e
  cases op with
  | register payload =>
    have hrows := h.registered
    generalize hr : s'.registry = reg at hstep hreg
    cases hstep with
    | register hkept _ =>
      rw [Function.update_apply] at hreg
      by_cases htoken : d.pushToken = payload.pushToken
      · rw [if_pos htoken] at hreg
        obtain ⟨hid, huser, -, -⟩ := Registration.mk.inj (Option.some.inj hreg)
        obtain ⟨id, hok, hrow⟩ := hrows
        -- There is one row of the token, which the call has answered with.
        have hd : s'.deviceOfToken? payload.pushToken = some d :=
          DeviceStore.deviceOfToken?_eq_some.mpr ⟨hmem, htoken⟩
        obtain rfl := Option.mem_unique hrow hd
        refine .inl ⟨⟨payload, s', _, rfl, rfl, rfl, hok, rfl⟩, rfl, rfl, fun d' hd' => ?_⟩
        exact (hkept _ (DeviceStore.registry_eq_some.mpr ⟨d', hd', rfl⟩)).trans hid
      · rw [if_neg htoken] at hreg
        refine .inr ⟨DeviceStore.mem_of_registry hreg, ?_⟩
        rintro (⟨payload', ⟨⟩, htoken'⟩ | ⟨⟨⟩, -⟩)
        exact htoken htoken'.symm
  | delete deviceId =>
    generalize hr : s'.registry = reg at hstep hreg
    cases hstep with
    | delete =>
      obtain ⟨hbefore, hnot⟩ := Option.filter_eq_some_iff.mp hreg
      refine .inr ⟨DeviceStore.mem_of_registry hbefore, ?_⟩
      rintro (⟨payload', ⟨⟩, -⟩ | ⟨⟨⟩, huser⟩)
      exact of_decide_eq_true hnot ⟨rfl, huser.symm⟩

/-- A row that is not superseded stays. -/
theorem registered_keeps {e : DeviceEvent} (h : DeviceStep rt s e s') (hmem : d ∈ s.devices)
    (hnot : ¬ Supersedes d s e s') : d ∈ s'.devices := by
  have hstep := registryStep_of_call rt s e
  rw [← h] at hstep
  have hreg := DeviceStore.registry_eq_registration hmem
  refine DeviceStore.mem_of_registry ?_
  obtain ⟨c, op⟩ := e
  cases op with
  | register payload =>
    generalize s'.registry = reg at hstep ⊢
    cases hstep with
    | register =>
      have hne : d.pushToken ≠ payload.pushToken := fun htoken =>
        hnot (.inl ⟨payload, rfl, htoken.symm⟩)
      rw [Function.update_of_ne hne]
      exact hreg
  | delete deviceId =>
    generalize s'.registry = reg at hstep ⊢
    cases hstep with
    | delete =>
      have hother : ¬ (d.registration.device = deviceId ∧ d.registration.userId = c.user) := by
        rintro ⟨hid, huser⟩
        exact hnot (.inr ⟨congrArg DeviceOp.delete hid.symm, huser.symm⟩)
      show (s.registry d.pushToken).filter _ = some d.registration
      rw [hreg, Option.filter_some, if_pos (decide_eq_true hother)]

/-- **The rows are the registrations that stand.**  In every store reached from an empty one, a row
says that its user registered its token on its platform at its time and was answered with its id,
and that since then nobody registered the token again, nor did the user delete the device; and
every such registration has its row. -/
theorem push_token_since {s t : DeviceStore} {es : List DeviceEvent}
    (hempty : ∀ d, d ∉ s.devices) (hrun : Run (DeviceStep rt) s es t) (d : NotificationDevice) :
    d ∈ t.devices ↔ Since (DeviceStep rt) (Registers rt d) (Supersedes d) s es t := by
  constructor
  · exact fun hmem => hrun.since (P := fun s => d ∈ s.devices)
      (fun _ _ _ _ h hmem => registered_step h hmem) (hempty d) hmem
  · rintro ⟨es₁, e, es₂, u, v, -, -, hstep, hevent, hrest⟩
    exact hrest.invariant (I := fun s => d ∈ s.devices)
      (fun _ _ _ hmem hstep => registered_keeps hstep.1 hmem hstep.2) (hevent.stored hstep)

/-! ## §4 Requests -/

/-- What a request is about to write. -/
inductive DeviceDraft
  | register (d : PushTokenDraft)
  | delete (id : Uuid)

/-- The reading half of a request; a deletion that finds nothing has nothing to write. -/
def DeviceEvent.check (e : DeviceEvent) (s : DeviceStore) : Option DeviceDraft :=
  match e.op with
  | .register payload => some (.register (checkPushToken e.call s payload))
  | .delete deviceId => (checkDeletePushToken e.call s deviceId).map .delete

/-- The writing half. -/
def DeviceDraft.commit (rt : Runtime) (s : DeviceStore) :
    DeviceDraft → Except PushTokenError DeviceStore
  | .register d => Prod.fst <$> commitPushToken rt s d
  | .delete id => .ok (s.delete id)

/-- Registrations and deletions, with other requests between their read and their commit. -/
def deviceRequests (rt : Runtime) : Protocol DeviceStore DeviceEvent DeviceDraft where
  reads := fun s e d s' => e.check s = some d ∧ s' = s
  commits := fun s _ d s' => d.commit rt s = .ok s'

/-- A serial call is the two halves in a row. -/
theorem deviceStep_halves (rt : Runtime) (s : DeviceStore) (e : DeviceEvent) :
    .ok (deviceStep rt s e) = (e.check s).elim (.ok s) (DeviceDraft.commit rt s) := by
  obtain ⟨c, op⟩ := e
  cases op with
  | register payload =>
    obtain ⟨s', id, hcommit, hok, -⟩ := registerPushToken_spec rt c s payload
    show Except.ok (deviceStep rt s ⟨c, .register payload⟩) =
      Prod.fst <$> commitPushToken rt s (checkPushToken c s payload)
    -- The answer does not change what has been committed.
    simp only [deviceStep, hok, hcommit]
    rfl
  | delete deviceId =>
    show Except.ok (deletePushToken c s deviceId) =
      ((checkDeletePushToken c s deviceId).map DeviceDraft.delete).elim _ _
    unfold deletePushToken
    cases checkDeletePushToken c s deviceId <;> rfl

abbrev DeviceTicket := Ticket DeviceStore DeviceEvent DeviceDraft

abbrev DeviceConfig := Config DeviceStore DeviceEvent DeviceDraft

abbrev DeviceMove := Move DeviceStore DeviceEvent DeviceDraft

variable {x y : DeviceStore} {t : DeviceTicket} {k k' : DeviceConfig} {m : DeviceMove}

/-- A row keeps its token, and an id whose row is gone is not drawn again. -/
structure KeepsDevices (s s' : DeviceStore) : Prop where
  tokens : ∀ id d d', s.devices.get? id = some d → s'.devices.get? id = some d' →
    d'.pushToken = d.pushToken
  keys : ∀ id ∈ s.devices.keys, id ∈ s'.devices.keys ∨ id ∈ s'.retired
  retired : ∀ id ∈ s.retired, id ∈ s'.retired

theorem KeepsDevices.refl (s : DeviceStore) : KeepsDevices s s where
  tokens := fun _ _ _ h h' => by rw [Option.mem_unique h h']
  keys := fun _ => .inl
  retired := fun _ h => h

theorem KeepsDevices.trans {s t u : DeviceStore} (h₁ : KeepsDevices s t)
    (h₂ : KeepsDevices t u) : KeepsDevices s u where
  tokens := fun id d d'' hd hd'' => by
    have hkey : id ∈ s.devices.keys := Table.mem_keys.mpr ⟨d, Table.get?_eq_some.mp hd⟩
    rcases h₁.keys id hkey with hmem | hretired
    · obtain ⟨d', hd'⟩ := Table.mem_keys.mp hmem
      have hget := Table.get?_eq_some.mpr hd'
      exact (h₂.tokens id d' d'' hget hd'').trans (h₁.tokens id d d' hd hget)
    · -- A retired id has no row.
      exact absurd (Table.mem_keys.mpr ⟨d'', Table.get?_eq_some.mp hd''⟩)
        (u.retired_notMem id (h₂.retired id hretired))
  keys := fun id hid => by
    rcases h₁.keys id hid with hmem | hretired
    · exact h₂.keys id hmem
    · exact .inr (h₂.retired id hretired)
  retired := fun id hid => h₂.retired id (h₁.retired id hid)

theorem keepsDevices_update (s : DeviceStore) (id : Uuid) (p : DevicePatch) :
    KeepsDevices s (s.update id p) where
  tokens := fun k d d' hd hd' => by
    have hget : (s.devices.modify id p.apply p.apply_key).get? k = some d' := hd'
    rw [Table.get?_modify, hd, Option.map_some, Option.some.injEq] at hget
    rw [← hget]
    split
    · exact p.apply_pushToken d
    · rfl
  keys := fun k hk => by
    have hsame : (s.devices.modify id p.apply p.apply_key).keys = s.devices.keys :=
      Table.keys_modify
    exact .inl (hsame.symm ▸ hk)
  retired := fun _ h => h

theorem keepsDevices_insert (hid : d.id ∉ s.devices.keys ∧ d.id ∉ s.retired)
    (htoken : d.pushToken ∉ s.devices.rows.map fun d => d.pushToken) :
    KeepsDevices s (s.insert d hid htoken) where
  tokens := fun k e e' he he' => by
    have hget : (s.insert d hid htoken).devices.get? k = some e :=
      Table.get?_insert_of_some hid.1 he
    rw [Option.mem_unique hget he']
  keys := fun k hk => by
    have hmem : k ∈ (s.devices.insert d hid.1).keys := Table.mem_keys_insert.mpr (.inl hk)
    exact .inl hmem
  retired := fun _ h => h

theorem keepsDevices_delete (s : DeviceStore) (id : Uuid) : KeepsDevices s (s.delete id) where
  tokens := fun k d d' hd hd' => by
    obtain ⟨hmem', hkey'⟩ := Table.get?_eq_some.mp hd'
    obtain ⟨hmem, hkey⟩ := Table.get?_eq_some.mp hd
    rw [Table.key_injective hmem (List.mem_filter.mp hmem').1 (hkey.trans hkey'.symm)]
  keys := fun k hk => by
    by_cases hid : k = id
    · exact .inr (hid ▸ List.mem_cons_self)
    · obtain ⟨d, hd, rfl⟩ := Table.mem_keys.mp hk
      exact .inl (Table.mem_keys.mpr ⟨d, List.mem_filter.mpr ⟨hd, decide_eq_true hid⟩, rfl⟩)
  retired := fun _ h => List.mem_cons_of_mem id h

theorem DeviceDraft.commit_keeps {p : DeviceDraft} (h : p.commit rt x = .ok y) :
    KeepsDevices x y := by
  cases p with
  | delete id =>
    rw [← Except.ok.inj h]
    exact keepsDevices_delete x id
  | register p =>
    obtain ⟨⟨y', id⟩, hcommit, rfl⟩ := (map_eq_ok _ _ _).mp h
    cases p with
    | insert userId platform pushToken lastSeenAt =>
      rw [commitPushToken] at hcommit
      split at hcommit
      · cases hcommit
      next hnew =>
        rw [← (Prod.mk.inj (Except.ok.inj hcommit)).1]
        exact keepsDevices_insert (x.freshId_notMem rt) hnew
    | update id patch =>
      rw [commitPushToken] at hcommit
      split at hcommit
      · rw [← (Prod.mk.inj (Except.ok.inj hcommit)).1]
        exact .refl x
      · split at hcommit
        · rw [← (Prod.mk.inj (Except.ok.inj hcommit)).1]
          exact keepsDevices_update x _ _
        · cases hcommit

/-- A ticket whose rows have kept their tokens. -/
abbrev StandingDevice (rt : Runtime) (t : DeviceTicket) (s : DeviceStore) : Prop :=
  (deviceRequests rt).Standing KeepsDevices t s

theorem standingDevice_step (h : (deviceRequests rt).AllStanding KeepsDevices k)
    (hstep : (deviceRequests rt).Step k m k') :
    (deviceRequests rt).AllStanding KeepsDevices k' :=
  Protocol.allStanding_step KeepsDevices.refl (fun _ _ _ => KeepsDevices.trans)
    (fun _ _ _ _ hread => hread.2 ▸ .refl _) (fun _ t _ _ hcommit => t.plan.commit_keeps hcommit)
    h hstep

theorem StandingDevice.check (h : StandingDevice rt t s) : t.request.check t.seen = some t.plan := by
  obtain ⟨s₀, hread, -⟩ := h
  exact hread.1

theorem StandingDevice.keeps (h : StandingDevice rt t s) : KeepsDevices t.seen s := by
  obtain ⟨s₀, hread, hlater⟩ := h
  exact hread.2 ▸ hlater

/-! ## §5 Interleavings -/

/-- A commit is the step of the registry that its request asks for; no other move is one. -/
def RefinesRegistry (k : DeviceConfig) (m : DeviceMove) (k' : DeviceConfig) : Prop :=
  match m with
  | .commit t => RegistryStep k.shared.registry t.request.registryOp k'.shared.registry
  | .read _ | .abort _ => k'.shared.registry = k.shared.registry

/-- The columns of a row that a registration leaves out have the values it wants. -/
structure LeavesRight (c : Call) (payload : PushTokenCreateRequest) (loaded current :
    NotificationDevice) : Prop where
  user : loaded.userId = c.user → current.userId = c.user
  platform : loaded.platform = payload.platform → current.platform = payload.platform
  lastSeenAt : loaded.lastSeenAt = c.now 0 → current.lastSeenAt = c.now 0

/-- A registration that commits over a row finds right what it does not write, and a deletion
finds the device still its user's, if it is there. -/
structure FindsDevice (k : DeviceConfig) (m : DeviceMove) : Prop where
  register : ∀ t payload loaded, m = .commit t → t.request.op = .register payload →
    t.seen.deviceOfToken? payload.pushToken = some loaded →
    ∃ current, k.shared.deviceOfToken? payload.pushToken = some current ∧
      LeavesRight t.request.call payload loaded current
  delete : ∀ t deviceId current, m = .commit t → t.request.op = .delete deviceId →
    k.shared.devices.get? deviceId = some current → current.userId = t.request.call.user

theorem registryStep_register_iff {reg reg' : Registry} {userId : Uuid} {platform pushToken : String}
    {now : Instant} :
    RegistryStep reg (.register userId platform pushToken now) reg' ↔
      ∃ device, (∀ r, reg pushToken = some r → r.device = device) ∧
        (reg pushToken = none → ∀ token r, reg token = some r → r.device ≠ device) ∧
        reg' = Function.update reg pushToken (some ⟨device, userId, platform, now⟩) := by
  constructor
  · intro h
    cases h with
    | register hkept hnew => exact ⟨_, hkept, hnew, rfl⟩
  · rintro ⟨device, hkept, hnew, rfl⟩
    exact .register hkept hnew

theorem registryStep_delete_iff {reg reg' : Registry} {userId device : Uuid} :
    RegistryStep reg (.delete userId device) reg' ↔
      reg' = fun token => (reg token).filter fun r => ¬ (r.device = device ∧ r.userId = userId) := by
  constructor
  · intro h
    cases h
    rfl
  · rintro rfl
    exact .delete

/-- Over the current value of a column, a write that was left out is right if that value is. -/
theorem dirty_getD_iff {α : Type} [DecidableEq α] {loaded new current : α} :
    (dirty loaded new).getD current = new ↔ (loaded = new → current = new) := by
  by_cases h : loaded = new
  · simp [dirty, h]
  · simp [dirty, h]

/-- The row of a token is written, and is the registration that was asked for. -/
theorem registryStep_of_row {reg : Registry} {userId : Uuid} {platform pushToken : String}
    {now : Instant} {r r' : Registration} (hr : reg pushToken = some r)
    (hdevice : r'.device = r.device) :
    RegistryStep reg (.register userId platform pushToken now)
        (Function.update reg pushToken (some r')) ↔
      r'.userId = userId ∧ r'.platform = platform ∧ r'.lastSeenAt = now := by
  rw [registryStep_register_iff]
  constructor
  · rintro ⟨device, -, -, hreg⟩
    have hrow := congrFun hreg pushToken
    rw [Function.update_self, Function.update_self, Option.some.injEq] at hrow
    rw [hrow]
    exact ⟨rfl, rfl, rfl⟩
  · rintro ⟨rfl, rfl, rfl⟩
    refine ⟨r'.device, fun q hq => ?_, fun hnone => (nomatch hr.symm.trans hnone), rfl⟩
    rw [← Option.mem_unique hr hq, hdevice]

/-- A registration that has seen no row of its token adds one. -/
theorem refines_insert {userId : Uuid} {platform pushToken : String} {now : Instant}
    (hcommit : (DeviceDraft.register (.insert userId platform pushToken now)).commit rt x = .ok y) :
    RegistryStep x.registry (.register userId platform pushToken now) y.registry := by
  obtain ⟨⟨y', id⟩, hok, rfl⟩ := (map_eq_ok _ _ _).mp hcommit
  rw [commitPushToken] at hok
  split at hok
  · cases hok
  next hnew =>
    obtain ⟨rfl, rfl⟩ := Prod.mk.inj (Except.ok.inj hok)
    refine registryStep_register_iff.mpr ⟨x.freshId rt, fun r hr => ?_, fun _ token r hr => ?_, ?_⟩
    · rw [DeviceStore.registry_eq_none.mpr (DeviceStore.deviceOfToken?_eq_none.mpr hnew)] at hr
      cases hr
    · obtain ⟨d, hd, rfl⟩ := DeviceStore.registry_eq_some.mp hr
      rintro hid
      exact (x.freshId_notMem rt).1
        (Table.mem_keys.mpr ⟨d, (DeviceStore.deviceOfToken?_eq_some.mp hd).1, hid⟩)
    · funext token
      rw [DeviceStore.registry, DeviceStore.deviceOfToken?_insert, Function.update_apply]
      by_cases h : pushToken = token
      · rw [if_pos h, if_pos h.symm]
        rfl
      · rw [if_neg h, if_neg (Ne.symm h)]
        rfl

/-- The registry after the row of a token has been rewritten. -/
theorem DeviceStore.registry_update {p : DevicePatch} (h : s.deviceOfToken? token = some d) :
    (s.update d.id p).registry =
      Function.update s.registry token (some (p.apply d).registration) := by
  obtain ⟨hmem, htoken⟩ := DeviceStore.deviceOfToken?_eq_some.mp h
  funext other
  rw [DeviceStore.registry, DeviceStore.deviceOfToken?_update, Function.update_apply]
  by_cases hother : other = token
  · rw [if_pos hother, hother, h, Option.map_some, if_pos rfl, Option.map_some]
  · rw [if_neg hother, DeviceStore.registry]
    cases hd : s.deviceOfToken? other with
    | none => rfl
    | some e =>
      obtain ⟨he, htoken'⟩ := DeviceStore.deviceOfToken?_eq_some.mp hd
      rw [Option.map_some, if_neg]
      intro hid
      have hsame : e = d := Table.key_injective he hmem hid
      exact hother (htoken'.symm.trans (hsame ▸ htoken))

/-- A registration that has seen a row of its token updates that row, or finds nothing to write. -/
theorem refines_update_iff {c : Call} {payload : PushTokenCreateRequest}
    {seen : DeviceStore} {loaded : NotificationDevice} (hkeep : KeepsDevices seen x)
    (hloaded : seen.deviceOfToken? payload.pushToken = some loaded)
    (hcommit : (DeviceDraft.register (checkPushToken c seen payload)).commit rt x = .ok y) :
    RegistryStep x.registry (.register c.user payload.platform payload.pushToken (c.now 0))
        y.registry ↔
      ∃ current, x.deviceOfToken? payload.pushToken = some current ∧
        LeavesRight c payload loaded current := by
  obtain ⟨hmem, htoken⟩ := DeviceStore.deviceOfToken?_eq_some.mp hloaded
  obtain ⟨⟨y', id⟩, hok, rfl⟩ := (map_eq_ok _ _ _).mp hcommit
  rw [checkPushToken, hloaded] at hok
  dsimp only at hok
  rw [commitPushToken] at hok
  split at hok
  next hpatch =>
    -- Nothing to write: the row of the token has to be right as it is.
    obtain ⟨rfl, -⟩ := Prod.mk.inj (Except.ok.inj hok)
    obtain ⟨huser, hplatform, hnow⟩ := DevicePatch.mk.inj hpatch
    have hsame : ∀ {α : Type} [DecidableEq α] {a b : α}, dirty a b = none → a = b := by
      intro α _ a b h
      by_contra hne
      rw [dirty, if_neg hne] at h
      cases h
    constructor
    · intro h
      obtain ⟨device, -, -, hreg⟩ := registryStep_register_iff.mp h
      have hrow := congrFun hreg payload.pushToken
      rw [Function.update_self] at hrow
      obtain ⟨current, hcurrent, hr⟩ := DeviceStore.registry_eq_some.mp hrow
      obtain ⟨-, hu, hp, hn⟩ := Registration.mk.inj hr
      exact ⟨current, hcurrent, fun _ => hu, fun _ => hp, fun _ => hn⟩
    · rintro ⟨current, hcurrent, hright⟩
      have hrow := DeviceStore.registry_eq_some.mpr ⟨current, hcurrent, rfl⟩
      have hstep := (registryStep_of_row hrow rfl).mpr
        ⟨hright.user (hsame huser), hright.platform (hsame hplatform),
          hright.lastSeenAt (hsame hnow)⟩
      rw [← hrow, Function.update_eq_self] at hstep
      exact hstep
  next hpatch =>
    split at hok
    next hkey =>
      obtain ⟨rfl, -⟩ := Prod.mk.inj (Except.ok.inj hok)
      obtain ⟨current, hcur, hid⟩ := Table.mem_keys.mp hkey
      have hid' : current.id = loaded.id := hid
      have hcurrent : x.deviceOfToken? payload.pushToken = some current := by
        refine DeviceStore.deviceOfToken?_eq_some.mpr ⟨hcur, ?_⟩
        exact (hkeep.tokens loaded.id loaded current (Table.get?_of_mem hmem)
          (Table.get?_eq_some.mpr ⟨hcur, hid⟩)).trans htoken
      have hrow := DeviceStore.registry_eq_some.mpr ⟨current, hcurrent, rfl⟩
      rw [← hid', DeviceStore.registry_update hcurrent]
      refine (registryStep_of_row hrow ?_).trans ?_
      · rfl
      show (dirty _ _).getD _ = _ ∧ (dirty _ _).getD _ = _ ∧ (dirty _ _).getD _ = _ ↔ _
      rw [dirty_getD_iff, dirty_getD_iff, dirty_getD_iff]
      constructor
      · rintro ⟨hu, hp, hn⟩
        exact ⟨current, hcurrent, hu, hp, hn⟩
      · rintro ⟨current', hcurrent', hright⟩
        obtain rfl := Option.mem_unique hcurrent hcurrent'
        exact ⟨hright.user, hright.platform, hright.lastSeenAt⟩
    · cases hok

/-- A deletion ends the registration of its device, whoever's that is. -/
theorem refines_delete_iff {user : Uuid} :
    RegistryStep x.registry (.delete user id) (x.delete id).registry ↔
      ∀ d, x.devices.get? id = some d → d.userId = user := by
  rw [registryStep_delete_iff, DeviceStore.registry_delete]
  refine ⟨fun h d hget => ?_, DeviceStore.filter_registry⟩
  obtain ⟨hmem, hid⟩ := Table.get?_eq_some.mp hget
  have hrow := congrFun h d.pushToken
  have hdevice : d.registration.device = id := hid
  rw [DeviceStore.registry_eq_registration hmem, Option.filter_some, Option.filter_some,
    if_neg (by simp [hdevice])] at hrow
  by_contra hne
  have hother : ¬ (d.registration.device = id ∧ d.registration.userId = user) := fun h => hne h.2
  rw [if_pos (decide_eq_true hother)] at hrow
  cases hrow

/-- **One move.** -/
theorem refines_step (hstanding : (deviceRequests rt).AllStanding KeepsDevices k)
    (hstep : (deviceRequests rt).Step k m k') : RefinesRegistry k m k' ↔ FindsDevice k m := by
  cases hstep with
  | @read x y q l r p hread =>
    obtain rfl : y = x := hread.2
    exact ⟨fun _ => ⟨fun _ _ _ => nofun, fun _ _ _ => nofun⟩, fun _ => rfl⟩
  | abort => exact ⟨fun _ => ⟨fun _ _ _ => nofun, fun _ _ _ => nofun⟩, fun _ => rfl⟩
  | @commit x y q₁ q₂ l t hcommit =>
    have ht : StandingDevice rt t x := hstanding.inFlight
    have hcheck := ht.check
    have hkeep := ht.keeps
    have hcommit : t.plan.commit rt x = .ok y := hcommit
    clear ht hstanding
    obtain ⟨⟨c, op⟩, seen, plan⟩ := t
    show RegistryStep x.registry (DeviceEvent.registryOp ⟨c, op⟩) y.registry ↔ _
    cases op with
    | register payload =>
      have hplan : DeviceDraft.register (checkPushToken c seen payload) = plan :=
        Option.some.inj hcheck
      subst hplan
      cases hseen : seen.deviceOfToken? payload.pushToken with
      | none =>
        -- The insertion commits only if the token still has no row.
        have hplan : checkPushToken c seen payload =
            .insert c.user payload.platform payload.pushToken (c.now 0) := by
          rw [checkPushToken, hseen]
        have hcommit' : (DeviceDraft.register (checkPushToken c seen payload)).commit rt x =
            .ok y := hcommit
        rw [hplan] at hcommit'
        refine iff_of_true (refines_insert hcommit') ⟨?_, ?_⟩
        · rintro _ _ loaded ⟨⟩ ⟨⟩ hloaded
          cases hseen.symm.trans hloaded
        · rintro _ _ _ ⟨⟩ ⟨⟩
      | some loaded =>
        -- Only the columns that differ from the loaded row are written.
        refine (refines_update_iff hkeep hseen hcommit).trans ⟨fun h => ⟨?_, ?_⟩, fun h => ?_⟩
        · rintro _ _ loaded' ⟨⟩ ⟨⟩ hloaded
          rw [← Option.mem_unique hseen hloaded]
          exact h
        · rintro _ _ _ ⟨⟩ ⟨⟩
        · exact h.register _ payload loaded rfl rfl hseen
    | delete deviceId =>
      obtain ⟨id, hid, rfl⟩ := Option.map_eq_some_iff.mp hcheck
      obtain ⟨d, hd, rfl⟩ := Option.map_eq_some_iff.mp hid
      have hkey : d.id = deviceId := Table.key_of_get? (Option.filter_eq_some_iff.mp hd).1
      have hy : x.delete d.id = y := Except.ok.inj hcommit
      rw [← hy, hkey]
      refine refines_delete_iff.trans ⟨fun h => ⟨?_, ?_⟩, fun h d => ?_⟩
      · rintro _ _ _ ⟨⟩ ⟨⟩
      · rintro _ _ current ⟨⟩ ⟨⟩ hget
        exact h current hget
      · exact h.delete _ deviceId d rfl rfl

/-- **The registry under concurrency.**  Let registrations and deletions interleave.  The table is,
commit by commit, the registry that the committed requests ask for, in the order of their commits,
if and only if each registration that commits over a row it has loaded finds right the columns it
leaves out, and each deletion that commits finds the device, if it is there, still its user's. -/
theorem push_tokens_refine_iff {s : DeviceStore} {k : DeviceConfig} {ms : List DeviceMove} :
    Run (fun k m k' => (deviceRequests rt).Step k m k' ∧ RefinesRegistry k m k') (.start s) ms k ↔
      Run (Guarded FindsDevice (deviceRequests rt).Step) (.start s) ms k :=
  Run.related_iff_guarded (fun _ _ _ => refines_step) (fun _ _ _ => standingDevice_step)
    (Protocol.allStanding_start s)

/-! ## §6 One device -/

/-- No device is known. -/
def noDevices : DeviceStore where
  devices := .empty
  tokensNodup := List.nodup_nil
  retired := []
  retired_notMem := nofun

/-- A phone. -/
def phone : PushTokenCreateRequest where
  platform := "ios"
  platform_length := by decide
  pushToken := "token-01"
  pushToken_length := by decide

/-- User 7 registers the phone, user 8 does so too, and user 7 deletes the device. -/
def phoneEvents : List DeviceEvent :=
  [⟨.plain 7 0, .register phone⟩, ⟨.plain 8 1, .register phone⟩, ⟨.plain 7 2, .delete 1⟩]

/-- The phone is user 8's. -/
theorem push_token_since_phone :
    Since (DeviceStep .plain) (Registers .plain ⟨1, 8, "ios", "token-01", 1⟩)
      (Supersedes ⟨1, 8, "ios", "token-01", 1⟩) noDevices phoneEvents
      (phoneEvents.foldl (deviceStep .plain) noDevices) := by
  have hrun : Run (DeviceStep .plain) noDevices phoneEvents
      (phoneEvents.foldl (deviceStep .plain) noDevices) := deviceRun _ _
  have hrows : (phoneEvents.foldl (deviceStep .plain) noDevices).devices.rows =
      [⟨1, 8, "ios", "token-01", 1⟩] := by decide +kernel
  refine (push_token_since (fun _ => (Table.mem_empty _).mp) hrun _).mp ?_
  rw [Table.mem_def, hrows]
  exact List.mem_singleton_self _

end Coworking
