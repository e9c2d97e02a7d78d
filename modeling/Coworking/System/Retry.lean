import Coworking.System.Competition
import Coworking.System.LayoutUpdate

/-!
# Retries

A client that does not see the answer to a request sends it again.  Nothing in a request tells the
service that it has been granted already, so what a retry does depends on what the first call has
left behind: its own booking in the way, a hold that has run out, one more payment to take.

- `Op.Repeats`: the requests that a retry carries out a second time, and when;
- `hold_again_iff`, `move_again_iff`, `refund_again_iff`: the ones where it depends;
- `retry_unchanged_iff`: every other retry leaves the store as the first call left it.
-/

namespace Coworking

open Foundation

variable {rt : Runtime} {c c' : Call} {s s' s'' : Store} {op : Op}

/-! ## §1 Requests that repeat themselves -/

/-- After the operation is granted to `c` in the store, the same operation of `c'` is carried out
again. -/
def Op.Repeats (rt : Runtime) (c c' : Call) (s : Store) : Op → Prop
  -- The hold has run out, and the window could have been held all the same.
  | .createHold payload => (∃ d, checkHold rt c s payload = .ok d ∧ d.expiresAt ≤ c'.now 1) ∧
      Returns (exec rt c' s (.createHold payload))
  -- The new window is still open: a booking is not in its own way.
  | .rescheduleBooking bookingId payload =>
    Returns (exec rt c' s (.rescheduleBooking bookingId payload))
  | .createPayment _ => True
  -- The amount is named, and can be taken off twice.
  | .refundPayment paymentId payload => ∃ n t, payload.amountCents = some n ∧ n ≠ 0 ∧
      s.transactions.get? paymentId = some t ∧ 2 * n ≤ t.amountCents - t.refundedCents
  | .createVenue _ => True
  -- The row records the time of its last update.
  | .updateNotificationPreferences _ => c'.now 0 ≠ c.now 0
  | _ => False

theorem step_eq_self_iff {e : Event} :
    step rt s e = s ↔ ∀ s', exec rt e.call s e.op = .ok s' → s' = s := by
  unfold step
  cases exec rt e.call s e.op with
  | ok s' => simp
  | error e => simp

/-- A call that changes the store whenever it is granted. -/
theorem step_eq_self_iff_of_writes {P : Prop} {e : Event}
    (hwrites : ∀ s', exec rt e.call s e.op = .ok s' → s' ≠ s)
    (hgranted : (∃ s', exec rt e.call s e.op = .ok s') ↔ P) : step rt s e = s ↔ ¬ P := by
  rw [step_eq_self_iff, ← hgranted]
  constructor
  · rintro hsame ⟨s', hs'⟩
    exact hwrites s' hs' (hsame s' hs')
  · intro hnone s' hs'
    exact absurd ⟨s', hs'⟩ hnone

theorem ne_of_notifications {n : Notification} (h : s'.notifications = s.notifications ++ [n]) :
    s' ≠ s := by
  intro he
  rw [he] at h
  simp at h

/-! ## §2 Holds, bookings and moves -/

section Windows

variable {now now' start stop : Instant} {ctx : ResourceContext}
  {ownBooking ownHold : Option Uuid}

/-- A window that was claimed by nothing is claimed by a new hold. -/
theorem unclaimed_insert_hold {h : Hold} {hnew : Keyed.key h ∉ s.holds.keys} :
    Unclaimed now { s with holds := s.holds.insert h hnew } ctx start stop ownBooking ownHold ↔
      Unclaimed now s ctx start stop ownBooking ownHold ∧
        (h.live now → overlaps start stop h.startTime h.endTime → conflictFilter s ctx h.toSlot →
          some h.id = ownHold) := by
  have hmem : ∀ x, x ∈ s.holds.insert h hnew ↔ x ∈ s.holds ∨ x = h := fun x => Table.mem_insert
  constructor
  · intro hfree
    refine ⟨⟨hfree.bookings, fun x hx => ?_⟩, ?_⟩
    · exact hfree.holds x ((hmem x).mpr (.inl hx))
    · exact hfree.holds h ((hmem h).mpr (.inr rfl))
  · rintro ⟨hfree, hown⟩
    refine ⟨hfree.bookings, fun x hx => ?_⟩
    rcases (hmem x).mp hx with hx | rfl
    · exact hfree.holds x hx
    · exact hown

/-- **A hold again**: its first hold has run out. -/
theorem hold_again_iff {payload : HoldCreateRequest} {d : HoldDraft}
    (hok : checkHold rt c s payload = .ok d) :
    Returns (exec rt c' (commitHold rt s d).1 (.createHold payload)) ↔
      d.expiresAt ≤ c'.now 1 ∧ Returns (exec rt c' s (.createHold payload)) := by
  have hreturns : ∀ t : Store, Returns (exec rt c' t (.createHold payload)) ↔
      Returns (checkHold rt c' t payload) := by
    intro t
    simp only [Returns, exec, map_eq_ok, createHold_eq_ok]
    constructor
    · rintro ⟨_, r, ⟨d, hd, -⟩, -⟩
      exact ⟨d, hd⟩
    · rintro ⟨d, hd⟩
      exact ⟨_, _, ⟨d, hd, rfl⟩, rfl⟩
  rw [hreturns, hreturns]
  obtain ⟨start, stop, ctx, hstart, hstop, hres, hadm, hfree, hd⟩ := checkHold_eq_ok.mp hok
  have htree : SameTree s (commitHold rt s d).1 := ⟨rfl, rfl, rfl, rfl, rfl⟩
  -- The window and the resource are those of the request, so the first hold is in the way.
  have hslot : (d.row (rt.fresh s.holds)).toSlot = ctx.slot c.user start stop := by
    rw [hd]
    rfl
  have hown : overlaps start stop (d.row (rt.fresh s.holds)).startTime
        (d.row (rt.fresh s.holds)).endTime ∧
      conflictFilter s ctx (d.row (rt.fresh s.holds)).toSlot := by
    rw [hslot]
    exact ⟨⟨hadm.ordered, hadm.ordered⟩, conflictFilter_of_venueId rfl⟩
  have hlive : (d.row (rt.fresh s.holds)).live (c'.now 1) ↔ c'.now 1 < d.expiresAt :=
    ⟨fun h => h.2, fun h => ⟨rfl, h⟩⟩
  have hagain : Unclaimed (c'.now 1) (commitHold rt s d).1 ctx start stop none none ↔
      d.expiresAt ≤ c'.now 1 ∧ Unclaimed (c'.now 1) s ctx start stop none none := by
    refine unclaimed_insert_hold.trans ?_
    rw [hlive, ← not_lt, and_comm]
    refine and_congr_left fun _ => ⟨fun h hl => ?_, fun h hl => absurd hl h⟩
    cases h hl hown.1 hown.2
  constructor
  · rintro ⟨d', hd'⟩
    obtain ⟨start', stop', ctx', hstart', hstop', hres', hadm', hfree', -⟩ := checkHold_eq_ok.mp hd'
    obtain rfl := Option.mem_unique hstart hstart'
    obtain rfl := Option.mem_unique hstop hstop'
    have hres'' := hres'.grows htree.symm.grows
    obtain rfl := hres.unique hres''
    obtain ⟨hrun, hfree''⟩ := hagain.mp hfree'
    exact ⟨hrun, _, checkHold_eq_ok.mpr ⟨start, stop, ctx, hstart, hstop, hres,
      htree.admissible_iff.mp hadm', hfree'', rfl⟩⟩
  · rintro ⟨hrun, d', hd'⟩
    obtain ⟨start', stop', ctx', hstart', hstop', hres', hadm', hfree', -⟩ := checkHold_eq_ok.mp hd'
    obtain rfl := Option.mem_unique hstart hstart'
    obtain rfl := Option.mem_unique hstop hstop'
    obtain rfl := hres.unique hres'
    exact ⟨_, checkHold_eq_ok.mpr ⟨start, stop, ctx, hstart, hstop, hres.grows htree.grows,
      htree.admissible_iff.mpr hadm', hagain.mpr ⟨hrun, hfree'⟩, rfl⟩⟩

/-- **A booking again** is in its own way, whether it came with a hold or not. -/
theorem booking_again {payload : BookingCreateRequest} {d d' : BookingDraft}
    (hok : checkBooking rt c s payload = .ok d) :
    checkBooking rt c' (commitBooking rt now s d).1 payload ≠ .ok d' := by
  intro hagain
  obtain ⟨start, stop, ctx, hstart, hstop, hres, hadm, -, -, hd⟩ := checkBooking_eq_ok.mp hok
  obtain ⟨start', stop', ctx', hstart', hstop', hres', -, -, hfree, -⟩ :=
    checkBooking_eq_ok.mp hagain
  obtain rfl := Option.mem_unique hstart hstart'
  obtain rfl := Option.mem_unique hstop hstop'
  have htree : SameTree s (commitBooking rt now s d).1 := ⟨rfl, rfl, rfl, rfl, rfl⟩
  obtain rfl := hres.unique (hres'.grows htree.symm.grows)
  -- The row of the first call blocks the window, and the second one finds it.
  have hrow : d.row (rt.fresh s.bookings) ∈ (commitBooking rt now s d).1.bookings := by
    rw [commitBooking_bookings, Table.mem_insert]
    exact .inr rfl
  have hslot : (d.row (rt.fresh s.bookings)).toSlot = ctx.slot c.user start stop := by
    rw [hd]
    rfl
  have hblocking : (d.row (rt.fresh s.bookings)).status.blocking := by
    rw [hd]
    show (initialStatus _).blocking = true
    unfold initialStatus
    split <;> rfl
  have hconflict : conflictFilter (commitBooking rt now s d).1 ctx
      (d.row (rt.fresh s.bookings)).toSlot := by
    rw [hslot]
    exact conflictFilter_of_venueId rfl
  have hoverlaps : overlaps start stop (d.row (rt.fresh s.bookings)).startTime
      (d.row (rt.fresh s.bookings)).endTime := by
    rw [hslot]
    exact ⟨hadm.ordered, hadm.ordered⟩
  cases hfree.bookings _ hrow hblocking hoverlaps hconflict

/-- The move of a booking leaves free for it what was free for it before. -/
theorem unclaimed_move_iff {u : BookingUpdate} :
    Unclaimed now (commitBookingUpdate now' s u) ctx start stop (some u.bookingId) ownHold ↔
      Unclaimed now s ctx start stop (some u.bookingId) ownHold := by
  have hmem : ∀ b, b ∈ s.bookings.modify u.bookingId u.patch.apply u.patch.apply_key ↔
      ∃ r ∈ s.bookings, b = if Keyed.key r = u.bookingId then u.patch.apply r else r :=
    fun b => Table.mem_modify
  constructor
  · intro hfree
    refine ⟨fun b hb hblocking hov hfilter => ?_, hfree.holds⟩
    by_cases hid : b.id = u.bookingId
    · rw [hid]
    · exact hfree.bookings b ((hmem b).mpr ⟨b, hb, (if_neg hid).symm⟩) hblocking hov hfilter
  · intro hfree
    refine ⟨fun b hb hblocking hov hfilter => ?_, hfree.holds⟩
    obtain ⟨r, hr, rfl⟩ := (hmem b).mp hb
    by_cases hid : Keyed.key r = u.bookingId
    · rw [if_pos hid]
      exact congrArg some hid
    · rw [if_neg hid] at hblocking hov hfilter ⊢
      exact hfree.bookings r hr hblocking hov hfilter

/-- **A move again** goes through whenever it could go through in the first place. -/
theorem move_again_iff {bookingId : Uuid} {payload : BookingWindowUpdateRequest} {u : BookingUpdate}
    (huser : c'.user = c.user) (hok : checkReschedule rt c s bookingId payload = .ok u) :
    Returns (exec rt c' (commitBookingUpdate now s u) (.rescheduleBooking bookingId payload)) ↔
      Returns (exec rt c' s (.rescheduleBooking bookingId payload)) := by
  have hreturns : ∀ t : Store, Returns (exec rt c' t (.rescheduleBooking bookingId payload)) ↔
      Returns (checkReschedule rt c' t bookingId payload) := by
    intro t
    simp only [Returns, exec, rescheduleBooking_eq_ok]
    constructor
    · rintro ⟨_, u, hu, -⟩
      exact ⟨u, hu⟩
    · rintro ⟨u, hu⟩
      exact ⟨_, u, hu, rfl⟩
  rw [hreturns, hreturns]
  obtain ⟨b, start, stop, ctx, hb, hstatus, hstart, hstop, hres, -, -, hu⟩ :=
    checkReschedule_eq_ok.mp hok
  have hbid : b.id = bookingId := (get?_of_bookingOf? hb).1
  have huid : u.bookingId = bookingId := by rw [hu]
  have htree : SameTree s (commitBookingUpdate now s u) := ⟨rfl, rfl, rfl, rfl, rfl⟩
  -- The row that has been moved: same resource, and a status that can be moved.
  have hmoved : (commitBookingUpdate now s u).bookingOf? bookingId c.user =
      some (u.patch.apply b) := by
    obtain ⟨hget, howner⟩ := Store.bookingOf?_eq_some.mp hb
    refine Store.bookingOf?_eq_some.mpr ⟨?_, howner⟩
    show (s.bookings.modify u.bookingId u.patch.apply u.patch.apply_key).get? bookingId = _
    rw [Table.get?_modify, hget, huid, Option.map_some, if_pos rfl]
  have hmovable : (u.patch.apply b).status = .pending ∨ (u.patch.apply b).status = .confirmed := by
    have hset : (u.patch.apply b).status =
        initialStatus (requiresPayment (resolveBookingRule c.rows s ctx)) := by
      rw [hu]
      exact dirty_getD _ _
    rw [hset]
    unfold initialStatus
    split
    · exact .inl rfl
    · exact .inr rfl
  have hfree : ∀ now₁ start₁ stop₁ ctx₁,
      Unclaimed now₁ (commitBookingUpdate now s u) ctx₁ start₁ stop₁ (some b.id) none ↔
        Unclaimed now₁ s ctx₁ start₁ stop₁ (some b.id) none := by
    intro now₁ start₁ stop₁ ctx₁
    rw [hbid, ← huid]
    exact unclaimed_move_iff
  simp only [Returns, checkReschedule_eq_ok, huser]
  constructor
  · rintro ⟨-, b', start₁, stop₁, ctx₁, hb', -, hstart₁, hstop₁, hres₁, hadm₁, hfree₁, rfl⟩
    obtain rfl := Option.mem_unique hmoved hb'
    exact ⟨_, b, start₁, stop₁, ctx₁, hb, hstatus, hstart₁, hstop₁, hres₁.grows htree.symm.grows,
      htree.admissible_iff.mp hadm₁, (hfree _ _ _ _).mp hfree₁, rfl⟩
  · rintro ⟨-, b', start₁, stop₁, ctx₁, hb', -, hstart₁, hstop₁, hres₁, hadm₁, hfree₁, rfl⟩
    obtain rfl := Option.mem_unique hb hb'
    exact ⟨_, _, start₁, stop₁, ctx₁, hmoved, hmovable, hstart₁, hstop₁, hres₁.grows htree.grows,
      htree.admissible_iff.mpr hadm₁, (hfree _ _ _ _).mpr hfree₁, rfl⟩

end Windows

/-! ## §3 Payments -/

/-- **A payment again** is taken again. -/
theorem payment_again {payload : PaymentCreateRequest} {d : PaymentDraft} {now : Instant}
    (huser : c'.user = c.user) (hok : checkPayment rt c s payload = .ok d) :
    Returns (exec rt c' (commitPayment rt now s d).1 (.createPayment payload)) := by
  simp only [checkPayment, bind_eq_ok, raiseIf_eq_ok, found_eq_ok, pure_eq_ok, exists_const] at hok
  rcases hok with ⟨b, hb, hcancelled, hfits, hd⟩
  have hid : d.bookingId = payload.bookingId := by rw [← hd]
  have hpatch : d.patch = b.status.confirm := by rw [← hd]
  -- The booking is confirmed now, if it was pending, and not cancelled.
  have hpaid : (commitPayment rt now s d).1.bookingOf? payload.bookingId c.user =
      some (b.status.confirm.apply b) := by
    obtain ⟨hget, howner⟩ := Store.bookingOf?_eq_some.mp hb
    refine Store.bookingOf?_eq_some.mpr ⟨?_, howner⟩
    show (s.bookings.modify d.bookingId d.patch.apply d.patch.apply_key).get? payload.bookingId = _
    rw [Table.get?_modify, hget, hid, hpatch, Option.map_some, if_pos rfl]
  have hnot : (b.status.confirm.apply b).status ≠ .cancelled := by
    cases hs : b.status with
    | cancelled => exact absurd hs hcancelled
    | _ => simp [BookingStatus.confirm, BookingPatch.apply, hs]
  obtain ⟨d', hd'⟩ : Returns (checkPayment rt c' (commitPayment rt now s d).1 payload) := by
    simp only [Returns, checkPayment, huser, hpaid, found, ok_bind, raiseIf_of_not hnot,
      raiseIf_of_not hfits]
    exact ⟨_, rfl⟩
  simp only [Returns, exec, map_eq_ok, createPayment_eq_ok]
  exact ⟨_, _, ⟨d', hd', rfl⟩, rfl⟩

/-- **A refund again** goes through if its amount is named and can be taken off twice. -/
theorem refund_again_iff {paymentId : Uuid} {payload : PaymentRefundRequest} {d : RefundDraft}
    {now : Instant} (huser : c'.user = c.user) (hok : checkRefund c s paymentId payload = .ok d) :
    Returns (exec rt c' (commitRefund now s d) (.refundPayment paymentId payload)) ↔
      ∃ n t, payload.amountCents = some n ∧ n ≠ 0 ∧ s.transactions.get? paymentId = some t ∧
        2 * n ≤ t.amountCents - t.refundedCents := by
  obtain ⟨t, ht, hstatus, hpos, hle, hd⟩ := checkRefund_eq_ok.mp hok
  obtain ⟨hget, howner⟩ := Store.transactionOf?_eq_some.mp ht
  have hid : d.transactionId = paymentId := by rw [hd]
  have hrefunded : d.refundedCents =
      t.refundedCents + payload.amountOr (t.amountCents - t.refundedCents) := by rw [hd]
  have hrow : (commitRefund now s d).transactionOf? paymentId c.user = some (d.apply t) := by
    refine Store.transactionOf?_eq_some.mpr ⟨?_, howner⟩
    rw [commitRefund_transactions, Table.get?_modify, hget, hid, Option.map_some, if_pos rfl]
  have hstatus' : (d.apply t).status = .captured ∨ (d.apply t).status = .refunded := by
    obtain ⟨t', ht', -, hset⟩ := checkRefund_status hok
    obtain rfl := Option.mem_unique ht ht'
    rw [hset]
    split
    · exact .inr rfl
    · exact hstatus
  have hreturns : Returns (exec rt c' (commitRefund now s d) (.refundPayment paymentId payload)) ↔
      0 < payload.amountOr ((d.apply t).amountCents - (d.apply t).refundedCents) ∧
        payload.amountOr ((d.apply t).amountCents - (d.apply t).refundedCents) ≤
          (d.apply t).amountCents - (d.apply t).refundedCents := by
    simp only [Returns, exec, refundPayment_eq_ok, checkRefund_eq_ok, huser, hrow]
    constructor
    · rintro ⟨-, -, ⟨t', ht', -, hpos', hle', -⟩, -⟩
      obtain rfl := Option.some.inj ht'
      exact ⟨hpos', hle'⟩
    · rintro ⟨hpos', hle'⟩
      exact ⟨_, _, ⟨_, rfl, hstatus', hpos', hle', rfl⟩, rfl⟩
  rw [hreturns, RefundDraft.apply_amountCents, RefundDraft.apply_refundedCents, hrefunded]
  -- An amount of none or zero asks for what remains, of which there is nothing now.
  cases hamount : payload.amountCents with
  | none =>
    simp only [PaymentRefundRequest.amountOr, hamount] at hpos hle ⊢
    simp
  | some n =>
    by_cases hn : n = 0
    · simp only [PaymentRefundRequest.amountOr, hamount, hn, if_true] at hpos hle ⊢
      simp
    · simp only [PaymentRefundRequest.amountOr, hamount, if_neg hn] at hpos hle ⊢
      constructor
      · rintro ⟨-, hle'⟩
        exact ⟨n, t, rfl, hn, hget, by omega⟩
      · rintro ⟨m, t', hm, -, ht', hle'⟩
        obtain rfl := Option.some.inj hm
        obtain rfl := Option.mem_unique hget ht'
        omega

/-! ## §4 Venues and layouts -/

/-- There is a feature for each of the names. -/
def KnowsNames (rt : Runtime) (s : Store) (names : List String) : Prop :=
  ∀ name ∈ names, ∃ feature ∈ s.features, feature.code = featureCode rt name

theorem linkFeature_knows {venueId : Uuid} {name : String}
    (h : linkFeature rt venueId s name = .ok s') :
    (∃ feature ∈ s'.features, feature.code = featureCode rt name) ∧
      ∀ feature ∈ s.features, feature ∈ s'.features := by
  obtain ⟨feature, features, link, hlink, rfl, -, -, -, hfor⟩ := linkFeature_eq_ok h
  cases hfor with
  | found hfind =>
    have hcode := List.find?_some hfind
    rw [decide_eq_true_eq] at hcode
    exact ⟨⟨feature, List.mem_of_find?_eq_some hfind, hcode⟩, fun _ hf => hf⟩
  | made hfind hcode hname hnew =>
    have hmem : ∀ f, f ∈ s.features.insert feature hnew ↔ f ∈ s.features ∨ f = feature :=
      fun _ => Table.mem_insert
    exact ⟨⟨feature, (hmem feature).mpr (.inr rfl), hcode⟩, fun f hf => (hmem f).mpr (.inl hf)⟩

/-- Linking names to a venue leaves a feature for each of them. -/
theorem linkFeatures_know {venueId : Uuid} {names : List String}
    (h : names.foldlM (linkFeature rt venueId) s = .ok s') :
    KnowsNames rt s' names ∧ ∀ feature ∈ s.features, feature ∈ s'.features := by
  induction names generalizing s with
  | nil =>
    obtain rfl := (pure_eq_ok _ _).mp h
    exact ⟨nofun, fun _ hf => hf⟩
  | cons name rest ih =>
    rw [List.foldlM_cons, bind_eq_ok] at h
    obtain ⟨mid, hmid, hrest⟩ := h
    obtain ⟨⟨feature, hfeature, hcode⟩, hkeep⟩ := linkFeature_knows hmid
    obtain ⟨hknown, hkeep'⟩ := ih hrest
    refine ⟨fun n hn => ?_, fun f hf => hkeep' f (hkeep f hf)⟩
    rcases List.mem_cons.mp hn with rfl | hn
    · exact ⟨feature, hkeep' feature hfeature, hcode⟩
    · exact hknown n hn

/-- Names that there are features for are linked without ado. -/
theorem returns_linkFeatures {venueId : Uuid} {names : List String} (h : KnowsNames rt s names) :
    Returns (names.foldlM (linkFeature rt venueId) s) := by
  induction names generalizing s with
  | nil => exact ⟨s, rfl⟩
  | cons name rest ih =>
    obtain ⟨feature, hfeature, hcode⟩ := h name List.mem_cons_self
    cases hfind : s.features.rows.find? (·.code = featureCode rt name) with
    | none =>
      have hnone := List.find?_eq_none.mp hfind feature hfeature
      rw [decide_eq_true_eq] at hnone
      exact absurd hcode hnone
    | some found =>
      obtain ⟨mid, hmid⟩ : ∃ mid, linkFeature rt venueId s name = .ok mid := by
        simp only [linkFeature, hfind]
        exact ⟨_, rfl⟩
      have hkeep := (linkFeature_knows hmid).2
      obtain ⟨s', hs'⟩ := ih fun n hn => by
        obtain ⟨f, hf, hfcode⟩ := h n (List.mem_cons_of_mem name hn)
        exact ⟨f, hkeep f hf, hfcode⟩
      exact ⟨s', by rw [List.foldlM_cons, hmid, ok_bind, hs']⟩

/-- **A venue again** is created again. -/
theorem venue_again {payload : VenueCreate} {r : Store × Venue}
    (hok : createVenue rt s payload = .ok r) :
    Returns (exec rt c' r.1 (.createVenue payload)) := by
  obtain ⟨t, venue⟩ := r
  obtain ⟨hnew, hlinks⟩ := createVenue_links hok
  obtain ⟨hknown, -⟩ := linkFeatures_know hlinks
  simp only [createVenue, bind_eq_ok, raiseIf_eq_ok, exists_const] at hok
  obtain ⟨hfits, -⟩ := hok
  let again : Venue := ⟨rt.fresh t.venues, payload.name, payload.address, payload.timezone⟩
  obtain ⟨u, hu⟩ : Returns (payload.features.foldlM (linkFeature rt again.id)
      { t with venues := t.venues.insert again (rt.fresh_notMem t.venues) }) :=
    returns_linkFeatures hknown
  refine ⟨u, (map_eq_ok _ _ _).mpr ⟨(u, again), ?_, rfl⟩⟩
  simp only [createVenue, bind_eq_ok, raiseIf_eq_ok, pure_eq_ok, exists_const]
  exact ⟨hfits, u, hu, rfl⟩

/-- The ids that the payload mentions are none that the first call has given out. -/
def Unguessed (s s' : Store) (payload : RoomLayoutUpdate) : Prop :=
  ∀ entry ∈ payload.seats, ∀ id, entry.id = some id → id ∈ s'.seats.keys → id ∈ s.seats.keys

theorem lastEntry_mem {payload : RoomLayoutUpdate} {id : Uuid} {entry : RoomLayoutSeatInput}
    (h : payload.lastEntry id = some entry) : entry ∈ payload.seats ∧ entry.id = some id := by
  obtain ⟨hmem, hid⟩ := List.mem_filter.mp (List.mem_of_getLast? h)
  exact ⟨hmem, of_decide_eq_true hid⟩

/-- A seat that has the values it is to have keeps them. -/
theorem seatAfter_idem (roomId : Uuid) (payload : RoomLayoutUpdate) (seat : Seat) :
    seatAfter roomId payload (seatAfter roomId payload seat) = seatAfter roomId payload seat := by
  by_cases hroom : seat.roomId = roomId
  · cases hentry : payload.lastEntry seat.id with
    | none => simp [seatAfter, hroom, hentry]
    | some entry => simp [seatAfter, hroom, hentry, Seat.set]
  · simp [seatAfter, hroom]

/-- No entry mentions a seat that was added. -/
theorem lastEntry_of_added {payload : RoomLayoutUpdate} {id : Uuid}
    (hguess : Unguessed s s' payload) (hkey : id ∈ s'.seats.keys) (hfresh : id ∉ s.seats.keys) :
    payload.lastEntry id = none := by
  cases hentry : payload.lastEntry id with
  | none => rfl
  | some entry =>
    obtain ⟨hmem, hid⟩ := lastEntry_mem hentry
    exact absurd (hguess entry hmem id hid hkey) hfresh

/-- What a retry would add, the first call has added. -/
theorem newEntries_again {roomId : Uuid} {payload : RoomLayoutUpdate}
    (hguess : Unguessed s s' payload) (hok : updateRoomLayout rt s roomId payload = .ok s')
    (hagain : updateRoomLayout rt s' roomId payload = .ok s'') :
    newEntries s' roomId payload = [] := by
  obtain ⟨added, hrows, hvalues, hfresh⟩ := (layoutRealised_of_ok hok).seats
  have hmem : ∀ seat, seat ∈ s'.seats ↔
      (∃ old ∈ s.seats, seatAfter roomId payload old = seat) ∨ seat ∈ added := by
    intro seat
    rw [Table.mem_def, hrows, List.mem_append, List.mem_map]
    rfl
  refine List.eq_nil_iff_forall_not_mem.mpr fun entry hentry => ?_
  obtain ⟨hpayload, hnew⟩ := List.mem_filter.mp hentry
  rw [decide_eq_true_eq] at hnew
  have hold : entry ∈ newEntries s roomId payload := by
    refine List.mem_filter.mpr ⟨hpayload, decide_eq_true fun id hid => hnew id ?_⟩
    obtain ⟨seat, hseat, rfl⟩ := List.mem_map.mp hid
    obtain ⟨hstored, hroom⟩ := List.mem_filter.mp hseat
    refine List.mem_map.mpr ⟨seatAfter roomId payload seat, List.mem_filter.mpr ⟨?_, ?_⟩,
      seatAfter_id _ _⟩
    · exact (hmem _).mpr (.inl ⟨seat, hstored, rfl⟩)
    · rw [seatAfter_roomId]
      exact hroom
  obtain ⟨seat, hseat, hsame⟩ := List.mem_map.mp
    (hvalues.mem_iff.mpr (List.mem_map_of_mem hold))
  obtain ⟨hroom, hfreshId⟩ := hfresh seat hseat
  -- The flush of the retry gets to the write for the entry, which finds the label taken.
  obtain ⟨room, -, seats, hflush, -⟩ := updateRoomLayout_writes.mp hagain
  have hperm := rt.flushOrder_perm (roomWrites s' roomId payload)
  have hwrite : entry.insert ∈ rt.flushOrder (roomWrites s' roomId payload) :=
    hperm.mem_iff.mpr (mem_roomWrites.mpr (.inr ⟨entry, hentry, rfl⟩))
  obtain ⟨done, rest, hsplit⟩ := List.append_of_mem hwrite
  have hdone : ∀ w ∈ done, w ∈ roomWrites s' roomId payload := fun w hw =>
    hperm.mem_iff.mp (hsplit ▸ List.mem_append_left _ hw)
  rw [hsplit, List.foldlM_append, bind_eq_ok] at hflush
  obtain ⟨u, hu, hflush⟩ := hflush
  rw [List.foldlM_cons, bind_eq_ok] at hflush
  obtain ⟨v, hv, -⟩ := hflush
  obtain ⟨more, hurows, -⟩ := flushed_of_ok
    (fun w hw id htarget => target_roomWrites (hdone w hw) htarget) (.refl roomId s'.seats) hu
  rw [List.nil_append] at hurows
  have hkept : rewriteAll done seat = seat := by
    rcases rewriteAll_cases done seat with ⟨hkept, -⟩ | ⟨w, hw, htarget, -⟩
    · exact hkept
    · rcases mem_roomWrites.mp (hdone w hw) with ⟨x, -, e, he, rfl⟩ | ⟨_, -, rfl⟩
      · have hid : x.id = seat.id := Option.some.inj htarget
        have hkey : seat.id ∈ s'.seats.keys :=
          Table.mem_keys.mpr ⟨seat, (hmem seat).mpr (.inr hseat), rfl⟩
        rw [hid, lastEntry_of_added hguess hkey hfreshId] at he
        cases he
      · cases htarget
  have hthere : seat ∈ u := by
    rw [Table.mem_def, hurows]
    refine List.mem_append_left _ (List.mem_map.mpr ⟨seat, ?_, hkept⟩)
    exact (hmem seat).mpr (.inr hseat)
  have hadmitted := returns_writeSeat.mp ⟨v, hv⟩
  have hlabel : seat.label = entry.label := congrArg SeatValues.label hsame
  cases hadmitted.free seat hthere hroom hlabel

/-- **A layout again** changes nothing, if it goes through. -/
theorem layout_again {roomId : Uuid} {payload : RoomLayoutUpdate}
    (hguess : Unguessed s s' payload) (hok : updateRoomLayout rt s roomId payload = .ok s')
    (hagain : updateRoomLayout rt s' roomId payload = .ok s'') : s'' = s' := by
  obtain ⟨added, hrows, -, hfresh⟩ := (layoutRealised_of_ok hok).seats
  obtain ⟨more, hrows', hvalues', -⟩ := (layoutRealised_of_ok hagain).seats
  rw [newEntries_again hguess hok hagain, List.map_nil, List.perm_nil, List.map_eq_nil_iff]
    at hvalues'
  have hseats : s''.seats = s'.seats := by
    refine Table.ext ?_
    rw [hrows', hvalues', List.append_nil]
    -- Every seat is what it is to be already.
    refine (List.map_congr_left fun seat hseat => ?_).trans (List.map_id' _)
    have hseat' := hseat
    rw [hrows, List.mem_append, List.mem_map] at hseat
    rcases hseat with ⟨old, -, rfl⟩ | hseat
    · exact seatAfter_idem roomId payload old
    · have hnone : payload.lastEntry seat.id = none :=
        lastEntry_of_added hguess (Table.mem_keys.mpr ⟨seat, hseat', rfl⟩) (hfresh seat hseat).2
      simp [seatAfter, hnone]
  obtain ⟨room, hroom, seats, -, rfl⟩ := updateRoomLayout_writes.mp hok
  obtain ⟨room', hroom', seats', -, rfl⟩ := updateRoomLayout_writes.mp hagain
  obtain rfl : seats' = seats := hseats
  -- The flag of the room is the one of the payload, or as it was.
  have hrow : s.rooms.get? roomId = some room := hroom
  have hget := hroom'
  simp only [Store.room?, Table.get?_modify, hrow, Option.map_some, if_true, Option.some.injEq]
    at hget
  congr 1
  refine Table.modify_eq_self fun r hr => ?_
  obtain rfl : r = room' := Option.mem_unique hr hroom'
  rw [← hget]
  cases payload.allowFullRoomBooking <;> rfl

/-! ## §5 Requests that a retry finds settled -/

theorem cancelHold_again {holdId : Uuid} (huser : c'.user = c.user)
    (hok : exec rt c s (.cancelHold holdId) = .ok s')
    (hagain : exec rt c' s' (.cancelHold holdId) = .ok s'') : s'' = s' := by
  obtain ⟨h, hget, rfl⟩ := cancelHold_eq_ok.mp hok
  obtain ⟨h', hget', rfl⟩ := cancelHold_eq_ok.mp hagain
  rw [huser] at hget'
  by_cases hs : h.status = .pending
  · -- The first call has cancelled it.
    rw [if_pos hs] at hget' ⊢
    obtain ⟨hrow, -⟩ := Store.holdOf?_eq_some.mp hget
    obtain ⟨hrow', -⟩ := Store.holdOf?_eq_some.mp hget'
    simp only [Table.get?_modify, hrow, Option.map_some, if_true, Option.some.injEq] at hrow'
    rw [if_neg]
    simp [← hrow', Hold.setStatus]
  · rw [if_neg hs] at hget' ⊢
    obtain rfl := Option.mem_unique hget hget'
    rw [if_neg hs]

theorem cancelBooking_again {bookingId : Uuid} (huser : c'.user = c.user)
    (hok : exec rt c s (.cancelBooking bookingId) = .ok s')
    (hagain : exec rt c' s' (.cancelBooking bookingId) = .ok s'') : s'' = s' := by
  obtain ⟨r, hr, rfl⟩ := cancelBooking_eq_ok.mp hok
  obtain ⟨r', hr', rfl⟩ := cancelBooking_eq_ok.mp hagain
  obtain ⟨b, hget, rfl⟩ := checkCancel_eq_ok.mp hr
  obtain ⟨b', hget', rfl⟩ := checkCancel_eq_ok.mp hr'
  rw [huser] at hget'
  suffices hcancelled : b'.status = .cancelled by rw [if_pos hcancelled]
  by_cases hs : b.status = .cancelled
  · rw [if_pos hs] at hget'
    obtain rfl := Option.mem_unique hget hget'
    exact hs
  · rw [if_neg hs] at hget'
    obtain ⟨hrow, -⟩ := Store.bookingOf?_eq_some.mp hget
    have hrow' := (Store.bookingOf?_eq_some.mp hget').1
    simp only [commitBookingUpdate, createNotificationRecord, Store.updateBooking,
      Table.get?_modify, hrow, Option.map_some, if_true, Option.some.injEq] at hrow'
    rw [← hrow']
    exact dirty_getD _ _

theorem createBooking_again {payload : BookingCreateRequest}
    (hok : exec rt c s (.createBooking payload) = .ok s') :
    exec rt c' s' (.createBooking payload) ≠ .ok s'' := by
  intro hagain
  obtain ⟨r, hr, rfl⟩ := (map_eq_ok _ _ _).mp hok
  obtain ⟨d, hd, rfl⟩ := createBooking_eq_ok.mp hr
  obtain ⟨r', hr', rfl⟩ := (map_eq_ok _ _ _).mp hagain
  obtain ⟨d', hd', rfl⟩ := createBooking_eq_ok.mp hr'
  exact booking_again hd hd'

theorem repeatBooking_again {bookingId : Uuid} {payload : BookingWindowUpdateRequest}
    (huser : c'.user = c.user) (hok : exec rt c s (.repeatBooking bookingId payload) = .ok s') :
    exec rt c' s' (.repeatBooking bookingId payload) ≠ .ok s'' := by
  intro hagain
  obtain ⟨r, hr, rfl⟩ := (map_eq_ok _ _ _).mp hok
  obtain ⟨source, hsource, hcreate⟩ := repeatBooking_eq_ok.mp hr
  obtain ⟨d, hd, rfl⟩ := createBooking_eq_ok.mp hcreate
  obtain ⟨r', hr', rfl⟩ := (map_eq_ok _ _ _).mp hagain
  obtain ⟨source', hsource', hcreate'⟩ := repeatBooking_eq_ok.mp hr'
  obtain ⟨d', hd', rfl⟩ := createBooking_eq_ok.mp hcreate'
  -- It copies the same booking.
  have hsame : source' = source := by
    rw [huser] at hsource'
    obtain ⟨hrow, -⟩ := Store.bookingOf?_eq_some.mp hsource
    obtain ⟨hrow', -⟩ := Store.bookingOf?_eq_some.mp hsource'
    rw [commitBooking_bookings, Table.get?_insert_of_some _ hrow] at hrow'
    exact (Option.some.inj hrow').symm
  rw [hsame] at hd'
  exact booking_again hd hd'

theorem createCheckin_again {bookingId : Uuid} {payload : CheckinRequest}
    (hok : exec rt c s (.createCheckin bookingId payload) = .ok s') :
    exec rt c' s' (.createCheckin bookingId payload) ≠ .ok s'' := by
  intro hagain
  obtain ⟨d, hd, hcommit⟩ := createCheckin_eq_ok.mp hok
  obtain ⟨hnew, rfl⟩ := commitCheckin_eq_ok.mp hcommit
  obtain ⟨d', hd', hcommit'⟩ := createCheckin_eq_ok.mp hagain
  obtain ⟨hnew', -⟩ := commitCheckin_eq_ok.mp hcommit'
  obtain ⟨b, -, hdraft⟩ := checkCheckin_eq_ok.mp hd
  obtain ⟨b', -, hdraft'⟩ := checkCheckin_eq_ok.mp hd'
  -- There is one check-in for a booking.
  have hkey : Keyed.key d'.checkin = Keyed.key d.checkin := by
    rw [hdraft, hdraft']
    rfl
  apply hnew'
  show _ ∈ (s.checkins.insert d.checkin hnew).keys
  rw [Table.mem_keys_insert]
  exact .inr hkey

theorem capturePayment_again {paymentId : Uuid} (huser : c'.user = c.user)
    (hok : exec rt c s (.capturePayment paymentId) = .ok s')
    (hagain : exec rt c' s' (.capturePayment paymentId) = .ok s'') : s'' = s' := by
  obtain ⟨r, hr, rfl⟩ := (map_eq_ok _ _ _).mp hok
  obtain ⟨r', hr', rfl⟩ := (map_eq_ok _ _ _).mp hagain
  obtain ⟨t, ht⟩ := transactionOf?_of_capturePayment hr
  obtain ⟨t', ht'⟩ := transactionOf?_of_capturePayment hr'
  suffices hcaptured : t'.status = .captured ∨ t'.status = .refunded by
    rw [capturePayment_of_captured ht' hcaptured hr']
  rw [huser] at ht'
  by_cases hs : t.status = .captured ∨ t.status = .refunded
  · rw [capturePayment_of_captured ht hs hr] at ht'
    obtain rfl := Option.mem_unique ht ht'
    exact hs
  · rw [not_or] at hs
    rw [(capturePayment_of_uncaptured ht hs.1 hs.2 hr).2] at ht'
    obtain ⟨hrow, -⟩ := Store.transactionOf?_eq_some.mp ht
    have hrow' := (Store.transactionOf?_eq_some.mp ht').1
    simp only [createNotificationRecord, Store.updateBooking, Table.get?_modify, hrow,
      Option.map_some, if_true, Option.some.injEq] at hrow'
    rw [← hrow']
    exact .inl rfl

theorem NotificationPrefsUpdate.apply_key (payload : NotificationPrefsUpdate) (now : Instant)
    (p : NotificationPreference) : Keyed.key (payload.apply now p) = Keyed.key p := rfl

theorem updateNotificationPreferences_of_some {payload : NotificationPrefsUpdate}
    {p : NotificationPreference} (h : s.notificationPreferences.get? c.user = some p) :
    updateNotificationPreferences c s payload =
      { s with
        notificationPreferences := s.notificationPreferences.modify c.user
          (payload.apply (c.now 0)) (payload.apply_key (c.now 0)) } := by
  unfold updateNotificationPreferences
  dsimp only
  split
  next hnone =>
    rw [h] at hnone
    cases hnone
  next => rfl

/-- The row of the user after an update. -/
theorem get?_updateNotificationPreferences (c : Call) (s : Store)
    (payload : NotificationPrefsUpdate) :
    ∃ p, (updateNotificationPreferences c s payload).notificationPreferences.get? c.user =
      some (payload.apply (c.now 0) p) := by
  cases h : s.notificationPreferences.get? c.user with
  | none =>
    refine ⟨defaultPreference c.user (c.now 0), ?_⟩
    unfold updateNotificationPreferences
    dsimp only
    split
    next hnone => exact Table.get?_insert_self (Table.get?_eq_none.mp hnone)
    next p hsome =>
      rw [h] at hsome
      cases hsome
  | some p =>
    refine ⟨p, ?_⟩
    simp only [updateNotificationPreferences_of_some h, Table.get?_modify, h, Option.map_some,
      if_true]

/-- Preferences that are set to what they are get a new time. -/
theorem preferences_again_iff (huser : c'.user = c.user) (payload : NotificationPrefsUpdate) :
    updateNotificationPreferences c' (updateNotificationPreferences c s payload) payload =
        updateNotificationPreferences c s payload ↔ c'.now 0 = c.now 0 := by
  obtain ⟨p, hp⟩ := get?_updateNotificationPreferences c s payload
  generalize updateNotificationPreferences c s payload = t at hp
  have hrow : t.notificationPreferences.get? c'.user = some (payload.apply (c.now 0) p) := by
    rw [huser, hp]
  rw [updateNotificationPreferences_of_some hrow]
  constructor
  · intro hsame
    have hget := congrArg (fun u : Store => u.notificationPreferences.get? c'.user) hsame
    simp only [Table.get?_modify, hrow, Option.map_some, if_true, Option.some.injEq] at hget
    exact congrArg NotificationPreference.updatedAt hget
  · intro hnow
    have hsame : t.notificationPreferences.modify c'.user (payload.apply (c'.now 0))
        (payload.apply_key (c'.now 0)) = t.notificationPreferences := by
      refine Table.modify_eq_self fun r hr => ?_
      obtain rfl := Option.mem_unique hrow hr
      -- A field that the update names has its value, and the others are as they were.
      rw [hnow]
      obtain ⟨email, push, reminder, promotional⟩ := payload
      cases email <;> cases push <;> cases reminder <;> cases promotional <;> rfl
    rw [hsame]

theorem createFavoriteVenue_again {venueId : Uuid} (huser : c'.user = c.user)
    (hok : exec rt c s (.createFavoriteVenue venueId) = .ok s')
    (hagain : exec rt c' s' (.createFavoriteVenue venueId) = .ok s'') : s'' = s' := by
  simp only [exec, createFavoriteVenue, bind_eq_ok, huser] at hok hagain
  obtain ⟨-, -, hok⟩ := hok
  obtain ⟨-, -, hagain⟩ := hagain
  have hkey : (c.user, venueId) ∈ s'.favoriteVenues.keys := by
    split at hok
    next hmem =>
      obtain rfl := (pure_eq_ok _ _).mp hok
      exact hmem
    next hnew =>
      obtain rfl := (pure_eq_ok _ _).mp hok
      show _ ∈ (s.favoriteVenues.insert ⟨c.user, venueId⟩ hnew).keys
      rw [Table.mem_keys_insert]
      exact .inr rfl
  rw [dif_pos hkey] at hagain
  exact ((pure_eq_ok _ _).mp hagain).symm

theorem deleteFavoriteVenue_again {venueId : Uuid} (huser : c'.user = c.user) :
    deleteFavoriteVenue c' (deleteFavoriteVenue c s venueId) venueId =
      deleteFavoriteVenue c s venueId := by
  unfold deleteFavoriteVenue
  rw [huser]
  congr 1
  refine Table.ext ?_
  simp [Table.erase]

/-! ## §6 Every request -/

theorem ne_of_holds {h : Hold} (hholds : s'.holds.rows = s.holds.rows ++ [h]) : s' ≠ s := by
  intro he
  rw [he] at hholds
  simp at hholds

/-- **A retry.**  After an operation is granted, in any store, the same operation of the same user
leaves the store as it is unless it is one that repeats itself: a payment, a new venue, a partial
refund of at most half of what remains, a move while the window is open, a hold whose first hold has
run out.  (An update of preferences records its time.)  In particular nothing is ever booked twice. -/
theorem retry_unchanged_iff (huser : c'.user = c.user) (hok : exec rt c s op = .ok s')
    (hguess : ∀ roomId payload, op = .updateRoomLayout roomId payload → Unguessed s s' payload) :
    step rt s' ⟨c', op⟩ = s' ↔ ¬ op.Repeats rt c c' s := by
  cases op with
  | createHold payload =>
    obtain ⟨r, hr, rfl⟩ := (map_eq_ok _ _ _).mp hok
    obtain ⟨d, hd, rfl⟩ := createHold_eq_ok.mp hr
    refine step_eq_self_iff_of_writes (fun s'' hs'' => ?_) ((hold_again_iff hd).trans ?_)
    · obtain ⟨r', hr', rfl⟩ := (map_eq_ok _ _ _).mp hs''
      obtain ⟨d', -, rfl⟩ := createHold_eq_ok.mp hr'
      exact ne_of_holds rfl
    · apply and_congr_left'
      constructor
      · exact fun hrun => ⟨d, hd, hrun⟩
      · rintro ⟨d', hd', hrun⟩
        rw [hd] at hd'
        cases hd'
        exact hrun
  | rescheduleBooking bookingId payload =>
    obtain ⟨u, hu, rfl⟩ := rescheduleBooking_eq_ok.mp hok
    refine step_eq_self_iff_of_writes (fun s'' hs'' => ?_) (move_again_iff huser hu)
    obtain ⟨u', -, rfl⟩ := rescheduleBooking_eq_ok.mp hs''
    exact ne_of_notifications rfl
  | createPayment payload =>
    obtain ⟨r, hr, rfl⟩ := (map_eq_ok _ _ _).mp hok
    obtain ⟨d, hd, rfl⟩ := createPayment_eq_ok.mp hr
    refine step_eq_self_iff_of_writes (fun s'' hs'' => ?_)
      (iff_of_true (payment_again huser hd) trivial)
    obtain ⟨r', hr', rfl⟩ := (map_eq_ok _ _ _).mp hs''
    obtain ⟨d', -, rfl⟩ := createPayment_eq_ok.mp hr'
    exact ne_of_notifications rfl
  | refundPayment paymentId payload =>
    obtain ⟨d, hd, rfl⟩ := refundPayment_eq_ok.mp hok
    refine step_eq_self_iff_of_writes (fun s'' hs'' => ?_) (refund_again_iff huser hd)
    obtain ⟨d', -, rfl⟩ := refundPayment_eq_ok.mp hs''
    exact ne_of_notifications rfl
  | createVenue payload =>
    obtain ⟨r, hr, rfl⟩ := (map_eq_ok _ _ _).mp hok
    refine step_eq_self_iff_of_writes (fun s'' hs'' he => ?_)
      (iff_of_true (venue_again hr) trivial)
    obtain ⟨r', hr', rfl⟩ := (map_eq_ok _ _ _).mp hs''
    obtain ⟨-, hnew, features, featureLinks, hwrites⟩ := createVenue_eq_ok hr'
    have hrows := congrArg (fun u : Store => u.venues.rows) he
    simp [hwrites, Table.insert] at hrows
  | updateNotificationPreferences payload =>
    obtain rfl := Except.ok.inj hok
    exact (preferences_again_iff huser payload).trans not_not.symm
  -- What is left finds its work done.
  | cancelHold holdId =>
    exact iff_of_true (step_eq_self_iff.mpr fun _ => cancelHold_again huser hok) id
  | createBooking payload =>
    exact iff_of_true (step_eq_self_iff.mpr fun _ hs'' => (createBooking_again hok hs'').elim) id
  | repeatBooking bookingId payload =>
    exact iff_of_true
      (step_eq_self_iff.mpr fun _ hs'' => (repeatBooking_again huser hok hs'').elim) id
  | cancelBooking bookingId =>
    exact iff_of_true (step_eq_self_iff.mpr fun _ => cancelBooking_again huser hok) id
  | createCheckin bookingId payload =>
    exact iff_of_true (step_eq_self_iff.mpr fun _ hs'' => (createCheckin_again hok hs'').elim) id
  | capturePayment paymentId =>
    exact iff_of_true (step_eq_self_iff.mpr fun _ => capturePayment_again huser hok) id
  | createFavoriteVenue venueId =>
    exact iff_of_true (step_eq_self_iff.mpr fun _ => createFavoriteVenue_again huser hok) id
  | deleteFavoriteVenue venueId =>
    obtain rfl := Except.ok.inj hok
    exact iff_of_true (deleteFavoriteVenue_again huser) id
  | updateRoomLayout roomId payload =>
    exact iff_of_true (step_eq_self_iff.mpr fun _ =>
      layout_again (hguess roomId payload rfl) hok) id

/-- The booked seat, paid for. -/
def paidSeat : Store := step .plain bookedStore ⟨.plain 7 1, .createPayment smallPayment⟩

/-- A payment whose answer was lost is taken twice. -/
theorem retry_unchanged_iff_payment :
    step .plain paidSeat ⟨.plain 7 2, .createPayment smallPayment⟩ ≠ paidSeat := by
  have hok : exec .plain (.plain 7 1) bookedStore (.createPayment smallPayment) = .ok paidSeat := rfl
  have huser : (Call.plain 7 2).user = (Call.plain 7 1).user := rfl
  intro hsame
  exact (retry_unchanged_iff huser hok fun _ _ h => nomatch h).mp hsame trivial

end Coworking
