import Coworking.System.Concurrent
import Coworking.System.HoldLifeCycle

/-!
# Holds that Race

`cancel_hold` and `create_booking` look at the status of a hold they have loaded, and both write
a status of their own over whatever is there when they commit.  One hold can be booked twice,
and a cancellation that was answered with success can be undone by a booking, or undo one.

- `holdRequests`: cancellations of holds among the service requests;
- `HoldCommit`, `HoldTicket.change`: what a commit does to one hold and its bookings;
- `DecidedOnce`: a hold has at most one booking, and none once a cancellation has succeeded;
- `hold_decided_once_iff`: the interleavings along which that is so, exactly.
-/

namespace Coworking

open Foundation

variable {rt : Runtime} {id : Uuid}

/-! ## §1 Requests -/

/-- A call of `cancel_hold`. -/
structure HoldCancel where
  call : Call
  holdId : Uuid

/-- A cancellation has found the hold of its user pending. -/
structure HoldCancelReads (x : State) (r : HoldCancel) (id : Uuid) (y : State) : Prop where
  now_le : x.now ≤ y.now
  check : checkCancelHold r.call x.store r.holdId = .ok (some id)
  store : y.store = x.store

/-- A cancellation writes to the hold as it is now. -/
structure HoldCancelCommits (x : State) (_r : HoldCancel) (id : Uuid) (y : State) : Prop where
  now_le : x.now ≤ y.now
  store : y.store = commitCancelHold x.store id

def holdCancels : Protocol State HoldCancel Uuid := ⟨HoldCancelReads, HoldCancelCommits⟩

/-- The service requests and the cancellations of holds. -/
def holdRequests (rt : Runtime) : Protocol State (Request ⊕ HoldCancel) (Draft ⊕ Uuid) :=
  (requests rt).or holdCancels

abbrev HoldTicket := Ticket State (Request ⊕ HoldCancel) (Draft ⊕ Uuid)

abbrev HoldConfig := Config State (Request ⊕ HoldCancel) (Draft ⊕ Uuid)

abbrev HoldMove := Move State (Request ⊕ HoldCancel) (Draft ⊕ Uuid)

/-- A booking request that names the hold. -/
def booksHold (id : Uuid) (t : HoldTicket) : Bool :=
  match t.request with
  | .inl ⟨_, .createBooking payload⟩ => payload.holdId = some id
  | _ => false

/-- A cancellation of the hold. -/
def cancelsHold (id : Uuid) (t : HoldTicket) : Bool :=
  match t.request with
  | .inr r => r.holdId = id
  | .inl _ => false

/-- How many bookings carry the hold. -/
def carriers (id : Uuid) (s : Store) : Nat := (s.bookings.rows.map fun b => b.holdId).count (some id)

/-- How many cancellations of the hold have committed. -/
def cancellations (id : Uuid) (committed : List HoldTicket) : Nat :=
  committed.countP (cancelsHold id)

/-! ## §2 One hold under a commit -/

theorem carriers_updateBooking (s : Store) (k : Uuid) (p : BookingPatch) :
    carriers id (s.updateBooking k p) = carriers id s := by
  have hcolumn : (s.bookings.modify k p.apply p.apply_key).rows.map (fun b => b.holdId) =
      s.bookings.rows.map fun b => b.holdId := Table.map_modify fun _ => rfl
  exact congrArg (List.count (some id)) hcolumn

theorem carriers_commitBooking (rt : Runtime) (now : Instant) (s : Store) (d : BookingDraft) :
    carriers id (commitBooking rt now s d).1 =
      carriers id s + if d.holdId = some id then 1 else 0 := by
  have hrows : (commitBooking rt now s d).1.bookings.rows =
      s.bookings.rows ++ [d.row (rt.fresh s.bookings)] := rfl
  rw [carriers, hrows, List.map_append, List.count_append, carriers, List.map_singleton,
    List.count_singleton]
  simp [BookingDraft.row]

/-- What the commit of a ticket does to a hold and to the bookings that carry it. -/
inductive HoldCommit (id : Uuid) (t : HoldTicket) (s s' : Store) : Prop
  | booked : booksHold id t → cancelsHold id t = false →
      s'.holds.get? id = (s.holds.get? id).map (Hold.setStatus .converted) →
      carriers id s' = carriers id s + 1 → HoldCommit id t s s'
  | cancelled : booksHold id t = false → cancelsHold id t →
      s'.holds.get? id = (s.holds.get? id).map (Hold.setStatus .cancelled) →
      carriers id s' = carriers id s → HoldCommit id t s s'
  | other : booksHold id t = false → cancelsHold id t = false →
      (∀ h, s.holds.get? id = some h → s'.holds.get? id = some h) →
      carriers id s' = carriers id s → HoldCommit id t s s'

/-- The commit of a draft, given what it was drafted from. -/
theorem Drafted.holdCommit {c : Call} {s₀ s s' : Store} {body : RequestBody} {d : Draft}
    {seen : State} {now : Instant} (hd : Drafted rt c s₀ body d) (h : d.commit rt now s = .ok s') :
    HoldCommit id ⟨.inl ⟨c, body⟩, seen, .inl d⟩ s s' := by
  cases hd with
  | @hold payload d hd =>
    obtain rfl := Except.ok.inj h
    exact .other rfl rfl (fun _ hget => Table.get?_insert_of_some (d.row_fresh rt s.holds) hget) rfl
  | @booking payload d hd =>
    obtain rfl := Except.ok.inj h
    obtain ⟨hsame, -⟩ := checkBooking_redeems hd
    have hcount : carriers id (commitBooking rt now s d).1 =
        carriers id s + if d.holdId = some id then 1 else 0 := carriers_commitBooking rt now s d
    have hrow : (commitBooking rt now s d).1.holds.get? id =
        (s.holds.get? id).map fun h => if some id = d.holdId then h.setStatus .converted else h :=
      get?_convertHold_eq s.holds d.holdId id
    -- A booking converts the hold it redeems, and carries it; other holds it leaves alone.
    by_cases hid : d.holdId = some id
    · rw [if_pos hid] at hcount
      refine .booked (decide_eq_true (hsame ▸ hid)) rfl (hrow.trans ?_) hcount
      simp only [hid, if_true]
    · rw [if_neg hid] at hcount
      refine .other (decide_eq_false (hsame ▸ hid)) rfl (fun h hget => ?_) hcount
      rw [hrow, hget, Option.map_some, if_neg (Ne.symm hid)]
  | move hu =>
    obtain rfl := Except.ok.inj h
    exact .other rfl rfl (fun _ hget => hget) (carriers_updateBooking s _ _)
  | cancel hu =>
    obtain rfl := Except.ok.inj h
    exact .other rfl rfl (fun _ hget => hget) (carriers_updateBooking s _ _)
  | checkin hd =>
    obtain ⟨_, rfl⟩ := commitCheckin_eq_ok.mp h
    exact .other rfl rfl (fun _ hget => hget) (carriers_updateBooking s _ _)
  | payment hd =>
    obtain rfl := Except.ok.inj h
    exact .other rfl rfl (fun _ hget => hget) (carriers_updateBooking s _ _)
  | refund hd =>
    obtain rfl := Except.ok.inj h
    exact .other rfl rfl (fun _ hget => hget) rfl

/-- A ticket that has read at some time. -/
abbrev HasRead (rt : Runtime) (t : HoldTicket) (x : State) : Prop :=
  (holdRequests rt).Standing (fun _ _ => True) t x

/-- **Inversion of a commit.** -/
theorem HasRead.change {x y : State} {t : HoldTicket} (ht : HasRead rt t x)
    (hcommit : (holdRequests rt).commits x t.request t.plan y) :
    HoldCommit id t x.store y.store := by
  rcases ht.or_cases with ⟨r, d, htd, s₀, hread, -⟩ | ⟨r, k, htk, s₀, hread, -⟩
  · rw [htd] at hcommit ⊢
    exact hread.drafted.holdCommit hcommit.commit
  · rw [htk] at hcommit ⊢
    -- The hold that is written is the one that was asked for.
    have hk : k = r.holdId := (checkCancelHold_eq_ok.mp hread.check).1
    have hy : y.store = commitCancelHold x.store k := hcommit.store
    rw [hy, hk]
    have hrow : (commitCancelHold x.store r.holdId).holds.get? id =
        (x.store.holds.get? id).map fun h =>
          if id = r.holdId then h.setStatus .cancelled else h := by
      rw [commitCancelHold, Table.get?_modify]
    by_cases hid : r.holdId = id
    · refine .cancelled rfl (decide_eq_true hid) (hrow.trans ?_) rfl
      simp only [hid, if_true]
    · refine .other rfl (decide_eq_false hid) (fun h hget => ?_) rfl
      rw [hrow, hget, Option.map_some, if_neg (Ne.symm hid)]

/-! ## §3 Decided once -/

/-- The status of a hold, its bookings, and its cancellations that have succeeded. -/
inductive Fate : HoldStatus → Nat → Nat → Prop
  | pending : Fate .pending 0 0
  | cancelled {n : Nat} : Fate .cancelled 0 (n + 1)
  | converted : Fate .converted 1 0

/-- The hold is pending and undecided, or cancelled and without a booking, or converted by one
booking and never cancelled. -/
def DecidedOnce (id : Uuid) (k : HoldConfig) : Prop :=
  ∃ h, k.shared.store.holds.get? id = some h ∧
    Fate h.status (carriers id k.shared.store) (cancellations id k.committed)

/-- A booking that commits finds the hold pending, and a cancellation does not find it converted. -/
structure FindsOpen (id : Uuid) (k : HoldConfig) (m : HoldMove) : Prop where
  books : ∀ t, m = .commit t → booksHold id t →
    ∃ h, k.shared.store.holds.get? id = some h ∧ h.status = .pending
  cancels : ∀ t, m = .commit t → cancelsHold id t →
    ∃ h, k.shared.store.holds.get? id = some h ∧ h.status ≠ .converted

theorem Fate.book_iff {status : HoldStatus} {n m : Nat} (h : Fate status n m) :
    Fate .converted (n + 1) m ↔ status = .pending := by
  constructor
  · intro h'
    cases h with
    | pending => rfl
    | cancelled => cases h'
    | converted => cases h'
  · rintro rfl
    cases h
    exact .converted

theorem Fate.cancel_iff {status : HoldStatus} {n m : Nat} (h : Fate status n m) :
    Fate .cancelled n (m + 1) ↔ status ≠ .converted := by
  constructor
  · rintro h' rfl
    cases h
    cases h'
  · intro hne
    cases h with
    | pending => exact .cancelled
    | cancelled => exact .cancelled
    | converted => exact (hne rfl).elim

theorem exists_get?_iff {s : Store} {h : Hold} {p : Hold → Prop}
    (hget : s.holds.get? id = some h) : (∃ h, s.holds.get? id = some h ∧ p h) ↔ p h := by
  simp only [hget, Option.some.injEq, exists_eq_left']

/-- **One move.** -/
theorem decidedOnce_step {k k' : HoldConfig} {m : HoldMove}
    (hread : (holdRequests rt).AllStanding (fun _ _ => True) k) (h : DecidedOnce id k)
    (hstep : (holdRequests rt).Step k m k') : DecidedOnce id k' ↔ FindsOpen id k m := by
  obtain ⟨row, hrow, hfate⟩ := h
  cases hstep with
  | @read x y q l r p hreads =>
    -- A read leaves the store alone, and no commit has been added.
    have hstore : y.store = x.store := by
      cases r with
      | inl r => cases p with
        | inl p => exact Reads.store hreads
        | inr p => exact hreads.elim
      | inr r => cases p with
        | inl p => exact hreads.elim
        | inr p => exact HoldCancelReads.store hreads
    refine ⟨fun _ => ⟨fun _ => nofun, fun _ => nofun⟩, fun _ => ⟨row, ?_, ?_⟩⟩
    · rw [hstore]
      exact hrow
    · rw [hstore]
      exact hfate
  | abort => exact ⟨fun _ => ⟨fun _ => nofun, fun _ => nofun⟩, fun _ => ⟨row, hrow, hfate⟩⟩
  | @commit x y q₁ q₂ l t hcommit =>
    have ht : HasRead rt t x := hread.inFlight
    have hcount : cancellations id (t :: l) =
        cancellations id l + if cancelsHold id t then 1 else 0 := List.countP_cons
    have hchange : HoldCommit id t x.store y.store := ht.change hcommit
    cases hchange with
    | booked hbooks hcancels hget hcarriers =>
      rw [hrow] at hget
      rw [DecidedOnce, exists_get?_iff hget, hcarriers, hcount, hcancels]
      refine hfate.book_iff.trans ⟨fun hpending => ⟨?_, ?_⟩, fun hopen => ?_⟩
      · rintro _ ⟨⟩ -
        exact ⟨row, hrow, hpending⟩
      · rintro _ ⟨⟩ hc
        cases hcancels.symm.trans hc
      · exact (exists_get?_iff hrow).mp (hopen.books t rfl hbooks)
    | cancelled hbooks hcancels hget hcarriers =>
      rw [hrow] at hget
      rw [DecidedOnce, exists_get?_iff hget, hcarriers, hcount, if_pos hcancels]
      refine hfate.cancel_iff.trans ⟨fun hne => ⟨?_, ?_⟩, fun hopen => ?_⟩
      · rintro _ ⟨⟩ hb
        cases hbooks.symm.trans hb
      · rintro _ ⟨⟩ -
        exact ⟨row, hrow, hne⟩
      · exact (exists_get?_iff hrow).mp (hopen.cancels t rfl hcancels)
    | other hbooks hcancels hget hcarriers =>
      refine ⟨fun _ => ⟨?_, ?_⟩, fun _ => ⟨row, hget row hrow, ?_⟩⟩
      · rintro _ ⟨⟩ hb
        cases hbooks.symm.trans hb
      · rintro _ ⟨⟩ hc
        cases hcancels.symm.trans hc
      · rw [hcarriers, hcount, hcancels]
        exact hfate

/-- **Holds under concurrency.**  Start with a pending hold that no booking carries, and let
booking requests, cancellations and all other requests interleave.  In every state reached the
hold is pending, or cancelled without a booking, or converted with exactly one booking and no
cancellation that succeeded, if and only if each booking from it commits while it is pending and
no cancellation commits once it is converted. -/
theorem hold_decided_once_iff {x : State} {k : HoldConfig} {ms : List HoldMove} {h : Hold}
    (hget : x.store.holds.get? id = some h) (hpending : h.status = .pending)
    (hfree : ∀ b ∈ x.store.bookings, b.holdId ≠ some id) :
    Run (Keeping (DecidedOnce id) (holdRequests rt).Step) (.start x) ms k ↔
      Run (Guarded (FindsOpen id) (holdRequests rt).Step) (.start x) ms k := by
  have hnone : carriers id x.store = 0 := by
    rw [carriers, List.count_eq_zero, List.mem_map]
    rintro ⟨b, hb, hid⟩
    exact hfree b hb hid
  refine Run.keeping_iff_guarded_of (fun _ _ _ hread h hstep => decidedOnce_step hread h hstep)
    (fun _ _ _ => Protocol.allStanding_step (fun _ => trivial) (fun _ _ _ _ _ => trivial)
      (fun _ _ _ _ _ => trivial) (fun _ _ _ _ _ => trivial))
    (Protocol.allStanding_start x) ⟨h, hget, ?_⟩
  show Fate h.status (carriers id x.store) 0
  rw [hpending, hnone]
  exact .pending

/-- The small venue, with seat `A1` on hold for user 7. -/
def onHoldStore : Store := replay .plain smallStore [⟨.plain 7 0, .createHold smallHold⟩]

/-- The user cancels the hold. -/
def cancelHeld : HoldTicket := ⟨.inr ⟨.plain 7 0, 1⟩, ⟨0, onHoldStore⟩, .inr 1⟩

theorem hold_decided_once_iff_cancelled :
    Run (Keeping (DecidedOnce 1) (holdRequests .plain).Step) (.start ⟨0, onHoldStore⟩)
      [.read cancelHeld, .commit cancelHeld]
      ⟨⟨0, commitCancelHold onHoldStore 1⟩, [], [cancelHeld]⟩ := by
  have hreads : (holdRequests .plain).reads ⟨0, onHoldStore⟩ cancelHeld.request cancelHeld.plan
      ⟨0, onHoldStore⟩ := HoldCancelReads.mk le_rfl rfl rfl
  have hcommits : (holdRequests .plain).commits ⟨0, onHoldStore⟩ cancelHeld.request cancelHeld.plan
      ⟨0, commitCancelHold onHoldStore 1⟩ := HoldCancelCommits.mk le_rfl rfl
  have hfree : ∀ b ∈ onHoldStore.bookings, b.holdId ≠ some 1 := fun b hb =>
    absurd hb List.not_mem_nil
  refine (hold_decided_once_iff rfl rfl hfree).mpr
    (.snoc (.single ⟨⟨fun _ => nofun, fun _ => nofun⟩, .read hreads⟩)
      ⟨⟨?_, ?_⟩, .commit_last hcommits⟩)
  · rintro _ ⟨⟩ hbooks
    cases hbooks
  · rintro _ ⟨⟩ -
    exact ⟨_, rfl, nofun⟩

end Coworking
