import Coworking.Services.Views
import Coworking.System.Records

/-!
# Favorites in the Order They Were Added

A row of `favorite_venues` has the time it was added at, which the list of favorites is sorted by.
Adding a venue that is a favorite already leaves its row alone.

- `FavoriteTime`, `favoriteTimes`: the rows with their times, beside the store of a run;
- `favoriteTimes_keys`: they are the favorites of the store;
- `favorites_listed`: who is listed, and in which order.
-/

namespace Coworking

open Foundation

variable {rt : Runtime} {c : Call} {s s' : Store} {e : Event} {op : Op} {userId venueId : Uuid}

/-! ## §1 Rows with their times -/

/-- A row of `favorite_venues`. -/
structure FavoriteTime where
  userId : Uuid
  venueId : Uuid
  createdAt : Instant
  deriving DecidableEq

instance : Keyed FavoriteTime (Uuid × Uuid) := ⟨fun f => (f.userId, f.venueId)⟩

variable {t t' : Table FavoriteTime} {f : FavoriteTime}

/-- `create_favorite_venue`: the rows it leaves and its answer.  The time is that of the
transaction, which the guards of the route have begun. -/
def addFavorite (c : Call) (s : Store) (t : Table FavoriteTime) (venueId : Uuid) :
    Except ServiceError (Table FavoriteTime × VenueListItem) := do
  let venue ← found (s.venue? venueId) (.favoriteNotFound "Venue not found.")
  let item := (buildVenueListItems s [venue]).head (List.cons_ne_nil _ _)
  if h : t.get? (c.user, venueId) = none then
    pure (t.insert ⟨c.user, venueId, c.now 0⟩ (Table.get?_eq_none.mp h), item)
  else pure (t, item)

/-- The rows after a call. -/
def favoriteTimes (s : Store) (t : Table FavoriteTime) (e : Event) : Table FavoriteTime :=
  match e.op with
  | .createFavoriteVenue venueId =>
    match addFavorite e.call s t venueId with
    | .ok r => r.1
    | .error _ => t
  | .deleteFavoriteVenue venueId => t.erase (e.call.user, venueId)
  | _ => t

/-- `list_favorite_venues`, given what `ORDER BY favorite_venues.created_at DESC` makes of ties. -/
def listFavoriteVenues (order : RowOrder FavoriteTime fun a b => b.createdAt ≤ a.createdAt)
    (s : Store) (t : Table FavoriteTime) (userId : Uuid) : List VenueListItem :=
  buildVenueListItems s ((order.arrange (t.rows.filter (·.userId = userId))).filterMap fun f =>
    s.venue? f.venueId)

/-! ## §2 One call -/

/-- A venue becomes a favorite: it is stored, and was none. -/
def Adds (f : FavoriteTime) (s : Store) (t : Table FavoriteTime) (e : Event) : Prop :=
  e.op = .createFavoriteVenue f.venueId ∧ e.call.user = f.userId ∧ f.createdAt = e.call.now 0 ∧
    (∃ venue, s.venue? f.venueId = some venue) ∧ (f.userId, f.venueId) ∉ t.keys

/-- The user deletes the favorite. -/
def Removes (f : FavoriteTime) (e : Event) : Prop :=
  e.op = .deleteFavoriteVenue f.venueId ∧ e.call.user = f.userId

/-- **Inversion of a call.** -/
theorem mem_favoriteTimes : f ∈ favoriteTimes s t e ↔ Adds f s t e ∨ f ∈ t ∧ ¬ Removes f e := by
  unfold favoriteTimes Adds Removes
  cases hop : e.op with
  | createFavoriteVenue venueId =>
    cases hvenue : s.venue? venueId with
    | none =>
      -- The call raises.
      have herror : addFavorite e.call s t venueId = .error (.favoriteNotFound "Venue not found.") := by
        rw [addFavorite, hvenue]
        rfl
      simp only [herror, Op.createFavoriteVenue.injEq, reduceCtorEq, false_and, not_false_eq_true,
        and_true]
      constructor
      · exact .inr
      · rintro (⟨rfl, -, -, ⟨venue, hsome⟩, -⟩ | hf)
        · rw [hvenue] at hsome
          cases hsome
        · exact hf
    | some venue =>
      by_cases hkey : (e.call.user, venueId) ∈ t.keys
      · obtain ⟨item, hok⟩ : ∃ item, addFavorite e.call s t venueId = .ok (t, item) := by
          rw [addFavorite, hvenue]
          exact ⟨_, dif_neg fun hnone => Table.get?_eq_none.mp hnone hkey⟩
        simp only [hok, Op.createFavoriteVenue.injEq, reduceCtorEq, false_and, not_false_eq_true,
          and_true]
        constructor
        · exact .inr
        · rintro (⟨rfl, huser, -, -, hnew⟩ | hf)
          · exact (hnew (huser ▸ hkey)).elim
          · exact hf
      · obtain ⟨item, hok⟩ : ∃ item, addFavorite e.call s t venueId =
            .ok (t.insert ⟨e.call.user, venueId, e.call.now 0⟩ hkey, item) := by
          rw [addFavorite, hvenue]
          exact ⟨_, dif_pos (Table.get?_eq_none.mpr hkey)⟩
        simp only [hok, Op.createFavoriteVenue.injEq, reduceCtorEq, false_and, not_false_eq_true,
          and_true, Table.mem_insert]
        constructor
        · rintro (hf | rfl)
          · exact .inr hf
          · exact .inl ⟨rfl, rfl, rfl, ⟨venue, hvenue⟩, hkey⟩
        · rintro (⟨rfl, huser, hnow, -, -⟩ | hf)
          · refine .inr ?_
            rw [huser, ← hnow]
          · exact .inl hf
  | deleteFavoriteVenue venueId =>
    simp only [Table.mem_erase, reduceCtorEq, false_and, false_or, Op.deleteFavoriteVenue.injEq]
    apply and_congr_right
    intro _
    rw [show Keyed.key f = (f.userId, f.venueId) from rfl, ne_eq, Prod.mk.injEq, not_iff_not]
    constructor
    · rintro ⟨huser, hvenue⟩
      exact ⟨hvenue.symm, huser.symm⟩
    · rintro ⟨hvenue, huser⟩
      exact ⟨huser.symm, hvenue.symm⟩
  | _ => simp

/-- No other call writes to the favorites. -/
theorem exec_favoriteVenues (h : exec rt c s op = .ok s')
    (hcreate : ∀ id, op ≠ .createFavoriteVenue id) (hdelete : ∀ id, op ≠ .deleteFavoriteVenue id) :
    s'.favoriteVenues = s.favoriteVenues := by
  cases op with
  | updateNotificationPreferences payload =>
    cases h
    unfold updateNotificationPreferences
    dsimp only
    split <;> rfl
  | createFavoriteVenue id => exact (hcreate id rfl).elim
  | deleteFavoriteVenue id => exact (hdelete id rfl).elim
  | createVenue payload =>
    obtain ⟨r, hr, rfl⟩ := (map_eq_ok _ _ _).mp h
    obtain ⟨-, hnew, features, featureLinks, hr'⟩ := createVenue_eq_ok hr
    rw [hr']
  | updateRoomLayout roomId payload =>
    obtain ⟨seats, flag, -, rfl⟩ := updateRoomLayout_eq_ok h
    rfl
  | _ => exact (exec_recordsOnly h trivial).favoriteVenues

/-- The rows stay those of the store. -/
theorem favoriteTimes_keys (rt : Runtime) (e : Event)
    (h : ∀ k, k ∈ t.keys ↔ k ∈ s.favoriteVenues.keys) (k : Uuid × Uuid) :
    k ∈ (favoriteTimes s t e).keys ↔ k ∈ (step rt s e).favoriteVenues.keys := by
  cases e with
  | mk c op =>
    by_cases hcreate : ∃ id, op = .createFavoriteVenue id
    · obtain ⟨id, rfl⟩ := hcreate
      simp only [favoriteTimes, addFavorite, step, exec, createFavoriteVenue]
      cases hvenue : s.venue? id with
      | none => exact h k
      | some venue =>
        simp only [found, ok_bind]
        by_cases hkey : (c.user, id) ∈ t.keys
        · rw [dif_neg fun hnone => Table.get?_eq_none.mp hnone hkey, dif_pos ((h _).mp hkey)]
          exact h k
        · have hkey' : (c.user, id) ∉ s.favoriteVenues.keys := fun hmem => hkey ((h _).mpr hmem)
          rw [dif_pos (Table.get?_eq_none.mpr hkey), dif_neg hkey']
          show k ∈ (t.insert _ hkey).keys ↔ k ∈ (s.favoriteVenues.insert ⟨c.user, id⟩ hkey').keys
          rw [Table.mem_keys_insert, Table.mem_keys_insert, h k]
          rfl
    · by_cases hdelete : ∃ id, op = .deleteFavoriteVenue id
      · obtain ⟨id, rfl⟩ := hdelete
        show k ∈ (t.erase (c.user, id)).keys ↔ k ∈ (s.favoriteVenues.erase (c.user, id)).keys
        rw [Table.mem_keys_erase, Table.mem_keys_erase, h k]
      · have hsame : favoriteTimes s t ⟨c, op⟩ = t := by
          cases op with
          | createFavoriteVenue id => exact (hcreate ⟨id, rfl⟩).elim
          | deleteFavoriteVenue id => exact (hdelete ⟨id, rfl⟩).elim
          | _ => rfl
        rw [hsame, h k]
        cases hexec : exec rt c s op with
        | error err => simp [step, hexec]
        | ok s' =>
          rw [step_of_ok (e := ⟨c, op⟩) hexec, exec_favoriteVenues hexec
            (fun id hop => hcreate ⟨id, hop⟩) fun id hop => hdelete ⟨id, hop⟩]

/-! ## §3 Runs -/

/-- A state with the times of its favorites. -/
structure FavoriteState where
  state : State
  times : Table FavoriteTime

/-- One atomic call. -/
structure FavoriteStep (rt : Runtime) (x : FavoriteState) (e : Event) (y : FavoriteState) :
    Prop where
  serial : SerialStep rt x.state e y.state
  times : y.times = favoriteTimes x.state.store x.times e

variable {x y : FavoriteState} {es : List Event}

/-- What holds of the rows of a reached state: they are the favorites of the store, and their venues
are there. -/
structure FavoritesStored (x : FavoriteState) : Prop where
  keys : ∀ k, k ∈ x.times.keys ↔ k ∈ x.state.store.favoriteVenues.keys
  venues : ∀ f ∈ x.times, ∃ venue, x.state.store.venue? f.venueId = some venue

theorem FavoritesStored.step (h : FavoritesStored x) (hstep : FavoriteStep rt x e y) :
    FavoritesStored y where
  keys := by
    rw [hstep.times, hstep.serial.store]
    exact favoriteTimes_keys rt e h.keys
  venues := by
    intro f hf
    have hgrows : Grows x.state.store y.state.store := hstep.serial.effect.grows
    rw [hstep.times, mem_favoriteTimes] at hf
    rcases hf with ⟨-, -, -, ⟨venue, hvenue⟩, -⟩ | ⟨hf, -⟩
    · exact ⟨venue, hgrows.venues _ _ hvenue⟩
    · obtain ⟨venue, hvenue⟩ := h.venues f hf
      exact ⟨venue, hgrows.venues _ _ hvenue⟩

/-- A row is there since a call added it. -/
theorem favorite_since (hrun : Run (FavoriteStep rt) x es y) (hstart : f ∉ x.times) :
    f ∈ y.times ↔ Since (FavoriteStep rt)
      (fun u e _ => Adds f u.state.store u.times e) (fun _ e _ => Removes f e) x es y := by
  constructor
  · intro hf
    refine hrun.since (P := fun y => f ∈ y.times) (fun u e v _ hstep hv => ?_) hstart hf
    rwa [hstep.times, mem_favoriteTimes] at hv
  · rintro ⟨es₁, e, es₂, u, v, -, -, hstep, hadds, hrest⟩
    have hv : f ∈ v.times := by
      rw [hstep.times, mem_favoriteTimes]
      exact .inl hadds
    -- Until it is removed, it stays.
    refine hrest.invariant (I := fun y => f ∈ y.times) (fun p e q hp hlast => ?_) hv
    rw [hlast.1.times, mem_favoriteTimes]
    exact .inr ⟨hp, hlast.2⟩

/-- The rows that are listed for a user. -/
def listedRows (order : RowOrder FavoriteTime fun a b => b.createdAt ≤ a.createdAt)
    (t : Table FavoriteTime) (userId : Uuid) : List FavoriteTime :=
  order.arrange (t.rows.filter (·.userId = userId))

/-- The ids of the cards are those of the rows, if their venues are there. -/
theorem listFavoriteVenues_ids {order : RowOrder FavoriteTime fun a b => b.createdAt ≤ a.createdAt}
    (h : ∀ f ∈ t, ∃ venue, s.venue? f.venueId = some venue) :
    (listFavoriteVenues order s t userId).map (·.id) =
      (listedRows order t userId).map (·.venueId) := by
  have hlisted : ∀ f ∈ listedRows order t userId, ∃ venue, s.venue? f.venueId = some venue := by
    intro f hf
    rw [listedRows, order.mem_arrange] at hf
    exact h f (List.mem_of_mem_filter hf)
  unfold listFavoriteVenues buildVenueListItems
  change (((listedRows order t userId).filterMap fun f => s.venue? f.venueId).map _).map _ = _
  rw [List.map_map]
  generalize listedRows order t userId = rows at hlisted
  -- The joins find a venue for each row.
  induction rows with
  | nil => rfl
  | cons f rows ih =>
    obtain ⟨venue, hvenue⟩ := hlisted f List.mem_cons_self
    rw [List.filterMap_cons, hvenue, List.map_cons, List.map_cons,
      ih fun g hg => hlisted g (List.mem_cons_of_mem _ hg)]
    simp [Store.venue?_id hvenue]

/-- A card that is listed is what `create_favorite_venue` answers with for its venue. -/
theorem addFavorite_listed {order : RowOrder FavoriteTime fun a b => b.createdAt ≤ a.createdAt}
    {card : VenueListItem} (hcard : card ∈ listFavoriteVenues order s t userId)
    (huser : c.user = userId) : addFavorite c s t card.id = .ok (t, card) := by
  unfold listFavoriteVenues buildVenueListItems at hcard
  obtain ⟨venue, hvenues, rfl⟩ := List.mem_map.mp hcard
  obtain ⟨f, hf, hvenue⟩ := List.mem_filterMap.mp hvenues
  rw [order.mem_arrange, List.mem_filter, decide_eq_true_eq] at hf
  obtain ⟨hf, hfuser⟩ := hf
  have hid : venue.id = f.venueId := Store.venue?_id hvenue
  have hkey : (c.user, venue.id) ∈ t.keys := by
    rw [huser, hid, ← hfuser]
    exact Table.mem_keys.mpr ⟨f, hf, rfl⟩
  rw [← hid] at hvenue
  rw [addFavorite, hvenue]
  simp only [found, ok_bind, buildVenueListItems, List.map_cons, List.map_nil, List.head_cons,
    dif_neg fun hnone => Table.get?_eq_none.mp hnone hkey]
  -- What the map of the whole list has for the venue is what its own map has.
  rw [venueFeatureMap_eq List.mem_cons_self, venueFeatureMap_eq (List.mem_map_of_mem hvenues)]
  rfl

/-- Rows of one user in the order of the list have different venues. -/
theorem listedRows_pairwise
    {order : RowOrder FavoriteTime fun a b => b.createdAt ≤ a.createdAt} :
    (listedRows order t userId).Pairwise
      fun f g => g.createdAt ≤ f.createdAt ∧ f.venueId ≠ g.venueId := by
  refine (order.sorted _).and ?_
  have hkeys : (t.rows.filter (·.userId = userId)).Pairwise
      fun f g => Keyed.key f ≠ Keyed.key g :=
    List.Pairwise.filter _ (List.pairwise_map.mp t.keysNodup)
  have hlisted := (order.perm _).symm.pairwise hkeys fun h => h.symm
  refine hlisted.imp_of_mem fun {f g} hf hg hne hvenue => hne ?_
  rw [order.mem_arrange, List.mem_filter, decide_eq_true_eq] at hf hg
  exact Prod.ext (hf.2.trans hg.2.symm) hvenue

/-- **The list of favorites.**  In every state that a run reaches from one without favorites, and
for every user, the list has one card for each venue that the user has added and not deleted since,
in the order in which they were added, the latest first; adding a venue again does not move it.  Each
card is the one that `create_favorite_venue` answers with for the venue. -/
theorem favorites_listed {order : RowOrder FavoriteTime fun a b => b.createdAt ≤ a.createdAt}
    (hstart : ∀ f, f ∉ x.times) (hnone : ∀ f, f ∉ x.state.store.favoriteVenues)
    (hrun : Run (FavoriteStep rt) x es y) (userId : Uuid) :
    (listFavoriteVenues order y.state.store y.times userId).map (·.id) =
        (listedRows order y.times userId).map (·.venueId) ∧
      (∀ f, f ∈ listedRows order y.times userId ↔ f.userId = userId ∧ Since (FavoriteStep rt)
        (fun u e _ => Adds f u.state.store u.times e) (fun _ e _ => Removes f e) x es y) ∧
      (listedRows order y.times userId).Pairwise
        (fun f g => g.createdAt ≤ f.createdAt ∧ f.venueId ≠ g.venueId) ∧
      ∀ card ∈ listFavoriteVenues order y.state.store y.times userId, ∀ c : Call,
        c.user = userId → addFavorite c y.state.store y.times card.id = .ok (y.times, card) := by
  have hstored : FavoritesStored y := by
    refine hrun.invariant (I := FavoritesStored) (fun _ _ _ h hstep => h.step hstep) ⟨?_, ?_⟩
    · intro k
      simp only [Table.mem_keys]
      constructor
      · rintro ⟨f, hf, -⟩
        exact (hstart f hf).elim
      · rintro ⟨f, hf, -⟩
        exact (hnone f hf).elim
    · exact fun f hf => (hstart f hf).elim
  have hmem : ∀ f, f ∈ listedRows order y.times userId ↔ f ∈ y.times ∧ f.userId = userId := by
    intro f
    rw [listedRows, order.mem_arrange, List.mem_filter, decide_eq_true_eq]
    rfl
  refine ⟨listFavoriteVenues_ids hstored.venues, fun f => ?_, listedRows_pairwise,
    fun card hcard c huser => addFavorite_listed hcard huser⟩
  rw [hmem, and_comm, favorite_since hrun (hstart f)]

/-- The newest favorites first. -/
noncomputable def newestFirst : RowOrder FavoriteTime fun a b => b.createdAt ≤ a.createdAt :=
  .by _ (fun _ _ _ hab hbc => hbc.trans hab) fun _ _ => le_total _ _

/-- The state that a call leaves, at its last reading of the clock. -/
def FavoriteState.after (rt : Runtime) (x : FavoriteState) (e : Event) : FavoriteState :=
  ⟨⟨e.call.now 3, step rt x.state.store e⟩, favoriteTimes x.state.store x.times e⟩

theorem FavoriteState.after_step (h : x.state.now ≤ e.call.now 0) :
    FavoriteStep rt x e (x.after rt e) := ⟨⟨h, le_rfl, rfl⟩, rfl⟩

/-- Two venues, which nobody has among the favorites. -/
def noFavorites : FavoriteState where
  state :=
    ⟨0, { smallStore with
      venues := ⟨[⟨1, "Loft", "Street 1", "UTC"⟩, ⟨4, "Attic", "Street 4", "UTC"⟩], by decide⟩ }⟩
  times := .empty

/-- User 7 adds both, the first once more, deletes it and adds it again. -/
def favoriteEvents : List Event :=
  [⟨.plain 7 3, .createFavoriteVenue 1⟩, ⟨.plain 7 5, .createFavoriteVenue 4⟩,
    ⟨.plain 7 6, .createFavoriteVenue 1⟩, ⟨.plain 7 7, .deleteFavoriteVenue 1⟩,
    ⟨.plain 7 9, .createFavoriteVenue 1⟩]

/-- Venue 1 keeps its time until it is deleted, and is the latest one when it is back. -/
theorem favorites_listed_loft :
    (listFavoriteVenues newestFirst (favoriteEvents.foldl (.after .plain) noFavorites).state.store
      (favoriteEvents.foldl (.after .plain) noFavorites).times 7).map (·.id) = [1, 4] ∧
    ((favoriteEvents.take 3).foldl (.after .plain) noFavorites).times.rows =
      [⟨7, 1, 3⟩, ⟨7, 4, 5⟩] := by
  refine ⟨?_, by decide⟩
  have hrun : Run (FavoriteStep .plain) noFavorites favoriteEvents
      (favoriteEvents.foldl (.after .plain) noFavorites) := by
    refine .snoc (.snoc (.snoc (.snoc (.single (FavoriteState.after_step ?_))
      (FavoriteState.after_step ?_)) (FavoriteState.after_step ?_)) (FavoriteState.after_step ?_))
      (FavoriteState.after_step ?_) <;> decide
  have hrows : (favoriteEvents.foldl (.after .plain) noFavorites).times.rows =
      [⟨7, 4, 5⟩, ⟨7, 1, 9⟩] := by
    decide
  -- The two were added at different times, so there is one order.
  have hlisted : newestFirst.arrange [⟨7, 4, 5⟩, ⟨7, 1, 9⟩] = [⟨7, 1, 9⟩, ⟨7, 4, 5⟩] := by
    refine List.Perm.eq_of_pairwise (fun a b ha hb hab hba => ?_) (newestFirst.sorted _)
      (by decide) ((newestFirst.perm _).trans (.swap _ _ _))
    rw [newestFirst.mem_arrange] at ha
    simp only [List.mem_cons, List.not_mem_nil, or_false] at ha hb
    rcases ha with rfl | rfl <;> rcases hb with rfl | rfl
    · exact absurd hab (by decide)
    · rfl
    · rfl
    · exact absurd hba (by decide)
  rw [(favorites_listed (fun _ => (Table.mem_empty _).mp) (fun _ => (Table.mem_empty _).mp)
    hrun 7).1, listedRows, hrows]
  exact congrArg _ hlisted

end Coworking
