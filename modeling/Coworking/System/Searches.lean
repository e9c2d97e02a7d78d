import Coworking.System.SpaceViews

/-!
# Searches over Runs

The search narrows down what it has loaded in two places, by `WHERE` clauses and by a loop over the
venues.  What comes out is a plain filter of one catalogue, in which a venue stays as it was
created.

- `search_perm`: a search is the filter of the catalogue by what is asked for;
- `linkFeatures_names`: what the loop of `create_venue` does to the features of every venue;
- `search_over_run`: what every search answers after a run of calls.
-/

namespace Coworking

open Foundation

variable {rt : Runtime} {db : Database} {s s' : Store} {venueId : Uuid} {names : List String}

/-! ## §1 The catalogue -/

/-- The names of the features of a venue: those linked to it and to no room. -/
def venueNames (s : Store) (venueId : Uuid) : List String :=
  (s.featureLinks.rows.filter fun link =>
    link.venueId = some venueId ∧ link.roomId = none).filterMap fun link =>
      (s.features.get? link.featureId).map (·.name)

/-- The card of a venue. -/
def catalogueCard (s : Store) (venue : Venue) : VenueListItem :=
  ⟨venue.id, venue.name, venue.address, sorted (venueNames s venue.id), seatCount s venue.id⟩

/-- What there is to find. -/
def catalogue (s : Store) : List VenueListItem := s.venues.rows.map (catalogueCard s)

/-- What a search asks for. -/
structure Search where
  q : Option String
  location : Option String
  capacity : Option Int
  features : Option (List String)

/-- The search that asks for nothing. -/
def Search.everything : Search := ⟨none, none, none, none⟩

/-- Its answer. -/
def Search.cards (rt : Runtime) (db : Database) (s : Store) (search : Search) :
    List VenueListItem :=
  listVenues rt db s search.q search.location search.capacity search.features

/-- The texts that are asked for. -/
def Search.fitsText (rt : Runtime) (db : Database) (search : Search) (name address : String) :
    Bool :=
  ((search.q.filter (· ≠ "")).all fun q =>
    db.ilike name (likePattern rt q) || db.ilike address (likePattern rt q)) &&
  (search.location.filter (· ≠ "")).all fun location => db.ilike address (likePattern rt location)

/-- The features and the workplaces. -/
def Search.fitsRest (rt : Runtime) (search : Search) (card : VenueListItem) : Bool :=
  ((search.features.getD []).map (featureCode rt) ⊆ card.features.map (featureCode rt)) ∧
    ∀ least ∈ search.capacity, least ≤ card.availableWorkplaces

/-- Has a card what is asked for? -/
def Search.fits (rt : Runtime) (db : Database) (search : Search) (card : VenueListItem) : Bool :=
  search.fitsText rt db card.name card.address && search.fitsRest rt card

theorem mem_sorted {name : String} : name ∈ sorted names ↔ name ∈ names :=
  (List.perm_insertionSort _ names).mem_iff

/-- The loop passes over a venue in two places. -/
theorem fitsRest_iff {search : Search} {venue : Venue} :
    search.fitsRest rt (catalogueCard s venue) ↔
      ¬ ((search.features.getD []).map (featureCode rt) ≠ [] ∧
        ¬ (search.features.getD []).map (featureCode rt) ⊆
          (venueNames s venue.id).map (featureCode rt)) ∧
      ¬ ∃ least ∈ search.capacity, (seatCount s venue.id : Int) < least := by
  have hcodes : ∀ code, code ∈ (sorted (venueNames s venue.id)).map (featureCode rt) ↔
      code ∈ (venueNames s venue.id).map (featureCode rt) := by
    intro code
    simp only [List.mem_map, mem_sorted]
  simp only [Search.fitsRest, catalogueCard, decide_eq_true_eq, List.subset_def, hcodes]
  refine and_congr ?_ (by simp)
  -- Nothing requested is among the names of every venue.
  generalize (search.features.getD []).map (featureCode rt) = codes
  by_cases hnil : codes = []
  · simp [hnil]
  · simp only [hnil, ne_eq, not_false_eq_true, true_and, not_not]

/-- One pass of the loop over the venues. -/
theorem searchCard_fits (hapart : RoomsApart s) {search : Search} {venueIds : List Uuid}
    {venue : Venue} (hvenue : venue ∈ s.venues) (hmem : venue.id ∈ venueIds) :
    (if (search.features.getD []).map (featureCode rt) ≠ [] ∧
        ¬ (search.features.getD []).map (featureCode rt) ⊆
          (getFeatureMap s (some venueIds) none venue.id).map (featureCode rt) then none
      else if ∃ least ∈ search.capacity, (seatCount s venue.id : Int) < least then none
      else some (searchCard s venueIds venue)) =
    (some (catalogueCard s venue)).filter (search.fitsRest rt) := by
  have hnames : getFeatureMap s (some venueIds) none venue.id = venueNames s venue.id :=
    getFeatureMap_venue hapart (Table.mem_keys.mpr ⟨venue, hvenue, rfl⟩) hmem
  have hcard : searchCard s venueIds venue = catalogueCard s venue := by
    rw [searchCard, hnames, catalogueCard]
  rw [hcard, hnames, Option.filter_some]
  by_cases hfits : search.fitsRest rt (catalogueCard s venue)
  · obtain ⟨hfeatures, hcapacity⟩ := fitsRest_iff.mp hfits
    rw [if_pos hfits, if_neg hfeatures, if_neg hcapacity]
  · rw [if_neg hfits]
    rw [fitsRest_iff, not_and_or, not_not, not_not] at hfits
    split
    · rfl
    next hfeatures => rw [if_pos (hfits.resolve_left hfeatures)]

/-- **A search is a filter.**  The clauses, the loop and its two exits come to one condition on the
card that a venue has in the catalogue. -/
theorem search_perm (hapart : RoomsApart s) (search : Search) :
    (search.cards rt db s).Perm ((catalogue s).filter (search.fits rt db)) := by
  have hcards : search.cards rt db s = ((db.venueOrder.arrange (s.venues.rows.filter fun venue =>
      search.fitsText rt db venue.name venue.address)).map (catalogueCard s)).filter
        (search.fitsRest rt) := by
    rw [← List.filterMap_eq_filter, List.filterMap_map]
    apply List.filterMap_congr
    intro venue hvenue
    have hrow : venue ∈ s.venues := (List.mem_filter.mp (db.venueOrder.mem_arrange.mp hvenue)).1
    exact searchCard_fits hapart hrow (List.mem_map_of_mem hvenue)
  rw [hcards, catalogue]
  refine (((db.venueOrder.perm _).map _).filter _).trans (List.Perm.of_eq ?_)
  rw [List.filter_map, List.filter_map, List.filter_filter]
  congr 1
  apply List.filter_congr
  intro venue _
  exact Bool.and_comm _ _

/-! ## §2 Creating venues -/

/-- Every link is to a feature that is there. -/
def LinksStored (s : Store) : Prop :=
  ∀ link ∈ s.featureLinks, (s.features.get? link.featureId).isSome

/-- Under which name the feature for a name is stored. -/
def storedName (rt : Runtime) (s : Store) (name : String) : Option String :=
  (s.features.rows.find? (·.code = featureCode rt name)).map (·.name)

/-- What linking names to a venue does to the features of every venue. -/
structure NamesLinked (rt : Runtime) (s : Store) (venueId : Uuid) (names : List String)
    (s' : Store) : Prop where
  linksStored : LinksStored s'
  kept : ∀ link ∈ s.featureLinks, link ∈ s'.featureLinks
  links : ∀ link ∈ s'.featureLinks, link ∈ s.featureLinks ∨ link.venueId = some venueId
  venueNames_eq : ∀ id, venueNames s' id =
    venueNames s id ++ if id = venueId then names.filterMap (storedName rt s') else []
  /-- What has a name keeps it. -/
  stored : ∀ name stored, storedName rt s name = some stored →
    storedName rt s' name = some stored
  known : ∀ name ∈ names, (storedName rt s' name).isSome

theorem linkFeature_names {name : String} (hlinked : LinksStored s)
    (h : linkFeature rt venueId s name = .ok s') : NamesLinked rt s venueId [name] s' := by
  obtain ⟨feature, features, link, hlink, rfl, hid, hvenue, hroom, hfor⟩ := linkFeature_eq_ok h
  have hget : features.get? feature.id = some feature := by
    cases hfor with
    | found hfind => exact Table.get?_of_mem (List.mem_of_find?_eq_some hfind)
    | made _ _ _ hnew => exact Table.get?_insert_self hnew
  have hkept : ∀ id f, s.features.get? id = some f → features.get? id = some f := by
    intro id f hf
    cases hfor with
    | found => exact hf
    | made _ _ _ hnew => exact Table.get?_insert_of_some hnew hf
  have hstored : ∀ name stored, storedName rt s name = some stored →
      (features.rows.find? (·.code = featureCode rt name)).map (·.name) = some stored := by
    intro other stored hother
    cases hfor with
    | found => exact hother
    | made _ _ _ hnew =>
      obtain ⟨f, hf, rfl⟩ := Option.map_eq_some_iff.mp hother
      rw [Table.insert, List.find?_append, hf]
      rfl
  have hself : (features.rows.find? (·.code = featureCode rt name)).map (·.name) =
      some feature.name := by
    cases hfor with
    | found hfind => rw [hfind, Option.map_some]
    | made hfind hcode _ hnew =>
      rw [Table.insert, List.find?_append, hfind]
      simp [hcode]
  have hmem : ∀ l, l ∈ s.featureLinks.insert link hlink ↔ l ∈ s.featureLinks ∨ l = link :=
    fun _ => Table.mem_insert
  refine ⟨?_, fun l hl => (hmem l).mpr (.inl hl), fun l hl => ?_, fun id => ?_, hstored, ?_⟩
  · intro l hl
    rcases (hmem l).mp hl with hl | rfl
    · obtain ⟨f, hf⟩ := Option.isSome_iff_exists.mp (hlinked l hl)
      exact Option.isSome_iff_exists.mpr ⟨f, hkept _ f hf⟩
    · exact Option.isSome_iff_exists.mpr ⟨feature, hid ▸ hget⟩
  · rcases (hmem l).mp hl with hold | rfl
    · exact .inl hold
    · exact .inr hvenue
  · -- The old links have the names they had, and the new one adds its own.
    have hold : ∀ l ∈ s.featureLinks.rows, (features.get? l.featureId).map (·.name) =
        (s.features.get? l.featureId).map (·.name) := by
      intro l hl
      obtain ⟨f, hf⟩ := Option.isSome_iff_exists.mp (hlinked l hl)
      rw [hf, hkept _ f hf]
    have hnames : venueNames
          { s with features, featureLinks := s.featureLinks.insert link hlink } id =
        venueNames s id ++ if id = venueId then [feature.name] else [] := by
      simp only [venueNames, Table.insert, List.filter_append, List.filterMap_append]
      congr 1
      · exact List.filterMap_congr fun l hl => hold l (List.mem_filter.mp hl).1
      · by_cases he : id = venueId
        · simp [hvenue, hroom, hid, hget, he]
        · simp [hvenue, he, Ne.symm he]
    rw [hnames]
    split
    · simp [storedName, hself]
    · rfl
  · intro other hother
    rw [List.mem_singleton.mp hother]
    exact Option.isSome_iff_exists.mpr ⟨_, hself⟩

theorem linkFeatures_names {names : List String} (hlinked : LinksStored s)
    (h : names.foldlM (linkFeature rt venueId) s = .ok s') : NamesLinked rt s venueId names s' := by
  induction names generalizing s with
  | nil =>
    obtain rfl := (pure_eq_ok _ _).mp h
    exact ⟨hlinked, fun _ hl => hl, fun _ hl => .inl hl, fun id => by simp, fun _ _ h => h,
      fun _ hname => by simp at hname⟩
  | cons name rest ih =>
    rw [List.foldlM_cons, bind_eq_ok] at h
    obtain ⟨mid, hmid, hrest⟩ := h
    have hone := linkFeature_names hlinked hmid
    have hmore := ih hone.linksStored hrest
    obtain ⟨stored, hmidName⟩ := Option.isSome_iff_exists.mp
      (hone.known name (List.mem_singleton_self _))
    -- What the later names are linked to does not rename the first.
    have hname : storedName rt s' name = some stored := hmore.stored _ _ hmidName
    refine ⟨hmore.linksStored, fun l hl => hmore.kept l (hone.kept l hl), fun l hl => ?_,
      fun id => ?_, fun _ _ h => hmore.stored _ _ (hone.stored _ _ h), ?_⟩
    · exact (hmore.links l hl).elim (hone.links l) .inr
    · rw [hmore.venueNames_eq, hone.venueNames_eq]
      by_cases he : id = venueId
      · simp [he, hmidName, hname]
      · simp [he]
    · intro other hother
      rcases List.mem_cons.mp hother with rfl | hother
      · exact Option.isSome_iff_exists.mpr ⟨_, hname⟩
      · exact hmore.known other hother

/-- Every link to a venue is to one that is there. -/
def VenuesLinked (s : Store) : Prop :=
  ∀ link ∈ s.featureLinks, ∀ id, link.venueId = some id → id ∈ s.venues.keys

/-- The card of the venue that a call creates: all that was requested for it, under the names by
which it is stored. -/
def Event.created (rt : Runtime) (s : Store) (e : Event) : List VenueListItem :=
  match e.op with
  | .createVenue payload =>
    match createVenue rt s payload with
    | .ok (s', venue) =>
      [⟨venue.id, payload.name, payload.address,
        sorted (payload.features.filterMap (storedName rt s')), 0⟩]
    | .error _ => []
  | _ => []

/-- The cards of the venues that a list of calls creates. -/
def createdCards (rt : Runtime) (s : Store) : List Event → List VenueListItem
  | [] => []
  | e :: es => e.created rt s ++ createdCards rt (step rt s e) es

theorem createdCards_snoc (es : List Event) (e : Event) :
    createdCards rt s (es ++ [e]) = createdCards rt s es ++ e.created rt (replay rt s es) := by
  induction es generalizing s with
  | nil => simp [createdCards]
  | cons e' es ih => simp [createdCards, ih, replay]

/-- The card with the workplaces of now. -/
def recount (s : Store) (card : VenueListItem) : VenueListItem :=
  { card with availableWorkplaces := seatCount s card.id }

/-- What the catalogue depends on. -/
structure SameVenues (s s' : Store) : Prop where
  venues : s'.venues = s.venues
  features : s'.features = s.features
  featureLinks : s'.featureLinks = s.featureLinks

/-- The venues with all that is in them. -/
structure SameSpace (s s' : Store) : Prop extends SameVenues s s' where
  rooms : s'.rooms = s.rooms
  seats : s'.seats = s.seats
  roomHours : s'.roomHours = s.roomHours
  bookingRules : s'.bookingRules = s.bookingRules

theorem SameSpace.refl (s : Store) : SameSpace s s := ⟨⟨rfl, rfl, rfl⟩, rfl, rfl, rfl, rfl⟩

/-- Only the administrator's operations change them. -/
theorem exec_sameSpace {c : Call} {op : Op} (h : exec rt c s op = .ok s')
    (hvenue : ∀ payload, op ≠ .createVenue payload)
    (hlayout : ∀ roomId payload, op ≠ .updateRoomLayout roomId payload) : SameSpace s s' := by
  cases op with
  | updateNotificationPreferences payload =>
    cases h
    unfold updateNotificationPreferences
    dsimp only
    split
    · exact ⟨⟨rfl, rfl, rfl⟩, rfl, rfl, rfl, rfl⟩
    · exact ⟨⟨rfl, rfl, rfl⟩, rfl, rfl, rfl, rfl⟩
  | createFavoriteVenue venueId =>
    obtain ⟨favoriteVenues, rfl⟩ := createFavoriteVenue_eq_ok h
    exact ⟨⟨rfl, rfl, rfl⟩, rfl, rfl, rfl, rfl⟩
  | deleteFavoriteVenue venueId =>
    cases h
    exact ⟨⟨rfl, rfl, rfl⟩, rfl, rfl, rfl, rfl⟩
  | createVenue payload => exact absurd rfl (hvenue payload)
  | updateRoomLayout roomId payload => exact absurd rfl (hlayout roomId payload)
  | _ =>
    have hrecords := exec_recordsOnly h trivial
    exact ⟨⟨hrecords.venues, hrecords.features, hrecords.featureLinks⟩, hrecords.rooms,
      hrecords.seats, hrecords.roomHours, hrecords.bookingRules⟩

/-- Only `create_venue` changes the catalogue. -/
theorem exec_sameVenues {c : Call} {op : Op} (h : exec rt c s op = .ok s')
    (hvenue : ∀ payload, op ≠ .createVenue payload) : SameVenues s s' := by
  by_cases hlayout : ∃ roomId payload, op = .updateRoomLayout roomId payload
  · obtain ⟨roomId, payload, rfl⟩ := hlayout
    obtain ⟨seats, flag, -, rfl⟩ := updateRoomLayout_eq_ok h
    exact ⟨rfl, rfl, rfl⟩
  · exact (exec_sameSpace h hvenue fun roomId payload hop =>
      hlayout ⟨roomId, payload, hop⟩).toSameVenues

/-! ## §3 Runs -/

/-- What the catalogue comes from. -/
structure CatalogueSound (s : Store) : Prop where
  features : LinksStored s
  venues : VenuesLinked s

theorem recount_catalogue (h : SameVenues s s') :
    catalogue s' = (catalogue s).map (recount s') := by
  simp only [catalogue, List.map_map, h.venues]
  apply List.map_congr_left
  intro venue _
  simp only [catalogueCard, recount, Function.comp_apply, venueNames, h.features, h.featureLinks]

/-- A new venue stands at the end of the catalogue, with what was requested for it. -/
theorem catalogue_createVenue {payload : VenueCreate} {venue : Venue} (hs : CatalogueSound s)
    (h : createVenue rt s payload = .ok (s', venue)) :
    CatalogueSound s' ∧ (RoomsApart s' → RoomsApart s) ∧ catalogue s' = (catalogue s ++
      [VenueListItem.mk venue.id payload.name payload.address
        (sorted (payload.features.filterMap (storedName rt s'))) 0]).map (recount s') := by
  obtain ⟨hnew, hlinks⟩ := createVenue_links h
  obtain ⟨features, featureLinks, hs'⟩ := linkFeatures_eq_ok hlinks
  have hrow : venue.name = payload.name ∧ venue.address = payload.address := by
    simp only [createVenue, bind_eq_ok, raiseIf_eq_ok, pure_eq_ok, exists_const, Prod.mk.injEq] at h
    obtain ⟨-, _, -, -, rfl⟩ := h
    exact ⟨rfl, rfl⟩
  have hmid : LinksStored { s with venues := s.venues.insert venue hnew } := hs.features
  have hlinked := linkFeatures_names hmid hlinks
  have hvenues : s'.venues = s.venues.insert venue hnew := congrArg Store.venues hs'
  -- No link was to the new venue before.
  have hnone : venueNames s venue.id = [] := by
    rw [venueNames, List.filter_eq_nil_iff.mpr]
    · rfl
    · intro link hlink hboth
      exact hnew (hs.venues link hlink _ (of_decide_eq_true hboth).1)
  refine ⟨⟨hlinked.linksStored, fun link hlink id hid => ?_⟩,
    fun hapart link hlink id hid => ?_, ?_⟩
  · -- Links are to venues that are there: the new ones to the new venue.
    rw [hvenues, Table.mem_keys_insert]
    rcases hlinked.links link hlink with hold | hnewLink
    · exact .inl (hs.venues link hold id hid)
    · exact .inr (Option.mem_unique hid hnewLink)
  · have hnot := hapart link (hlinked.kept link hlink) id hid
    rw [hvenues, Table.mem_keys_insert, not_or] at hnot
    exact hnot.1
  · rw [catalogue, hvenues, Table.insert, List.map_append, List.map_append, catalogue, List.map_map]
    congr 1
    · -- The venues that were there are not the one that is linked to.
      apply List.map_congr_left
      intro v hv
      have hne : v.id ≠ venue.id := fun he => hnew (Table.mem_keys.mpr ⟨v, hv, he⟩)
      have hnames := hlinked.venueNames_eq v.id
      rw [if_neg hne, List.append_nil] at hnames
      simp only [catalogueCard, recount, Function.comp_apply, hnames]
      rfl
    · have hnames : venueNames s' venue.id = payload.features.filterMap (storedName rt s') := by
        rw [hlinked.venueNames_eq, if_pos rfl]
        show venueNames s venue.id ++ _ = _
        rw [hnone, List.nil_append]
      simp only [List.map_singleton, catalogueCard, recount, hnames, hrow]

/-- **Effect on the catalogue.** -/
theorem catalogue_step (hs : CatalogueSound s) (e : Event) :
    CatalogueSound (step rt s e) ∧ (RoomsApart (step rt s e) → RoomsApart s) ∧
      catalogue (step rt s e) = (catalogue s ++ e.created rt s).map (recount (step rt s e)) := by
  by_cases hcreates : ∃ payload r, e.op = .createVenue payload ∧ createVenue rt s payload = .ok r
  · obtain ⟨payload, ⟨s', venue⟩, hop, hok⟩ := hcreates
    have hstep : step rt s e = s' := step_of_ok (by rw [hop, exec, hok]; rfl)
    have hcreated : e.created rt s = [⟨venue.id, payload.name, payload.address,
        sorted (payload.features.filterMap (storedName rt s')), 0⟩] := by
      rw [Event.created, hop]
      simp only [hok]
    rw [hstep, hcreated]
    exact catalogue_createVenue hs hok
  · -- Without a new venue the catalogue keeps its cards, with the seats counted again.
    have hcreated : e.created rt s = [] := by
      unfold Event.created
      split
      next payload hop =>
        split
        next s' venue hok => exact absurd ⟨payload, _, hop, hok⟩ hcreates
        next => rfl
      next => rfl
    have hsame : SameVenues s (step rt s e) := by
      cases hok : exec rt e.call s e.op with
      | error err => simpa [step, hok] using (SameSpace.refl s).toSameVenues
      | ok s' =>
        rw [step_of_ok hok]
        refine exec_sameVenues hok fun payload hop => ?_
        rw [hop] at hok
        obtain ⟨r, hr, -⟩ := (map_eq_ok _ _ _).mp hok
        exact hcreates ⟨payload, r, hop, hr⟩
    rw [hcreated, List.append_nil]
    refine ⟨⟨?_, ?_⟩, ?_, recount_catalogue hsame⟩
    · rw [LinksStored, hsame.features, hsame.featureLinks]
      exact hs.features
    · rw [VenuesLinked, hsame.venues, hsame.featureLinks]
      exact hs.venues
    · rw [RoomsApart, RoomsApart, hsame.venues, hsame.featureLinks]
      exact id

theorem recount_recount (cards : List VenueListItem) :
    (cards.map (recount s)).map (recount s') = cards.map (recount s') := by
  rw [List.map_map]
  rfl

/-- **The catalogue over a run**: what there was, what has been created since, and the workplaces of
now. -/
theorem catalogue_run {x y : State} {es : List Event} (hx : CatalogueSound x.store)
    (hrun : Run (SerialStep rt) x es y) :
    CatalogueSound y.store ∧ (RoomsApart y.store → RoomsApart x.store) ∧
      catalogue y.store = (catalogue x.store ++ createdCards rt x.store es).map
        (recount y.store) := by
  refine hrun.history (I := fun es v => CatalogueSound v.store ∧
    (RoomsApart v.store → RoomsApart x.store) ∧ catalogue v.store =
      (catalogue x.store ++ createdCards rt x.store es).map (recount v.store)) ?_ ⟨hx, id, ?_⟩
  · intro es u e v hrun hu hstep
    obtain ⟨hsound, hapart, hcatalogue⟩ : CatalogueSound (step rt u.store e) ∧ _ :=
      catalogue_step hu.1 e
    rw [hstep.store]
    refine ⟨hsound, fun h => hu.2.1 (hapart h), ?_⟩
    rw [hcatalogue, createdCards_snoc, ← serialRun_store hrun, hu.2.2, List.map_append,
      recount_recount, ← List.append_assoc]
    simp only [List.map_append]
  · rw [createdCards, List.append_nil]
    exact recount_catalogue (SameSpace.refl x.store).toSameVenues

theorem everything_perm (hapart : RoomsApart s) :
    (Search.everything.cards rt db s).Perm (catalogue s) := by
  have hall : (catalogue s).filter (Search.everything.fits rt db) = catalogue s :=
    List.filter_eq_self.mpr fun card _ => by
      simp [Search.everything, Search.fits, Search.fitsText, Search.fitsRest]
  exact (search_perm hapart Search.everything).trans (.of_eq hall)

theorem cards_sorted (search : Search) :
    (search.cards rt db s).Pairwise fun a b => db.collates a.name b.name := by
  unfold Search.cards listVenues
  dsimp only
  -- The loop skips venues and keeps their order.
  apply List.Pairwise.filterMap _ _ (db.venueOrder.sorted _)
  intro venue venue' hcollates card hcard card' hcard'
  have hname : card.name = venue.name := by
    split at hcard
    · cases hcard
    · split at hcard
      · cases hcard
      · rw [← Option.some.inj hcard]
  have hname' : card'.name = venue'.name := by
    split at hcard'
    · cases hcard'
    · split at hcard'
      · cases hcard'
      · rw [← Option.some.inj hcard']
  rw [hname, hname']
  exact hcollates

/-- **Every search after a run.**  Let links be to features and venues that exist, and no room have
the id of a venue.  Then a search answers, in the order of the names, with what was there at the
start and what has been created since, each with the workplaces it has now, as far as it is what the
search asks for; nothing else that is done changes an answer. -/
theorem search_over_run {x y : State} {es : List Event} (hfeatures : LinksStored x.store)
    (hvenues : VenuesLinked x.store) (hrun : Run (SerialStep rt) x es y)
    (hapart : RoomsApart y.store) (search : Search) :
    (search.cards rt db y.store).Perm
      (((Search.everything.cards rt db x.store ++ createdCards rt x.store es).map
        (recount y.store)).filter (search.fits rt db)) ∧
    (search.cards rt db y.store).Pairwise fun a b => db.collates a.name b.name := by
  obtain ⟨-, hstart, hcatalogue⟩ := catalogue_run ⟨hfeatures, hvenues⟩ hrun
  refine ⟨(search_perm hapart search).trans ?_, cards_sorted search⟩
  rw [hcatalogue]
  exact ((((everything_perm (hstart hapart)).append_right _).map _).filter _).symm

/-- An attic is added, with two names for one feature. -/
def atticCreated : List Event :=
  [⟨.plain 7 1, .createVenue ⟨"Attic", by decide, "Pier 1", by decide, "UTC", ["Wi-Fi", "wi fi"]⟩⟩]

/-- A third name for the feature finds it. -/
theorem search_over_run_attic :
    (Search.cards .plain .plain (replay .plain smallStore atticCreated)
      ⟨none, none, some 0, some ["WI-FI"]⟩).map (fun card => (card.name, card.features)) =
      [("Attic", ["Wi-Fi", "Wi-Fi"])] := by
  have hrun : Run (SerialStep .plain) ⟨0, smallStore⟩ atticCreated
      ⟨1, replay .plain smallStore atticCreated⟩ :=
    (by decide : InOrder 0 atticCreated).run smallStore
  have hapart : RoomsApart (replay .plain smallStore atticCreated) := by
    intro link hlink id hid
    have hnone : ∀ link ∈ (replay .plain smallStore atticCreated).featureLinks.rows,
        link.roomId = none := by decide
    rw [hnone link hlink] at hid
    cases hid
  have hsmall : RoomsApart smallStore := fun link hlink => ((Table.mem_empty link).mp hlink).elim
  obtain ⟨hperm, -⟩ : (Search.cards .plain .plain _ _).Perm _ ∧ _ := search_over_run
    (fun link hlink => ((Table.mem_empty link).mp hlink).elim)
    (fun link hlink => ((Table.mem_empty link).mp hlink).elim) hrun hapart
    ⟨none, none, some 0, some ["WI-FI"]⟩
  have hcards := hperm.trans ((((everything_perm hsmall).append_right _).map _).filter _)
  have hattic : ((catalogue smallStore ++ createdCards .plain smallStore atticCreated).map
      (recount (replay .plain smallStore atticCreated))).filter
        (Search.fits .plain .plain ⟨none, none, some 0, some ["WI-FI"]⟩) =
      [⟨2, "Attic", "Pier 1", ["Wi-Fi", "Wi-Fi"], 0⟩] := by
    rfl
  rw [hattic, List.perm_singleton] at hcards
  rw [hcards]
  rfl

end Coworking
