import Coworking.Schemas
import Coworking.Core.Runtime
import Coworking.Db.Database
import Coworking.Foundation.Folding
import Coworking.Services.Availability
import Mathlib.Data.List.Sort

/-!
# Space

`create_venue` with its features, `get_venue` and `list_venues`, which read them back, and
`update_room_layout`, whose flush writes one seat row at a time under the unique constraint on
`(room_id, label)`.

- `updateRoomLayout_eq_ok`: a layout update touches one room and the seats written to it;
- `SeatsPersist`: what any number of seat writes keep of the seat table;
- `featureCode_eq_iff`: a feature code stands for the words of a name;
- `listed_iff`: the venues a search for features finds.
-/

namespace Coworking

open Foundation

/-! ## §1 Feature codes -/

/-- `[a-z0-9]`. -/
def isCodeChar (ch : Char) : Bool := ('a' ≤ ch ∧ ch ≤ 'z') ∨ ('0' ≤ ch ∧ ch ≤ '9')

/-- `re.sub(r"[^a-z0-9]+", "_", text)`; the flag says that the run before is already replaced. -/
def collapse : Bool → List Char → List Char
  | _, [] => []
  | replaced, ch :: rest =>
    if isCodeChar ch then ch :: collapse false rest
    else if replaced then collapse true rest
    else '_' :: collapse true rest

/-- `str.strip` with the given set of characters. -/
def stripChars (p : Char → Bool) (text : List Char) : List Char :=
  ((text.dropWhile p).reverse.dropWhile p).reverse

/-- `_feature_code`. -/
def featureCode (rt : Runtime) (rawValue : String) : String :=
  let normalized :=
    stripChars (· = '_') (collapse false (rt.lower (stripChars rt.isSpace rawValue.toList)))
  if normalized = [] then "feature" else String.ofList normalized

/-! ## §2 Creating a venue -/

/-- One pass of the loop of `create_venue`. -/
def linkFeature (rt : Runtime) (venueId : Uuid) (s : Store) (featureName : String) :
    Except ServiceError Store := do
  let code := featureCode rt featureName
  match s.features.rows.find? (·.code = code) with
  -- Names with one code share a feature, which keeps the name it was created under.
  | some feature =>
    let link : FeatureLink := ⟨rt.fresh s.featureLinks, feature.id, some venueId, none⟩
    pure { s with featureLinks := s.featureLinks.insert link (rt.fresh_notMem s.featureLinks) }
  | none =>
    raiseIf (!fitsVarchar 64 code || !fitsVarchar 255 featureName) .data
    let feature : Feature := ⟨rt.fresh s.features, code, featureName⟩
    let link : FeatureLink := ⟨rt.fresh s.featureLinks, feature.id, some venueId, none⟩
    pure { s with
      features := s.features.insert feature (rt.fresh_notMem s.features)
      featureLinks := s.featureLinks.insert link (rt.fresh_notMem s.featureLinks) }

/-- `create_venue`. -/
def createVenue (rt : Runtime) (s : Store) (payload : VenueCreate) :
    Except ServiceError (Store × Venue) := do
  raiseIf (!fitsVarchar 255 payload.name || !fitsVarchar 64 payload.timezone) .data
  let venue : Venue := ⟨rt.fresh s.venues, payload.name, payload.address, payload.timezone⟩
  let s := { s with venues := s.venues.insert venue (rt.fresh_notMem s.venues) }
  let s ← payload.features.foldlM (linkFeature rt venue.id) s
  pure (s, venue)

/-! ## §3 Updating a room layout -/

/-- The row writes of a payload: one `UPDATE` for a mentioned seat of the room, with the
values of its last entry, and one `INSERT` for every other entry. -/
def layoutWrites (existing : List Uuid) (seats : List RoomLayoutSeatInput) : List SeatWrite :=
  let updates := existing.filterMap fun id =>
    (seats.filter (·.id = some id)).getLast?.map fun seat =>
      .update id seat.label seat.gridX seat.gridY seat.seatType seat.attributes seat.active
  let inserts := (seats.filter fun seat => ∀ id ∈ existing, seat.id ≠ some id).map fun seat =>
    .insert seat.label seat.gridX seat.gridY seat.seatType seat.attributes seat.active
  updates ++ inserts

/-- Do the values fit the columns of `seats`? -/
def fitsSeat (label : String) (gridX gridY : Int) (seatType : Option String) : Bool :=
  fitsVarchar 64 label && fitsInteger gridX && fitsInteger gridY && seatType.all (fitsVarchar 64)

/-- One row write of the flush, checked against `uq_seats_room_label`. -/
def writeSeat (rt : Runtime) (roomId : Uuid) (seats : Table Seat) (write : SeatWrite) :
    Except ServiceError (Table Seat) :=
  match write with
  -- The constraint is checked row by row, so labels cannot be swapped within one payload.
  | .update id label gridX gridY seatType attributes active => do
    raiseIf (!fitsSeat label gridX gridY seatType) .data
    raiseIf (∃ seat ∈ seats.rows, seat.roomId = roomId ∧ seat.label = label ∧ seat.id ≠ id)
      .integrity
    pure (seats.modify id
      (fun seat => { seat with label, gridX, gridY, seatType, attributes, active }) fun _ => rfl)
  | .insert label gridX gridY seatType attributes active => do
    raiseIf (!fitsSeat label gridX gridY seatType) .data
    raiseIf (∃ seat ∈ seats.rows, seat.roomId = roomId ∧ seat.label = label) .integrity
    let seat : Seat := ⟨rt.fresh seats, roomId, label, gridX, gridY, seatType, attributes, active⟩
    pure (seats.insert seat (rt.fresh_notMem seats))

/-- `update_room_layout`. -/
def updateRoomLayout (rt : Runtime) (s : Store) (roomId : Uuid) (payload : RoomLayoutUpdate) :
    Except ServiceError Store := do
  let room ← found (s.room? roomId) (.spaceNotFound "Room not found.")
  let allowFullRoomBooking := payload.allowFullRoomBooking.getD room.allowFullRoomBooking
  let existing := (s.seats.rows.filter (·.roomId = roomId)).map (·.id)
  let seats ← (rt.flushOrder (layoutWrites existing payload.seats)).foldlM (writeSeat rt roomId)
    s.seats
  pure { s with
    rooms := s.rooms.modify roomId (fun room => { room with allowFullRoomBooking }) fun _ => rfl
    seats }

/-! ## §4 Reading venues -/

/-- The join of `feature_links` with `features` under the `where` clauses of `_get_feature_map`.
It has no `ORDER BY`, and every reader sorts. -/
def featureRows (s : Store) (venueIds roomIds : Option (List Uuid)) :
    List (FeatureLink × Feature) :=
  (s.featureLinks.rows.filter fun link =>
    venueIds.all (sqlIn link.venueId) && roomIds.all (sqlIn link.roomId)).filterMap fun link =>
      (s.features.get? link.featureId).map (link, ·)

/-- `_get_feature_map`: what `.get(str(id), [])` reads off it. -/
def getFeatureMap (s : Store) (venueIds roomIds : Option (List Uuid)) (id : Uuid) : List String :=
  ((featureRows s venueIds roomIds).filter fun row =>
    (row.1.roomId <|> row.1.venueId) = some id).map fun row => row.2.name

/-- `sorted`. -/
def sorted (values : List String) : List String := values.insertionSort (· ≤ ·)

structure VenueListItem where
  id : Uuid
  name : String
  address : String
  features : List String
  availableWorkplaces : Nat
  deriving DecidableEq

/-- `seat_counts.get(venue.id, 0)`. -/
def seatCount (s : Store) (venueId : Uuid) : Nat :=
  s.seats.rows.countP fun seat =>
    seat.active && (s.room? seat.roomId).any (·.venueId = venueId)

/-- `f"%{text.strip()}%"`. -/
def likePattern (rt : Runtime) (text : String) : String :=
  "%" ++ String.ofList (stripChars rt.isSpace text.toList) ++ "%"

/-- `list_venues`. -/
def listVenues (rt : Runtime) (db : Database) (s : Store) (q location : Option String)
    (capacity : Option Int) (features : Option (List String)) : List VenueListItem :=
  -- Empty texts do not filter.
  let venues := db.venueOrder.arrange (s.venues.rows.filter fun venue =>
    ((q.filter (· ≠ "")).all fun q =>
      db.ilike venue.name (likePattern rt q) || db.ilike venue.address (likePattern rt q)) &&
    (location.filter (· ≠ "")).all fun location =>
      db.ilike venue.address (likePattern rt location))
  let featureMap := getFeatureMap s (some (venues.map (·.id))) none
  let requestedFeatures := (features.getD []).map (featureCode rt)
  venues.filterMap fun venue =>
    let venueFeatures := featureMap venue.id
    let venueFeatureCodes := venueFeatures.map (featureCode rt)
    let workplaces := seatCount s venue.id
    if requestedFeatures ≠ [] ∧ ¬ requestedFeatures ⊆ venueFeatureCodes then none
    else if ∃ least ∈ capacity, (workplaces : Int) < least then none
    else some ⟨venue.id, venue.name, venue.address, sorted venueFeatures, workplaces⟩

structure GeoPoint where
  lat : Option Degrees
  lon : Option Degrees
  deriving DecidableEq

structure RoomBrief where
  id : Uuid
  name : String
  allowFullRoomBooking : Bool
  features : List String
  deriving DecidableEq

structure VenueFull where
  id : Uuid
  name : String
  address : String
  timezone : String
  location : GeoPoint
  features : List String
  rooms : List RoomBrief
  deriving DecidableEq

/-- `get_venue`. -/
def getVenue (db : Database) (s : Store) (venueId : Uuid) : Except ServiceError VenueFull := do
  let venue ← found (s.venue? venueId) (.spaceNotFound "Venue not found.")
  let rooms := db.roomOrder.arrange (s.rooms.rows.filter (·.venueId = venueId))
  let venueFeatureMap := getFeatureMap s (some [venueId]) none
  let roomFeatureMap := getFeatureMap s none (some (rooms.map (·.id)))
  pure {
    id := venue.id
    name := venue.name
    address := venue.address
    timezone := venue.timezone
    location := ⟨none, none⟩
    features := sorted (venueFeatureMap venue.id)
    rooms := rooms.map fun room =>
      ⟨room.id, room.name, room.allowFullRoomBooking, sorted (roomFeatureMap room.id)⟩ }

/-! ## §5 Booking rules -/

structure BookingRulePublic where
  id : Uuid
  venueId : Option Uuid
  roomId : Option Uuid
  minDurationMinutes : Int
  maxDurationMinutes : Int
  maxAdvanceDays : Int
  cancellationDeadlineMinutes : Int
  requiresPayment : Bool
  holdTtlSeconds : Int
  checkinOpenBeforeMinutes : Int
  geoRadiusMeters : Int
  deriving DecidableEq

/-- What `get_booking_rule` shows of a row. -/
def BookingRule.toPublic (rule : BookingRule) : BookingRulePublic where
  id := rule.id
  venueId := rule.venueId
  roomId := rule.roomId
  minDurationMinutes := rule.minDurationMinutes
  maxDurationMinutes := rule.maxDurationMinutes
  maxAdvanceDays := rule.maxAdvanceDays
  cancellationDeadlineMinutes := rule.cancellationDeadlineMinutes
  requiresPayment := rule.requiresPayment
  holdTtlSeconds := rule.holdTtlSeconds
  checkinOpenBeforeMinutes := rule.checkinOpenBeforeMinutes
  geoRadiusMeters := rule.geoRadiusMeters

/-- `get_booking_rule`. -/
def getBookingRule (db : Database) (s : Store) (scope : String) (venueId roomId : Option Uuid) :
    Except ServiceError BookingRulePublic := do
  raiseIf (scope ∉ ["venue", "room"]) (.value "scope must be either 'venue' or 'room'.")
  raiseIf (scope = "venue" ∧ venueId = none) (.value "venueId is required for venue scope.")
  raiseIf (scope = "room" ∧ roomId = none) (.value "roomId is required for room scope.")
  let rows := s.bookingRules.rows.filter fun rule =>
    -- Rules of the venue's rooms carry the venue as well, and are not its own.
    if scope = "venue" then sqlEq rule.venueId venueId && rule.roomId = none
    else sqlEq rule.roomId roomId
  let rule ← found (db.bookingRuleOrder.arrange rows).head?
    (.spaceNotFound "Booking rule not found.")
  pure rule.toPublic

/-! ## §6 Specifications -/

/-! ### Feature codes -/

private theorem ne_underscore {ch : Char} (h : isCodeChar ch = true) : ch ≠ '_' := by
  rintro rfl
  exact absurd h (by decide)

/-- After a run that is replaced there is nothing to strip. -/
private theorem dropWhile_collapse_true (text : List Char) :
    (collapse true text).dropWhile (· = '_') = collapse true text := by
  induction text with
  | nil => rfl
  | cons ch rest ih =>
    cases hch : isCodeChar ch with
    | true => simp [collapse, hch, ne_underscore hch]
    | false => simpa [collapse, hch] using ih

/-- Stripping takes off what replaces a run at the start. -/
private theorem dropWhile_collapse_false (text : List Char) :
    (collapse false text).dropWhile (· = '_') = collapse true text := by
  cases text with
  | nil => rfl
  | cons ch rest =>
    cases hch : isCodeChar ch with
    | true => simp [collapse, hch, ne_underscore hch]
    | false => simpa [collapse, hch] using dropWhile_collapse_true rest

/-- Stripped at the end, what is left are the joined words; after a run that is replaced, words
that follow have a separator before them. -/
private theorem rdropWhile_collapse (text : List Char) :
    (collapse true text).rdropWhile (· = '_') = ['_'].intercalate (words isCodeChar text) ∧
    (collapse false text).rdropWhile (· = '_') =
      if text.head?.all isCodeChar ∨ words isCodeChar text = [] then
        ['_'].intercalate (words isCodeChar text)
      else '_' :: ['_'].intercalate (words isCodeChar text) := by
  have hnil : ∀ text, ['_'].intercalate (words isCodeChar text) = [] ↔
      words isCodeChar text = [] :=
    fun text => intercalate_eq_nil fun _ => ne_nil_of_mem_words
  induction text with
  | nil => simp [collapse]
  | cons ch rest ih =>
    rcases ih with ⟨ihtrue, ihfalse⟩
    cases hch : isCodeChar ch with
    | false =>
      simp only [collapse, hch, Bool.false_eq_true, if_false, if_true, words_cons_of_not hch,
        rdropWhile_cons, ihtrue, List.head?_cons, Option.all_some, false_or]
      refine ⟨trivial, ?_⟩
      -- The underscore for the run is stripped again when nothing is left after it.
      by_cases hwords : words isCodeChar rest = [] <;> simp [hwords, hnil]
    | true =>
      -- A letter or digit is kept, with whatever is left after it.
      have hcons : (ch :: collapse false rest).rdropWhile (· = '_') =
          ch :: (collapse false rest).rdropWhile (· = '_') := by
        rw [rdropWhile_cons]
        split
        next hrest => simp [hrest, ne_underscore hch]
        next => rfl
      simp only [collapse, hch, if_true, List.head?_cons, Option.all_some, true_or, hcons, ihfalse,
        intercalate_words_cons hch]
      exact ⟨trivial, trivial⟩

/-- **What `_feature_code` keeps of a text** are its words, joined by underscores. -/
theorem stripChars_collapse (text : List Char) :
    stripChars (· = '_') (collapse false text) = ['_'].intercalate (words isCodeChar text) := by
  show ((collapse false text).dropWhile (· = '_')).rdropWhile (· = '_') = _
  rw [dropWhile_collapse_false]
  exact (rdropWhile_collapse text).1

/-- The words of a name over an alphabet, in lower case. -/
def nameWords (letter : Char → Bool) (rt : Runtime) (name : String) : List (List Char) :=
  words letter (rt.lower (stripChars rt.isSpace name.toList))

/-- The words of a name that its code keeps; a name without any counts as `feature`. -/
def codeWords (rt : Runtime) (name : String) : List (List Char) :=
  if nameWords isCodeChar rt name = [] then ["feature".toList] else nameWords isCodeChar rt name

theorem codeWords_ne_nil (rt : Runtime) (name : String) : codeWords rt name ≠ [] := by
  unfold codeWords
  split
  · simp
  · assumption

theorem underscore_notMem_codeWords {rt : Runtime} {name : String} :
    ∀ w ∈ codeWords rt name, '_' ∉ w := by
  intro w hw hmem
  unfold codeWords at hw
  split at hw
  · rw [List.mem_singleton] at hw
    subst hw
    exact absurd hmem (by decide)
  · exact ne_underscore (letter_of_mem_words hw hmem) rfl

theorem featureCode_eq (rt : Runtime) (name : String) :
    featureCode rt name = String.ofList (['_'].intercalate (codeWords rt name)) := by
  have hnil : ['_'].intercalate (nameWords isCodeChar rt name) = [] ↔
      nameWords isCodeChar rt name = [] := intercalate_eq_nil fun _ => ne_nil_of_mem_words
  have hcode := stripChars_collapse (rt.lower (stripChars rt.isSpace name.toList))
  change _ = ['_'].intercalate (nameWords isCodeChar rt name) at hcode
  simp only [featureCode, hcode, hnil, codeWords]
  split
  · decide
  · rfl

/-- **Feature codes** are equal when the words they keep are. -/
theorem featureCode_eq_iff {rt : Runtime} {a b : String} :
    featureCode rt a = featureCode rt b ↔ codeWords rt a = codeWords rt b := by
  rw [featureCode_eq, featureCode_eq, String.ofList_inj]
  exact intercalate_inj underscore_notMem_codeWords underscore_notMem_codeWords
    (codeWords_ne_nil rt a) (codeWords_ne_nil rt b)

/-! ### Room layouts -/

/-- Seats stay where they are: what seat writes keep. -/
def SeatsPersist (t u : Table Seat) : Prop :=
  ∀ id seat, t.get? id = some seat → ∃ seat', u.get? id = some seat' ∧ seat'.roomId = seat.roomId

theorem SeatsPersist.refl (t : Table Seat) : SeatsPersist t t := fun _ seat h => ⟨seat, h, rfl⟩

theorem SeatsPersist.trans {t u v : Table Seat} (h₁ : SeatsPersist t u) (h₂ : SeatsPersist u v) :
    SeatsPersist t v := by
  intro id seat hseat
  obtain ⟨seat', hseat', hroom'⟩ := h₁ id seat hseat
  obtain ⟨seat'', hseat'', hroom''⟩ := h₂ id seat' hseat'
  exact ⟨seat'', hseat'', hroom''.trans hroom'⟩

theorem writeSeat_persists {rt : Runtime} {roomId : Uuid} {t u : Table Seat} {w : SeatWrite}
    (h : writeSeat rt roomId t w = .ok u) : SeatsPersist t u := by
  intro id seat hseat
  cases w with
  | update target label gridX gridY seatType attributes active =>
    -- An update writes every column but the room.
    simp only [writeSeat, bind_eq_ok, raiseIf_eq_ok, pure_eq_ok, exists_const] at h
    rcases h with ⟨-, -, rfl⟩
    rw [Table.get?_modify, hseat]
    refine ⟨_, rfl, ?_⟩
    by_cases hid : id = target <;> simp [hid]
  | insert label gridX gridY seatType attributes active =>
    simp only [writeSeat, bind_eq_ok, raiseIf_eq_ok, pure_eq_ok, exists_const] at h
    rcases h with ⟨-, -, rfl⟩
    exact ⟨seat, Table.get?_insert_of_some _ hseat, rfl⟩

theorem writeSeats_persist {rt : Runtime} {roomId : Uuid} {writes : List SeatWrite}
    {t u : Table Seat} (h : writes.foldlM (writeSeat rt roomId) t = .ok u) : SeatsPersist t u := by
  induction writes generalizing t with
  | nil =>
    rw [List.foldlM_nil, pure_eq_ok] at h
    exact h ▸ SeatsPersist.refl t
  | cons w rest ih =>
    rw [List.foldlM_cons, bind_eq_ok] at h
    rcases h with ⟨mid, hmid, hrest⟩
    exact (writeSeat_persists hmid).trans (ih hrest)

/-- **Effect of a layout update.**  Only the room's flag and the seat table change. -/
theorem updateRoomLayout_eq_ok {rt : Runtime} {s s' : Store} {roomId : Uuid}
    {payload : RoomLayoutUpdate} (h : updateRoomLayout rt s roomId payload = .ok s') :
    ∃ seats allowFullRoomBooking, SeatsPersist s.seats seats ∧ s' =
      { s with
        rooms := s.rooms.modify roomId (fun room => { room with allowFullRoomBooking })
          fun _ => rfl
        seats } := by
  simp only [updateRoomLayout, bind_eq_ok, found_eq_ok, pure_eq_ok] at h
  rcases h with ⟨room, -, seats, hseats, rfl⟩
  exact ⟨seats, _, writeSeats_persist hseats, rfl⟩

/-! ### Venues -/

/-- The feature for a name, and the features after it: the one with the code of the name, or else
a new one under that name. -/
inductive FeatureFor (rt : Runtime) (features : Table Feature) (name : String)
    (feature : Feature) : Table Feature → Prop
  | found (hfind : features.rows.find? (·.code = featureCode rt name) = some feature) :
      FeatureFor rt features name feature features
  | made (hfind : features.rows.find? (·.code = featureCode rt name) = none)
      (hcode : feature.code = featureCode rt name) (hname : feature.name = name)
      (hnew : Keyed.key feature ∉ features.keys) :
      FeatureFor rt features name feature (features.insert feature hnew)

/-- **Effect of a requested name.**  One link, from the venue to the feature for the name. -/
theorem linkFeature_eq_ok {rt : Runtime} {venueId : Uuid} {s s' : Store} {name : String}
    (h : linkFeature rt venueId s name = .ok s') :
    ∃ (feature : Feature) (features : Table Feature) (link : FeatureLink)
      (hlink : Keyed.key link ∉ s.featureLinks.keys),
      s' = { s with features, featureLinks := s.featureLinks.insert link hlink } ∧
      link.featureId = feature.id ∧ link.venueId = some venueId ∧ link.roomId = none ∧
      FeatureFor rt s.features name feature features := by
  unfold linkFeature at h
  cases hf : s.features.rows.find? (·.code = featureCode rt name) with
  | some feature =>
    simp only [hf, pure_eq_ok] at h
    exact ⟨feature, s.features, _, _, h.symm, rfl, rfl, rfl, .found hf⟩
  | none =>
    simp only [hf, bind_eq_ok, raiseIf_eq_ok, pure_eq_ok, exists_const] at h
    exact ⟨_, _, _, _, h.2.symm, rfl, rfl, rfl, .made hf rfl rfl _⟩

theorem linkFeatures_eq_ok {rt : Runtime} {venueId : Uuid} {names : List String} {s s' : Store}
    (h : names.foldlM (linkFeature rt venueId) s = .ok s') :
    ∃ features featureLinks, s' = { s with features, featureLinks } := by
  induction names generalizing s with
  | nil =>
    rw [List.foldlM_nil, pure_eq_ok] at h
    exact ⟨s.features, s.featureLinks, h ▸ rfl⟩
  | cons name rest ih =>
    rw [List.foldlM_cons, bind_eq_ok] at h
    rcases h with ⟨mid, hmid, hrest⟩
    obtain ⟨_, _, _, _, rfl, _⟩ := linkFeature_eq_ok hmid
    obtain ⟨features, featureLinks, rfl⟩ := ih hrest
    exact ⟨features, featureLinks, rfl⟩

/-- **Effect of creating a venue.**  One venue row under a new key, features and links. -/
theorem createVenue_eq_ok {rt : Runtime} {s : Store} {payload : VenueCreate} {r : Store × Venue}
    (h : createVenue rt s payload = .ok r) :
    r.2.id = rt.fresh s.venues ∧ ∃ (hnew : Keyed.key r.2 ∉ s.venues.keys) (features : Table Feature)
      (featureLinks : Table FeatureLink), r.1 =
        { s with venues := s.venues.insert r.2 hnew, features, featureLinks } := by
  simp only [createVenue, bind_eq_ok, raiseIf_eq_ok, pure_eq_ok, exists_const] at h
  rcases h with ⟨-, s', hs', rfl⟩
  obtain ⟨features, featureLinks, rfl⟩ := linkFeatures_eq_ok hs'
  exact ⟨rfl, rt.fresh_notMem s.venues, features, featureLinks, rfl⟩

/-- A venue is created with its row, and then name by name. -/
theorem createVenue_links {rt : Runtime} {s s' : Store} {payload : VenueCreate} {venue : Venue}
    (h : createVenue rt s payload = .ok (s', venue)) :
    ∃ hnew : Keyed.key venue ∉ s.venues.keys,
      payload.features.foldlM (linkFeature rt venue.id)
        { s with venues := s.venues.insert venue hnew } = .ok s' := by
  simp only [createVenue, bind_eq_ok, raiseIf_eq_ok, pure_eq_ok, exists_const] at h
  rcases h with ⟨-, t, ht, heq⟩
  obtain ⟨rfl, rfl⟩ := Prod.mk.inj heq
  exact ⟨_, ht⟩

/-! ### Features of a venue -/

/-- The names of the features linked to a venue. -/
def linkedNames (s : Store) (venueId : Uuid) : List String :=
  s.featureLinks.rows.filterMap fun link =>
    if link.venueId = some venueId then (s.features.get? link.featureId).map (·.name) else none

/-- No feature is linked to a room. -/
def NoRoomFeatures (s : Store) : Prop := ∀ link ∈ s.featureLinks, link.roomId = none

/-- The feature map of a query for some venues has the linked names of each of them. -/
theorem getFeatureMap_venues {s : Store} (hrooms : NoRoomFeatures s) {venueIds : List Uuid}
    {id : Uuid} (hid : id ∈ venueIds) :
    getFeatureMap s (some venueIds) none id = linkedNames s id := by
  unfold getFeatureMap featureRows linkedNames
  rw [List.filter_filterMap, List.map_filterMap, List.filterMap_filter]
  -- Link by link: without a room, the key of the map is the venue.
  refine List.filterMap_congr fun link hlink => ?_
  by_cases hvenue : link.venueId = some id
  · cases s.features.get? link.featureId <;> simp [hrooms link hlink, hvenue, sqlIn, hid]
  · cases s.features.get? link.featureId <;> simp [hrooms link hlink, hvenue]

/-- **What `get_venue` lists.** -/
theorem getVenue_features (db : Database) {s : Store} (hrooms : NoRoomFeatures s) {venue : Venue}
    (hvenue : s.venue? venue.id = some venue) :
    ∃ full, getVenue db s venue.id = .ok full ∧
      full.features = sorted (linkedNames s venue.id) := by
  unfold getVenue
  rw [(found_eq_ok _ _ _).mpr hvenue, ok_bind]
  exact ⟨_, rfl, congrArg sorted (getFeatureMap_venues hrooms (List.mem_singleton_self _))⟩

/-- **What `list_venues` finds** by features alone. -/
theorem listed_iff {rt : Runtime} {db : Database} {s : Store} (hrooms : NoRoomFeatures s)
    {venue : Venue} (hvenue : venue ∈ s.venues) {names : List String} :
    (∃ item ∈ listVenues rt db s none none none (some names), item.id = venue.id) ↔
      ∀ name ∈ names, ∃ linked ∈ linkedNames s venue.id,
        featureCode rt name = featureCode rt linked := by
  have hmap : ∀ x ∈ s.venues.rows, getFeatureMap s
      (some ((db.venueOrder.arrange s.venues.rows).map (·.id))) none x.id = linkedNames s x.id :=
    fun x hx => getFeatureMap_venues hrooms
      (List.mem_map_of_mem (db.venueOrder.mem_arrange.mpr hx))
  -- The names ask for nothing that the linked names do not have.
  have hsubset : ∀ linked : List String,
      ¬(names.map (featureCode rt) ≠ [] ∧
        ¬names.map (featureCode rt) ⊆ linked.map (featureCode rt)) ↔
      ∀ name ∈ names, ∃ l ∈ linked, featureCode rt name = featureCode rt l := by
    intro linked
    by_cases hnames : names = []
    · simp [hnames]
    · simp [hnames, List.subset_def, eq_comm]
  have hall : ∀ rows : List Venue, rows.filter (fun _ => true) = rows :=
    fun rows => List.filter_eq_self.mpr fun _ _ => rfl
  simp only [listVenues, Option.filter_none, Option.all_none, Bool.and_self, hall,
    Option.getD_some, List.mem_filterMap]
  constructor
  · rintro ⟨item, ⟨x, hx, hitem⟩, hid⟩
    have hx := db.venueOrder.mem_arrange.mp hx
    rw [hmap x hx] at hitem
    split at hitem
    · cases hitem
    next hcodes =>
      rw [if_neg (fun ⟨_, hleast, _⟩ => nomatch hleast), Option.some_inj] at hitem
      -- The item has the key of the venue, and rows with one key are one row.
      have hxv : x.id = venue.id := (congrArg VenueListItem.id hitem).trans hid
      exact hxv ▸ (hsubset _).mp hcodes
  · intro h
    refine ⟨⟨venue.id, venue.name, venue.address, sorted (linkedNames s venue.id),
      seatCount s venue.id⟩, ⟨venue, db.venueOrder.mem_arrange.mpr hvenue, ?_⟩, rfl⟩
    rw [hmap venue hvenue, if_neg ((hsubset _).mpr h),
      if_neg (fun ⟨_, hleast, _⟩ => nomatch hleast)]

end Coworking
