import Coworking.System.Operation

/-!
# Realising a Room Layout

`update_room_layout` rewrites the seats that its payload mentions and adds a seat for every other
entry.  The rows are written one at a time, and each is checked against the labels that the room
has at that moment, so a layout that is sound as a whole can fail on the way.

- `returns_writeSeat`, `writeSeat_rows`: what one write needs and does;
- `Flushed`, `flush_ok`: the seat table after some of the writes;
- `LayoutRealised`: the seats that the payload asks for;
- `realised_iff_admitted`: they are there, whatever the order of the writes, exactly when no write
  takes a label that another seat of the room has from before.
-/

namespace Coworking

open Foundation

variable {rt : Runtime} {s s' : Store} {roomId : Uuid} {payload : RoomLayoutUpdate}
  {t u : Table Seat} {w : SeatWrite} {done rest : List SeatWrite}

/-! ## §1 One write -/

/-- The columns of a seat that a layout sets. -/
structure SeatValues where
  label : String
  gridX : Int
  gridY : Int
  seatType : Option String
  attributes : Option String
  active : Bool
  deriving DecidableEq

def Seat.values (seat : Seat) : SeatValues :=
  ⟨seat.label, seat.gridX, seat.gridY, seat.seatType, seat.attributes, seat.active⟩

def RoomLayoutSeatInput.values (entry : RoomLayoutSeatInput) : SeatValues :=
  ⟨entry.label, entry.gridX, entry.gridY, entry.seatType, entry.attributes, entry.active⟩

/-- The seat with other values. -/
def Seat.set (seat : Seat) (v : SeatValues) : Seat :=
  ⟨seat.id, seat.roomId, v.label, v.gridX, v.gridY, v.seatType, v.attributes, v.active⟩

def SeatWrite.values : SeatWrite → SeatValues
  | .update _ label gridX gridY seatType attributes active
  | .insert label gridX gridY seatType attributes active =>
    ⟨label, gridX, gridY, seatType, attributes, active⟩

/-- The seat that a write updates. -/
def SeatWrite.target : SeatWrite → Option Uuid
  | .update id .. => some id
  | .insert .. => none

/-- The values fit their columns. -/
def SeatValues.fits (v : SeatValues) : Bool := fitsSeat v.label v.gridX v.gridY v.seatType

/-- What a write makes of a seat that is there. -/
def SeatWrite.rewrite (w : SeatWrite) (seat : Seat) : Seat :=
  if w.target = some seat.id then seat.set w.values else seat

/-- The values of a write can be written to a table: they fit, and no other seat of the room has
the label. -/
structure SeatWrite.Admitted (w : SeatWrite) (roomId : Uuid) (t : Table Seat) : Prop where
  fits : w.values.fits
  free : ∀ seat ∈ t, seat.roomId = roomId → seat.label = w.values.label → w.target = some seat.id

theorem SeatWrite.admitted_iff : w.Admitted roomId t ↔ w.values.fits ∧
    ∀ seat ∈ t.rows, seat.roomId = roomId → seat.label = w.values.label →
      w.target = some seat.id :=
  ⟨fun h => ⟨h.fits, h.free⟩, fun h => ⟨h.1, h.2⟩⟩

instance (w : SeatWrite) (roomId : Uuid) (t : Table Seat) : Decidable (w.Admitted roomId t) :=
  decidable_of_iff _ SeatWrite.admitted_iff.symm

/-- The seats that some writes add. -/
structure AddedBy (ws : List SeatWrite) (roomId : Uuid) (t : Table Seat) (added : List Seat) :
    Prop where
  values : added.map Seat.values = (ws.filter fun w => w.target = none).map SeatWrite.values
  inRoom : ∀ seat ∈ added, seat.roomId = roomId
  fresh : ∀ seat ∈ added, seat.id ∉ t.keys

/-- One write goes through when it is admitted. -/
theorem returns_writeSeat : Returns (writeSeat rt roomId t w) ↔ w.Admitted roomId t := by
  have hiff : w.Admitted roomId t ↔ ¬ (!w.values.fits) = true ∧
      ¬ ∃ seat ∈ t.rows, seat.roomId = roomId ∧ seat.label = w.values.label ∧
        w.target ≠ some seat.id := by
    constructor
    · intro h
      exact ⟨by simp [h.fits], fun ⟨seat, hseat, hroom, hlabel, hne⟩ =>
        hne (h.free seat hseat hroom hlabel)⟩
    · rintro ⟨hfits, hfree⟩
      exact ⟨by simpa using hfits, fun seat hseat hroom hlabel =>
        by_contra fun hne => hfree ⟨seat, hseat, hroom, hlabel, hne⟩⟩
  rw [hiff]
  cases w with
  | update id label gridX gridY seatType attributes active =>
    have htarget : ∀ seat : Seat, seat.id ≠ id ↔ some id ≠ some seat.id := by
      intro seat
      rw [ne_eq, ne_eq, Option.some_inj, eq_comm]
    simp only [Returns, writeSeat, bind_eq_ok, raiseIf_eq_ok, pure_eq_ok, exists_const,
      exists_and_left, exists_eq', and_true, htarget]
    rfl
  | insert label gridX gridY seatType attributes active =>
    simp only [Returns, writeSeat, bind_eq_ok, raiseIf_eq_ok, pure_eq_ok, exists_const,
      exists_and_left, exists_eq', and_true, SeatWrite.target, ne_eq, reduceCtorEq,
      not_false_eq_true]
    rfl

/-- It rewrites the seat that it updates, or else adds one. -/
theorem writeSeat_rows (h : writeSeat rt roomId t w = .ok u) :
    ∃ added, u.rows = t.rows.map w.rewrite ++ added ∧ AddedBy [w] roomId t added := by
  cases w with
  | update id label gridX gridY seatType attributes active =>
    simp only [writeSeat, bind_eq_ok, raiseIf_eq_ok, pure_eq_ok, exists_const] at h
    rcases h with ⟨-, -, rfl⟩
    refine ⟨[], ?_, rfl, fun _ h => absurd h List.not_mem_nil,
      fun _ h => absurd h List.not_mem_nil⟩
    rw [List.append_nil]
    refine List.map_congr_left fun seat _ => ?_
    simp only [SeatWrite.rewrite, SeatWrite.target, Option.some_inj, eq_comm]
    rfl
  | insert label gridX gridY seatType attributes active =>
    simp only [writeSeat, bind_eq_ok, raiseIf_eq_ok, pure_eq_ok, exists_const] at h
    rcases h with ⟨-, -, rfl⟩
    refine ⟨[⟨rt.fresh t, roomId, label, gridX, gridY, seatType, attributes, active⟩], ?_, rfl,
      ?_, ?_⟩
    · exact congrArg (· ++ _) (List.map_id' t.rows).symm
    · simp
    · simpa using rt.fresh_notMem t

/-! ## §2 Some of the writes -/

/-- What writes make of a seat that is there, one after the other. -/
def rewriteAll (ws : List SeatWrite) (seat : Seat) : Seat :=
  ws.foldl (fun seat w => w.rewrite seat) seat

theorem rewriteAll_snoc (ws : List SeatWrite) (w : SeatWrite) (seat : Seat) :
    rewriteAll (ws ++ [w]) seat = w.rewrite (rewriteAll ws seat) := by
  simp [rewriteAll]

/-- A seat is as it was, or has the values that one of the writes gave it. -/
theorem rewriteAll_cases (ws : List SeatWrite) (seat : Seat) :
    (rewriteAll ws seat = seat ∧ ∀ w ∈ ws, w.target ≠ some seat.id) ∨
      ∃ w ∈ ws, w.target = some seat.id ∧ rewriteAll ws seat = seat.set w.values := by
  induction ws using List.reverseRecOn with
  | nil => exact .inl ⟨rfl, nofun⟩
  | append_singleton ws w ih =>
    rw [rewriteAll_snoc]
    by_cases htarget : w.target = some seat.id
    · -- Whatever the writes before, this one sets all the values.
      refine .inr ⟨w, by simp, htarget, ?_⟩
      rcases ih with ⟨hold, -⟩ | ⟨w', -, -, hset⟩
      · rw [hold]
        exact if_pos htarget
      · rw [hset]
        exact if_pos htarget
    · rcases ih with ⟨hold, hnone⟩ | ⟨w', hw', htarget', hset⟩
      · refine .inl ⟨by rw [hold]; exact if_neg htarget, fun x hx => ?_⟩
        rcases List.mem_append.mp hx with hx | hx
        · exact hnone x hx
        · exact List.mem_singleton.mp hx ▸ htarget
      · refine .inr ⟨w', by simp [hw'], htarget', ?_⟩
        rw [hset]
        exact if_neg htarget

/-- The seat table after some of the writes of a flush. -/
def Flushed (roomId : Uuid) (t : Table Seat) (done : List SeatWrite) (u : Table Seat) : Prop :=
  ∃ added, u.rows = t.rows.map (rewriteAll done) ++ added ∧ AddedBy done roomId t added

theorem Flushed.refl (roomId : Uuid) (t : Table Seat) : Flushed roomId t [] t :=
  ⟨[], by rw [List.append_nil]; exact (List.map_id' t.rows).symm, rfl, nofun, nofun⟩

theorem rewriteAll_id (ws : List SeatWrite) (seat : Seat) : (rewriteAll ws seat).id = seat.id := by
  rcases rewriteAll_cases ws seat with ⟨h, -⟩ | ⟨w, -, -, h⟩ <;> rw [h]
  rfl

theorem rewriteAll_roomId (ws : List SeatWrite) (seat : Seat) :
    (rewriteAll ws seat).roomId = seat.roomId := by
  rcases rewriteAll_cases ws seat with ⟨h, -⟩ | ⟨w, -, -, h⟩ <;> rw [h]
  rfl

/-- One more write, which updates a seat from before if any. -/
theorem Flushed.step {v : Table Seat} (h : Flushed roomId t done u)
    (htarget : ∀ id, w.target = some id → id ∈ t.keys) (hw : writeSeat rt roomId u w = .ok v) :
    Flushed roomId t (done ++ [w]) v := by
  obtain ⟨added, hrows, hadded⟩ := h
  obtain ⟨more, hrows', hmore⟩ := writeSeat_rows hw
  -- What is added already is not from before.
  have hsame : added.map w.rewrite = added := by
    refine (List.map_congr_left fun seat hseat => if_neg fun ht => ?_).trans (List.map_id' added)
    exact hadded.fresh seat hseat (htarget _ ht)
  have hkeys : ∀ id, id ∈ t.keys → id ∈ u.keys := by
    intro id hid
    obtain ⟨seat, hseat, rfl⟩ := Table.mem_keys.mp hid
    refine Table.mem_keys.mpr ⟨rewriteAll done seat, ?_, rewriteAll_id done seat⟩
    rw [Table.mem_def, hrows]
    exact List.mem_append_left _ (List.mem_map_of_mem hseat)
  refine ⟨added ++ more, ?_, ?_, ?_, ?_⟩
  · rw [hrows', hrows, List.map_append, List.map_map, hsame, List.append_assoc]
    congr 2
    funext seat
    exact (rewriteAll_snoc done w seat).symm
  · rw [List.map_append, List.filter_append, List.map_append, hadded.values, hmore.values]
  · intro seat hseat
    exact (List.mem_append.mp hseat).elim (hadded.inRoom seat) (hmore.inRoom seat)
  · intro seat hseat hid
    rcases List.mem_append.mp hseat with hseat | hseat
    · exact hadded.fresh seat hseat hid
    · exact hmore.fresh seat hseat (hkeys _ hid)

/-- The writes of a flush on a table: they update seats of the room, no two set one label, and each
is admitted before the first of them. -/
structure WritesAdmitted (ws : List SeatWrite) (roomId : Uuid) (t : Table Seat) : Prop where
  targets : ∀ w ∈ ws, ∀ id, w.target = some id → id ∈ t.keys
  labels : (ws.map fun w => w.values.label).Nodup
  admitted : ∀ w ∈ ws, w.Admitted roomId t

/-- A write that is admitted at first is so later, unless its label was written since. -/
theorem Flushed.admitted (h : Flushed roomId t done u) (hw : w.Admitted roomId t)
    (hlabel : ∀ x ∈ done, x.values.label ≠ w.values.label) : w.Admitted roomId u := by
  obtain ⟨added, hrows, hadded⟩ := h
  refine ⟨hw.fits, fun seat hseat hroom hl => ?_⟩
  rw [Table.mem_def, hrows, List.mem_append, List.mem_map] at hseat
  rcases hseat with ⟨old, hold, rfl⟩ | hseat
  · rw [rewriteAll_id]
    rw [rewriteAll_roomId] at hroom
    rcases rewriteAll_cases done old with ⟨hsame, -⟩ | ⟨x, hx, -, hset⟩
    · exact hw.free old hold hroom (hsame ▸ hl)
    · rw [hset] at hl
      exact absurd hl (hlabel x hx)
  · have hvalues := List.mem_map_of_mem (f := Seat.values) hseat
    rw [hadded.values] at hvalues
    obtain ⟨x, hx, hxv⟩ := List.mem_map.mp hvalues
    have hxl : x.values.label = seat.label := congrArg SeatValues.label hxv
    exact absurd (hxl.trans hl) (hlabel x (List.mem_filter.mp hx).1)

/-- **A flush** of admitted writes with different labels goes through. -/
theorem flush_ok (hall : WritesAdmitted (done ++ rest) roomId t) (h : Flushed roomId t done u) :
    ∃ v, rest.foldlM (writeSeat rt roomId) u = .ok v ∧ Flushed roomId t (done ++ rest) v := by
  induction rest generalizing done u with
  | nil => exact ⟨u, rfl, by rwa [List.append_nil]⟩
  | cons w rest ih =>
    have hmem : w ∈ done ++ w :: rest := by simp
    have hlabel : ∀ x ∈ done, x.values.label ≠ w.values.label := by
      intro x hx heq
      have hnodup := hall.labels
      rw [List.map_append, List.nodup_append] at hnodup
      exact hnodup.2.2 _ (List.mem_map_of_mem hx) _ (by simp) heq
    obtain ⟨v, hv⟩ := returns_writeSeat.mpr (h.admitted (hall.admitted w hmem) hlabel)
    have hstep := h.step (hall.targets w hmem) hv
    rw [List.append_cons] at hall ⊢
    obtain ⟨v', hv', hflushed⟩ := ih hall hstep
    exact ⟨v', by rw [List.foldlM_cons, hv, ok_bind, hv'], hflushed⟩

/-! ## §3 The layout that is asked for -/

/-- The entry that a mentioned seat gets its values from. -/
def RoomLayoutUpdate.lastEntry (payload : RoomLayoutUpdate) (id : Uuid) :
    Option RoomLayoutSeatInput :=
  (payload.seats.filter (·.id = some id)).getLast?

def roomSeats (s : Store) (roomId : Uuid) : List Seat := s.seats.rows.filter (·.roomId = roomId)

def roomSeatIds (s : Store) (roomId : Uuid) : List Uuid := (roomSeats s roomId).map (·.id)

/-- The entries without the id of a seat of the room. -/
def newEntries (s : Store) (roomId : Uuid) (payload : RoomLayoutUpdate) :
    List RoomLayoutSeatInput :=
  payload.seats.filter fun entry => ∀ id ∈ roomSeatIds s roomId, entry.id ≠ some id

/-- What a seat is to be: another room's seats, and seats that are not mentioned, as they are. -/
def seatAfter (roomId : Uuid) (payload : RoomLayoutUpdate) (seat : Seat) : Seat :=
  if seat.roomId = roomId then
    match payload.lastEntry seat.id with
    | some entry => seat.set entry.values
    | none => seat
  else seat

theorem seatAfter_roomId (payload : RoomLayoutUpdate) (seat : Seat) :
    (seatAfter roomId payload seat).roomId = seat.roomId := by
  unfold seatAfter
  split
  · split <;> rfl
  · rfl

theorem seatAfter_id (payload : RoomLayoutUpdate) (seat : Seat) :
    (seatAfter roomId payload seat).id = seat.id := by
  unfold seatAfter
  split
  · split <;> rfl
  · rfl

/-- The labels that the room is to have. -/
def resultingLabels (s : Store) (roomId : Uuid) (payload : RoomLayoutUpdate) : List String :=
  (roomSeats s roomId).map (fun seat => (seatAfter roomId payload seat).label) ++
    (newEntries s roomId payload).map (·.label)

/-- The seats are what is asked for: the ones from before as they are to be, and a new one in the
room for each new entry.  Nothing else has changed but the room. -/
structure LayoutRealised (s s' : Store) (roomId : Uuid) (payload : RoomLayoutUpdate) : Prop where
  seats : ∃ added : List Seat,
    s'.seats.rows = s.seats.rows.map (seatAfter roomId payload) ++ added ∧
    (added.map Seat.values).Perm ((newEntries s roomId payload).map RoomLayoutSeatInput.values) ∧
    ∀ seat ∈ added, seat.roomId = roomId ∧ seat.id ∉ s.seats.keys
  rest : s' = { s with rooms := s'.rooms, seats := s'.seats }

/-- The write of an entry that mentions a seat. -/
def RoomLayoutSeatInput.update (entry : RoomLayoutSeatInput) (id : Uuid) : SeatWrite :=
  .update id entry.label entry.gridX entry.gridY entry.seatType entry.attributes entry.active

/-- The write of a new entry. -/
def RoomLayoutSeatInput.insert (entry : RoomLayoutSeatInput) : SeatWrite :=
  .insert entry.label entry.gridX entry.gridY entry.seatType entry.attributes entry.active

/-- The writes of an update of the room. -/
def roomWrites (s : Store) (roomId : Uuid) (payload : RoomLayoutUpdate) : List SeatWrite :=
  layoutWrites (roomSeatIds s roomId) payload.seats

theorem roomWrites_eq :
    roomWrites s roomId payload =
      (roomSeats s roomId).filterMap (fun seat =>
        (payload.lastEntry seat.id).map (·.update seat.id)) ++
      (newEntries s roomId payload).map RoomLayoutSeatInput.insert := by
  rw [roomWrites, layoutWrites, roomSeatIds, List.filterMap_map]
  rfl

theorem mem_roomWrites :
    w ∈ roomWrites s roomId payload ↔
      (∃ seat ∈ roomSeats s roomId, ∃ entry, payload.lastEntry seat.id = some entry ∧
        entry.update seat.id = w) ∨
      ∃ entry ∈ newEntries s roomId payload, entry.insert = w := by
  simp only [roomWrites_eq, List.mem_append, List.mem_filterMap, List.mem_map,
    Option.map_eq_some_iff]

/-- A column of the rows that have a value is part of the column of all rows. -/
theorem filterMap_sublist_map {α β : Type} {f : α → Option β} {g : α → β} {l : List α}
    (h : ∀ a ∈ l, ∀ b, f a = some b → g a = b) : (l.filterMap f).Sublist (l.map g) := by
  induction l with
  | nil => simp
  | cons a l ih =>
    have hl := ih fun x hx => h x (List.mem_cons_of_mem a hx)
    cases hf : f a with
    | none =>
      rw [List.filterMap_cons_none hf, List.map_cons]
      exact hl.cons _
    | some b =>
      rw [List.filterMap_cons_some hf, List.map_cons, h a List.mem_cons_self b hf]
      exact hl.cons_cons b

/-- The writes set labels that the room is to have. -/
theorem roomWrites_labels_nodup (h : (resultingLabels s roomId payload).Nodup) :
    ((roomWrites s roomId payload).map fun w => w.values.label).Nodup := by
  refine h.sublist ?_
  rw [roomWrites_eq, List.map_append, List.map_map, List.map_filterMap]
  refine .append (filterMap_sublist_map fun seat hseat label hlabel => ?_) (.refl _)
  simp only [Option.map_map, Option.map_eq_some_iff] at hlabel
  obtain ⟨entry, hentry, rfl⟩ := hlabel
  have hroom : seat.roomId = roomId := by simpa using (List.mem_filter.mp hseat).2
  simp only [seatAfter, hroom, if_true, hentry]
  rfl

/-- Carried out in any order, the writes make of a seat what it is to be. -/
theorem rewriteAll_roomWrites {ws : List SeatWrite}
    (hws : ∀ w, w ∈ ws ↔ w ∈ roomWrites s roomId payload) {seat : Seat} (hseat : seat ∈ s.seats) :
    rewriteAll ws seat = seatAfter roomId payload seat := by
  rcases rewriteAll_cases ws seat with ⟨hsame, hnone⟩ | ⟨w, hw, htarget, hset⟩
  · rw [hsame, seatAfter]
    split
    next hroom =>
      cases hentry : payload.lastEntry seat.id with
      | none => rfl
      | some entry =>
        -- A mentioned seat of the room has a write.
        have hmem : seat ∈ roomSeats s roomId := List.mem_filter.mpr ⟨hseat, by simpa using hroom⟩
        have hwrite := (hws _).mpr (mem_roomWrites.mpr (.inl ⟨seat, hmem, entry, hentry, rfl⟩))
        exact absurd rfl (hnone _ hwrite)
    next => rfl
  · rw [hset]
    rcases mem_roomWrites.mp ((hws w).mp hw) with ⟨x, hx, entry, hentry, rfl⟩ | ⟨entry, -, rfl⟩
    · obtain ⟨hmem, hroom⟩ := List.mem_filter.mp hx
      obtain rfl : x = seat := Table.key_injective hmem hseat (Option.some.inj htarget)
      simp only [seatAfter, of_decide_eq_true hroom, if_true, hentry]
      rfl
    · cases htarget

/-! ## §4 Whatever the order -/

/-- The effect of a layout update, with the writes of its flush. -/
theorem updateRoomLayout_writes :
    updateRoomLayout rt s roomId payload = .ok s' ↔ ∃ room, s.room? roomId = some room ∧
      ∃ seats, (rt.flushOrder (roomWrites s roomId payload)).foldlM (writeSeat rt roomId) s.seats =
          .ok seats ∧
        { s with
          rooms := s.rooms.modify roomId (fun r => { r with
            allowFullRoomBooking :=
              payload.allowFullRoomBooking.getD room.allowFullRoomBooking }) fun _ => rfl
          seats } = s' := by
  simp only [updateRoomLayout, bind_eq_ok, found_eq_ok, pure_eq_ok]
  rfl

/-- The targets of the writes are seats of the room. -/
theorem target_roomWrites {w : SeatWrite} (hw : w ∈ roomWrites s roomId payload) {id : Uuid}
    (htarget : w.target = some id) : id ∈ s.seats.keys := by
  rcases mem_roomWrites.mp hw with ⟨seat, hseat, entry, -, rfl⟩ | ⟨_, -, rfl⟩
  · obtain rfl := Option.some.inj htarget
    exact Table.mem_keys.mpr ⟨seat, (List.mem_filter.mp hseat).1, rfl⟩
  · cases htarget

/-- A flush that goes through has carried out its writes. -/
theorem flushed_of_ok (htargets : ∀ w ∈ rest, ∀ id, w.target = some id → id ∈ t.keys)
    (h : Flushed roomId t done u) {v : Table Seat}
    (hok : rest.foldlM (writeSeat rt roomId) u = .ok v) : Flushed roomId t (done ++ rest) v := by
  induction rest generalizing done u with
  | nil =>
    obtain rfl := (pure_eq_ok _ _).mp hok
    rwa [List.append_nil]
  | cons w rest ih =>
    rw [List.foldlM_cons, bind_eq_ok] at hok
    obtain ⟨mid, hw, hok⟩ := hok
    rw [List.append_cons]
    exact ih (fun x hx => htargets x (List.mem_cons_of_mem w hx))
      (h.step (htargets w List.mem_cons_self) hw) hok

/-- **A layout update that goes through** realises the payload. -/
theorem layoutRealised_of_ok (h : updateRoomLayout rt s roomId payload = .ok s') :
    LayoutRealised s s' roomId payload := by
  obtain ⟨room, -, seats, hok, rfl⟩ := updateRoomLayout_writes.mp h
  have hperm := rt.flushOrder_perm (roomWrites s roomId payload)
  obtain ⟨added, hrows, hadded⟩ := flushed_of_ok
    (fun w hw id htarget => target_roomWrites (hperm.mem_iff.mp hw) htarget)
    (.refl roomId s.seats) hok
  rw [List.nil_append] at hrows hadded
  refine ⟨⟨added, ?_, ?_, fun seat hseat => ⟨hadded.inRoom seat hseat, hadded.fresh seat hseat⟩⟩,
    rfl⟩
  · -- A row is written to at most once, so the order of the writes does not matter to it.
    rw [hrows]
    congr 1
    exact List.map_congr_left fun seat hseat => rewriteAll_roomWrites (fun w => hperm.mem_iff) hseat
  · rw [hadded.values]
    have hinserts : (roomWrites s roomId payload).filter (fun w => w.target = none) =
        (newEntries s roomId payload).map RoomLayoutSeatInput.insert := by
      rw [roomWrites_eq, List.filter_append, List.filter_eq_nil_iff.mpr, List.nil_append,
        List.filter_eq_self.mpr]
      · intro w hw
        obtain ⟨entry, -, rfl⟩ := List.mem_map.mp hw
        rfl
      · intro w hw
        obtain ⟨seat, -, hentry⟩ := List.mem_filterMap.mp hw
        obtain ⟨entry, -, rfl⟩ := Option.map_eq_some_iff.mp hentry
        exact Bool.false_ne_true
    refine ((hperm.filter _).map _).trans ?_
    rw [hinserts, List.map_map]
    rfl

/-- Admitted writes realise the layout in any order. -/
theorem layoutRealised_of_admitted {room : Room} (hroom : s.room? roomId = some room)
    (hlabels : (resultingLabels s roomId payload).Nodup)
    (hadmitted : ∀ w ∈ roomWrites s roomId payload, w.Admitted roomId s.seats) :
    ∃ s', updateRoomLayout rt s roomId payload = .ok s' ∧ LayoutRealised s s' roomId payload := by
  have hperm := rt.flushOrder_perm (roomWrites s roomId payload)
  have hall :
      WritesAdmitted ([] ++ rt.flushOrder (roomWrites s roomId payload)) roomId s.seats := by
    refine ⟨fun w hw id htarget => ?_, ?_, fun w hw => hadmitted w (hperm.mem_iff.mp hw)⟩
    · exact target_roomWrites (hperm.mem_iff.mp hw) htarget
    · exact (hperm.map _).nodup_iff.mpr (roomWrites_labels_nodup hlabels)
  obtain ⟨seats, hseats, -⟩ := flush_ok hall (.refl roomId s.seats)
  have hok := updateRoomLayout_writes.mpr ⟨room, hroom, seats, hseats, rfl⟩
  exact ⟨_, hok, layoutRealised_of_ok hok⟩

/-- The process that writes one row before the others. -/
def Runtime.writingFirst (w : SeatWrite) : Runtime :=
  { Runtime.plain with
    flushOrder := fun writes => if w ∈ writes then w :: writes.erase w else writes
    flushOrder_perm := fun writes => by
      split
      next h => exact (List.perm_cons_erase h).symm
      next => rfl }

/-- **A layout update realises the payload**, whatever the order of the writes, exactly when no
write takes a label that another seat of the room has before the update, and the values fit. -/
theorem realised_iff_admitted {room : Room} (hroom : s.room? roomId = some room)
    (hlabels : (resultingLabels s roomId payload).Nodup) :
    (∀ rt : Runtime, ∃ s', updateRoomLayout rt s roomId payload = .ok s' ∧
        LayoutRealised s s' roomId payload) ↔
      ∀ w ∈ roomWrites s roomId payload, w.Admitted roomId s.seats := by
  refine ⟨fun h w hw => ?_, fun h rt => layoutRealised_of_admitted hroom hlabels h⟩
  -- Any write may be the first.
  obtain ⟨s', hs', -⟩ := h (.writingFirst w)
  obtain ⟨-, -, seats, hseats, -⟩ := updateRoomLayout_writes.mp hs'
  have horder : (Runtime.writingFirst w).flushOrder (roomWrites s roomId payload) =
      w :: (roomWrites s roomId payload).erase w := if_pos hw
  rw [horder, List.foldlM_cons, bind_eq_ok] at hseats
  obtain ⟨u, hu, -⟩ := hseats
  exact returns_writeSeat.mp ⟨u, hu⟩

/-- Seat `A1` becomes `B1`, and there is a new seat `A3`. -/
def refit : RoomLayoutUpdate :=
  ⟨none, [⟨some 3, "B1", 0, 0, none, none, true⟩, ⟨none, "A3", 2, 0, none, none, true⟩]⟩

/-- A new name and a new seat are realised. -/
theorem realised_iff_admitted_refit :
    ∃ s', updateRoomLayout .plain smallStore 2 refit = .ok s' ∧
      LayoutRealised smallStore s' 2 refit :=
  (realised_iff_admitted rfl (by decide)).mpr (by decide) .plain

/-- The two seats of the small room exchange their labels. -/
def exchange : RoomLayoutUpdate :=
  ⟨none, [⟨some 3, "A2", 0, 0, none, none, true⟩, ⟨some 4, "A1", 1, 0, none, none, true⟩]⟩

/-- The labels that the room is to have are different, and the first of the two writes finds its
label taken. -/
theorem exchange_rejected :
    ((roomSeats smallStore 2).map (·.label)).Nodup ∧ (resultingLabels smallStore 2 exchange).Nodup ∧
      resultingLabels smallStore 2 exchange = ["A2", "A1"] ∧
      updateRoomLayout .plain smallStore 2 exchange = .error .integrity :=
  ⟨by decide, by decide, by decide, rfl⟩

end Coworking
