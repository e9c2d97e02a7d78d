import Coworking.Services.Listing
import Coworking.System.Operation

/-!
# Reading a Listing Through

A client reads a listing page by page, and each page is a query of its own.  Bookings are ordered by
their start alone, so the database may order those that start together differently for each page.

- `readThrough`: the pages of a listing, one after the other;
- `whole_iff_clearCuts`: they hold every booking once exactly when no page break separates bookings
  that start together.
-/

namespace Coworking

open Foundation

variable {ι ρ : Type}

/-! ## §1 Turning pages -/

/-- The pages of a listing up to the last, where `response n` answers the query for page `n`. -/
def readThrough (response : Nat → PageQuery → ListResponse ι) (query : PageQuery) : List ι :=
  let total := (response 1 (query.turn 1 Nat.zero_lt_one)).total
  (List.range ((total + query.limit - 1) / query.limit)).flatMap fun k =>
    (response (k + 1) (query.turn (k + 1) (Nat.succ_pos k))).items

theorem readThrough_answer {before : ρ → ρ → Prop} {orders : Nat → RowOrder ρ before}
    {serialize : ρ → ι} {rows : List ρ} {query : PageQuery} :
    readThrough (fun n => answer (orders n) serialize rows) query =
      (allPages orders rows query.limit).map serialize := by
  rw [allPages, List.map_flatMap]
  rfl

/-- The items are the bookings, each once, the latest start first. -/
structure ListedWhole (items : List BookingListItem) (rows : List Booking) : Prop where
  once : items.Perm (rows.map serializeBookingListItem)
  latestFirst : items.Pairwise fun a b => b.startTime ≤ a.startTime

/-- Bookings are read through whole, whatever the database does with ties, exactly when the page
breaks are clear. -/
theorem listedWhole_iff {rows : List Booking} (hids : (rows.map (·.id)).Nodup)
    {query : PageQuery} :
    (∀ dbs : Nat → Database, ListedWhole (readThrough
        (fun n => answer (dbs n).bookingOrder serializeBookingListItem rows) query) rows) ↔
      ClearCuts (·.startTime) rows query.limit := by
  simp only [readThrough_answer]
  constructor
  · intro h
    refine clearCuts_of_nodup query.limit_ge fun orders => ?_
    -- Each order is that of some database, and the items of a page keep the ids.
    have hitems := (h fun n => { Database.plain with bookingOrder := orders n }).once
    have hperm := hitems.map BookingListItem.id
    simp only [List.map_map] at hperm
    exact (hperm.nodup_iff.mpr hids).of_map _
  · intro h dbs
    refine ⟨(h.allPages_perm hids.of_map query.limit_ge).map _, ?_⟩
    exact List.pairwise_map.mpr (allPages_sorted query.limit_ge)

/-! ## §2 Bookings -/

theorem ids_filter_nodup (s : Store) (p : Booking → Bool) :
    ((s.bookings.rows.filter p).map (·.id)).Nodup :=
  s.bookings.keysNodup.sublist (List.filter_sublist.map _)

/-- User 7 booked seat `A1` for the hour from ten, cancelled, and booked it again. -/
def cancelledHour : Booking :=
  ⟨⟨7, .seat, some 1, some 2, some 3, minutes 600, minutes 660⟩, 1, none, .cancelled, 0, "RUB",
    some 5⟩

def rebookedHour : Booking :=
  ⟨⟨7, .seat, some 1, some 2, some 3, minutes 600, minutes 660⟩, 2, none, .confirmed, 0, "RUB",
    none⟩

def rebookedStore : Store :=
  { smallStore with bookings := ⟨[cancelledHour, rebookedHour], by decide⟩ }

/-- A database that puts the cancelled booking first on page 1 and last on page 2. -/
noncomputable def turningDatabase (n : Nat) : Database :=
  { Database.plain with
    bookingOrder :=
      if n = 1 then Database.plain.bookingOrder.placing [cancelledHour, rebookedHour] (by decide)
      else Database.plain.bookingOrder.placing [rebookedHour, cancelledHour] (by decide) }

end Coworking
