import Coworking.Db.Models
import Coworking.Foundation.Paging
import Coworking.Foundation.Pattern
import Mathlib.Data.String.Basic

/-!
# What the Database Decides

How the database orders the rows of a listing and matches texts.  It sorts texts by a collation
of its own, and rows that tie in an order of its own.

- `ilikeFolded`: patterns of texts, under a folding of their letters;
- `Database.plain`: a database that compares texts by code points.
-/

namespace Coworking

open Foundation

/-- The orders and comparisons of the database. -/
structure Database where
  /-- `ORDER BY bookings.start_time DESC`. -/
  bookingOrder : RowOrder Booking fun a b => b.startTime ≤ a.startTime
  /-- `ORDER BY notifications.created_at DESC`. -/
  notificationOrder : RowOrder Notification fun a b => b.createdAt ≤ a.createdAt
  /-- `ORDER BY booking_rules.created_at DESC`. -/
  bookingRuleOrder : RowOrder BookingRule fun a b => b.createdAt ≤ a.createdAt
  /-- The collation: which of two texts may come first. -/
  collates : String → String → Prop
  /-- `ORDER BY venues.name`. -/
  venueOrder : RowOrder Venue fun a b => collates a.name b.name
  /-- `ORDER BY rooms.name`. -/
  roomOrder : RowOrder Room fun a b => collates a.name b.name
  /-- `text ILIKE pattern`. -/
  ilike : (text pattern : String) → Bool

/-- The pattern language of `LIKE` and `ILIKE`. -/
def likeSyntax : Wildcards Char where
  any := '%'
  one := '_'
  escape := '\\'
  letter := 'a'
  any_ne_escape := by decide
  letter_plain := by decide

/-- `text ILIKE pattern` under the case folding of the database.  It raises for a pattern that ends
with an escape, which none between two wildcards does. -/
def ilikeFolded (folding : likeSyntax.Folding) (text pattern : String) : Bool :=
  folding.ilike text.toList pattern.toList

/-- Only small letters are lower cases of something else. -/
theorem toLower_eq_iff {m : Char} (hsmall : m.toNat < 97)
    (hcapital : ¬(65 ≤ m.toNat ∧ m.toNat ≤ 90)) (a : Char) : a.toLower = m ↔ a = m := by
  unfold Char.toLower
  split
  next h => grind [UInt32.le_iff_toNat_le, UInt32.toNat_add, Char.toNat]
  · rfl

/-- The case folding of Latin letters. -/
def latinFolding : likeSyntax.Folding where
  fold := Char.toLower
  special := by
    rintro _ (rfl | rfl | rfl) <;> exact toLower_eq_iff (by decide) (by decide)

/-- A database with some order for rows that tie. -/
noncomputable def Database.plain : Database where
  bookingOrder := .by _ (fun _ _ _ hab hbc => hbc.trans hab) fun _ _ => le_total _ _
  notificationOrder := .by _ (fun _ _ _ hab hbc => hbc.trans hab) fun _ _ => le_total _ _
  bookingRuleOrder := .by _ (fun _ _ _ hab hbc => hbc.trans hab) fun _ _ => le_total _ _
  collates := (· ≤ ·)
  venueOrder := .by _ (fun _ _ _ hab hbc => hab.trans hbc) fun _ _ => le_total _ _
  roomOrder := .by _ (fun _ _ _ hab hbc => hab.trans hbc) fun _ _ => le_total _ _
  ilike := ilikeFolded latinFolding

end Coworking
