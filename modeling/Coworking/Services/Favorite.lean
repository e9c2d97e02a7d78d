import Coworking.Core.Runtime
import Coworking.Services.Errors

/-!
# Favorite Venues

Adding and removing favorites; both are idempotent.
-/

namespace Coworking

open Foundation

/-- `create_favorite_venue`. -/
def createFavoriteVenue (c : Call) (s : Store) (venueId : Uuid) : Except ServiceError Store := do
  let _venue ← found (s.venue? venueId) (.favoriteNotFound "Venue not found.")
  if h : (c.user, venueId) ∈ s.favoriteVenues.keys then pure s
  else pure { s with favoriteVenues := s.favoriteVenues.insert ⟨c.user, venueId⟩ h }

/-- `delete_favorite_venue`. -/
def deleteFavoriteVenue (c : Call) (s : Store) (venueId : Uuid) : Store :=
  { s with favoriteVenues := s.favoriteVenues.erase (c.user, venueId) }

theorem createFavoriteVenue_eq_ok {c : Call} {s s' : Store} {venueId : Uuid}
    (h : createFavoriteVenue c s venueId = .ok s') :
    ∃ favoriteVenues, s' = { s with favoriteVenues } := by
  simp only [createFavoriteVenue, bind_eq_ok, found_eq_ok] at h
  rcases h with ⟨-, -, h⟩
  split at h
  · exact ⟨s.favoriteVenues, ((pure_eq_ok _ _).mp h).symm⟩
  · exact ⟨_, ((pure_eq_ok _ _).mp h).symm⟩

end Coworking
