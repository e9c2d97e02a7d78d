import Coworking.System.Operation

/-!
# Searching Venues by Text

`list_venues` splices what the user types into an `ILIKE` pattern.

- `Answers`: what a search asks of a venue, for any way to look for a word in a text;
- `listVenues_brief`: the venues listed are the ones that answer to the patterns;
- `search_exact_iff_plain`: these are the venues that contain the words exactly when the words have
  none of the special characters of `LIKE`.
-/

namespace Coworking

open Foundation Wildcards.Folding

variable {rt : Runtime} {db : Database} {folding : likeSyntax.Folding} {s : Store}
  {q location : Option String} {venue : Venue}

/-! ## §1 What a search asks for -/

/-- The database that compares texts by `ILIKE` under a case folding. -/
def Database.underFolding (db : Database) (folding : likeSyntax.Folding) : Database :=
  { db with ilike := ilikeFolded folding }

/-- `text.strip()`. -/
def trimmed (rt : Runtime) (text : String) : List Char := stripChars rt.isSpace text.toList

/-- The name or the address has the one word, and the address has the other. -/
def Answers (rt : Runtime) (has : List Char → List Char → Prop) (q location : Option String)
    (venue : Venue) : Prop :=
  (∀ word ∈ q, has venue.name.toList (trimmed rt word) ∨
    has venue.address.toList (trimmed rt word)) ∧
  ∀ word ∈ location, has venue.address.toList (trimmed rt word)

instance (rt : Runtime) (has : List Char → List Char → Prop) [DecidableRel has]
    (q location : Option String) (venue : Venue) : Decidable (Answers rt has q location venue) :=
  inferInstanceAs (Decidable (_ ∧ _))

/-- What the listing tells a venue by. -/
structure VenueBrief where
  id : Uuid
  name : String
  address : String
  deriving DecidableEq

def Venue.brief (venue : Venue) : VenueBrief := ⟨venue.id, venue.name, venue.address⟩

def VenueListItem.brief (item : VenueListItem) : VenueBrief := ⟨item.id, item.name, item.address⟩

/-- The search lists the venues that contain the trimmed words, regardless of case, each once. -/
def SearchExact (rt : Runtime) (db : Database) (folding : likeSyntax.Folding) (s : Store)
    (q location : Option String) : Prop :=
  ((listVenues rt (db.underFolding folding) s q location none none).map (·.brief)).Perm
    ((s.venues.rows.filter fun venue => Answers rt folding.Contains q location venue).map (·.brief))

/-! ## §2 What it lists -/

/-- The pattern of a word looks for a text. -/
def looksFor (folding : likeSyntax.Folding) (text word : List Char) : Prop :=
  folding.ilike text (likeSyntax.splice word) = true

instance : DecidableRel (looksFor folding) :=
  fun text _ => inferInstanceAs (Decidable (folding.ilike text _ = true))

theorem ilike_likePattern (text word : String) :
    ilikeFolded folding text (likePattern rt word) = true ↔
      looksFor folding text.toList (trimmed rt word) := by
  simp [ilikeFolded, likePattern, looksFor, Wildcards.splice, likeSyntax, trimmed]

/-- An empty word is found everywhere. -/
theorem looksFor_nil (text : List Char) : looksFor folding text (trimmed rt "") :=
  have hplain : likeSyntax.Plain (trimmed rt "") := nofun
  (ilike_splice_of_plain hplain).mpr List.nil_infix

/-- The empty text filters nothing, as if it were absent. -/
theorem all_nonempty_iff {p : String → Bool} (hempty : p "" = true) :
    (q.filter (· ≠ "")).all p = true ↔ ∀ word ∈ q, p word = true := by
  cases q with
  | none => simp
  | some word =>
    by_cases hword : word = ""
    · simp [Option.filter, hword, hempty]
    · simp [Option.filter, hword]

/-- The venues listed are the ones that answer to the patterns. -/
theorem listVenues_brief :
    (listVenues rt (db.underFolding folding) s q location none none).map (·.brief) =
      (db.venueOrder.arrange (s.venues.rows.filter fun venue =>
        Answers rt (looksFor folding) q location venue)).map (·.brief) := by
  have hfilter : ∀ venue : Venue,
      (((q.filter (· ≠ "")).all fun q =>
        ilikeFolded folding venue.name (likePattern rt q) ||
          ilikeFolded folding venue.address (likePattern rt q)) &&
      (location.filter (· ≠ "")).all fun location =>
        ilikeFolded folding venue.address (likePattern rt location)) =
      decide (Answers rt (looksFor folding) q location venue) := by
    intro venue
    rw [Bool.eq_iff_iff, Bool.and_eq_true, all_nonempty_iff, all_nonempty_iff, decide_eq_true_eq]
    · simp only [Bool.or_eq_true, ilike_likePattern, Answers]
    · exact (ilike_likePattern _ _).mpr (looksFor_nil _)
    · rw [(ilike_likePattern _ _).mpr (looksFor_nil _), Bool.true_or]
  simp only [listVenues, Database.underFolding, hfilter, Option.getD_none, List.map_nil, ne_eq,
    not_true_eq_false, false_and, if_false, Option.not_mem_none, exists_false,
    List.filterMap_eq_map', List.map_map]
  rfl

/-- The search is exact when containing and answering come to the same for the venues there. -/
theorem searchExact_of_forall (h : ∀ venue ∈ s.venues.rows,
    Answers rt (looksFor folding) q location venue ↔ Answers rt folding.Contains q location venue) :
    SearchExact rt db folding s q location := by
  have hfilter :
      (s.venues.rows.filter fun venue => Answers rt (looksFor folding) q location venue) =
        s.venues.rows.filter fun venue => Answers rt folding.Contains q location venue :=
    List.filter_congr fun venue hvenue => decide_eq_decide.mpr (h venue hvenue)
  rw [SearchExact, listVenues_brief, hfilter]
  exact (db.venueOrder.perm _).map _

/-- A store with one venue. -/
def soleVenue (venue : Venue) : Store :=
  { smallStore with venues := ⟨[venue], List.nodup_singleton _⟩ }

/-- Among the venues of a store with one, a venue that answers is listed. -/
theorem answers_of_searchExact (h : SearchExact rt db folding (soleVenue venue) q location)
    (hpattern : Answers rt (looksFor folding) q location venue) :
    Answers rt folding.Contains q location venue := by
  have hlength := h.length_eq
  rw [listVenues_brief, List.length_map, List.length_map,
    (db.venueOrder.perm _).length_eq] at hlength
  by_contra hnot
  simp [soleVenue, hpattern, hnot] at hlength

/-! ## §3 When the search is exact -/

/-- The words of a search have no special characters once they are trimmed. -/
def PlainSearch (rt : Runtime) (word : Option String) : Prop :=
  ∀ text ∈ word, likeSyntax.Plain (trimmed rt text)

/-- Plain words are searched for as they stand. -/
theorem looksFor_iff (h : PlainSearch rt q) {word : String} (hword : word ∈ q) (text : List Char) :
    looksFor folding text (trimmed rt word) ↔ folding.Contains text (trimmed rt word) :=
  ilike_splice_of_plain (h word hword)

/-- A text that the patterns of a search match. -/
def sampleOf (rt : Runtime) (word : Option String) : String :=
  String.ofList (word.elim [] fun text => likeSyntax.sample (trimmed rt text))

theorem looksFor_sampleOf {word : String} (hword : word ∈ q) :
    looksFor folding (sampleOf rt q).toList (trimmed rt word) := by
  rw [Option.mem_def.mp hword, sampleOf, String.toList_ofList]
  exact ilike_sample _

theorem not_contains_sampleOf {word : String} (hword : word ∈ q)
    (hspecial : ¬likeSyntax.Plain (trimmed rt word)) :
    ¬folding.Contains (sampleOf rt q).toList (trimmed rt word) := by
  rw [Option.mem_def.mp hword, sampleOf, String.toList_ofList]
  exact not_contains_sample hspecial

/-- An exact search has a plain location. -/
theorem plain_location (h : ∀ s, SearchExact rt db folding s q location) :
    PlainSearch rt location := by
  intro word hword
  by_contra hspecial
  -- A venue that both patterns find, with an address that does not contain the location.
  have hanswers := answers_of_searchExact
    (h (soleVenue ⟨1, sampleOf rt q, sampleOf rt location, "UTC"⟩))
    ⟨fun _ hq => .inl (looksFor_sampleOf hq), fun _ hlocation => looksFor_sampleOf hlocation⟩
  exact not_contains_sampleOf hword hspecial (hanswers.2 word hword)

/-- An address that is the location of a search. -/
def addressAt (rt : Runtime) (location : Option String) : String :=
  String.ofList (location.elim [] (trimmed rt))

theorem plain_addressAt (h : PlainSearch rt location) :
    likeSyntax.Plain (addressAt rt location).toList := by
  rw [addressAt, String.toList_ofList]
  cases location with
  | none => exact nofun
  | some place => exact h place rfl

theorem looksFor_addressAt (h : PlainSearch rt location) {place : String}
    (hplace : place ∈ location) :
    looksFor folding (addressAt rt location).toList (trimmed rt place) := by
  refine (looksFor_iff h hplace _).mpr ?_
  rw [Option.mem_def.mp hplace, addressAt, String.toList_ofList]
  exact List.infix_refl _

/-- An exact search has a plain phrase. -/
theorem plain_phrase (h : ∀ s, SearchExact rt db folding s q location) : PlainSearch rt q := by
  intro word hword
  by_contra hspecial
  have hplain := plain_location h
  -- A venue that both patterns find, at the very location: neither text contains the phrase.
  obtain ⟨hphrase, -⟩ := answers_of_searchExact
    (h (soleVenue ⟨1, sampleOf rt q, addressAt rt location, "UTC"⟩))
    ⟨fun _ hq => .inl (looksFor_sampleOf hq), fun _ hplace => looksFor_addressAt hplain hplace⟩
  rcases hphrase word hword with hname | haddress
  · exact not_contains_sampleOf hword hspecial hname
  · exact hspecial (plain_of_contains haddress (plain_addressAt hplain))

/-- **The search is for the words as they stand exactly when they have no special characters.** -/
theorem search_exact_iff_plain (rt : Runtime) (db : Database) (folding : likeSyntax.Folding)
    (q location : Option String) :
    (∀ s, SearchExact rt db folding s q location) ↔ PlainSearch rt q ∧ PlainSearch rt location := by
  constructor
  · intro h
    exact ⟨plain_phrase h, plain_location h⟩
  · rintro ⟨hq, hlocation⟩ s
    refine searchExact_of_forall fun venue _ => and_congr ?_ ?_
    · exact forall₂_congr fun word hword =>
        or_congr (looksFor_iff hq hword _) (looksFor_iff hq hword _)
    · exact forall₂_congr fun word hword => looksFor_iff hlocation hword _

/-- **A phrase with a percent sign finds a venue without it.** -/
theorem percent_finds_street :
    ¬SearchExact .plain .plain latinFolding smallStore (some "1%") none := by
  intro h
  have hlength := h.length_eq
  rw [listVenues_brief, List.length_map, List.length_map,
    (Database.plain.venueOrder.perm _).length_eq] at hlength
  exact absurd hlength (by decide)

end Coworking
