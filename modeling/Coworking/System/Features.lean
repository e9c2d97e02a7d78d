import Coworking.Services.Space
import Coworking.System.Operation

/-!
# Features of Venues

A feature is stored under the ASCII words of the name it was first requested by, and searched by
them.  What names are meant to say goes by all their letters and digits.

- `Equivalent`: names that say the same;
- `Catalogue`: each code has the feature of the first name requested with it;
- `features_faithful_iff`: when a created venue lists what was requested for it, and is found by
  it;
- `keptApart_iff_of_inAscii`: for names in ASCII, when no two names of the venue are equivalent.
-/

namespace Coworking

open Foundation

variable {rt : Runtime} {s s' : Store} {named : List String} {name : String}

/-! ## §1 Names -/

/-- Letters and digits, the lower-case ones of ASCII among them. -/
structure Alphabet where
  letterOrDigit : Char → Bool
  ascii : ∀ ch, isCodeChar ch = true → letterOrDigit ch = true

/-- The names differ only in letter case and in runs of characters that are neither letters nor
digits: they have the same words. -/
def Equivalent (A : Alphabet) (rt : Runtime) (a b : String) : Prop :=
  nameWords A.letterOrDigit rt a = nameWords A.letterOrDigit rt b

instance (A : Alphabet) (rt : Runtime) : DecidableRel (Equivalent A rt) := fun a b =>
  inferInstanceAs (Decidable (nameWords A.letterOrDigit rt a = nameWords A.letterOrDigit rt b))

theorem equivalent_equivalence (A : Alphabet) (rt : Runtime) : Equivalence (Equivalent A rt) :=
  ⟨fun _ => rfl, Eq.symm, Eq.trans⟩

/-- Equivalent names have one code. -/
theorem Equivalent.codeWords_eq {A : Alphabet} {a b : String} (h : Equivalent A rt a b) :
    codeWords rt a = codeWords rt b := by
  have hwords : ∀ name, nameWords isCodeChar rt name =
      (nameWords A.letterOrDigit rt name).flatMap (words isCodeChar) :=
    fun _ => words_eq_flatMap A.ascii _
  unfold codeWords
  rw [hwords a, hwords b, h]

/-- The first name with the code of a name. -/
def firstNamed (rt : Runtime) (named : List String) (name : String) : String :=
  (named.find? fun n => codeWords rt n = codeWords rt name).getD name

theorem codeWords_firstNamed : codeWords rt (firstNamed rt named name) = codeWords rt name := by
  unfold firstNamed
  cases hfind : named.find? fun n => codeWords rt n = codeWords rt name with
  | none => rfl
  | some first => simpa using List.find?_some hfind

theorem firstNamed_mem (hname : name ∈ named) : firstNamed rt named name ∈ named := by
  unfold firstNamed
  cases hfind : named.find? fun n => codeWords rt n = codeWords rt name with
  | none => exact hname
  | some first => exact List.mem_of_find?_eq_some hfind

/-- Names with one code have the same first name. -/
theorem firstNamed_congr {other : String} (hname : name ∈ named)
    (h : codeWords rt name = codeWords rt other) :
    firstNamed rt named name = firstNamed rt named other := by
  unfold firstNamed
  rw [h]
  cases hfind : named.find? fun n => codeWords rt n = codeWords rt other with
  | none => exact absurd (decide_eq_true h) (List.find?_eq_none.mp hfind name hname)
  | some first => rfl

/-- Later names do not come first. -/
theorem firstNamed_append {more : List String} (hname : name ∈ named) :
    firstNamed rt (named ++ more) name = firstNamed rt named name := by
  unfold firstNamed
  rw [List.find?_append]
  cases hfind : named.find? fun n => codeWords rt n = codeWords rt name with
  | none => exact absurd (decide_eq_true rfl) (List.find?_eq_none.mp hfind name hname)
  | some first => rfl

/-! ## §2 The catalogue -/

/-- The features and links that requests for the names have left, in that order. -/
structure Catalogue (rt : Runtime) (named : List String) (s : Store) : Prop where
  first : ∀ name, (s.features.rows.find? (·.code = featureCode rt name)).map (·.name) =
    named.find? fun n => codeWords rt n = codeWords rt name
  noRooms : NoRoomFeatures s
  /-- Foreign keys. -/
  links : ∀ link ∈ s.featureLinks, (∃ venue ∈ s.venues, link.venueId = some venue.id) ∧
    ∃ feature ∈ s.features, feature.id = link.featureId

/-- What linking the names to a venue does. -/
structure Links (rt : Runtime) (named : List String) (s : Store) (venueId : Uuid)
    (names : List String) (s' : Store) : Prop where
  catalogue : Catalogue rt (named ++ names) s'
  venues : s'.venues = s.venues
  self : linkedNames s' venueId =
    linkedNames s venueId ++ names.map (firstNamed rt (named ++ names))
  others : ∀ id ≠ venueId, linkedNames s' id = linkedNames s id

/-- A new link, under features that keep those that are linked. -/
theorem linkedNames_insert {features : Table Feature} {link : FeatureLink} {feature : Feature}
    (hlink : Keyed.key link ∉ s.featureLinks.keys)
    (hkeep : ∀ l ∈ s.featureLinks, features.get? l.featureId = s.features.get? l.featureId)
    (hfeature : features.get? link.featureId = some feature) (id : Uuid) :
    linkedNames { s with features, featureLinks := s.featureLinks.insert link hlink } id =
      linkedNames s id ++ if link.venueId = some id then [feature.name] else [] := by
  have hold : (s.featureLinks.rows.filterMap fun l =>
      if l.venueId = some id then (features.get? l.featureId).map (·.name) else none) =
      linkedNames s id := by
    refine List.filterMap_congr fun l hl => ?_
    rw [hkeep l hl]
  simp only [linkedNames, Table.insert, List.filterMap_append, hold]
  congr 1
  by_cases hid : link.venueId = some id <;> simp [hid, hfeature]

/-- The feature that a name is linked to, among the features after it. -/
structure LinkedFeature (rt : Runtime) (named : List String) (s : Store) (name : String)
    (feature : Feature) (features : Table Feature) : Prop where
  kept : ∀ f ∈ s.features, features.get? f.id = some f
  get : features.get? feature.id = some feature
  first : ∀ other, (features.rows.find? (·.code = featureCode rt other)).map (·.name) =
    (named ++ [name]).find? fun n => codeWords rt n = codeWords rt other
  name_eq : feature.name = firstNamed rt (named ++ [name]) name

/-- The feature for a name carries the first name with its code. -/
theorem Catalogue.linked (h : Catalogue rt named s) {feature : Feature} {features : Table Feature}
    (hfor : FeatureFor rt s.features name feature features) :
    LinkedFeature rt named s name feature features := by
  have hfirst : ∀ other, (features.rows.find? (·.code = featureCode rt other)).map (·.name) =
      (named ++ [name]).find? fun n => codeWords rt n = codeWords rt other := by
    intro other
    rw [List.find?_append, ← h.first other]
    cases hfor with
    | found hfind =>
      -- A name whose code is taken changes nothing.
      cases hother : s.features.rows.find? (·.code = featureCode rt other) with
      | some f => rfl
      | none =>
        have hne : ¬codeWords rt name = codeWords rt other := by
          intro heq
          rw [featureCode_eq_iff.mpr heq, hother] at hfind
          cases hfind
        simp [hne]
    | made _ hcode hname hnew =>
      have hcodes : feature.code = featureCode rt other ↔
          codeWords rt name = codeWords rt other := hcode ▸ featureCode_eq_iff
      rw [Table.insert, List.find?_append]
      cases s.features.rows.find? (·.code = featureCode rt other) with
      | some f => rfl
      | none =>
        -- The new feature is found, like the name, by its own code only.
        by_cases heq : codeWords rt name = codeWords rt other <;> simp [hcodes, heq, hname]
  have hfound : features.rows.find? (·.code = featureCode rt name) = some feature := by
    cases hfor with
    | found hfind => exact hfind
    | made hfind hcode _ hnew =>
      rw [Table.insert, List.find?_append, hfind]
      simp [hcode]
  refine ⟨fun f hf => ?_, Table.get?_of_mem (List.mem_of_find?_eq_some hfound), hfirst, ?_⟩
  · cases hfor with
    | found => exact Table.get?_of_mem hf
    | made _ _ _ hnew => exact Table.get?_insert_of_some hnew (Table.get?_of_mem hf)
  · rw [firstNamed, ← hfirst name, hfound]
    rfl

theorem linkFeature_links {venue : Venue} (h : Catalogue rt named s) (hvenue : venue ∈ s.venues)
    (hlink : linkFeature rt venue.id s name = .ok s') :
    Links rt named s venue.id [name] s' := by
  obtain ⟨feature, features, link, hnew, rfl, hid, hvid, hroom, hfor⟩ := linkFeature_eq_ok hlink
  have hl := h.linked hfor
  -- The links that exist are to features that exist, and these keep their rows.
  have hkeep : ∀ l ∈ s.featureLinks, features.get? l.featureId = s.features.get? l.featureId := by
    intro l hmem
    obtain ⟨f, hf, hfid⟩ := (h.links l hmem).2
    rw [← hfid, hl.kept f hf]
    exact (Table.get?_of_mem hf).symm
  have hinsert := linkedNames_insert hnew hkeep (hid ▸ hl.get)
  have hrows : ∀ l ∈ s.featureLinks.insert link hnew, l ∈ s.featureLinks ∨ l = link :=
    fun _ => Table.mem_insert.mp
  refine ⟨⟨hl.first, ?_, ?_⟩, rfl, ?_, fun id hne => ?_⟩
  · intro l hmem
    rcases hrows l hmem with hmem | rfl
    · exact h.noRooms l hmem
    · exact hroom
  · intro l hmem
    rcases hrows l hmem with hmem | rfl
    · obtain ⟨hvenues, f, hf, hfid⟩ := h.links l hmem
      exact ⟨hvenues, f, Table.mem_of_get? (hl.kept f hf), hfid⟩
    · exact ⟨⟨venue, hvenue, hvid⟩, feature, Table.mem_of_get? hl.get, hid.symm⟩
  · rw [hinsert venue.id, if_pos hvid, hl.name_eq]
    rfl
  · have hother : link.venueId ≠ some id := fun heq =>
      hne (Option.mem_unique heq hvid)
    rw [hinsert id, if_neg hother, List.append_nil]

/-- **Linking names to a venue**, one after the other. -/
theorem linkFeatures_links {venue : Venue} {names : List String} (h : Catalogue rt named s)
    (hvenue : venue ∈ s.venues) (hlinks : names.foldlM (linkFeature rt venue.id) s = .ok s') :
    Links rt named s venue.id names s' := by
  -- The names already linked are among those that come first for the rest.
  induction names generalizing s named with
  | nil =>
    rw [List.foldlM_nil, pure_eq_ok] at hlinks
    subst hlinks
    exact ⟨by rwa [List.append_nil], rfl, by simp, fun _ _ => rfl⟩
  | cons name rest ih =>
    rw [List.foldlM_cons, bind_eq_ok] at hlinks
    rcases hlinks with ⟨mid, hmid, hrest⟩
    have hone := linkFeature_links h hvenue hmid
    have hmore := ih hone.catalogue (hone.venues ▸ hvenue) hrest
    refine ⟨?_, hmore.venues.trans hone.venues, ?_, fun id hne => ?_⟩
    · have hcatalogue := hmore.catalogue
      rwa [List.append_assoc] at hcatalogue
    · -- What comes first of the names so far still comes first.
      have hkept : firstNamed rt (named ++ [name] ++ rest) name =
          firstNamed rt (named ++ [name]) name := firstNamed_append (by simp)
      rw [hmore.self, hone.self, List.map_singleton, ← hkept]
      simp
    · rw [hmore.others id hne, hone.others id hne]

/-- **Creating a venue** links the names of its payload to it, and nothing to another venue. -/
theorem createVenue_links_names {payload : VenueCreate} {venue : Venue}
    (h : Catalogue rt named s) (hcreate : createVenue rt s payload = .ok (s', venue)) :
    Catalogue rt (named ++ payload.features) s' ∧
    linkedNames s' venue.id = payload.features.map (firstNamed rt (named ++ payload.features)) ∧
    (∀ id ≠ venue.id, linkedNames s' id = linkedNames s id) ∧
    (∀ v, v ∈ s'.venues ↔ v ∈ s.venues ∨ v = venue) ∧ ∀ v ∈ s.venues, v.id ≠ venue.id := by
  obtain ⟨hnew, hlinks⟩ := createVenue_links hcreate
  have hvenues : ∀ v, v ∈ s.venues.insert venue hnew ↔ v ∈ s.venues ∨ v = venue :=
    fun _ => Table.mem_insert
  have hcatalogue : Catalogue rt named { s with venues := s.venues.insert venue hnew } := by
    refine ⟨h.first, h.noRooms, fun link hlink => ?_⟩
    obtain ⟨⟨v, hv, hvid⟩, hfeature⟩ := h.links link hlink
    exact ⟨⟨v, (hvenues v).mpr (.inl hv), hvid⟩, hfeature⟩
  have hne : ∀ v ∈ s.venues, v.id ≠ venue.id := fun v hv hid =>
    hnew (Table.mem_keys.mpr ⟨v, hv, hid⟩)
  -- No link has the key of the new row.
  have hbare : linkedNames s venue.id = [] := by
    refine List.filterMap_eq_nil_iff.mpr fun link hlink => if_neg fun hvid => ?_
    obtain ⟨⟨v, hv, hvid'⟩, -⟩ := h.links link hlink
    exact hne v hv (Option.mem_unique hvid' hvid)
  have hall := linkFeatures_links hcatalogue ((hvenues venue).mpr (.inr rfl)) hlinks
  refine ⟨hall.catalogue, ?_, hall.others, fun v => ?_, hne⟩
  · have hself := hall.self
    change _ = linkedNames s venue.id ++ _ at hself
    rwa [hbare, List.nil_append] at hself
  · rw [hall.venues]
    exact hvenues v

/-! ## §3 Runs -/

/-- A call of `create_venue`, with the venue it made unless it raised. -/
abbrev Creation := VenueCreate × Option Venue

/-- One call; one that raises is rolled back. -/
def CreationStep (rt : Runtime) (s : Store) (e : Creation) (s' : Store) : Prop :=
  match e.2 with
  | some venue => createVenue rt s e.1 = .ok (s', venue)
  | none => (∃ error, createVenue rt s e.1 = .error error) ∧ s' = s

/-- The names requested by the calls that went through. -/
def requestedNames (es : List Creation) : List String :=
  es.flatMap fun e => if e.2.isSome then e.1.features else []

/-- No feature was ever stored. -/
structure NoFeatures (s : Store) : Prop where
  features : ∀ feature, feature ∉ s.features
  /-- By their foreign key. -/
  featureLinks : ∀ link, link ∉ s.featureLinks

/-- What the calls so far have left of features. -/
structure Stocked (rt : Runtime) (es : List Creation) (s : Store) : Prop where
  catalogue : Catalogue rt (requestedNames es) s
  served : ∀ payload venue, (payload, some venue) ∈ es → venue ∈ s.venues ∧
    linkedNames s venue.id = payload.features.map (firstNamed rt (requestedNames es))

theorem NoFeatures.stocked (h : NoFeatures s) : Stocked rt [] s where
  catalogue := by
    refine ⟨fun name => ?_, fun link hlink => (h.featureLinks link hlink).elim,
      fun link hlink => (h.featureLinks link hlink).elim⟩
    rw [List.eq_nil_iff_forall_not_mem.mpr h.features]
    rfl
  served := nofun

theorem Stocked.step {es : List Creation} {e : Creation} (h : Stocked rt es s)
    (hstep : CreationStep rt s e s') : Stocked rt (es ++ [e]) s' := by
  rcases e with ⟨payload, _ | venue⟩
  · -- A call that raised leaves its names to later calls.
    obtain ⟨-, rfl⟩ := hstep
    have hnames : requestedNames (es ++ [(payload, none)]) = requestedNames es := by
      simp [requestedNames]
    refine ⟨hnames ▸ h.catalogue, fun p v hmem => hnames ▸ h.served p v ?_⟩
    simpa using hmem
  · have hnames : requestedNames (es ++ [(payload, some venue)]) =
        requestedNames es ++ payload.features := by simp [requestedNames]
    obtain ⟨hcatalogue, hself, hothers, hvenues, hne⟩ := createVenue_links_names h.catalogue hstep
    refine ⟨hnames ▸ hcatalogue, fun p v hmem => ?_⟩
    rw [hnames]
    rcases List.mem_append.mp hmem with hmem | hmem
    · obtain ⟨hv, hlinked⟩ := h.served p v hmem
      refine ⟨(hvenues v).mpr (.inl hv), ?_⟩
      rw [hothers v.id (hne v hv), hlinked]
      -- Its names were requested before.
      refine List.map_congr_left fun name hname => (firstNamed_append ?_).symm
      exact List.mem_flatMap.mpr ⟨_, hmem, hname⟩
    · obtain ⟨rfl, rfl⟩ : payload = p ∧ venue = v := by
        simpa [eq_comm] using hmem
      exact ⟨(hvenues venue).mpr (.inr rfl), hself⟩

theorem stocked_of_run {es : List Creation} (hrun : Run (CreationStep rt) s es s')
    (h : NoFeatures s) : Stocked rt es s' :=
  hrun.history (I := Stocked rt) (fun _ _ _ _ _ hI hstep => hI.step hstep) h.stocked

/-! ## §4 Listing and searching -/

variable {A : Alphabet} {db : Database} {es : List Creation} {payload : VenueCreate} {venue : Venue}
  {names : List String}

/-- `get_venue` lists exactly one feature for each class of the requested names, with a name in
that class. -/
def ListsRequested (A : Alphabet) (rt : Runtime) (db : Database) (s : Store)
    (requested : List String) (venueId : Uuid) : Prop :=
  ∃ full, getVenue db s venueId = .ok full ∧
    (∀ r ∈ requested, full.features.countP (Equivalent A rt r ·) = 1) ∧
    ∀ listed ∈ full.features, ∃ r ∈ requested, Equivalent A rt r listed

/-- A search by the names alone finds the venue when each of them is equivalent to a requested
one, and only then. -/
def FoundByRequested (A : Alphabet) (rt : Runtime) (db : Database) (s : Store)
    (requested : List String) (venueId : Uuid) (names : List String) : Prop :=
  (∃ item ∈ listVenues rt db s none none none (some names), item.id = venueId) ↔
    ∀ name ∈ names, ∃ r ∈ requested, Equivalent A rt name r

theorem listsRequested_iff (h : Stocked rt es s) (hmem : (payload, some venue) ∈ es) :
    ListsRequested A rt db s payload.features venue.id ↔
      (payload.features.map (codeWords rt)).Nodup ∧
        ∀ r ∈ payload.features, Equivalent A rt (firstNamed rt (requestedNames es) r) r := by
  obtain ⟨hvenue, hlinked⟩ := h.served payload venue hmem
  obtain ⟨full, hfull, hfeatures⟩ :=
    getVenue_features db h.catalogue.noRooms (Table.get?_of_mem hvenue)
  -- The listing is sorted, which does not change what it counts.
  have hperm : full.features.Perm
      (payload.features.map (firstNamed rt (requestedNames es))) := by
    rw [hfeatures, hlinked]
    exact List.perm_insertionSort _ _
  have hrequested : ∀ r ∈ payload.features, r ∈ requestedNames es := fun r hr =>
    List.mem_flatMap.mpr ⟨_, hmem, hr⟩
  have hrep := countP_rep_iff (l := payload.features) (equivalent_equivalence A rt)
    Equivalent.codeWords_eq (fun _ _ => codeWords_firstNamed)
    fun r hr _ _ hcode => firstNamed_congr (hrequested r hr) hcode
  constructor
  · rintro ⟨full', hfull', hcount, -⟩
    obtain rfl : full = full' := Except.ok.inj (hfull.symm.trans hfull')
    exact hrep.mp fun r hr => (hperm.countP_eq _).symm.trans (hcount r hr)
  · intro hright
    refine ⟨full, hfull, fun r hr => (hperm.countP_eq _).trans (hrep.mpr hright r hr),
      fun listed hlisted => ?_⟩
    obtain ⟨r, hr, rfl⟩ := List.mem_map.mp (hperm.mem_iff.mp hlisted)
    exact ⟨r, hr, (hright.2 r hr).symm⟩

theorem foundByRequested_iff (h : Stocked rt es s) (hmem : (payload, some venue) ∈ es) :
    FoundByRequested A rt db s payload.features venue.id names ↔
      ((∀ name ∈ names, ∃ r ∈ payload.features, codeWords rt name = codeWords rt r) →
        ∀ name ∈ names, ∃ r ∈ payload.features, Equivalent A rt name r) := by
  obtain ⟨hvenue, hlinked⟩ := h.served payload venue hmem
  -- The code goes by the first name, which has the code of the requested one.
  have hcodes : (∃ item ∈ listVenues rt db s none none none (some names), item.id = venue.id) ↔
      ∀ name ∈ names, ∃ r ∈ payload.features, codeWords rt name = codeWords rt r := by
    rw [listed_iff h.catalogue.noRooms hvenue, hlinked]
    simp only [List.mem_map, exists_exists_and_eq_and, featureCode_eq_iff, codeWords_firstNamed]
  rw [FoundByRequested, hcodes]
  refine ⟨Iff.mp, fun hfound => ⟨hfound, fun hequiv name hname => ?_⟩⟩
  obtain ⟨r, hr, hname⟩ := hequiv name hname
  exact ⟨r, hr, hname.codeWords_eq⟩

/-- Requested names and searched names that keep apart what is not equivalent. -/
structure KeptApart (A : Alphabet) (rt : Runtime) (named requested names : List String) : Prop where
  /-- No two names of the venue have one code. -/
  once : (requested.map (codeWords rt)).Nodup
  /-- Their features were first requested by equivalent names. -/
  first : ∀ r ∈ requested, Equivalent A rt (firstNamed rt named r) r
  /-- A search has a name whose code the venue does not have, or none that only shares a code. -/
  search : (∀ name ∈ names, ∃ r ∈ requested, codeWords rt name = codeWords rt r) →
    ∀ name ∈ names, ∃ r ∈ requested, Equivalent A rt name r

/-- The name has a word, and no letters or digits but those of ASCII. -/
def InAscii (A : Alphabet) (rt : Runtime) (name : String) : Prop :=
  nameWords A.letterOrDigit rt name ≠ [] ∧
    ∀ w ∈ nameWords A.letterOrDigit rt name, ∀ ch ∈ w, isCodeChar ch = true

/-- Names in ASCII have one code only if they are equivalent. -/
theorem equivalent_iff_codeWords {a b : String} (ha : InAscii A rt a) (hb : InAscii A rt b) :
    Equivalent A rt a b ↔ codeWords rt a = codeWords rt b := by
  have hwords : ∀ name, InAscii A rt name →
      codeWords rt name = nameWords A.letterOrDigit rt name := by
    intro name hname
    have hsame : nameWords isCodeChar rt name = nameWords A.letterOrDigit rt name :=
      words_eq_words A.ascii hname.2
    rw [codeWords, hsame, if_neg hname.1]
  rw [Equivalent, hwords a ha, hwords b hb]

/-- **Names in ASCII** are kept apart when no two names of the venue are equivalent. -/
theorem keptApart_iff_of_inAscii (hnamed : ∀ n ∈ named, InAscii A rt n) {requested : List String}
    (hrequested : ∀ r ∈ requested, r ∈ named) (hnames : ∀ n ∈ names, InAscii A rt n) :
    KeptApart A rt named requested names ↔ requested.Pairwise fun a b => ¬ Equivalent A rt a b := by
  have hcodes : (requested.map (codeWords rt)).Nodup ↔
      requested.Pairwise fun a b => ¬ Equivalent A rt a b := by
    rw [List.Nodup, List.pairwise_map]
    refine List.Pairwise.iff_of_mem fun {a b} ha hb => not_congr ?_
    exact (equivalent_iff_codeWords (hnamed a (hrequested a ha)) (hnamed b (hrequested b hb))).symm
  rw [← hcodes]
  refine ⟨KeptApart.once, fun honce => ⟨honce, fun r hr => ?_, fun hfound name hname => ?_⟩⟩
  · -- The first name with the code is one of the names, and so in ASCII.
    have hfirst : firstNamed rt named r ∈ named := firstNamed_mem (hrequested r hr)
    exact (equivalent_iff_codeWords (hnamed _ hfirst) (hnamed r (hrequested r hr))).mpr
      codeWords_firstNamed
  · obtain ⟨r, hr, hcode⟩ := hfound name hname
    exact ⟨r, hr, (equivalent_iff_codeWords (hnames name hname)
      (hnamed r (hrequested r hr))).mpr hcode⟩

/-- **Features are faithful** for a venue and a search, after any calls of `create_venue` from a
store without features, exactly when the names are kept apart. -/
theorem features_faithful_iff (hrun : Run (CreationStep rt) s es s') (hempty : NoFeatures s)
    (hmem : (payload, some venue) ∈ es) :
    (ListsRequested A rt db s' payload.features venue.id ∧
      FoundByRequested A rt db s' payload.features venue.id names) ↔
      KeptApart A rt (requestedNames es) payload.features names := by
  have h := stocked_of_run hrun hempty
  rw [listsRequested_iff h hmem, foundByRequested_iff h hmem]
  exact ⟨fun ⟨⟨honce, hfirst⟩, hsearch⟩ => ⟨honce, hfirst, hsearch⟩,
    fun hkept => ⟨⟨hkept.once, hkept.first⟩, hkept.search⟩⟩

/-- The lower-case letters of English and Russian, and the digits. -/
def Alphabet.russian : Alphabet where
  letterOrDigit ch := isCodeChar ch || ('а' ≤ ch && ch ≤ 'я') || ch = 'ё'
  ascii ch h := by simp [h]

theorem smallStore_noFeatures : NoFeatures smallStore :=
  ⟨fun _ => (Table.mem_empty _).mp, fun _ => (Table.mem_empty _).mp⟩

/-- A venue with two features. -/
def cafe : VenueCreate :=
  ⟨"Cafe", by decide, "Lane 3", by decide, "UTC", ["Wi-Fi", "Coffee"]⟩

theorem features_faithful_cafe :
    ∃ s' venue, createVenue .plain smallStore cafe = .ok (s', venue) ∧
      ListsRequested .russian .plain .plain s' cafe.features venue.id ∧
      FoundByRequested .russian .plain .plain s' cafe.features venue.id ["wi fi"] := by
  have hok : (createVenue .plain smallStore cafe).toOption.isSome = true := by decide +kernel
  cases hcreate : createVenue .plain smallStore cafe with
  | error => simp [hcreate, Except.toOption] at hok
  | ok r =>
    have hrun : Run (CreationStep .plain) smallStore [(cafe, some r.2)] r.1 := .single hcreate
    have hnamed : requestedNames [(cafe, some r.2)] = cafe.features := by simp [requestedNames]
    refine ⟨r.1, r.2, rfl,
      (features_faithful_iff hrun smallStore_noFeatures List.mem_cons_self).mpr ?_⟩
    rw [hnamed]
    exact ⟨by decide +kernel, by decide +kernel, fun _ => by decide +kernel⟩

/-- Coffee by its Russian name, and then tea in a venue that asks for Wi-Fi twice. -/
def russianCafe : VenueCreate :=
  ⟨"Cafe", by decide, "Lane 3", by decide, "UTC", ["кофе"]⟩

def teaHouse : VenueCreate :=
  ⟨"Tea house", by decide, "Lane 4", by decide, "UTC", ["чай", "Wi-Fi", "wi fi"]⟩

/-- The tea house lists Wi-Fi twice and coffee for tea, and the search for tea finds the cafe. -/
theorem tea_for_coffee :
    ∃ s' s'' first second full, createVenue .plain smallStore russianCafe = .ok (s', first) ∧
      createVenue .plain s' teaHouse = .ok (s'', second) ∧
      getVenue .plain s'' second.id = .ok full ∧ full.features = ["Wi-Fi", "Wi-Fi", "кофе"] ∧
      ¬ ListsRequested .russian .plain .plain s'' teaHouse.features second.id ∧
      ¬ FoundByRequested .russian .plain .plain s'' russianCafe.features first.id ["чай"] := by
  have hlisted : ((createVenue .plain smallStore russianCafe).toOption.bind fun r =>
      (createVenue .plain r.1 teaHouse).toOption.map fun r' => sorted (linkedNames r'.1 r'.2.id)) =
      some ["Wi-Fi", "Wi-Fi", "кофе"] := by decide +kernel
  cases hfirst : createVenue .plain smallStore russianCafe with
  | error => simp [hfirst, Except.toOption] at hlisted
  | ok r =>
    cases hsecond : createVenue .plain r.1 teaHouse with
    | error => simp [hfirst, hsecond, Except.toOption] at hlisted
    | ok r' =>
      have hlisted : sorted (linkedNames r'.1 r'.2.id) = ["Wi-Fi", "Wi-Fi", "кофе"] := by
        simpa [hfirst, hsecond, Except.toOption] using hlisted
      have hrun : Run (CreationStep .plain) smallStore
          ([(russianCafe, some r.2)] ++ [(teaHouse, some r'.2)]) r'.1 :=
        .snoc (.single hfirst) hsecond
      have h := stocked_of_run hrun smallStore_noFeatures
      obtain ⟨full, hfull, hfeatures⟩ := getVenue_features .plain h.catalogue.noRooms
        (Table.get?_of_mem (h.served teaHouse r'.2 (by simp)).1)
      refine ⟨r.1, r'.1, r.2, r'.2, full, rfl, hsecond, hfull, hfeatures.trans hlisted, ?_, ?_⟩
      · rw [listsRequested_iff h (by simp)]
        exact fun hright => absurd hright.1 (by decide +kernel)
      · rw [foundByRequested_iff h (by simp)]
        exact fun hfound => absurd (hfound (by decide +kernel)) (by decide +kernel)

end Coworking
