import Coworking.Core.Permissions
import Coworking.Db.Access
import Coworking.Foundation.Grants
import Mathlib.Data.List.Dedup
import Mathlib.Data.List.Sort

/-!
# Roles and Permissions of a User

`get_user_permissions_context`: the global roles of a user, the roles in each venue, and one
list of the permissions of all of them.

- `mem_roleRows`: what the join returns;
- `mem_permissions`: the list is the flattening of the user's assignments.
-/

namespace Coworking

open Foundation

/-- The rows of the join of roles and assignments, for one user. -/
def roleRows (a : Accounts) (userId : Uuid) : List (String × Option Uuid) :=
  (a.userRoleAssignments.rows.filter (·.userId = userId)).filterMap fun assignment =>
    (a.roles.get? assignment.roleId).map fun role => (role.code, assignment.venueId)

/-- `venue_roles_map[key].append(code)` on a `defaultdict(list)`. -/
def appendRole (venueRoles : List (Uuid × List String)) (venueId : Uuid) (code : String) :
    List (Uuid × List String) :=
  match venueRoles with
  | [] => [(venueId, [code])]
  | (v, codes) :: rest =>
    if v = venueId then (v, codes ++ [code]) :: rest else (v, codes) :: appendRole rest venueId code

/-- `sorted(set(values))`. -/
def sortedSet (values : List String) : List String := values.dedup.insertionSort (· ≤ ·)

/-- The global roles, the roles by venue and the permissions of a user. -/
structure PermissionsContext where
  globalRoles : List String
  venueRoles : List (Uuid × List String)
  permissions : List String
  deriving DecidableEq

/-- `venue_roles_map` after the rows `rows`. -/
def venueRolesMap (rows : List (String × Option Uuid)) (venueRoles : List (Uuid × List String)) :
    List (Uuid × List String) :=
  match rows with
  | [] => venueRoles
  | (_, none) :: rows => venueRolesMap rows venueRoles
  | (code, some venueId) :: rows => venueRolesMap rows (appendRole venueRoles venueId code)

/-- `get_user_permissions_context`, from the rows of its query on. -/
def getUserPermissionsContext (rows : List (String × Option Uuid)) : PermissionsContext :=
  let globalRoles := rows.filterMap fun row => if row.2 = none then some row.1 else none
  let venueRoles := venueRolesMap rows []
  let permissionSet := globalRoles.flatMap rolePermissions ++
    venueRoles.flatMap fun entry => entry.2.flatMap rolePermissions
  { globalRoles := sortedSet globalRoles
    venueRoles
    permissions := sortedSet permissionSet }

/-! ## Specification -/

variable {a : Accounts} {userId : Uuid} {rows : List (String × Option Uuid)} {p : String}

/-- The roles a user was assigned, with their venues. -/
def Accounts.assigned (a : Accounts) (userId : Uuid) : Set (String × Option Uuid) :=
  {row | ∃ assignment ∈ a.userRoleAssignments, assignment.userId = userId ∧
    ∃ role, a.roles.get? assignment.roleId = some role ∧ row = (role.code, assignment.venueId)}

theorem mem_roleRows {row : String × Option Uuid} :
    row ∈ roleRows a userId ↔ row ∈ a.assigned userId := by
  simp only [roleRows, Accounts.assigned, List.mem_filterMap, List.mem_filter, decide_eq_true_eq,
    Option.map_eq_some_iff, Set.mem_ofPred_eq, and_assoc, Table.mem_def, eq_comm (b := row)]

@[simp] theorem mem_sortedSet {values : List String} : p ∈ sortedSet values ↔ p ∈ values := by
  simp [sortedSet, List.mem_dedup]

/-- Is the role listed under the venue? -/
def Listed (venueRoles : List (Uuid × List String)) (v : Uuid) (c : String) : Prop :=
  ∃ codes, (v, codes) ∈ venueRoles ∧ c ∈ codes

theorem listed_appendRole {venueRoles : List (Uuid × List String)} {venueId v : Uuid}
    {code c : String} :
    Listed (appendRole venueRoles venueId code) v c ↔
      Listed venueRoles v c ∨ (v = venueId ∧ c = code) := by
  induction venueRoles with
  | nil => simp [appendRole, Listed]
  | cons entry rest ih =>
    rcases entry with ⟨w, codes⟩
    unfold Listed at ih ⊢
    -- The role is appended to the first entry of its venue, or to the end of the map.
    by_cases hw : w = venueId
    · subst hw
      simp only [appendRole, if_pos, List.mem_cons, Prod.mk.injEq]
      grind
    · simp only [appendRole, if_neg hw, List.mem_cons, Prod.mk.injEq]
      grind

/-- The map lists exactly the venue roles among the rows. -/
theorem listed_venueRolesMap {venueRoles : List (Uuid × List String)} {v : Uuid} {c : String} :
    Listed (venueRolesMap rows venueRoles) v c ↔ Listed venueRoles v c ∨ (c, some v) ∈ rows := by
  induction rows generalizing venueRoles with
  | nil => simp [venueRolesMap]
  | cons row rows ih =>
    rcases row with ⟨code, venueId⟩
    cases venueId with
    | none => simp [venueRolesMap, ih]
    | some venueId =>
      rw [venueRolesMap, ih, listed_appendRole]
      simp only [List.mem_cons, Prod.mk.injEq, Option.some.injEq]
      tauto

theorem listed_nil {v : Uuid} {c : String} : ¬ Listed [] v c := fun ⟨_, h, _⟩ => nomatch h

/-- The permissions of a role, as a set. -/
def permissionsOf (roleCode : String) : Set String := {p | p ∈ rolePermissions roleCode}

/-- **The permissions of a context.**  Whatever a row grants, with or without a venue. -/
theorem mem_permissions :
    p ∈ (getUserPermissionsContext rows).permissions ↔
      p ∈ flatten permissionsOf {row | row ∈ rows} := by
  simp only [getUserPermissionsContext, mem_sortedSet, List.mem_append, List.mem_flatMap,
    List.mem_filterMap]
  constructor
  · intro hmem
    rcases hmem with ⟨code, ⟨⟨c, scope⟩, hrow, hcode⟩, hp⟩ | ⟨⟨v, codes⟩, hentry, code, hcode, hp⟩
    · -- A role that came with no venue is global.
      split at hcode
      next hscope =>
        obtain rfl : c = code := Option.some.inj hcode
        exact ⟨scope, c, hrow, hp⟩
      · cases hcode
    · -- A role of some venue is listed under it.
      have hlisted : Listed (venueRolesMap rows []) v code := ⟨codes, hentry, hcode⟩
      have hrow := (listed_venueRolesMap.mp hlisted).resolve_left listed_nil
      exact ⟨some v, code, hrow, hp⟩
  · intro hmem
    rcases hmem with ⟨scope, code, hrow, hp⟩
    cases scope with
    | none => exact .inl ⟨code, ⟨(code, none), hrow, rfl⟩, hp⟩
    | some v =>
      obtain ⟨codes, hentry, hcode⟩ := listed_venueRolesMap.mpr (.inr hrow)
      exact .inr ⟨(v, codes), hentry, code, hcode, hp⟩

end Coworking
