import StateGuard.Graph.Construction

/-!
# Registrations

A walk of the includes reaches registrations: a route record at the place where the walk stands
(`Registration`).  The effective routes are these registrations, in the order of their texts
(`composeEffectiveRoutes_perm`), and the identity of a route is the digest of the key of its
registration (`Registration.key`).

What identities are made of is said once for all texts: digests have one length, and `strip`
leaves a text alone that begins and ends with a letter or a digit (`BuildText.Standard`).
-/

namespace StateGuard

/-! ## Texts -/

/-- A text that begins and ends with a letter or a digit. -/
def Unpadded (s : String) : Prop :=
  s.toList.head?.any Char.isAlphanum = true ∧ s.toList.getLast?.any Char.isAlphanum = true

instance (s : String) : Decidable (Unpadded s) := inferInstanceAs (Decidable (_ ∧ _))

/-- What a text of a build is, as far as identities depend on it. -/
structure BuildText.Standard (text : BuildText) : Prop where
  /-- A digest is 32 characters long. -/
  digest_length : ∀ s, (text.digest s).length = 32
  /-- A digest is hexadecimal. -/
  digest_alphanum : ∀ s, ∀ c ∈ (text.digest s).toList, c.isAlphanum = true
  /-- `str.strip` removes blanks. -/
  strip_unpadded : ∀ s, Unpadded s → text.strip s = s

theorem Unpadded.append {a c : String} (first : Unpadded a) (last : Unpadded c) (b : String) :
    Unpadded (a ++ b ++ c) := by
  obtain ⟨begins, -⟩ := first
  obtain ⟨-, ends⟩ := last
  rw [Unpadded, String.toList_append, String.toList_append, List.append_assoc, List.head?_append,
    ← List.append_assoc, List.getLast?_append]
  constructor
  · cases head : a.toList.head? with
    | none =>
      rw [head] at begins
      cases begins
    | some c =>
      rw [head] at begins
      exact begins
  · cases final : c.toList.getLast? with
    | none =>
      rw [final] at ends
      cases ends
    | some c =>
      rw [final] at ends
      exact ends

/-- Two texts that begin with texts of one length agree in both parts. -/
theorem append_inj_of_length {a b c d : String} (same : a ++ b = c ++ d)
    (length : a.length = c.length) : a = c ∧ b = d := by
  have lists : a.toList ++ b.toList = c.toList ++ d.toList := by
    rw [← String.toList_append, ← String.toList_append, same]
  have lengths : a.toList.length = c.toList.length := by
    rw [String.length_toList, String.length_toList, length]
  obtain ⟨left, right⟩ := List.append_inj lists lengths
  exact ⟨String.toList_inj.mp left, String.toList_inj.mp right⟩

namespace BuildText.Standard

variable {text : BuildText} (standard : text.Standard)

include standard

theorem unpadded_digest (s : String) : Unpadded (text.digest s) := by
  have nonempty : (text.digest s).toList ≠ [] := by
    intro empty
    have length := standard.digest_length s
    rw [← String.length_toList, empty] at length
    cases length
  rw [Unpadded, List.head?_eq_some_head nonempty, List.getLast?_eq_some_getLast nonempty]
  exact ⟨standard.digest_alphanum s _ (List.head_mem nonempty),
    standard.digest_alphanum s _ (List.getLast_mem nonempty)⟩

theorem unpadded_stableId {tag : String} (unpadded : Unpadded tag) (components : List String) :
    Unpadded (text.stableId tag components) :=
  unpadded.append (standard.unpadded_digest _) "_"

theorem length_stableId (tag : String) (a b : List String) :
    (text.stableId tag a).length = (text.stableId tag b).length := by
  simp only [BuildText.stableId, String.length_append, standard.digest_length]

end BuildText.Standard

/-! ## Registrations -/

/-- A route record that a walk from an application reaches. -/
structure Registration where
  appId : FrameworkInstanceId
  mount : Mount
  entry : RouteRecord × Nat

section

variable (text : BuildText) (index : SourceIndexArtifact)

/-- The effective route of a registration. -/
def Registration.route (registration : Registration) : ReachableRoute :=
  mountedRoute text index registration.appId registration.mount registration.entry

/-- What the identity of a registration digests. -/
def Registration.key (registration : Registration) : List String :=
  registration.appId :: registration.mount.anchors ++
    [registration.entry.1.registrarInstanceId, registration.entry.1.ownerSymbolId,
      text.upper (text.strip registration.entry.1.method),
      text.strip registration.entry.1.routePath, toString (routeOrdinal text index registration.entry)]

theorem Registration.routeRegistrationId (registration : Registration) :
    (registration.route text index).registration.routeRegistrationId =
      text.stableId "sgroute" (registration.key text index) := rfl

/-- Registrations of one key are of one handler and one method. -/
theorem Registration.eq_of_key {a b : Registration} (same : a.key text index = b.key text index) :
    (a.route text index).ownerSymbolId = (b.route text index).ownerSymbolId ∧
      (a.route text index).registration.method = (b.route text index).registration.method := by
  obtain ⟨-, last⟩ := List.append_inj' same rfl
  simp only [List.cons.injEq] at last
  exact ⟨last.2.1, last.2.2.1⟩

/-- The registrations on the instance a walk stands in. -/
def mountedRegistrations (appId : FrameworkInstanceId) (mount : Mount) : List Registration :=
  (KeyOrder.sortedByKey (fun entry => text.routeJson entry.1)
    (index.routes.zipIdx.filter (·.1.registrarInstanceId = mount.instanceId))).map
      fun entry => ⟨appId, mount, entry⟩

/-- The registrations a walk reaches. -/
def walkRegistrations (appId : FrameworkInstanceId) : Nat → Mount → List Registration
  | 0, _ => []
  | fuel + 1, mount =>
    mountedRegistrations text index appId mount ++
      (mountedIncludes text index mount).flatMap fun occurrence =>
        match enter index mount occurrence with
        | .error _ => []
        | .ok child => walkRegistrations appId fuel child

/-- The registrations of the application that is served. -/
def effectiveRegistrations : List Registration :=
  match selectedTargets index with
  | [target] => walkRegistrations text index target.frameworkInstanceId (walkBound index)
      (Mount.start target.frameworkInstanceId)
  | _ => []

theorem walk_routes (appId : FrameworkInstanceId) (fuel : Nat) (mount : Mount) :
    (walk text index appId fuel mount).routes =
      (walkRegistrations text index appId fuel mount).map (Registration.route text index) := by
  induction fuel generalizing mount with
  | zero => rfl
  | succ fuel ih =>
    rw [walk, walkRegistrations, List.map_append, mountedRegistrations, List.map_map]
    refine congrArg₂ (· ++ ·) rfl ?_
    rw [List.flatMap_map, List.map_flatMap]
    refine List.flatMap_congr fun occurrence _ => ?_
    rw [follow]
    cases enter index mount occurrence with
    | error diagnostic => rfl
    | ok child => exact ih child

/-- The effective routes are the routes of the registrations. -/
theorem composeEffectiveRoutes_perm :
    (composeEffectiveRoutes text index).routes.Perm
      ((effectiveRegistrations text index).map (Registration.route text index)) := by
  rw [composeEffectiveRoutes, effectiveRegistrations]
  rcases selectedTargets index with _ | ⟨target, _ | ⟨second, rest⟩⟩
  · exact List.Perm.nil
  · dsimp only
    rw [← walk_routes]
    exact KeyOrder.sortedByKey_perm _ _
  · exact List.Perm.nil

end

end StateGuard
