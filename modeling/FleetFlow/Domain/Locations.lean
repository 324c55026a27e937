import FleetFlow.Base.Text

/-!
# Location codes, the distance map and route paths

Follows `domain/value_objects/location_code.py`, `domain/services/map.py` and
`domain/value_objects/route_path.py`. Only raw strings pass through
`LocationCode.new`. Constructors that receive a code keep it: normalizing again changes
no supported code, and every other code is rejected as unsupported either way.
-/

namespace FleetFlow

/-- Normalized location text; `domain/value_objects/location_code.py:8`. -/
structure LocationCode where
  text : String
  nonBlank : text ≠ ""
deriving DecidableEq, Repr

instance : ToString LocationCode := ⟨LocationCode.text⟩

/-- Normalize raw text; `domain/value_objects/location_code.py:11–31`. -/
def LocationCode.new (u : UnicodeTables) (value : String) : Except PyError LocationCode :=
  let normalized := PyStr.upper u (PyStr.strip u value)
  if h : normalized = "" then .error ⟨.domainValidation, "Location code cannot be blank."⟩
  else .ok ⟨normalized, h⟩

/-- The text of a code makes this code again. -/
def LocationCode.Canonical (u : UnicodeTables) (code : LocationCode) : Prop :=
  LocationCode.new u code.text = .ok code

/-- Codes that come from the constructor. -/
theorem LocationCode.canonical_of_new {u : UnicodeTables} (hu : PyStr.UpperStable u)
    {value : String} {code : LocationCode} (h : LocationCode.new u value = .ok code) :
    code.Canonical u := by
  unfold LocationCode.new at h
  dsimp only at h
  split at h
  · cases h
  · next hne =>
    obtain rfl := Except.ok.inj h
    have hagain : PyStr.upper u (PyStr.strip u (PyStr.upper u (PyStr.strip u value))) =
        PyStr.upper u (PyStr.strip u value) := by
      rw [PyStr.strip_upper_strip hu, PyStr.upper_upper hu]
    simp only [Canonical, LocationCode.new, hagain, dif_neg hne]

namespace Map

/-- A hub written as a literal. -/
def hub (text : String) (nonBlank : text ≠ "" := by decide) : LocationCode := ⟨text, nonBlank⟩

/-- Supported hubs; `domain/services/map.py:12–20`. A code is valid when it is one of them;
`domain/services/map.py:90–105`. -/
def locations : List LocationCode :=
  [hub "SYD", hub "MEL", hub "ADL", hub "ASP", hub "BRI", hub "DAR", hub "PER"]

/-- The hubs are spelled as the constructor spells them. -/
theorem canonical_of_mem {u : UnicodeTables} {code : LocationCode} (h : code ∈ locations) :
    code.Canonical u := by
  have hplain : (locations.all fun code ↦ code.text.toList.all fun c ↦
      isAsciiChar c && !isAsciiSpace c && c.toUpper == c) = true := by decide +kernel
  simp only [List.all_eq_true, Bool.and_eq_true, Bool.not_eq_true', beq_iff_eq, and_assoc] at hplain
  have hstrip : PyStr.strip u code.text = code.text :=
    PyStr.strip_eq_self fun c hc ↦ by
      rw [PyStr.isSpace, if_pos (hplain code h c hc).1, (hplain code h c hc).2.1]
  have hupper : PyStr.upper u code.text = code.text :=
    PyStr.upper_eq_self fun c hc ↦ ⟨(hplain code h c hc).1, (hplain code h c hc).2.2⟩
  simp only [LocationCode.Canonical, LocationCode.new, hstrip, hupper, dif_neg code.nonBlank]

/-- Intercity distances in kilometres; `domain/services/map.py:22–79`. -/
def distances : List (LocationCode × List (LocationCode × Int)) :=
  [(hub "SYD", [(hub "MEL", 877), (hub "ADL", 1376), (hub "ASP", 2762),
      (hub "BRI", 909), (hub "DAR", 3935), (hub "PER", 4016)]),
    (hub "MEL", [(hub "SYD", 877), (hub "ADL", 725), (hub "ASP", 2255),
      (hub "BRI", 1765), (hub "DAR", 3752), (hub "PER", 3509)]),
    (hub "ADL", [(hub "SYD", 1376), (hub "MEL", 725), (hub "ASP", 1530),
      (hub "BRI", 1927), (hub "DAR", 3027), (hub "PER", 2785)]),
    (hub "ASP", [(hub "SYD", 2762), (hub "MEL", 2255), (hub "ADL", 1530),
      (hub "BRI", 2993), (hub "DAR", 1497), (hub "PER", 2481)]),
    (hub "BRI", [(hub "SYD", 909), (hub "MEL", 1765), (hub "ADL", 1927),
      (hub "ASP", 2993), (hub "DAR", 3426), (hub "PER", 4311)]),
    (hub "DAR", [(hub "SYD", 3935), (hub "MEL", 3752), (hub "ADL", 3027),
      (hub "ASP", 1497), (hub "BRI", 3426), (hub "PER", 4025)]),
    (hub "PER", [(hub "SYD", 4016), (hub "MEL", 3509), (hub "ADL", 2785),
      (hub "ASP", 2481), (hub "BRI", 4311), (hub "DAR", 4025)])]

/-- One directed table entry. -/
def distance? (a b : LocationCode) : Option Int := (distances.lookup a).bind (·.lookup b)

/-- Distance between two codes, in either table direction; `domain/services/map.py:107–129`. -/
def getDistance (a b : LocationCode) : Except PyError Int :=
  if a = b then .ok 0
  else match distance? a b with
    | some d => .ok d
    | none =>
      match distance? b a with
      | some d => .ok d
      | none => .error ⟨.entityNotFound, s!"No distance between {a} and {b}"⟩

private theorem distance?_pos :
    ∀ a ∈ locations, ∀ b ∈ locations, a ≠ b → 0 < (distance? a b).getD 0 := by
  decide

/-- Two different hubs have a positive distance. -/
theorem getDistance_of_mem {a b : LocationCode} (ha : a ∈ locations) (hb : b ∈ locations)
    (hab : a ≠ b) : ∃ d, getDistance a b = .ok d ∧ 0 < d := by
  have hp := distance?_pos a ha b hb hab
  cases hd : distance? a b with
  | none => simp [hd] at hp
  | some d =>
    refine ⟨d, by simp [getDistance, hab, hd], ?_⟩
    simpa [hd] using hp

end Map

namespace RoutePath

/-- The first unsupported code, as the error message shows it. -/
def invalidText (locations : List LocationCode) : String :=
  ((locations.find? fun l ↦ !decide (l ∈ Map.locations)).map LocationCode.text).getD ""

/-- Checks of a route path; `domain/value_objects/route_path.py:48–80`. -/
def check (locations : List LocationCode) : Except PyError Unit := do
  require (2 ≤ locations.length) ⟨.domainValidation, "A route must have at least two locations."⟩
  require (∀ l ∈ locations, l ∈ Map.locations)
    ⟨.domainValidation, s!"Invalid location code: {invalidText locations}."⟩
  require locations.Nodup ⟨.domainValidation, "A route cannot contain duplicate locations."⟩

/-- A path passes its checks exactly when it has two or more distinct supported stops. -/
theorem check_eq_ok_iff {locations : List LocationCode} :
    check locations = .ok () ↔
      2 ≤ locations.length ∧ (∀ l ∈ locations, l ∈ Map.locations) ∧ locations.Nodup := by
  simp only [check, require_bind_eq_ok_iff, require_eq_ok_iff]

end RoutePath

/-- Ordered, distinct, supported stops; `domain/value_objects/route_path.py:13`. -/
structure RoutePath where
  locations : List LocationCode
  valid : RoutePath.check locations = .ok ()
deriving DecidableEq

namespace RoutePath

/-- Construct a path from normalized codes; `domain/value_objects/route_path.py:48–86`. -/
def ofLocations (locations : List LocationCode) : Except PyError RoutePath :=
  match h : check locations with
  | .ok () => .ok ⟨locations, h⟩
  | .error e => .error e

/-- Normalize raw stops and construct a path; `domain/value_objects/route_path.py:32–46`. -/
def create (u : UnicodeTables) (raw : List String) : Except PyError RoutePath := do
  ofLocations (← raw.mapM (LocationCode.new u))

/-- Construction succeeds exactly with the path over the given stops. -/
theorem ofLocations_eq_ok_iff {locations : List LocationCode} {path : RoutePath} :
    ofLocations locations = .ok path ↔ path.locations = locations := by
  unfold ofLocations
  split
  · next h =>
    rw [Except.ok.injEq]
    constructor
    · rintro rfl
      rfl
    · rintro rfl
      rfl
  · next e h =>
    simp only [reduceCtorEq, false_iff]
    rintro rfl
    rw [path.valid] at h
    cases h

/-- A path has at least two stops. -/
theorem two_le_length (path : RoutePath) : 2 ≤ path.locations.length :=
  (check_eq_ok_iff.mp path.valid).1

/-- Every stop of a path is supported. -/
theorem mem_map (path : RoutePath) {l : LocationCode} (h : l ∈ path.locations) :
    l ∈ Map.locations :=
  (check_eq_ok_iff.mp path.valid).2.1 l h

/-- The stops of a path are distinct. -/
theorem nodup (path : RoutePath) : path.locations.Nodup :=
  (check_eq_ok_iff.mp path.valid).2.2

/-- A path has a first stop. -/
theorem ne_nil (path : RoutePath) : path.locations ≠ [] := by
  have := path.two_le_length
  intro h
  simp [h] at this

/-- First stop; `domain/value_objects/route_path.py:88–91`. -/
def start (path : RoutePath) : LocationCode := path.locations.head path.ne_nil

/-- Final stop; `domain/value_objects/route_path.py:93–96`. -/
def end_ (path : RoutePath) : LocationCode := path.locations.getLast path.ne_nil

/-- Position of a code on the path; the mapping of `domain/value_objects/route_path.py:82–86`. -/
def posIndex (path : RoutePath) (code : LocationCode) : Option Nat := path.locations.idxOf? code

/-- Whether the path visits one code before another; `domain/value_objects/route_path.py:98–118`. -/
def includesInOrder (path : RoutePath) (start end_ : LocationCode) : Bool :=
  match path.posIndex start, path.posIndex end_ with
  | some i, some j => decide (i < j)
  | _, _ => false

/-- A code's position is where the code stands. -/
theorem posIndex_eq_some_iff {path : RoutePath} {code : LocationCode} {i : Nat} :
    path.posIndex code = some i ↔ path.locations[i]? = some code := by
  unfold posIndex
  rw [List.idxOf?_eq_some_iff]
  constructor
  · rintro ⟨h, he, -⟩
    rw [List.getElem?_eq_getElem h, he]
  · intro h
    obtain ⟨hi, he⟩ := List.getElem?_eq_some_iff.mp h
    refine ⟨hi, he, fun j hj hc ↦ ?_⟩
    have hn := List.nodup_iff_injective_get.mp path.nodup
    have := @hn ⟨j, by omega⟩ ⟨i, hi⟩ (by simp [hc, he])
    simp at this
    omega

/-- Order on the path, as positions. -/
theorem includesInOrder_iff {path : RoutePath} {start end_ : LocationCode} :
    path.includesInOrder start end_ = true ↔
      ∃ i j : Nat, path.locations[i]? = some start ∧ path.locations[j]? = some end_ ∧ i < j := by
  simp only [← posIndex_eq_some_iff, includesInOrder]
  cases path.posIndex start <;> cases path.posIndex end_ <;> simp

end RoutePath
end FleetFlow
