import FleetFlow.Snapshot.JsonForm

/-!
# What reading a world file may raise

Every malformed value of a file is reported as a corruption, apart from one: the constructor of a
location code raises an error of the domain, which the reader does not translate. A file is
reported as it should be exactly when the first thing wrong with it is not a blank location.
-/

namespace FleetFlow

/-! ### Shapes of values -/

section Shapes

variable (u : UnicodeTables) (data : JsonObject) (name : String)

def IsInt (value : Json) : Prop := ∃ n, value = .int n

def IsStr (value : Json) : Prop := ∃ text, value = .str text

def IsOptionalInt (value : Json) : Prop := value = .null ∨ IsInt value

def IsOptionalStr (value : Json) : Prop := value = .null ∨ IsStr value

/-- A number above zero that has a float. -/
def IsWeight (value : Json) : Prop :=
  ∃ x > 0, value = .float (.finite x) ∨ ∃ n, value = .int n ∧ PyFloat.ofInt? n = some x

def IsStatus (value : Json) : Prop := ∃ status : TruckStatus, value = .str status.value

/-- Nothing is left of a text once it is stripped and in upper case. -/
def Blank (text : String) : Prop := PyStr.upper u (PyStr.strip u text) = ""

def IsLocation (value : Json) : Prop := ∃ text, value = .str text ∧ ¬ Blank u text

def IsBlankLocation (value : Json) : Prop := ∃ text, value = .str text ∧ Blank u text

def IsOptionalLocation (value : Json) : Prop := value = .null ∨ IsLocation u value

/-- The first item that is not good is bad. -/
def FirstIs (good bad : Json → Prop) (items : List Json) : Prop :=
  ∃ before item after, items = before ++ item :: after ∧ (∀ other ∈ before, good other) ∧ bad item

end Shapes

/-! ### Shapes of records -/

section Records

variable (u : UnicodeTables)

def ReadableCustomer (raw : Json) : Prop :=
  ∃ data, raw = .obj data ∧ IsInt (Json.field data "customer_id") ∧
    IsStr (Json.field data "name") ∧ IsStr (Json.field data "email") ∧
    IsStr (Json.field data "phone")

def ReadablePackage (raw : Json) : Prop :=
  ∃ data, raw = .obj data ∧ IsWeight (Json.field data "weight") ∧
    IsOptionalInt (Json.field data "route_id") ∧ IsInt (Json.field data "package_id") ∧
    IsLocation u (Json.field data "start") ∧ IsLocation u (Json.field data "end") ∧
    IsInt (Json.field data "customer_id")

/-- A package whose first fault is a blank location. -/
def BlankPackage (raw : Json) : Prop :=
  ∃ data, raw = .obj data ∧ IsWeight (Json.field data "weight") ∧
    IsOptionalInt (Json.field data "route_id") ∧ IsInt (Json.field data "package_id") ∧
    (IsBlankLocation u (Json.field data "start") ∨
      IsLocation u (Json.field data "start") ∧ IsBlankLocation u (Json.field data "end"))

def ReadableRoute (raw : Json) : Prop :=
  ∃ data locations packageIds, raw = .obj data ∧ Json.field data "locations" = .arr locations ∧
    Json.field data "package_ids" = .arr packageIds ∧ (∀ item ∈ locations, IsLocation u item) ∧
    (∀ item ∈ packageIds, IsInt item) ∧ IsOptionalInt (Json.field data "truck_vehicle_id") ∧
    IsInt (Json.field data "route_id") ∧ IsOptionalStr (Json.field data "departure_time")

/-- A route whose first fault is a blank location. -/
def BlankRoute (raw : Json) : Prop :=
  ∃ data locations packageIds, raw = .obj data ∧ Json.field data "locations" = .arr locations ∧
    Json.field data "package_ids" = .arr packageIds ∧
    FirstIs (IsLocation u) (IsBlankLocation u) locations

def ReadableTruck (raw : Json) : Prop :=
  ∃ data, raw = .obj data ∧ IsOptionalInt (Json.field data "route_id") ∧
    IsInt (Json.field data "vehicle_id") ∧ IsStatus (Json.field data "status") ∧
    IsOptionalLocation u (Json.field data "current_location") ∧
    IsOptionalStr (Json.field data "busy_from") ∧ IsOptionalStr (Json.field data "busy_until") ∧
    IsOptionalLocation u (Json.field data "in_transit_to")

/-- A truck whose first fault is a blank location. -/
def BlankTruck (raw : Json) : Prop :=
  ∃ data, raw = .obj data ∧ IsOptionalInt (Json.field data "route_id") ∧
    IsInt (Json.field data "vehicle_id") ∧ IsStatus (Json.field data "status") ∧
    (IsBlankLocation u (Json.field data "current_location") ∨
      IsOptionalLocation u (Json.field data "current_location") ∧
        IsOptionalStr (Json.field data "busy_from") ∧ IsOptionalStr (Json.field data "busy_until") ∧
        IsBlankLocation u (Json.field data "in_transit_to"))

/-- The sections of a file whose outer structure is right, by its schema version. -/
inductive FileSections : Json → RawSections → Prop
  | current {raw world counters : JsonObject} {customers packages routes trucks : List Json}
      (hversion : Json.field raw "schema_version" = .int 2)
      (hworld : Json.field raw "world" = .obj world)
      (hcounters : Json.field world "counters" = .obj counters)
      (hcustomers : Json.field world "customers" = .arr customers)
      (hpackages : Json.field world "packages" = .arr packages)
      (hroutes : Json.field world "routes" = .arr routes)
      (htrucks : Json.get? world "trucks" = some (.arr trucks)) :
      FileSections (.obj raw) ⟨counters, customers, packages, routes, trucks⟩
  | nested {raw world counters : JsonObject} {customers packages routes : List Json}
      (hversion : Json.field raw "schema_version" = .int 1)
      (hworld : Json.field raw "world" = .obj world)
      (hcounters : Json.field world "counters" = .obj counters)
      (hcustomers : Json.field world "customers" = .arr customers)
      (hpackages : Json.field world "packages" = .arr packages)
      (hroutes : Json.field world "routes" = .arr routes)
      (htrucks : Json.get? world "trucks" = none) :
      FileSections (.obj raw) ⟨counters, customers, packages, routes, []⟩
  | legacy {raw counters : JsonObject} {customers packages routes : List Json}
      (hversion : Json.field raw "schema_version" = .int 1)
      (hworld : Json.field raw "world" = .null)
      (hcounters : Json.field raw "counters" = .obj counters)
      (hcustomers : Json.field raw "customers" = .arr customers)
      (hpackages : Json.field raw "packages" = .arr packages)
      (hroutes : Json.field raw "routes" = .arr routes)
      (htrucks : Json.get? raw "trucks" = none) :
      FileSections (.obj raw) ⟨counters, customers, packages, routes, []⟩

/-- The first fault of a file is a blank location. -/
def ReachesBlankLocation (raw : Json) : Prop :=
  ∃ sections, FileSections raw sections ∧
    IsInt (Json.field sections.counters "next_customer_id") ∧
    IsInt (Json.field sections.counters "next_package_id") ∧
    IsInt (Json.field sections.counters "next_route_id") ∧
    (∀ item ∈ sections.customers, ReadableCustomer item) ∧
    (FirstIs (ReadablePackage u) (BlankPackage u) sections.packages ∨
      (∀ item ∈ sections.packages, ReadablePackage u item) ∧
        (FirstIs (ReadableRoute u) (BlankRoute u) sections.routes ∨
          (∀ item ∈ sections.routes, ReadableRoute u item) ∧
            FirstIs (ReadableTruck u) (BlankTruck u) sections.trucks))

end Records

/-! ### Readers that return, and readers that raise something untranslated -/

/-- A reader returns when `reads` and raises an error of the domain when `escapes`. Else it raises
a type error or a value error. -/
structure Classified {α : Type} (reader : Except PyError α) (reads escapes : Prop) : Prop where
  reads : (∃ a, reader = .ok a) ↔ reads
  escapes : (∃ e, reader = .error e ∧ e.kind = .domainValidation) ↔ escapes
  kinds : ∀ e, reader = .error e →
    e.kind = .typeError ∨ e.kind = .valueError ∨ e.kind = .domainValidation

namespace Classified

variable {α β : Type} {reader : Except PyError α} {reads escapes : Prop}

theorem ok (a : α) : Classified (.ok a : Except PyError α) True False :=
  ⟨by simp, by simp, by simp⟩

theorem typeError (message : String) :
    Classified (.error ⟨.typeError, message⟩ : Except PyError α) False False :=
  ⟨by simp, by simp, by simp⟩

theorem valueError (message : String) :
    Classified (.error ⟨.valueError, message⟩ : Except PyError α) False False :=
  ⟨by simp, by simp, by simp⟩

theorem domainValidation (message : String) :
    Classified (.error ⟨.domainValidation, message⟩ : Except PyError α) False True :=
  ⟨by simp, by simp, by simp⟩

theorem congr {reads' escapes' : Prop} (h : Classified reader reads escapes)
    (hreads : reads ↔ reads') (hescapes : escapes ↔ escapes') :
    Classified reader reads' escapes' :=
  ⟨h.reads.trans hreads, h.escapes.trans hescapes, h.kinds⟩

/-- One reader after the other. -/
theorem bind {next : α → Except PyError β} {reads' escapes' : Prop}
    (h : Classified reader reads escapes) (hnext : ∀ a, Classified (next a) reads' escapes') :
    Classified (reader >>= next) (reads ∧ reads') (escapes ∨ reads ∧ escapes') := by
  cases reader with
  | error e =>
    have hreads : ¬ reads := fun hr ↦ by simpa using h.reads.mpr hr
    refine ⟨by simp [hreads, Bind.bind, Except.bind], ?_, ?_⟩
    · simpa [hreads, Bind.bind, Except.bind] using h.escapes
    · simpa [Bind.bind, Except.bind] using h.kinds
  | ok a =>
    have hreads : reads := h.reads.mp ⟨a, rfl⟩
    have hescapes : ¬ escapes := fun he ↦ by simpa using h.escapes.mpr he
    refine ⟨?_, ?_, (hnext a).kinds⟩
    · simpa [hreads, Bind.bind, Except.bind] using (hnext a).reads
    · simpa [hreads, hescapes, Bind.bind, Except.bind] using (hnext a).escapes

/-- A reader of each item in turn. -/
theorem mapM {good bad : Json → Prop} {read : Json → Except PyError β}
    (h : ∀ item, Classified (read item) (good item) (bad item)) (items : List Json) :
    Classified (items.mapM read) (∀ item ∈ items, good item) (FirstIs good bad items) := by
  induction items with
  | nil =>
    refine (ok ([] : List β)).congr (by simp) ?_
    simp [FirstIs]
  | cons item rest ih =>
    rw [List.mapM_cons]
    refine ((h item).bind fun b ↦ ih.bind fun bs ↦ ok (b :: bs)).congr (by simp) ?_
    constructor
    · rintro (hbad | ⟨hgood, ⟨before, other, after, rfl, hbefore, hother⟩ | ⟨-, ⟨⟩⟩⟩)
      · exact ⟨[], item, rest, rfl, by simp, hbad⟩
      · refine ⟨item :: before, other, after, rfl, ?_, hother⟩
        simpa using ⟨hgood, hbefore⟩
    · rintro ⟨before, other, after, heq, hbefore, hother⟩
      cases before with
      | nil =>
        obtain ⟨rfl, rfl⟩ := List.cons.inj heq
        exact .inl hother
      | cons first before =>
        obtain ⟨rfl, rfl⟩ := List.cons.inj heq
        rw [List.forall_mem_cons] at hbefore
        exact .inr ⟨hbefore.1, .inl ⟨before, other, after, rfl, hbefore.2, hother⟩⟩

end Classified

/-! ### Values -/

section Values

variable {u : UnicodeTables}

theorem classified_requireInt (value : Json) (fieldName : String) :
    Classified (Json.requireInt value fieldName) (IsInt value) False := by
  cases value with
  | int n => exact (Classified.ok n).congr (by simp [IsInt]) .rfl
  | _ => exact (Classified.typeError _).congr (by simp [IsInt]) .rfl

theorem classified_requireStr (value : Json) (fieldName : String) :
    Classified (Json.requireStr value fieldName) (IsStr value) False := by
  cases value with
  | str s => exact (Classified.ok s).congr (by simp [IsStr]) .rfl
  | _ => exact (Classified.typeError _).congr (by simp [IsStr]) .rfl

theorem classified_requireOptionalInt (value : Json) (fieldName : String) :
    Classified (Json.requireOptionalInt value fieldName) (IsOptionalInt value) False := by
  cases value with
  | null => exact (Classified.ok none).congr (by simp [IsOptionalInt]) .rfl
  | int n => exact (Classified.ok (some n)).congr (by simp [IsOptionalInt, IsInt]) .rfl
  | _ => exact (Classified.typeError _).congr (by simp [IsOptionalInt, IsInt]) .rfl

theorem classified_requireOptionalStr (value : Json) (fieldName : String) :
    Classified (Json.requireOptionalStr value fieldName) (IsOptionalStr value) False := by
  cases value with
  | null => exact (Classified.ok none).congr (by simp [IsOptionalStr]) .rfl
  | str s => exact (Classified.ok (some s)).congr (by simp [IsOptionalStr, IsStr]) .rfl
  | _ => exact (Classified.typeError _).congr (by simp [IsOptionalStr, IsStr]) .rfl

theorem classified_requirePositiveFiniteFloat (value : Json) (fieldName : String) :
    Classified (Json.requirePositiveFiniteFloat value fieldName) (IsWeight value) False := by
  have hpositive : ∀ x : Rat, Classified
      (do require (0 < x) ⟨.valueError, s!"{fieldName} must be positive."⟩; .ok x)
      (0 < x) False := by
    intro x
    by_cases hx : 0 < x
    · rw [require_bind_of_true hx]
      exact (Classified.ok x).congr (by simp [hx]) .rfl
    · rw [require, if_neg hx]
      exact (Classified.valueError _).congr (by simp [hx]) .rfl
  unfold Json.requirePositiveFiniteFloat
  cases value with
  | int n =>
    dsimp only [Json.requireFiniteFloat]
    cases hn : PyFloat.ofInt? n with
    | none => exact (Classified.valueError _).congr (by simp [IsWeight, hn]) .rfl
    | some x => exact (hpositive x).congr (by simp [IsWeight, hn]) .rfl
  | float x =>
    cases x with
    | finite x => exact (hpositive x).congr (by simp [IsWeight]) .rfl
    | nonFinite => exact (Classified.valueError _).congr (by simp [IsWeight]) .rfl
  | _ => exact (Classified.typeError _).congr (by simp [IsWeight]) .rfl

theorem classified_status (value : Json) (fieldName : String) :
    Classified (do TruckStatus.ofText u (← Json.requireStr value fieldName)) (IsStatus value)
      False := by
  cases value with
  | str text =>
    dsimp only [Json.requireStr, Bind.bind, Except.bind]
    unfold TruckStatus.ofText
    split
    · next h => exact (Classified.ok TruckStatus.free).congr (by simp [IsStatus, h]) .rfl
    · next h =>
      split
      · next h' => exact (Classified.ok TruckStatus.onTheWay).congr (by simp [IsStatus, h']) .rfl
      · next h' =>
        refine (Classified.valueError _).congr ?_ .rfl
        simp only [IsStatus, Json.str.injEq, false_iff, not_exists]
        intro status
        cases status
        · exact h
        · exact h'
  | _ => exact (Classified.typeError _).congr (by simp [IsStatus]) .rfl

theorem classified_locationCode (text : String) :
    Classified (LocationCode.new u text) (¬ Blank u text) (Blank u text) := by
  unfold LocationCode.new
  dsimp only
  split
  · next h =>
    have hblank : Blank u text := h
    exact (Classified.domainValidation _).congr (by simp [hblank]) (by simp [hblank])
  · next h =>
    have hblank : ¬ Blank u text := h
    exact (Classified.ok _).congr (by simp [hblank]) (by simp [hblank])

theorem classified_location (value : Json) (fieldName : String) :
    Classified (do LocationCode.new u (← Json.requireStr value fieldName)) (IsLocation u value)
      (IsBlankLocation u value) := by
  cases value with
  | str text =>
    dsimp only [Json.requireStr, Bind.bind, Except.bind]
    exact (classified_locationCode text).congr (by simp [IsLocation]) (by simp [IsBlankLocation])
  | _ =>
    dsimp only [Json.requireStr, Bind.bind, Except.bind]
    exact (Classified.typeError _).congr (by simp [IsLocation]) (by simp [IsBlankLocation])

theorem classified_fieldOptionalLocation (data : JsonObject) (name : String) :
    Classified (fieldOptionalLocation u data name) (IsOptionalLocation u (Json.field data name))
      (IsBlankLocation u (Json.field data name)) := by
  have hcode := @classified_locationCode u
  unfold fieldOptionalLocation fieldOptionalStr
  generalize LocationCode.new u = read at hcode ⊢
  cases Json.field data name with
  | null =>
    dsimp only [Json.requireOptionalStr, Bind.bind, Except.bind]
    exact (Classified.ok none).congr (by simp [IsOptionalLocation]) (by simp [IsBlankLocation])
  | str text =>
    exact ((hcode text).bind fun code ↦ .ok (some code)).congr
      (by simp [IsOptionalLocation, IsLocation]) (by simp [IsBlankLocation])
  | _ =>
    dsimp only [Json.requireOptionalStr, Bind.bind, Except.bind]
    exact (Classified.typeError _).congr (by simp [IsOptionalLocation, IsLocation])
      (by simp [IsBlankLocation])

/-- A reader of the fields of an object. -/
theorem Classified.mapping {β : Type} {next : JsonObject → Except PyError β}
    {reads escapes : Prop} (raw : Json)
    (hobj : ∀ data, raw = .obj data → Classified (next data) reads escapes)
    (hother : (∀ data, raw ≠ .obj data) → ¬ reads ∧ ¬ escapes) :
    Classified (Json.requireMapping raw >>= next) reads escapes := by
  cases raw with
  | obj data => exact hobj data rfl
  | _ =>
    obtain ⟨hreads, hescapes⟩ := hother (by simp)
    exact (Classified.typeError _).congr (by simp [hreads]) (by simp [hescapes])

/-- A reader of the items of a list. -/
theorem Classified.list {β : Type} {next : List Json → Except PyError β}
    {reads escapes : Prop} (value : Json) (fieldName : String)
    (harr : ∀ items, value = .arr items → Classified (next items) reads escapes)
    (hother : (∀ items, value ≠ .arr items) → ¬ reads ∧ ¬ escapes) :
    Classified (Json.requireList value fieldName >>= next) reads escapes := by
  cases value with
  | arr items => exact harr items rfl
  | _ =>
    obtain ⟨hreads, hescapes⟩ := hother (by simp)
    exact (Classified.typeError _).congr (by simp [hreads]) (by simp [hescapes])

end Values

/-! ### Records -/

section Records

variable {u : UnicodeTables} (raw : Json)

theorem classified_customer :
    Classified (customerSnapshotFromRaw raw) (ReadableCustomer raw) False := by
  unfold customerSnapshotFromRaw
  refine Classified.mapping raw ?_ (fun hraw ↦ by simp [ReadableCustomer, hraw])
  rintro data rfl
  refine Classified.congr ((classified_requireInt _ _).bind fun customerId ↦
    (classified_requireStr _ _).bind fun name ↦ (classified_requireStr _ _).bind fun email ↦
    (classified_requireStr _ _).bind fun phone ↦ .ok _) ?_ ?_
  · simp [ReadableCustomer]
  · simp

theorem classified_package :
    Classified (packageSnapshotFromRaw u raw) (ReadablePackage u raw) (BlankPackage u raw) := by
  unfold packageSnapshotFromRaw
  refine Classified.mapping raw ?_ (fun hraw ↦ by simp [ReadablePackage, BlankPackage, hraw])
  rintro data rfl
  refine Classified.congr ((classified_requirePositiveFiniteFloat _ _).bind fun weight ↦
    (classified_requireOptionalInt _ _).bind fun routeId ↦
    (classified_requireInt _ _).bind fun packageId ↦ (classified_location _ _).bind fun start ↦
    (classified_location _ _).bind fun end_ ↦ (classified_requireInt _ _).bind fun customerId ↦
    .ok _) ?_ ?_
  · simp [ReadablePackage]
  · simp [BlankPackage]

theorem classified_route :
    Classified (routeSnapshotFromRaw u raw) (ReadableRoute u raw) (BlankRoute u raw) := by
  unfold routeSnapshotFromRaw
  refine Classified.mapping raw ?_ (fun hraw ↦ by simp [ReadableRoute, BlankRoute, hraw])
  rintro data rfl
  refine Classified.list _ _ ?_ (fun hlist ↦ by simp [ReadableRoute, BlankRoute, hlist])
  intro locations hlocations
  refine Classified.list _ _ ?_ (fun hlist ↦ by simp [ReadableRoute, BlankRoute, hlist])
  intro packageIds hpackageIds
  refine Classified.congr ((Classified.mapM (classified_location · _) locations).bind fun locations ↦
    (Classified.mapM (classified_requireInt · _) packageIds).bind fun packageIds ↦
    (classified_requireOptionalInt _ _).bind fun truckVehicleId ↦
    (classified_requireInt _ _).bind fun routeId ↦
    (classified_requireOptionalStr _ _).bind fun departureTime ↦ .ok _) ?_ ?_
  · simp [ReadableRoute, hlocations, hpackageIds]
  · simp [BlankRoute, hlocations, hpackageIds, FirstIs]

theorem classified_truck :
    Classified (truckSnapshotFromRaw u raw) (ReadableTruck u raw) (BlankTruck u raw) := by
  unfold truckSnapshotFromRaw
  refine Classified.mapping raw ?_ (fun hraw ↦ by simp [ReadableTruck, BlankTruck, hraw])
  rintro data rfl
  refine Classified.congr ((classified_requireOptionalInt _ _).bind fun routeId ↦
    (classified_requireInt _ _).bind fun vehicleId ↦ (classified_status _ _).bind fun status ↦
    (classified_fieldOptionalLocation _ _).bind fun currentLocation ↦
    (classified_requireOptionalStr _ _).bind fun busyFrom ↦
    (classified_requireOptionalStr _ _).bind fun busyUntil ↦
    (classified_fieldOptionalLocation _ _).bind fun inTransitTo ↦ .ok _) ?_ ?_
  · simp [ReadableTruck]
  · simp [BlankTruck]

end Records

/-! ### The file -/

section File

variable {u : UnicodeTables} {raw : Json} {sections : RawSections}

/-- What is in the sections of a file. -/
theorem classified_readWorld (version : Int) :
    Classified (readWorld u version sections)
      (IsInt (Json.field sections.counters "next_customer_id") ∧
        IsInt (Json.field sections.counters "next_package_id") ∧
        IsInt (Json.field sections.counters "next_route_id") ∧
        (∀ item ∈ sections.customers, ReadableCustomer item) ∧
        (∀ item ∈ sections.packages, ReadablePackage u item) ∧
        (∀ item ∈ sections.routes, ReadableRoute u item) ∧
        ∀ item ∈ sections.trucks, ReadableTruck u item)
      (IsInt (Json.field sections.counters "next_customer_id") ∧
        IsInt (Json.field sections.counters "next_package_id") ∧
        IsInt (Json.field sections.counters "next_route_id") ∧
        (∀ item ∈ sections.customers, ReadableCustomer item) ∧
        (FirstIs (ReadablePackage u) (BlankPackage u) sections.packages ∨
          (∀ item ∈ sections.packages, ReadablePackage u item) ∧
            (FirstIs (ReadableRoute u) (BlankRoute u) sections.routes ∨
              (∀ item ∈ sections.routes, ReadableRoute u item) ∧
                FirstIs (ReadableTruck u) (BlankTruck u) sections.trucks))) := by
  unfold readWorld
  refine Classified.congr ((classified_requireInt _ _).bind fun nextCustomerId ↦
    (classified_requireInt _ _).bind fun nextPackageId ↦
    (classified_requireInt _ _).bind fun nextRouteId ↦
    (Classified.mapM classified_customer _).bind fun customers ↦
    (Classified.mapM classified_package _).bind fun packages ↦
    (Classified.mapM classified_route _).bind fun routes ↦
    (Classified.mapM classified_truck _).bind fun trucks ↦ .ok _) ?_ ?_
  · simp
  · simp [FirstIs]

theorem requireMapping_eq_ok_iff {value : Json} {fields : JsonObject} :
    Json.requireMapping value = .ok fields ↔ value = .obj fields := by
  cases value <;> simp [Json.requireMapping]

theorem requireList_eq_ok_iff {value : Json} {fieldName : String} {items : List Json} :
    Json.requireList value fieldName = .ok items ↔ value = .arr items := by
  cases value <;> simp [Json.requireList]

/-- Files with a version. -/
theorem readHeader_eq_ok_iff {header : JsonObject × Int} :
    readHeader raw = .ok header ↔
      raw = .obj header.1 ∧ Json.field header.1 "schema_version" = .int header.2 := by
  simp only [readHeader, except_bind_eq_ok_iff, requireMapping_eq_ok_iff, fieldInt,
    Json.requireInt_eq_ok_iff, Except.ok.injEq]
  constructor
  · rintro ⟨fields, rfl, version, hversion, rfl⟩
    exact ⟨rfl, hversion⟩
  · rintro ⟨rfl, hversion⟩
    exact ⟨_, rfl, _, hversion, rfl⟩

/-- Objects with sections. -/
theorem readSections_eq_ok_iff {fields : JsonObject} :
    readSections fields = .ok sections ↔
      Json.field fields "counters" = .obj sections.counters ∧
        Json.field fields "customers" = .arr sections.customers ∧
        Json.field fields "packages" = .arr sections.packages ∧
        Json.field fields "routes" = .arr sections.routes ∧
        (Json.get? fields "trucks").getD (.arr []) = .arr sections.trucks := by
  simp only [readSections, except_bind_eq_ok_iff, requireMapping_eq_ok_iff, fieldList,
    requireList_eq_ok_iff, Except.ok.injEq]
  constructor
  · rintro ⟨counters, hcounters, customers, hcustomers, packages, hpackages, routes, hroutes,
      trucks, htrucks, rfl⟩
    exact ⟨hcounters, hcustomers, hpackages, hroutes, htrucks⟩
  · rintro ⟨hcounters, hcustomers, hpackages, hroutes, htrucks⟩
    exact ⟨_, hcounters, _, hcustomers, _, hpackages, _, hroutes, _, htrucks, rfl⟩

/-- The object that holds the sections of a file. -/
theorem worldDict_eq_ok_iff {version : Int} {fields world : JsonObject} :
    worldDict version fields = .ok world ↔
      Json.field fields "world" = .obj world ∧ ¬ (version = 1 ∧ Json.has world "trucks" = true) ∧
          ¬ (version = 2 ∧ Json.has world "trucks" = false) ∨
        Json.field fields "world" = .null ∧ version = 1 ∧ Json.has fields "trucks" = false ∧
          legacySections.all (Json.has fields) = true ∧
          world = [("counters", Json.field fields "counters"),
            ("customers", Json.field fields "customers"),
            ("packages", Json.field fields "packages"), ("routes", Json.field fields "routes"),
            ("trucks", .arr [])] := by
  unfold worldDict
  cases Json.field fields "world" with
  | null =>
    have hany : legacySections.all (Json.has fields) = true →
        legacySections.any (Json.has fields) = true := by
      simp only [legacySections, List.all_cons, List.any_cons, Bool.and_eq_true, Bool.or_eq_true]
      exact fun h ↦ .inl h.1
    simp only [require_bind_eq_ok_iff, Except.ok.injEq, reduceCtorEq, false_and, false_or, true_and]
    constructor
    · rintro ⟨hversion, htrucks, -, hall, rfl⟩
      exact ⟨hversion, htrucks, hall, rfl⟩
    · rintro ⟨hversion, htrucks, hall, rfl⟩
      exact ⟨hversion, htrucks, hany hall, hall, rfl⟩
  | obj world' =>
    dsimp only [Json.requireMapping, catchTypeError]
    rw [except_bind_eq_ok_iff]
    simp only [require_bind_eq_ok_iff, Except.ok.injEq, Json.obj.injEq, reduceCtorEq, false_and,
      or_false]
    constructor
    · rintro ⟨_, rfl, hold, hnew, rfl⟩
      exact ⟨rfl, hold, hnew⟩
    · rintro ⟨rfl, hold, hnew⟩
      exact ⟨_, rfl, hold, hnew, rfl⟩
  | _ => simp [Json.requireMapping, catchTypeError, corrupt, except_bind_eq_ok_iff]

theorem has_of_field {fields : JsonObject} {name : String} {value : Json}
    (h : Json.field fields name = value) (hvalue : value ≠ .null) :
    Json.has fields name = true := by
  unfold Json.has
  unfold Json.field at h
  cases hget : Json.get? fields name with
  | none =>
    rw [hget] at h
    exact absurd h.symm hvalue
  | some found => rfl

theorem get?_eq_none_of_has {fields : JsonObject} {name : String}
    (h : Json.has fields name = false) : Json.get? fields name = none := by
  simpa [Json.has] using h

/-- The sections of a file are what the reader finds. -/
theorem fileSections_iff :
    FileSections raw sections ↔ ∃ header world, readHeader raw = .ok header ∧
      (header.2 = 1 ∨ header.2 = 2) ∧ worldDict header.2 header.1 = .ok world ∧
      readSections world = .ok sections := by
  simp only [readHeader_eq_ok_iff, worldDict_eq_ok_iff, readSections_eq_ok_iff]
  constructor
  · intro h
    cases h with
    | @current fields world _ _ _ _ _ hversion hworld hcounters hcustomers hpackages hroutes htrucks =>
      refine ⟨(fields, 2), world, ⟨rfl, hversion⟩, .inr rfl, .inl ⟨hworld, by simp, ?_⟩, hcounters,
        hcustomers, hpackages, hroutes, by rw [htrucks]; rfl⟩
      simp [Json.has, htrucks]
    | @nested fields world _ _ _ _ hversion hworld hcounters hcustomers hpackages hroutes htrucks =>
      refine ⟨(fields, 1), world, ⟨rfl, hversion⟩, .inl rfl, .inl ⟨hworld, ?_, by simp⟩, hcounters,
        hcustomers, hpackages, hroutes, by rw [htrucks]; rfl⟩
      simp [Json.has, htrucks]
    | @legacy fields _ _ _ _ hversion hworld hcounters hcustomers hpackages hroutes htrucks =>
      have hall : legacySections.all (Json.has fields) = true := by
        simp [legacySections, has_of_field hcounters, has_of_field hcustomers,
          has_of_field hpackages, has_of_field hroutes]
      exact ⟨(fields, 1), _, ⟨rfl, hversion⟩, .inl rfl,
        .inr ⟨hworld, rfl, by simp [Json.has, htrucks], hall, rfl⟩, hcounters, hcustomers, hpackages,
        hroutes, rfl⟩
  · rintro ⟨⟨fields, version⟩, world, ⟨rfl, hversion⟩, hsupported, hdict, hcounters, hcustomers,
      hpackages, hroutes, htrucks⟩
    rcases hdict with ⟨hworld, hold, hnew⟩ | ⟨hworld, rfl, hnone, -, rfl⟩
    · rcases hsupported with rfl | rfl
      · have hnone : Json.get? world "trucks" = none :=
          get?_eq_none_of_has (by simpa using hold)
        rw [hnone] at htrucks
        have hnil : [] = sections.trucks := Json.arr.inj htrucks
        have hfile := FileSections.nested hversion hworld hcounters hcustomers hpackages hroutes hnone
        rwa [hnil] at hfile
      · have hsome : Json.get? world "trucks" = some (.arr sections.trucks) := by
          cases hget : Json.get? world "trucks" with
          | none => exact absurd ⟨rfl, by simp [Json.has, hget]⟩ hnew
          | some found =>
            rw [hget] at htrucks
            exact congrArg some htrucks
        exact .current hversion hworld hcounters hcustomers hpackages hroutes hsome
    · have hnil : [] = sections.trucks := Json.arr.inj htrucks
      have hfile := FileSections.legacy hversion hworld hcounters hcustomers hpackages hroutes
        (get?_eq_none_of_has hnone)
      rwa [hnil] at hfile

/-! ### Translation of errors -/

/-- Outcomes that callers expect. -/
def Reported {α : Type} (result : Except PyError α) : Prop :=
  (∃ a, result = .ok a) ∨ ∃ reason message, result = .error ⟨.worldStateCorruption reason, message⟩

theorem Reported.bind {α β : Type} {result : Except PyError α} {next : α → Except PyError β}
    (h : Reported result) (hnext : ∀ a, result = .ok a → Reported (next a)) :
    Reported (result >>= next) := by
  rcases h with ⟨a, rfl⟩ | ⟨reason, message, rfl⟩
  · exact hnext a rfl
  · exact .inr ⟨reason, message, rfl⟩

theorem reported_require {condition : Prop} [Decidable condition] (reason : CorruptionReason)
    (message : String) : Reported (require condition ⟨.worldStateCorruption reason, message⟩) := by
  unfold require
  split
  · exact .inl ⟨(), rfl⟩
  · exact .inr ⟨reason, message, rfl⟩

/-- A reader that raises nothing but type errors. -/
def RaisesTypeErrors {α : Type} (reader : Except PyError α) : Prop :=
  ∀ e, reader = .error e → e.kind = .typeError

theorem RaisesTypeErrors.reported {α : Type} {reader : Except PyError α}
    (h : RaisesTypeErrors reader) : Reported (catchTypeError reader) := by
  cases reader with
  | ok a => exact .inl ⟨a, rfl⟩
  | error e =>
    rw [catchTypeError, if_pos (h e rfl)]
    exact .inr ⟨_, _, rfl⟩

theorem RaisesTypeErrors.bind {α β : Type} {reader : Except PyError α}
    {next : α → Except PyError β} (h : RaisesTypeErrors reader)
    (hnext : ∀ a, RaisesTypeErrors (next a)) : RaisesTypeErrors (reader >>= next) := by
  cases reader with
  | ok a => exact hnext a
  | error e =>
    rintro e' ⟨⟩
    exact h e rfl

theorem raisesTypeErrors_ok {α : Type} (a : α) : RaisesTypeErrors (.ok a) := by
  rintro e ⟨⟩

theorem raisesTypeErrors_requireMapping (value : Json) :
    RaisesTypeErrors (Json.requireMapping value) := by
  cases value <;> simp [RaisesTypeErrors, Json.requireMapping]

theorem raisesTypeErrors_requireList (value : Json) (fieldName : String) :
    RaisesTypeErrors (Json.requireList value fieldName) := by
  cases value <;> simp [RaisesTypeErrors, Json.requireList]

theorem raisesTypeErrors_requireInt (value : Json) (fieldName : String) :
    RaisesTypeErrors (Json.requireInt value fieldName) := by
  cases value <;> simp [RaisesTypeErrors, Json.requireInt]

theorem raisesTypeErrors_readHeader : RaisesTypeErrors (readHeader raw) :=
  (raisesTypeErrors_requireMapping _).bind fun _ ↦ (raisesTypeErrors_requireInt _ _).bind fun _ ↦
    raisesTypeErrors_ok _

theorem raisesTypeErrors_readSections (fields : JsonObject) :
    RaisesTypeErrors (readSections fields) :=
  (raisesTypeErrors_requireMapping _).bind fun _ ↦ (raisesTypeErrors_requireList _ _).bind fun _ ↦
    (raisesTypeErrors_requireList _ _).bind fun _ ↦
    (raisesTypeErrors_requireList _ _).bind fun _ ↦
    (raisesTypeErrors_requireList _ _).bind fun _ ↦ raisesTypeErrors_ok _

/-- Finding the sections raises nothing else. -/
theorem reported_worldDict (version : Int) (fields : JsonObject) :
    Reported (worldDict version fields) := by
  have hobj : ∀ world, Reported (do
      let worldDict ← catchTypeError (Json.requireMapping world)
      require (¬ (version = 1 ∧ Json.has worldDict "trucks" = true))
        ⟨.worldStateCorruption .invalidStructure,
          "Schema v1 world state payloads do not support truck snapshots."⟩
      require (¬ (version = 2 ∧ Json.has worldDict "trucks" = false))
        ⟨.worldStateCorruption .invalidStructure,
          "Schema v2 world state payloads require truck snapshots."⟩
      .ok worldDict) := fun world ↦
    (raisesTypeErrors_requireMapping world).reported.bind fun worldDict _ ↦
      (reported_require _ _).bind fun _ _ ↦ (reported_require _ _).bind fun _ _ ↦ .inl ⟨_, rfl⟩
  unfold worldDict
  split
  · exact (reported_require _ _).bind fun _ _ ↦ (reported_require _ _).bind fun _ _ ↦
      (reported_require _ _).bind fun _ _ ↦ (reported_require _ _).bind fun _ _ ↦ .inl ⟨_, rfl⟩
  · exact hobj _

/-- What a reader lets through once both kinds of errors are caught. -/
theorem Classified.reported_iff {α : Type} {result : Except PyError α} {reads escapes : Prop}
    (h : Classified result reads escapes) :
    Reported (catchValueError (catchTypeError result)) ↔ ¬ escapes := by
  rw [← h.escapes]
  cases result with
  | ok a => simp [catchTypeError, catchValueError, Reported]
  | error e =>
    obtain ⟨kind, message⟩ := e
    have hkinds : kind = .typeError ∨ kind = .valueError ∨ kind = .domainValidation :=
      h.kinds _ rfl
    rcases hkinds with rfl | rfl | rfl <;>
      simp [catchTypeError, catchValueError, corrupt, Reported]

theorem catchTypeError_eq_ok_iff {α : Type} {result : Except PyError α} {a : α} :
    catchTypeError result = .ok a ↔ result = .ok a := by
  cases result with
  | ok b => rfl
  | error e =>
    by_cases htype : e.kind = .typeError <;> simp [catchTypeError, corrupt, htype]

/-- A file is read from its sections. -/
theorem snapshotFromRaw_of_sections {header : JsonObject × Int} {world : JsonObject}
    (hheader : readHeader raw = .ok header) (hversion : header.2 = 1 ∨ header.2 = 2)
    (hworld : worldDict header.2 header.1 = .ok world)
    (hsections : readSections world = .ok sections) :
    snapshotFromRaw u raw =
      catchValueError (catchTypeError (readWorld u header.2 sections)) := by
  unfold snapshotFromRaw
  rw [catchTypeError_eq_ok_iff.mpr hheader]
  change (require _ _ >>= fun _ ↦ _) = _
  rw [require_bind_of_true hversion, hworld]
  change (catchTypeError (readSections world) >>= _) = _
  rw [catchTypeError_eq_ok_iff.mpr hsections]
  rfl

/-- Reading a world file returns a snapshot or reports a corruption exactly when the first fault of
the file is not a blank location. -/
theorem snapshotFromRaw_reported_iff (u : UnicodeTables) (raw : Json) :
    ((∃ snapshot, snapshotFromRaw u raw = .ok snapshot) ∨
        ∃ reason message,
          snapshotFromRaw u raw = .error ⟨.worldStateCorruption reason, message⟩) ↔
      ¬ ReachesBlankLocation u raw := by
  change Reported (snapshotFromRaw u raw) ↔ _
  constructor
  · rintro hreported ⟨sections, hsections, hblank⟩
    obtain ⟨header, world, hheader, hversion, hworld, hread⟩ := fileSections_iff.mp hsections
    rw [snapshotFromRaw_of_sections hheader hversion hworld hread,
      (classified_readWorld _).reported_iff] at hreported
    exact hreported hblank
  · intro hblank
    unfold snapshotFromRaw
    refine raisesTypeErrors_readHeader.reported.bind fun header hheader ↦ ?_
    refine (reported_require _ _).bind fun _ hversion ↦ ?_
    refine (reported_worldDict _ _).bind fun world hworld ↦ ?_
    refine (raisesTypeErrors_readSections _).reported.bind fun sections hsections ↦ ?_
    rw [catchTypeError_eq_ok_iff] at hheader hsections
    rw [require_eq_ok_iff] at hversion
    rw [(classified_readWorld _).reported_iff]
    intro hescapes
    exact hblank ⟨sections, fileSections_iff.mpr ⟨header, world, hheader, hversion, hworld, hsections⟩,
      hescapes⟩

end File

namespace Scenario

/-- A file with one route whose second stop is a blank. -/
def blankStopFile : Json := .obj [
  ("schema_version", .int 2),
  ("world", .obj [
    ("counters", .obj [
      ("next_customer_id", .int 1), ("next_package_id", .int 1), ("next_route_id", .int 2)]),
    ("customers", .arr []),
    ("packages", .arr []),
    ("routes", .arr [.obj [
      ("route_id", .int 1),
      ("locations", .arr [.str "SYD", .str " "]),
      ("departure_time", .null),
      ("truck_vehicle_id", .null),
      ("package_ids", .arr [])]]),
    ("trucks", .arr [])])]

/-- The blank is reported as an error of the domain. -/
theorem not_snapshotFromRaw_reported_blank :
    ¬ ((∃ snapshot, snapshotFromRaw .asciiOnly blankStopFile = .ok snapshot) ∨
      ∃ reason message,
        snapshotFromRaw .asciiOnly blankStopFile =
          .error ⟨.worldStateCorruption reason, message⟩) := by
  have hread : snapshotFromRaw .asciiOnly blankStopFile =
      .error ⟨.domainValidation, "Location code cannot be blank."⟩ := by decide +kernel
  rw [hread]
  simp

end Scenario
end FleetFlow
