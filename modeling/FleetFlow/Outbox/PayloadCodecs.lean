import FleetFlow.Base.FieldCodec
import FleetFlow.Outbox.Events

/-!
# Payloads of published events

Follows `application/eventing/outbox/codecs/`. A payload has the fields of its class and no other;
the time of an event is kept beside its payload.
-/

namespace FleetFlow.Outbox

open PayloadCodec ValueCodec

/-! ### Texts of members -/

def itemStatuses : TextEnum ItemStatus where
  className := "ItemStatus"
  members := [.todo, .inProgress, .done]
  text := ItemStatus.value
  find?_text a := by cases a <;> rfl

def routeStatuses : TextEnum RouteStatus where
  className := "RouteStatus"
  members := [.planned, .scheduled, .inProgress, .completed]
  text := RouteStatus.value
  find?_text a := by cases a <;> rfl

def truckStatuses : TextEnum TruckStatus where
  className := "TruckStatus"
  members := [.free, .onTheWay]
  text := TruckStatus.value
  find?_text a := by cases a <;> rfl

def truckReleaseReasons : TextEnum TruckReleaseReason where
  className := "TruckReleaseReason"
  members := [.routeCompleted, .routeRemoved]
  text := TruckReleaseReason.value
  find?_text a := by cases a <;> rfl

def packageDetachmentReasons : TextEnum PackageDetachmentReason where
  className := "PackageDetachmentReason"
  members := [.packageRemoved, .routeRemoved]
  text := PackageDetachmentReason.value
  find?_text a := by cases a <;> rfl

def routeReconciliationReasons : TextEnum RouteReconciliationReason where
  className := "RouteReconciliationReason"
  members := [.missingDepartureTime, .missingExpectedCompletionTime, .beforeScheduledDeparture]
  text := RouteReconciliationReason.value
  find?_text a := by cases a <;> rfl

def packageReconciliationReasons : TextEnum PackageReconciliationReason where
  className := "PackageReconciliationReason"
  members := [.routeUnscheduled, .routePathInvalid, .beforeScheduledPickup, .missingPickupTime,
    .lifecycleStateInconsistent, .routeProgressAdvanced, .expectedArrivalRecalculated]
  text := PackageReconciliationReason.value
  find?_text a := by cases a <;> rfl

def routePositionKinds : TextEnum RoutePositionKind where
  className := "RoutePositionKind"
  members := [.unscheduled, .beforeStart, .atStop, .inTransit, .afterEnd]
  text := RoutePositionKind.value
  find?_text a := by cases a <;> rfl

def roles : TextEnum Role where
  className := "Role"
  members := [.employee, .manager]
  text := Role.value
  find?_text a := by cases a <;> rfl

def permissions : TextEnum Permission where
  className := "Permission"
  members := [.packageCreate, .packageView, .packageViewAll, .packageFindRouteFor,
    .packageViewUnassigned, .packageRemove, .routeCreate, .routeViewInProgress, .routeView,
    .routeViewAll, .routeFindTruckFor, .routeAssignTruck, .routeAssignPackage, .routeRemove,
    .truckView, .customerView, .adminUser, .appSaveState, .appLoadState, .auditView,
    .fleetOverviewView, .authenticated]
  text := Permission.name
  find?_text a := by cases a <;> rfl

def auditResourceTypes : TextEnum AuditResourceType where
  className := "AuditResourceType"
  members := [.auditLog, .customer, .package, .route, .truck, .user, .authorization, .worldState,
    .fleet]
  text := AuditResourceType.value
  find?_text a := by cases a <;> rfl

def authorizationOperations : TextEnum AuthorizationOperation where
  className := "AuthorizationOperation"
  members := [.packageCreate, .packageView, .packageList, .packageListUnassigned,
    .packageFindSuitableRoutes, .packageRemove, .routeCreate, .routeView, .routeList,
    .routeListInProgress, .routeFindSuitableTrucks, .routeAssignTruck, .routeAssignPackages,
    .routeRemove, .truckList, .customerList, .userRegister, .userChangePassword,
    .userResetPassword, .sessionEnd, .worldStateExport, .worldStateImport, .auditLogView,
    .fleetOverviewView]
  text := AuthorizationOperation.value
  find?_text a := by cases a <;> rfl

def tokenRevocationReasons : TextEnum TokenRevocationReason where
  className := "TokenRevocationReason"
  members := [.userLogout, .passwordChange, .passwordReset]
  text := TokenRevocationReason.value
  find?_text a := by cases a <;> rfl

def userLoginRejectionReasons : TextEnum UserLoginRejectionReason where
  className := "UserLoginRejectionReason"
  members := [.userNotFound, .invalidPassword, .invalidPasswordHash, .invalidRuntimeUser]
  text := UserLoginRejectionReason.value
  find?_text a := by cases a <;> rfl

def userPasswordChangeRejectionReasons : TextEnum UserPasswordChangeRejectionReason where
  className := "UserPasswordChangeRejectionReason"
  members := [.invalidUsername, .userNotFound, .invalidPasswordHash, .currentPasswordIncorrect,
    .passwordCriteriaNotMet, .sameAsCurrentPassword]
  text := UserPasswordChangeRejectionReason.value
  find?_text a := by cases a <;> rfl

def userPasswordResetRejectionReasons : TextEnum UserPasswordResetRejectionReason where
  className := "UserPasswordResetRejectionReason"
  members := [.invalidUsername, .userNotFound, .passwordCriteriaNotMet, .cannotResetOwnPassword]
  text := UserPasswordResetRejectionReason.value
  find?_text a := by cases a <;> rfl

def userRegistrationRejectionReasons : TextEnum UserRegistrationRejectionReason where
  className := "UserRegistrationRejectionReason"
  members := [.invalidUsername, .passwordCriteriaNotMet, .usernameAlreadyExists]
  text := UserRegistrationRejectionReason.value
  find?_text a := by cases a <;> rfl

def worldStateCorruptionReasons : TextEnum CorruptionReason where
  className := "WorldStateCorruptionReason"
  members := [.malformedJson, .invalidStructure, .unsupportedSchema, .invalidReferences,
    .invariantViolation]
  text := CorruptionReason.value
  find?_text a := by cases a <;> rfl

def worldStateFailureReasons : TextEnum WorldStateFailureReason where
  className := "WorldStateFailureReason"
  members := [.fileNotFound, .invalidPath, .corruptSnapshot, .unsupportedSchema,
    .persistenceFailure, .runtimeSwapFailure]
  text := WorldStateFailureReason.value
  find?_text a := by cases a <;> rfl

def worldStateStartupSkipReasons : TextEnum WorldStateStartupSkipReason where
  className := "WorldStateStartupSkipReason"
  members := [.noSnapshotFound, .snapshotDisabled]
  text := WorldStateStartupSkipReason.value
  find?_text a := by cases a <;> rfl

/-! ### Shared fields -/

/-- A location by its text, normalized when it is read; for example `codecs/packages.py:117`. -/
def location (u : UnicodeTables) : ValueCodec LocationCode where
  encode code := .str code.text
  decode name value := do
    let text ← value.requireStr name
    LocationCode.new u text
  Valid code := code.Canonical u

instance {u : UnicodeTables} : (location u).NonNull := ⟨fun _ ↦ by simp [location]⟩

instance {u : UnicodeTables} [hu : Fact (PyStr.UpperStable u)] : (location u).Lawful where
  decode_encode {code} h name := by
    show (Json.requireStr (.str code.text) name >>= LocationCode.new u) = .ok code
    rw [Json.requireStr, ok_bind]
    exact h
  valid_of_decode h := by
    obtain ⟨text, -, hnew⟩ := except_bind_eq_ok_iff.mp h
    exact LocationCode.canonical_of_new hu.out hnew
  validateValue _ _ := by rw [location, Json.validateValue]

/-- Four numbers under their names with what stands before them; `codecs/entity_counts.py`. -/
def entityCounts (keyPrefix : String) : PayloadCodec WorldStateEntityCounts :=
  ((field (keyPrefix ++ "customer_count") count).and <|
      (field (keyPrefix ++ "package_count") count).and <|
      (field (keyPrefix ++ "route_count") count).and <|
      field (keyPrefix ++ "truck_count") count).as
    (fun (customers, packages, routes, trucks) ↦ { customers, packages, routes, trucks })
    (fun counts ↦ (counts.customers, counts.packages, counts.routes, counts.trucks)) fun _ ↦ rfl

/-! ### Domain events -/

/-- What is stored of a created customer; `codecs/customers.py:21–93`. -/
abbrev customerCreatedEventPayloadCodec (occurredAt : Datetime) : PayloadCodec CustomerCreated :=
  (field "customer_id" positiveInt).as
    (fun customerId ↦ { customerId, occurredAt })
    (fun e ↦ e.customerId) fun _ ↦ rfl

/-- What is stored of a created package; `codecs/packages.py:38–136`. -/
abbrev packageCreatedEventPayloadCodec (u : UnicodeTables) (occurredAt : Datetime) :
    PayloadCodec PackageCreated :=
  ((field "package_id" positiveInt).and <| (field "customer_id" positiveInt).and <|
      (field "start_location" (location u)).and <| (field "end_location" (location u)).and <|
      (field "weight" positiveFiniteFloat).and <|
      (field "initial_status" (member u "value" itemStatuses)).and <|
      (field "initial_location" (location u)).and <|
      field "expected_arrival" naiveDatetime.optional).as
    (fun (packageId, customerId, startLocation, endLocation, weight, initialStatus,
      initialLocation, expectedArrival) ↦
      { packageId, customerId, startLocation, endLocation, weight, initialStatus, initialLocation,
        expectedArrival, occurredAt })
    (fun e ↦ (e.packageId, e.customerId, e.startLocation, e.endLocation, e.weight,
      e.initialStatus, e.initialLocation, e.expectedArrival)) fun _ ↦ rfl

/-- What is stored of a removed package; `codecs/packages.py:152–259`. -/
abbrev packageRemovedEventPayloadCodec (u : UnicodeTables) (occurredAt : Datetime) :
    PayloadCodec PackageRemoved :=
  ((field "package_id" positiveInt).and <| (field "customer_id" positiveInt).and <|
      (field "previous_route_id" positiveInt.optional).and <|
      (field "previous_status" (member u "value" itemStatuses)).and <|
      (field "previous_location" (location u)).and <| (field "start_location" (location u)).and <|
      (field "end_location" (location u)).and <| (field "weight" positiveFiniteFloat).and <|
      field "previous_expected_arrival" naiveDatetime.optional).as
    (fun (packageId, customerId, previousRouteId, previousStatus, previousLocation, startLocation,
      endLocation, weight, previousExpectedArrival) ↦
      { packageId, customerId, previousRouteId, previousStatus, previousLocation, startLocation,
        endLocation, weight, previousExpectedArrival, occurredAt })
    (fun e ↦ (e.packageId, e.customerId, e.previousRouteId, e.previousStatus, e.previousLocation,
      e.startLocation, e.endLocation, e.weight, e.previousExpectedArrival)) fun _ ↦ rfl

/-- What `PackagePickedUp` and `PackageDelivered` write. -/
abbrev packageProgressedPayloadCodec (u : UnicodeTables) (occurredAt : Datetime) :
    PayloadCodec PackageProgressed :=
  ((field "package_id" positiveInt).and <| (field "route_id" positiveInt).and <|
      (field "previous_status" (member u "value" itemStatuses)).and <|
      (field "new_status" (member u "value" itemStatuses)).and <|
      (field "previous_location" (location u)).and <| (field "new_location" (location u)).and <|
      field "scheduled_arrival" naiveDatetime.optional).as
    (fun (packageId, routeId, previousStatus, newStatus, previousLocation, newLocation,
      scheduledArrival) ↦
      { packageId, routeId, previousStatus, newStatus, previousLocation, newLocation,
        scheduledArrival, occurredAt })
    (fun e ↦ (e.packageId, e.routeId, e.previousStatus, e.newStatus, e.previousLocation,
      e.newLocation, e.scheduledArrival)) fun _ ↦ rfl

/-- What is stored of a pickup; `codecs/packages.py:273–372`. -/
abbrev packagePickedUpEventPayloadCodec (u : UnicodeTables) (occurredAt : Datetime) :
    PayloadCodec PackageProgressed :=
  packageProgressedPayloadCodec u occurredAt

/-- What is stored of a delivery; `codecs/packages.py:386–485`. -/
abbrev packageDeliveredEventPayloadCodec (u : UnicodeTables) (occurredAt : Datetime) :
    PayloadCodec PackageProgressed :=
  packageProgressedPayloadCodec u occurredAt

/-- What is stored of a created route; `codecs/route_lifecycle.py:40–144`. -/
abbrev routeCreatedEventPayloadCodec (u : UnicodeTables) (occurredAt : Datetime) :
    PayloadCodec RouteCreated :=
  ((field "route_id" positiveInt).and <| (field "locations" (location u).list).and <|
      (field "departure_time" naiveDatetime.optional).and <|
      (field "initial_status" (member u "value" routeStatuses)).and <|
      field "expected_completion_time" naiveDatetime.optional).as
    (fun (routeId, locations, departureTime, initialStatus, expectedCompletionTime) ↦
      { routeId, locations, departureTime, initialStatus, expectedCompletionTime, occurredAt })
    (fun e ↦ (e.routeId, e.locations, e.departureTime, e.initialStatus,
      e.expectedCompletionTime)) fun _ ↦ rfl

/-- What is stored of a scheduling; `codecs/route_lifecycle.py:158–265`. -/
abbrev routeScheduledEventPayloadCodec (u : UnicodeTables) (occurredAt : Datetime) :
    PayloadCodec RouteScheduled :=
  ((field "route_id" positiveInt).and <|
      (field "previous_status" (member u "value" routeStatuses)).and <|
      (field "new_status" (member u "value" routeStatuses)).and <|
      (field "previous_departure_time" naiveDatetime.optional).and <|
      (field "new_departure_time" naiveDatetime).and <|
      (field "previous_expected_completion_time" naiveDatetime.optional).and <|
      field "new_expected_completion_time" naiveDatetime).as
    (fun (routeId, previousStatus, newStatus, previousDepartureTime, newDepartureTime,
      previousExpectedCompletionTime, newExpectedCompletionTime) ↦
      { routeId, previousStatus, newStatus, previousDepartureTime, newDepartureTime,
        previousExpectedCompletionTime, newExpectedCompletionTime, occurredAt })
    (fun e ↦ (e.routeId, e.previousStatus, e.newStatus, e.previousDepartureTime,
      e.newDepartureTime, e.previousExpectedCompletionTime,
      e.newExpectedCompletionTime)) fun _ ↦ rfl

/-- What is stored of a package's assignment; `codecs/route_packages.py:31–124`. -/
abbrev packageAssignedToRouteEventPayloadCodec (occurredAt : Datetime) :
    PayloadCodec PackageAssignedToRoute :=
  ((field "package_id" positiveInt).and <| (field "previous_route_id" positiveInt.optional).and <|
      (field "new_route_id" positiveInt).and <|
      (field "previous_expected_arrival" naiveDatetime.optional).and <|
      field "new_expected_arrival" naiveDatetime.optional).as
    (fun (packageId, previousRouteId, newRouteId, previousExpectedArrival, newExpectedArrival) ↦
      { packageId, previousRouteId, newRouteId, previousExpectedArrival, newExpectedArrival,
        occurredAt })
    (fun e ↦ (e.packageId, e.previousRouteId, e.newRouteId, e.previousExpectedArrival,
      e.newExpectedArrival)) fun _ ↦ rfl

/-- What is stored of a package's detachment; `codecs/route_packages.py:141–252`. -/
abbrev packageDetachedFromRouteEventPayloadCodec (u : UnicodeTables) (occurredAt : Datetime) :
    PayloadCodec PackageDetachedFromRoute :=
  ((field "package_id" positiveInt).and <| (field "previous_route_id" positiveInt).and <|
      (field "new_route_id" positiveInt.optional).and <|
      (field "previous_status" (member u "value" itemStatuses)).and <|
      (field "new_status" (member u "value" itemStatuses)).and <|
      (field "previous_location" (location u)).and <| (field "new_location" (location u)).and <|
      (field "previous_expected_arrival" naiveDatetime.optional).and <|
      (field "new_expected_arrival" naiveDatetime.optional).and <|
      field "reason" (member u "value" packageDetachmentReasons)).as
    (fun (packageId, previousRouteId, newRouteId, previousStatus, newStatus, previousLocation,
      newLocation, previousExpectedArrival, newExpectedArrival, reason) ↦
      { packageId, previousRouteId, newRouteId, previousStatus, newStatus, previousLocation,
        newLocation, previousExpectedArrival, newExpectedArrival, reason, occurredAt })
    (fun e ↦ (e.packageId, e.previousRouteId, e.newRouteId, e.previousStatus, e.newStatus,
      e.previousLocation, e.newLocation, e.previousExpectedArrival, e.newExpectedArrival,
      e.reason)) fun _ ↦ rfl

/-- What is stored of a truck's assignment; `codecs/route_trucks.py:37–150`. -/
abbrev truckAssignedToRouteEventPayloadCodec (u : UnicodeTables) (occurredAt : Datetime) :
    PayloadCodec TruckAssignedToRoute :=
  ((field "truck_id" positiveInt).and <| (field "previous_route_id" positiveInt.optional).and <|
      (field "new_route_id" positiveInt).and <|
      (field "previous_status" (member u "value" truckStatuses)).and <|
      (field "new_status" (member u "value" truckStatuses)).and <|
      (field "previous_location" (location u)).and <| (field "new_location" (location u)).and <|
      (field "previous_busy_from" naiveDatetime.optional).and <|
      (field "new_busy_from" naiveDatetime.optional).and <|
      (field "previous_busy_until" naiveDatetime.optional).and <|
      field "new_busy_until" naiveDatetime.optional).as
    (fun (truckId, previousRouteId, newRouteId, previousStatus, newStatus, previousLocation,
      newLocation, previousBusyFrom, newBusyFrom, previousBusyUntil, newBusyUntil) ↦
      { truckId, previousRouteId, newRouteId, previousStatus, newStatus, previousLocation,
        newLocation, previousBusyFrom, newBusyFrom, previousBusyUntil, newBusyUntil, occurredAt })
    (fun e ↦ (e.truckId, e.previousRouteId, e.newRouteId, e.previousStatus, e.newStatus,
      e.previousLocation, e.newLocation, e.previousBusyFrom, e.newBusyFrom, e.previousBusyUntil,
      e.newBusyUntil)) fun _ ↦ rfl

/-- What is stored of a truck's release; `codecs/route_trucks.py:169–286`. -/
abbrev truckReleasedFromRouteEventPayloadCodec (u : UnicodeTables) (occurredAt : Datetime) :
    PayloadCodec TruckReleasedFromRoute :=
  ((field "truck_id" positiveInt).and <| (field "previous_route_id" positiveInt).and <|
      (field "new_route_id" positiveInt.optional).and <|
      (field "previous_status" (member u "value" truckStatuses)).and <|
      (field "new_status" (member u "value" truckStatuses)).and <|
      (field "previous_location" (location u)).and <| (field "new_location" (location u)).and <|
      (field "previous_busy_from" naiveDatetime.optional).and <|
      (field "new_busy_from" naiveDatetime.optional).and <|
      (field "previous_busy_until" naiveDatetime.optional).and <|
      (field "new_busy_until" naiveDatetime.optional).and <|
      field "reason" (member u "value" truckReleaseReasons)).as
    (fun (truckId, previousRouteId, newRouteId, previousStatus, newStatus, previousLocation,
      newLocation, previousBusyFrom, newBusyFrom, previousBusyUntil, newBusyUntil, reason) ↦
      { truckId, previousRouteId, newRouteId, previousStatus, newStatus, previousLocation,
        newLocation, previousBusyFrom, newBusyFrom, previousBusyUntil, newBusyUntil, reason,
        occurredAt })
    (fun e ↦ (e.truckId, e.previousRouteId, e.newRouteId, e.previousStatus, e.newStatus,
      e.previousLocation, e.newLocation, e.previousBusyFrom, e.newBusyFrom, e.previousBusyUntil,
      e.newBusyUntil, e.reason)) fun _ ↦ rfl

/-- What is stored of a start; `codecs/route_lifecycle.py:275–356`. -/
abbrev routeStartedEventPayloadCodec (u : UnicodeTables) (occurredAt : Datetime) :
    PayloadCodec RouteStarted :=
  ((field "route_id" positiveInt).and <|
      (field "previous_status" (member u "value" routeStatuses)).and <|
      field "new_status" (member u "value" routeStatuses)).as
    (fun (routeId, previousStatus, newStatus) ↦
      { routeId, previousStatus, newStatus, occurredAt })
    (fun e ↦ (e.routeId, e.previousStatus, e.newStatus)) fun _ ↦ rfl

/-- What is stored of a completion; `codecs/route_lifecycle.py:368–461`. -/
abbrev routeCompletedEventPayloadCodec (u : UnicodeTables) (occurredAt : Datetime) :
    PayloadCodec RouteCompleted :=
  ((field "route_id" positiveInt).and <|
      (field "previous_status" (member u "value" routeStatuses)).and <|
      (field "new_status" (member u "value" routeStatuses)).and <|
      (field "departure_time" naiveDatetime).and <|
      field "expected_completion_time" naiveDatetime).as
    (fun (routeId, previousStatus, newStatus, departureTime, expectedCompletionTime) ↦
      { routeId, previousStatus, newStatus, departureTime, expectedCompletionTime, occurredAt })
    (fun e ↦ (e.routeId, e.previousStatus, e.newStatus, e.departureTime,
      e.expectedCompletionTime)) fun _ ↦ rfl

/-- What is stored of a removed route; `codecs/route_lifecycle.py:475–590`. -/
abbrev routeRemovedEventPayloadCodec (u : UnicodeTables) (occurredAt : Datetime) :
    PayloadCodec RouteRemoved :=
  ((field "route_id" positiveInt).and <|
      (field "previous_status" (member u "value" routeStatuses)).and <|
      (field "previous_locations" (location u).list).and <|
      (field "previous_departure_time" naiveDatetime.optional).and <|
      (field "previous_expected_completion_time" naiveDatetime.optional).and <|
      (field "detached_package_ids" positiveInt.list).and <|
      field "released_truck_id" positiveInt.optional).as
    (fun (routeId, previousStatus, previousLocations, previousDepartureTime,
      previousExpectedCompletionTime, detachedPackageIds, releasedTruckId) ↦
      { routeId, previousStatus, previousLocations, previousDepartureTime,
        previousExpectedCompletionTime, detachedPackageIds, releasedTruckId, occurredAt })
    (fun e ↦ (e.routeId, e.previousStatus, e.previousLocations, e.previousDepartureTime,
      e.previousExpectedCompletionTime, e.detachedPackageIds, e.releasedTruckId)) fun _ ↦ rfl

/-! ### Users and permissions -/

/-- What events with a user and a role write. -/
abbrev userWithRolePayloadCodec (u : UnicodeTables) : PayloadCodec UserWithRole :=
  ((field "user_id" positiveInt).and <| (field "username" str).and <|
      field "role" (member u "value" roles)).as
    (fun (userId, username, role) ↦ { userId, username, role })
    (fun e ↦ (e.userId, e.username, e.role)) fun _ ↦ rfl

/-- What is stored of a registration; `codecs/auth_registration.py:23–108`. -/
abbrev userRegisteredEventPayloadCodec (u : UnicodeTables) : PayloadCodec UserWithRole :=
  userWithRolePayloadCodec u

/-- What is stored of a rejected registration; `codecs/auth_registration.py:114–195`. -/
abbrev userRegistrationRejectedEventPayloadCodec (u : UnicodeTables) :
    PayloadCodec UserRegistrationRejected :=
  ((field "username" optionalStr).and <|
      field "reason" (member u "value" userRegistrationRejectionReasons)).as
    (fun (username, reason) ↦ { username, reason })
    (fun e ↦ (e.username, e.reason)) fun _ ↦ rfl

/-- What events with a user and nothing else write. -/
abbrev userNamedPayloadCodec : PayloadCodec UserNamed :=
  ((field "user_id" positiveInt).and <| field "username" str).as
    (fun (userId, username) ↦ { userId, username })
    (fun e ↦ (e.userId, e.username)) fun _ ↦ rfl

/-- What is stored of a changed password; `codecs/auth_passwords.py:33–113`. -/
abbrev userPasswordChangedEventPayloadCodec : PayloadCodec UserNamed :=
  userNamedPayloadCodec

/-- What is stored of a rejected change of a password; `codecs/auth_passwords.py:123–209`. -/
abbrev userPasswordChangeRejectedEventPayloadCodec (u : UnicodeTables) :
    PayloadCodec UserPasswordChangeRejected :=
  ((field "user_id" positiveInt.optional).and <| (field "username" optionalStr).and <|
      field "reason" (member u "value" userPasswordChangeRejectionReasons)).as
    (fun (userId, username, reason) ↦ { userId, username, reason })
    (fun e ↦ (e.userId, e.username, e.reason)) fun _ ↦ rfl

/-- What is stored of a reset password; `codecs/auth_passwords.py:215–296`. -/
abbrev userPasswordResetEventPayloadCodec : PayloadCodec UserNamed :=
  userNamedPayloadCodec

/-- What is stored of a rejected reset of a password; `codecs/auth_passwords.py:306–393`. -/
abbrev userPasswordResetRejectedEventPayloadCodec (u : UnicodeTables) :
    PayloadCodec UserPasswordResetRejected :=
  ((field "user_id" positiveInt.optional).and <| (field "username" optionalStr).and <|
      field "reason" (member u "value" userPasswordResetRejectionReasons)).as
    (fun (userId, username, reason) ↦ { userId, username, reason })
    (fun e ↦ (e.userId, e.username, e.reason)) fun _ ↦ rfl

/-- What is stored of a login; `codecs/auth_sessions.py:38–121`. -/
abbrev userAuthenticatedEventPayloadCodec (u : UnicodeTables) : PayloadCodec UserWithRole :=
  userWithRolePayloadCodec u

/-- What is stored of a rejected login; `codecs/auth_sessions.py:127–212`. -/
abbrev userLoginRejectedEventPayloadCodec (u : UnicodeTables) : PayloadCodec UserLoginRejected :=
  ((field "user_id" positiveInt.optional).and <| (field "username" optionalStr).and <|
      field "reason" (member u "value" userLoginRejectionReasons)).as
    (fun (userId, username, reason) ↦ { userId, username, reason })
    (fun e ↦ (e.userId, e.username, e.reason)) fun _ ↦ rfl

/-- What is stored of an ended session; `codecs/auth_sessions.py:218–300`. -/
abbrev userSessionEndedEventPayloadCodec : PayloadCodec UserNamed :=
  userNamedPayloadCodec

/-- What is stored of revoked tokens; `codecs/auth_sessions.py:306–392`. -/
abbrev userTokensRevokedEventPayloadCodec (u : UnicodeTables) : PayloadCodec UserTokensRevoked :=
  ((field "user_id" positiveInt).and <| (field "username" str).and <|
      field "reason" (member u "value" tokenRevocationReasons)).as
    (fun (userId, username, reason) ↦ { userId, username, reason })
    (fun e ↦ (e.userId, e.username, e.reason)) fun _ ↦ rfl

/-- What is stored of a denied request; `codecs/authorization.py:29–127`. -/
abbrev authorizationDeniedEventPayloadCodec (u : UnicodeTables) :
    PayloadCodec AuthorizationDenied :=
  ((field "attempted_operation" (member u "value" authorizationOperations)).and <|
      (field "target_resource_type" (member u "value" auditResourceTypes)).and <|
      (field "target_resource_id" optionalStr).and <|
      field "required_permissions" (member u "name" permissions).list).as
    (fun (attemptedOperation, targetResourceType, targetResourceId, requiredPermissions) ↦
      { attemptedOperation, targetResourceType, targetResourceId, requiredPermissions })
    (fun e ↦ (e.attemptedOperation, e.targetResourceType, e.targetResourceId,
      e.requiredPermissions)) fun _ ↦ rfl

/-! ### The fleet and its snapshots -/

/-- What is stored of the seeding of a fleet; `codecs/startup.py:24–110`. -/
abbrev fleetSeededEventPayloadCodec : PayloadCodec FleetSeeded :=
  ((field "seeded_truck_ids" positiveInt.list).and <| field "backend" str).as
    (fun (seededTruckIds, backend) ↦ { seededTruckIds, backend })
    (fun e ↦ (e.seededTruckIds, e.backend)) fun _ ↦ rfl

/-- What is stored of an export; `codecs/world_state_transfer.py:35–120`. -/
abbrev worldStateExportedEventPayloadCodec : PayloadCodec WorldStateExported :=
  ((field "snapshot_path" str).and <| (field "schema_version" positiveInt).and <|
      entityCounts "").as
    (fun (snapshotPath, schemaVersion, entityCounts) ↦
      { snapshotPath, schemaVersion, entityCounts })
    (fun e ↦ (e.snapshotPath, e.schemaVersion, e.entityCounts)) fun _ ↦ rfl

/-- What failed operations on snapshots write. -/
abbrev worldStateFailedPayloadCodec (u : UnicodeTables) : PayloadCodec WorldStateFailed :=
  ((field "snapshot_path" str).and <| (field "schema_version" positiveInt.optional).and <|
      field "reason" (member u "value" worldStateFailureReasons)).as
    (fun (snapshotPath, schemaVersion, reason) ↦ { snapshotPath, schemaVersion, reason })
    (fun e ↦ (e.snapshotPath, e.schemaVersion, e.reason)) fun _ ↦ rfl

/-- What is stored of a failed export; `codecs/world_state_transfer.py:130–213`. -/
abbrev worldStateExportFailedEventPayloadCodec (u : UnicodeTables) :
    PayloadCodec WorldStateFailed :=
  worldStateFailedPayloadCodec u

/-- What operations that replace the world write. -/
abbrev worldStateReplacedPayloadCodec : PayloadCodec WorldStateReplaced :=
  ((field "snapshot_path" str).and <| (field "schema_version" positiveInt).and <|
      (entityCounts "previous_").and <| entityCounts "new_").as
    (fun (snapshotPath, schemaVersion, previousEntityCounts, newEntityCounts) ↦
      { snapshotPath, schemaVersion, previousEntityCounts, newEntityCounts })
    (fun e ↦ (e.snapshotPath, e.schemaVersion, e.previousEntityCounts,
      e.newEntityCounts)) fun _ ↦ rfl

/-- What is stored of an import; `codecs/world_state_transfer.py:230–321`. -/
abbrev worldStateImportedEventPayloadCodec : PayloadCodec WorldStateReplaced :=
  worldStateReplacedPayloadCodec

/-- What is stored of a failed import; `codecs/world_state_transfer.py:331–414`. -/
abbrev worldStateImportFailedEventPayloadCodec (u : UnicodeTables) :
    PayloadCodec WorldStateFailed :=
  worldStateFailedPayloadCodec u

/-- What is stored of a corrupt snapshot; `codecs/world_state_integrity.py:25–104`. -/
abbrev worldStateCorruptionDetectedEventPayloadCodec (u : UnicodeTables) :
    PayloadCodec WorldStateCorruptionDetected :=
  ((field "snapshot_path" str).and <|
      field "reason" (member u "value" worldStateCorruptionReasons)).as
    (fun (snapshotPath, reason) ↦ { snapshotPath, reason })
    (fun e ↦ (e.snapshotPath, e.reason)) fun _ ↦ rfl

/-- What is stored of a snapshot put aside; `codecs/world_state_integrity.py:114–196`. -/
abbrev worldStateSnapshotQuarantinedEventPayloadCodec (u : UnicodeTables) :
    PayloadCodec WorldStateSnapshotQuarantined :=
  ((field "original_path" str).and <| (field "quarantined_path" str).and <|
      field "reason" (member u "value" worldStateCorruptionReasons)).as
    (fun (originalPath, quarantinedPath, reason) ↦ { originalPath, quarantinedPath, reason })
    (fun e ↦ (e.originalPath, e.quarantinedPath, e.reason)) fun _ ↦ rfl

/-- What is stored of a replaced runtime world; `codecs/world_state_runtime.py:32–123`. -/
abbrev worldStateRuntimeSwappedEventPayloadCodec : PayloadCodec WorldStateReplaced :=
  worldStateReplacedPayloadCodec

/-- What is stored of a restoration at the start; `codecs/world_state_startup.py:39–130`. -/
abbrev worldStateStartupRestoredEventPayloadCodec : PayloadCodec WorldStateReplaced :=
  worldStateReplacedPayloadCodec

/-- What is stored of a restoration left out; `codecs/world_state_startup.py:136–208`. -/
abbrev worldStateStartupRestoreSkippedEventPayloadCodec (u : UnicodeTables) :
    PayloadCodec WorldStateStartupRestoreSkipped :=
  (field "reason" (member u "value" worldStateStartupSkipReasons)).as
    (fun reason ↦ { reason })
    (fun e ↦ e.reason) fun _ ↦ rfl

/-- What is stored of a failed restoration; `codecs/world_state_startup.py:218–304`. -/
abbrev worldStateStartupRestoreFailedEventPayloadCodec (u : UnicodeTables) :
    PayloadCodec WorldStateFailed :=
  worldStateFailedPayloadCodec u

/-- What is stored of a heartbeat's summary; `codecs/world_state_runtime.py:135–222`. -/
abbrev worldStateAdvancedEventPayloadCodec : PayloadCodec WorldStateAdvanced :=
  ((field "routes_updated" nonNegativeInt).and <| (field "packages_updated" nonNegativeInt).and <|
      (field "trucks_moved" nonNegativeInt).and <| (field "trucks_released" nonNegativeInt).and <|
      field "trucks_reconciled" nonNegativeInt).as
    (fun (routesUpdated, packagesUpdated, trucksMoved, trucksReleased, trucksReconciled) ↦
      { routesUpdated, packagesUpdated, trucksMoved, trucksReleased, trucksReconciled })
    (fun e ↦ (e.routesUpdated, e.packagesUpdated, e.trucksMoved, e.trucksReleased,
      e.trucksReconciled)) fun _ ↦ rfl

/-! ### Reconciliation -/

/-- What is stored of a corrected route; `codecs/reconciliation.py:45–141`. -/
abbrev routeStateReconciledEventPayloadCodec (u : UnicodeTables) (occurredAt : Datetime) :
    PayloadCodec RouteStateReconciled :=
  ((field "route_id" positiveInt).and <|
      (field "previous_status" (member u "value" routeStatuses)).and <|
      (field "new_status" (member u "value" routeStatuses)).and <|
      (field "departure_time" naiveDatetime.optional).and <|
      (field "expected_completion_time" naiveDatetime.optional).and <|
      field "reason" (member u "value" routeReconciliationReasons)).as
    (fun (routeId, previousStatus, newStatus, departureTime, expectedCompletionTime, reason) ↦
      { routeId, previousStatus, newStatus, departureTime, expectedCompletionTime, reason,
        occurredAt })
    (fun e ↦ (e.routeId, e.previousStatus, e.newStatus, e.departureTime, e.expectedCompletionTime,
      e.reason)) fun _ ↦ rfl

/-- What is stored of a corrected package; `codecs/reconciliation.py:159–283`. -/
abbrev packageStateReconciledEventPayloadCodec (u : UnicodeTables) (occurredAt : Datetime) :
    PayloadCodec PackageStateReconciled :=
  PayloadCodec.checked
    (((field "package_id" positiveInt).and <| (field "route_id" positiveInt.optional).and <|
        (field "previous_status" (member u "value" itemStatuses)).and <|
        (field "new_status" (member u "value" itemStatuses)).and <|
        (field "previous_location" (location u)).and <| (field "new_location" (location u)).and <|
        (field "previous_expected_arrival" naiveDatetime.optional).and <|
        (field "new_expected_arrival" naiveDatetime.optional).and <|
        (field "scheduled_pickup_time" naiveDatetime.optional).and <|
        (field "scheduled_delivery_time" naiveDatetime.optional).and <|
        field "reasons" (member u "value" packageReconciliationReasons).list).as
      (fun (packageId, routeId, previousStatus, newStatus, previousLocation, newLocation,
        previousExpectedArrival, newExpectedArrival, scheduledPickupTime, scheduledDeliveryTime,
        reasons) ↦
        { packageId, routeId, previousStatus, newStatus, previousLocation, newLocation,
          previousExpectedArrival, newExpectedArrival, scheduledPickupTime, scheduledDeliveryTime,
          reasons, occurredAt })
      (fun e ↦ (e.packageId, e.routeId, e.previousStatus, e.newStatus, e.previousLocation,
        e.newLocation, e.previousExpectedArrival, e.newExpectedArrival, e.scheduledPickupTime,
        e.scheduledDeliveryTime, e.reasons)) fun _ ↦ rfl)
    fun e ↦ do
      let _ ← e.check
      .ok ()

/-- What is stored of a truck's corrected position; `codecs/reconciliation.py:297–410`. -/
abbrev truckPositionReconciledEventPayloadCodec (u : UnicodeTables) (occurredAt : Datetime) :
    PayloadCodec TruckPositionReconciled :=
  ((field "truck_id" positiveInt).and <| (field "route_id" positiveInt.optional).and <|
      (field "previous_location" (location u).optional).and <|
      (field "new_location" (location u).optional).and <|
      (field "previous_in_transit_to" (location u).optional).and <|
      (field "new_in_transit_to" (location u).optional).and <|
      field "position_kind" (member u "value" routePositionKinds)).as
    (fun (truckId, routeId, previousLocation, newLocation, previousInTransitTo, newInTransitTo,
      positionKind) ↦
      { truckId, routeId, previousLocation, newLocation, previousInTransitTo, newInTransitTo,
        positionKind, occurredAt })
    (fun e ↦ (e.truckId, e.routeId, e.previousLocation, e.newLocation, e.previousInTransitTo,
      e.newInTransitTo, e.positionKind)) fun _ ↦ rfl

/-- What is stored of a truck's corrected route; `codecs/reconciliation.py:420–502`. -/
abbrev truckRouteReferenceReconciledEventPayloadCodec (occurredAt : Datetime) :
    PayloadCodec TruckRouteReferenceReconciled :=
  ((field "truck_id" positiveInt).and <| (field "previous_route_id" positiveInt.optional).and <|
      field "new_route_id" positiveInt).as
    (fun (truckId, previousRouteId, newRouteId) ↦
      { truckId, previousRouteId, newRouteId, occurredAt })
    (fun e ↦ (e.truckId, e.previousRouteId, e.newRouteId)) fun _ ↦ rfl

/-! ### The codec of each class -/

/-- The codec of a class, for events of one time. -/
abbrev payloadCodec (u : UnicodeTables) (occurredAt : Datetime) :
    (eventClass : EventClass) → PayloadCodec eventClass.Payload
  | .customerCreated => customerCreatedEventPayloadCodec occurredAt
  | .packageCreated => packageCreatedEventPayloadCodec u occurredAt
  | .packageRemoved => packageRemovedEventPayloadCodec u occurredAt
  | .packagePickedUp => packagePickedUpEventPayloadCodec u occurredAt
  | .packageDelivered => packageDeliveredEventPayloadCodec u occurredAt
  | .routeCreated => routeCreatedEventPayloadCodec u occurredAt
  | .routeScheduled => routeScheduledEventPayloadCodec u occurredAt
  | .packageAssignedToRoute => packageAssignedToRouteEventPayloadCodec occurredAt
  | .packageDetachedFromRoute => packageDetachedFromRouteEventPayloadCodec u occurredAt
  | .truckAssignedToRoute => truckAssignedToRouteEventPayloadCodec u occurredAt
  | .truckReleasedFromRoute => truckReleasedFromRouteEventPayloadCodec u occurredAt
  | .routeStarted => routeStartedEventPayloadCodec u occurredAt
  | .routeCompleted => routeCompletedEventPayloadCodec u occurredAt
  | .routeRemoved => routeRemovedEventPayloadCodec u occurredAt
  | .userRegistered => userRegisteredEventPayloadCodec u
  | .userRegistrationRejected => userRegistrationRejectedEventPayloadCodec u
  | .userPasswordChanged => userPasswordChangedEventPayloadCodec
  | .userPasswordChangeRejected => userPasswordChangeRejectedEventPayloadCodec u
  | .userPasswordReset => userPasswordResetEventPayloadCodec
  | .userPasswordResetRejected => userPasswordResetRejectedEventPayloadCodec u
  | .userAuthenticated => userAuthenticatedEventPayloadCodec u
  | .userLoginRejected => userLoginRejectedEventPayloadCodec u
  | .userSessionEnded => userSessionEndedEventPayloadCodec
  | .userTokensRevoked => userTokensRevokedEventPayloadCodec u
  | .authorizationDenied => authorizationDeniedEventPayloadCodec u
  | .fleetSeeded => fleetSeededEventPayloadCodec
  | .worldStateExported => worldStateExportedEventPayloadCodec
  | .worldStateExportFailed => worldStateExportFailedEventPayloadCodec u
  | .worldStateImported => worldStateImportedEventPayloadCodec
  | .worldStateImportFailed => worldStateImportFailedEventPayloadCodec u
  | .worldStateCorruptionDetected => worldStateCorruptionDetectedEventPayloadCodec u
  | .worldStateSnapshotQuarantined => worldStateSnapshotQuarantinedEventPayloadCodec u
  | .worldStateRuntimeSwapped => worldStateRuntimeSwappedEventPayloadCodec
  | .worldStateStartupRestored => worldStateStartupRestoredEventPayloadCodec
  | .worldStateStartupRestoreSkipped => worldStateStartupRestoreSkippedEventPayloadCodec u
  | .worldStateStartupRestoreFailed => worldStateStartupRestoreFailedEventPayloadCodec u
  | .worldStateAdvanced => worldStateAdvancedEventPayloadCodec
  | .routeStateReconciled => routeStateReconciledEventPayloadCodec u occurredAt
  | .packageStateReconciled => packageStateReconciledEventPayloadCodec u occurredAt
  | .truckPositionReconciled => truckPositionReconciledEventPayloadCodec u occurredAt
  | .truckRouteReferenceReconciled => truckRouteReferenceReconciledEventPayloadCodec occurredAt

section Laws

variable {u : UnicodeTables} {occurredAt : Datetime}

instance {keyPrefix : String} : (entityCounts keyPrefix).Lawful := by
  unfold entityCounts
  infer_instance

instance [Fact (PyStr.UpperStable u)] {eventClass : EventClass} :
    (payloadCodec u occurredAt eventClass).Lawful := by
  cases eventClass <;> dsimp only [payloadCodec] <;> infer_instance

/-- No name stands twice in a payload. -/
theorem nodup_keys (eventClass : EventClass) :
    (payloadCodec u occurredAt eventClass).keys.Nodup := by
  cases eventClass <;> simp only [payloadCodec, entityCounts, keys_field, keys_and, keys_as,
    keys_checked, List.cons_append, List.nil_append] <;> decide

end Laws
end FleetFlow.Outbox
