import FleetFlow.Audit.Queries
import FleetFlow.Outbox.Codecs
import FleetFlow.Runtime.Reconciliation

/-!
# Published events

Follows `application/events/` and `composition/event_catalog.py`. Events of the domain and of the
reconciliation carry their time among their fields; the events of workflows are given here without
it. An event as it is published is its class with the fields of this class.
-/

namespace FleetFlow

/-! ### Texts of enumerations

`domain/enums/` and `application/enums/`. -/

/-- The persisted text of a reason; `domain/enums/truck_release_reasons.py`. -/
def TruckReleaseReason.value : TruckReleaseReason → String
  | .routeCompleted => "ROUTE_COMPLETED"
  | .routeRemoved => "ROUTE_REMOVED"

/-- The persisted text of a reason; `domain/enums/package_detachment_reasons.py`. -/
def PackageDetachmentReason.value : PackageDetachmentReason → String
  | .packageRemoved => "PACKAGE_REMOVED"
  | .routeRemoved => "ROUTE_REMOVED"

/-- The persisted text of a kind of position; `domain/value_objects/route_schedule.py:14–21`. -/
def RoutePositionKind.value : RoutePositionKind → String
  | .unscheduled => "UNSCHEDULED"
  | .beforeStart => "BEFORE_START"
  | .atStop => "AT_STOP"
  | .inTransit => "IN_TRANSIT"
  | .afterEnd => "AFTER_END"

/-- The persisted text of a reason; `application/enums/route_reconciliation_reasons.py`. -/
def RouteReconciliationReason.value : RouteReconciliationReason → String
  | .missingDepartureTime => "missing_departure_time"
  | .missingExpectedCompletionTime => "missing_expected_completion_time"
  | .beforeScheduledDeparture => "before_scheduled_departure"

/-- The persisted text of a reason; `application/enums/package_reconciliation_reasons.py`. -/
def PackageReconciliationReason.value : PackageReconciliationReason → String
  | .routeUnscheduled => "route_unscheduled"
  | .routePathInvalid => "route_path_invalid"
  | .beforeScheduledPickup => "before_scheduled_pickup"
  | .missingPickupTime => "missing_pickup_time"
  | .lifecycleStateInconsistent => "lifecycle_state_inconsistent"
  | .routeProgressAdvanced => "route_progress_advanced"
  | .expectedArrivalRecalculated => "expected_arrival_recalculated"

/-- The persisted text of a resource type; `application/enums/audit_resource_types.py`. -/
def AuditResourceType.value : AuditResourceType → String
  | .auditLog => "audit_log"
  | .customer => "customer"
  | .package => "package"
  | .route => "route"
  | .truck => "truck"
  | .user => "user"
  | .authorization => "authorization"
  | .worldState => "world_state"
  | .fleet => "fleet"

/-- The persisted text of a reason; `application/enums/world_state_corruption_reasons.py`. -/
def CorruptionReason.value : CorruptionReason → String
  | .malformedJson => "MALFORMED_JSON"
  | .invalidStructure => "INVALID_STRUCTURE"
  | .unsupportedSchema => "UNSUPPORTED_SCHEMA"
  | .invalidReferences => "INVALID_REFERENCES"
  | .invariantViolation => "INVARIANT_VIOLATION"

/-- The name of a permission; `domain/enums/auth.py:13–44`. -/
def Permission.name : Permission → String
  | .packageCreate => "PACKAGE_CREATE"
  | .packageView => "PACKAGE_VIEW"
  | .packageViewAll => "PACKAGE_VIEW_ALL"
  | .packageFindRouteFor => "PACKAGE_FIND_ROUTE_FOR"
  | .packageViewUnassigned => "PACKAGE_VIEW_UNASSIGNED"
  | .packageRemove => "PACKAGE_REMOVE"
  | .routeCreate => "ROUTE_CREATE"
  | .routeViewInProgress => "ROUTE_VIEW_IN_PROGRESS"
  | .routeView => "ROUTE_VIEW"
  | .routeViewAll => "ROUTE_VIEW_ALL"
  | .routeFindTruckFor => "ROUTE_FIND_TRUCK_FOR"
  | .routeAssignTruck => "ROUTE_ASSIGN_TRUCK"
  | .routeAssignPackage => "ROUTE_ASSIGN_PACKAGE"
  | .routeRemove => "ROUTE_REMOVE"
  | .truckView => "TRUCK_VIEW"
  | .customerView => "CUSTOMER_VIEW"
  | .adminUser => "ADMIN_USER"
  | .appSaveState => "APP_SAVE_STATE"
  | .appLoadState => "APP_LOAD_STATE"
  | .auditView => "AUDIT_VIEW"
  | .fleetOverviewView => "FLEET_OVERVIEW_VIEW"
  | .authenticated => "AUTHENTICATED"

namespace Outbox

/-- All workflows that a denial can name; `application/enums/authorization_operations.py`. -/
inductive AuthorizationOperation where
  | packageCreate
  | packageView
  | packageList
  | packageListUnassigned
  | packageFindSuitableRoutes
  | packageRemove
  | routeCreate
  | routeView
  | routeList
  | routeListInProgress
  | routeFindSuitableTrucks
  | routeAssignTruck
  | routeAssignPackages
  | routeRemove
  | truckList
  | customerList
  | userRegister
  | userChangePassword
  | userResetPassword
  | sessionEnd
  | worldStateExport
  | worldStateImport
  | auditLogView
  | fleetOverviewView
deriving DecidableEq, Repr

/-- Persisted texts. -/
def AuthorizationOperation.value : AuthorizationOperation → String
  | .packageCreate => "package.create"
  | .packageView => "package.view"
  | .packageList => "package.list"
  | .packageListUnassigned => "package.list_unassigned"
  | .packageFindSuitableRoutes => "package.find_suitable_routes"
  | .packageRemove => "package.remove"
  | .routeCreate => "route.create"
  | .routeView => "route.view"
  | .routeList => "route.list"
  | .routeListInProgress => "route.list_in_progress"
  | .routeFindSuitableTrucks => "route.find_suitable_trucks"
  | .routeAssignTruck => "route.assign_truck"
  | .routeAssignPackages => "route.assign_packages"
  | .routeRemove => "route.remove"
  | .truckList => "truck.list"
  | .customerList => "customer.list"
  | .userRegister => "user.register"
  | .userChangePassword => "user.change_password"
  | .userResetPassword => "user.reset_password"
  | .sessionEnd => "session.end"
  | .worldStateExport => "world_state.export"
  | .worldStateImport => "world_state.import"
  | .auditLogView => "audit_log.view"
  | .fleetOverviewView => "fleet_overview.view"

/-- Why the tokens of a user were revoked; `application/enums/token_revocation_reasons.py`. -/
inductive TokenRevocationReason where
  | userLogout
  | passwordChange
  | passwordReset
deriving DecidableEq, Repr

/-- Persisted texts. -/
def TokenRevocationReason.value : TokenRevocationReason → String
  | .userLogout => "USER_LOGOUT"
  | .passwordChange => "PASSWORD_CHANGE"
  | .passwordReset => "PASSWORD_RESET"

/-- Why a login was rejected; `application/enums/user_login_rejection_reasons.py`. -/
inductive UserLoginRejectionReason where
  | userNotFound
  | invalidPassword
  | invalidPasswordHash
  | invalidRuntimeUser
deriving DecidableEq, Repr

/-- Persisted texts. -/
def UserLoginRejectionReason.value : UserLoginRejectionReason → String
  | .userNotFound => "USER_NOT_FOUND"
  | .invalidPassword => "INVALID_PASSWORD"
  | .invalidPasswordHash => "INVALID_PASSWORD_HASH"
  | .invalidRuntimeUser => "INVALID_RUNTIME_USER"

/-- Why a change of a password was rejected;
`application/enums/user_password_change_rejection_reasons.py`. -/
inductive UserPasswordChangeRejectionReason where
  | invalidUsername
  | userNotFound
  | invalidPasswordHash
  | currentPasswordIncorrect
  | passwordCriteriaNotMet
  | sameAsCurrentPassword
deriving DecidableEq, Repr

/-- Persisted texts. -/
def UserPasswordChangeRejectionReason.value : UserPasswordChangeRejectionReason → String
  | .invalidUsername => "INVALID_USERNAME"
  | .userNotFound => "USER_NOT_FOUND"
  | .invalidPasswordHash => "INVALID_PASSWORD_HASH"
  | .currentPasswordIncorrect => "CURRENT_PASSWORD_INCORRECT"
  | .passwordCriteriaNotMet => "PASSWORD_CRITERIA_NOT_MET"
  | .sameAsCurrentPassword => "SAME_AS_CURRENT_PASSWORD"

/-- Why a reset of a password was rejected;
`application/enums/user_password_reset_rejection_reasons.py`. -/
inductive UserPasswordResetRejectionReason where
  | invalidUsername
  | userNotFound
  | passwordCriteriaNotMet
  | cannotResetOwnPassword
deriving DecidableEq, Repr

/-- Persisted texts. -/
def UserPasswordResetRejectionReason.value : UserPasswordResetRejectionReason → String
  | .invalidUsername => "INVALID_USERNAME"
  | .userNotFound => "USER_NOT_FOUND"
  | .passwordCriteriaNotMet => "PASSWORD_CRITERIA_NOT_MET"
  | .cannotResetOwnPassword => "CANNOT_RESET_OWN_PASSWORD"

/-- Why a registration was rejected; `application/enums/user_registration_rejection_reasons.py`. -/
inductive UserRegistrationRejectionReason where
  | invalidUsername
  | passwordCriteriaNotMet
  | usernameAlreadyExists
deriving DecidableEq, Repr

/-- Persisted texts. -/
def UserRegistrationRejectionReason.value : UserRegistrationRejectionReason → String
  | .invalidUsername => "INVALID_USERNAME"
  | .passwordCriteriaNotMet => "PASSWORD_CRITERIA_NOT_MET"
  | .usernameAlreadyExists => "USERNAME_ALREADY_EXISTS"

/-- Why a snapshot was not exported, imported or restored;
`application/enums/world_state_failure_reasons.py`. -/
inductive WorldStateFailureReason where
  | fileNotFound
  | invalidPath
  | corruptSnapshot
  | unsupportedSchema
  | persistenceFailure
  | runtimeSwapFailure
deriving DecidableEq, Repr

/-- Persisted texts. -/
def WorldStateFailureReason.value : WorldStateFailureReason → String
  | .fileNotFound => "FILE_NOT_FOUND"
  | .invalidPath => "INVALID_PATH"
  | .corruptSnapshot => "CORRUPT_SNAPSHOT"
  | .unsupportedSchema => "UNSUPPORTED_SCHEMA"
  | .persistenceFailure => "PERSISTENCE_FAILURE"
  | .runtimeSwapFailure => "RUNTIME_SWAP_FAILURE"

/-- Why no snapshot was restored at the start;
`application/enums/world_state_startup_skip_reasons.py`. -/
inductive WorldStateStartupSkipReason where
  | noSnapshotFound
  | snapshotDisabled
deriving DecidableEq, Repr

/-- Persisted texts. -/
def WorldStateStartupSkipReason.value : WorldStateStartupSkipReason → String
  | .noSnapshotFound => "NO_SNAPSHOT_FOUND"
  | .snapshotDisabled => "SNAPSHOT_DISABLED"

/-! ### Events of workflows

`application/events/`. -/

/-- The fields of `UserPasswordChanged`, `UserPasswordReset` and `UserSessionEnded`. -/
structure UserNamed where
  userId : Int
  username : String
deriving DecidableEq, Repr

/-- The fields of `UserRegistered` and `UserAuthenticated`. -/
structure UserWithRole where
  userId : Int
  username : String
  role : Role
deriving DecidableEq, Repr

structure UserRegistrationRejected where
  username : Option String
  reason : UserRegistrationRejectionReason
deriving DecidableEq, Repr

structure UserPasswordChangeRejected where
  userId : Option Int
  username : Option String
  reason : UserPasswordChangeRejectionReason
deriving DecidableEq, Repr

structure UserPasswordResetRejected where
  userId : Option Int
  username : Option String
  reason : UserPasswordResetRejectionReason
deriving DecidableEq, Repr

structure UserLoginRejected where
  userId : Option Int
  username : Option String
  reason : UserLoginRejectionReason
deriving DecidableEq, Repr

structure UserTokensRevoked where
  userId : Int
  username : String
  reason : TokenRevocationReason
deriving DecidableEq, Repr

structure AuthorizationDenied where
  attemptedOperation : AuthorizationOperation
  targetResourceType : AuditResourceType
  targetResourceId : Option String
  requiredPermissions : List Permission
deriving DecidableEq, Repr

structure FleetSeeded where
  seededTruckIds : List Int
  backend : String
deriving DecidableEq, Repr

/-- Numbers of entities, none negative; `application/value_objects/world_state_entity_counts.py`. -/
structure WorldStateEntityCounts where
  customers : Nat
  packages : Nat
  routes : Nat
  trucks : Nat
deriving DecidableEq, Repr

structure WorldStateExported where
  snapshotPath : String
  schemaVersion : Int
  entityCounts : WorldStateEntityCounts
deriving DecidableEq, Repr

/-- The fields of `WorldStateExportFailed`, `WorldStateImportFailed` and
`WorldStateStartupRestoreFailed`. -/
structure WorldStateFailed where
  snapshotPath : String
  schemaVersion : Option Int
  reason : WorldStateFailureReason
deriving DecidableEq, Repr

/-- The fields of `WorldStateImported`, `WorldStateRuntimeSwapped` and
`WorldStateStartupRestored`. -/
structure WorldStateReplaced where
  snapshotPath : String
  schemaVersion : Int
  previousEntityCounts : WorldStateEntityCounts
  newEntityCounts : WorldStateEntityCounts
deriving DecidableEq, Repr

structure WorldStateCorruptionDetected where
  snapshotPath : String
  reason : CorruptionReason
deriving DecidableEq, Repr

structure WorldStateSnapshotQuarantined where
  originalPath : String
  quarantinedPath : String
  reason : CorruptionReason
deriving DecidableEq, Repr

structure WorldStateStartupRestoreSkipped where
  reason : WorldStateStartupSkipReason
deriving DecidableEq, Repr

structure WorldStateAdvanced where
  routesUpdated : Int
  packagesUpdated : Int
  trucksMoved : Int
  trucksReleased : Int
  trucksReconciled : Int
deriving DecidableEq, Repr

/-! ### Classes of events -/

/-- The classes that are published, `PUBLISHED_EVENT_TYPES`;
`composition/event_catalog.py:51–93`. -/
inductive EventClass where
  | customerCreated
  | packageCreated
  | packageRemoved
  | packagePickedUp
  | packageDelivered
  | routeCreated
  | routeScheduled
  | packageAssignedToRoute
  | packageDetachedFromRoute
  | truckAssignedToRoute
  | truckReleasedFromRoute
  | routeStarted
  | routeCompleted
  | routeRemoved
  | userRegistered
  | userRegistrationRejected
  | userPasswordChanged
  | userPasswordChangeRejected
  | userPasswordReset
  | userPasswordResetRejected
  | userAuthenticated
  | userLoginRejected
  | userSessionEnded
  | userTokensRevoked
  | authorizationDenied
  | fleetSeeded
  | worldStateExported
  | worldStateExportFailed
  | worldStateImported
  | worldStateImportFailed
  | worldStateCorruptionDetected
  | worldStateSnapshotQuarantined
  | worldStateRuntimeSwapped
  | worldStateStartupRestored
  | worldStateStartupRestoreSkipped
  | worldStateStartupRestoreFailed
  | worldStateAdvanced
  | routeStateReconciled
  | packageStateReconciled
  | truckPositionReconciled
  | truckRouteReferenceReconciled
deriving DecidableEq, Repr

namespace EventClass

/-- The name of a class, `__name__`. -/
def name : EventClass → String
  | .customerCreated => "CustomerCreated"
  | .packageCreated => "PackageCreated"
  | .packageRemoved => "PackageRemoved"
  | .packagePickedUp => "PackagePickedUp"
  | .packageDelivered => "PackageDelivered"
  | .routeCreated => "RouteCreated"
  | .routeScheduled => "RouteScheduled"
  | .packageAssignedToRoute => "PackageAssignedToRoute"
  | .packageDetachedFromRoute => "PackageDetachedFromRoute"
  | .truckAssignedToRoute => "TruckAssignedToRoute"
  | .truckReleasedFromRoute => "TruckReleasedFromRoute"
  | .routeStarted => "RouteStarted"
  | .routeCompleted => "RouteCompleted"
  | .routeRemoved => "RouteRemoved"
  | .userRegistered => "UserRegistered"
  | .userRegistrationRejected => "UserRegistrationRejected"
  | .userPasswordChanged => "UserPasswordChanged"
  | .userPasswordChangeRejected => "UserPasswordChangeRejected"
  | .userPasswordReset => "UserPasswordReset"
  | .userPasswordResetRejected => "UserPasswordResetRejected"
  | .userAuthenticated => "UserAuthenticated"
  | .userLoginRejected => "UserLoginRejected"
  | .userSessionEnded => "UserSessionEnded"
  | .userTokensRevoked => "UserTokensRevoked"
  | .authorizationDenied => "AuthorizationDenied"
  | .fleetSeeded => "FleetSeeded"
  | .worldStateExported => "WorldStateExported"
  | .worldStateExportFailed => "WorldStateExportFailed"
  | .worldStateImported => "WorldStateImported"
  | .worldStateImportFailed => "WorldStateImportFailed"
  | .worldStateCorruptionDetected => "WorldStateCorruptionDetected"
  | .worldStateSnapshotQuarantined => "WorldStateSnapshotQuarantined"
  | .worldStateRuntimeSwapped => "WorldStateRuntimeSwapped"
  | .worldStateStartupRestored => "WorldStateStartupRestored"
  | .worldStateStartupRestoreSkipped => "WorldStateStartupRestoreSkipped"
  | .worldStateStartupRestoreFailed => "WorldStateStartupRestoreFailed"
  | .worldStateAdvanced => "WorldStateAdvanced"
  | .routeStateReconciled => "RouteStateReconciled"
  | .packageStateReconciled => "PackageStateReconciled"
  | .truckPositionReconciled => "TruckPositionReconciled"
  | .truckRouteReferenceReconciled => "TruckRouteReferenceReconciled"

/-- The current version of a class, `event_version`. -/
def eventVersion : EventClass → Int
  | .packageCreated | .packageRemoved | .packagePickedUp | .packageDelivered | .routeCreated |
    .routeScheduled | .packageAssignedToRoute | .packageDetachedFromRoute |
    .truckAssignedToRoute | .truckReleasedFromRoute | .routeStarted | .routeCompleted |
    .routeRemoved | .authorizationDenied | .fleetSeeded | .worldStateImported |
    .worldStateRuntimeSwapped | .worldStateStartupRestored | .worldStateAdvanced => 2
  | _ => 1

/-- The fields of an event of the class, besides those that all events have. -/
abbrev Payload : EventClass → Type
  | .customerCreated => CustomerCreated
  | .packageCreated => PackageCreated
  | .packageRemoved => PackageRemoved
  | .packagePickedUp => PackageProgressed
  | .packageDelivered => PackageProgressed
  | .routeCreated => RouteCreated
  | .routeScheduled => RouteScheduled
  | .packageAssignedToRoute => PackageAssignedToRoute
  | .packageDetachedFromRoute => PackageDetachedFromRoute
  | .truckAssignedToRoute => TruckAssignedToRoute
  | .truckReleasedFromRoute => TruckReleasedFromRoute
  | .routeStarted => RouteStarted
  | .routeCompleted => RouteCompleted
  | .routeRemoved => RouteRemoved
  | .userRegistered => UserWithRole
  | .userRegistrationRejected => UserRegistrationRejected
  | .userPasswordChanged => UserNamed
  | .userPasswordChangeRejected => UserPasswordChangeRejected
  | .userPasswordReset => UserNamed
  | .userPasswordResetRejected => UserPasswordResetRejected
  | .userAuthenticated => UserWithRole
  | .userLoginRejected => UserLoginRejected
  | .userSessionEnded => UserNamed
  | .userTokensRevoked => UserTokensRevoked
  | .authorizationDenied => AuthorizationDenied
  | .fleetSeeded => FleetSeeded
  | .worldStateExported => WorldStateExported
  | .worldStateExportFailed => WorldStateFailed
  | .worldStateImported => WorldStateReplaced
  | .worldStateImportFailed => WorldStateFailed
  | .worldStateCorruptionDetected => WorldStateCorruptionDetected
  | .worldStateSnapshotQuarantined => WorldStateSnapshotQuarantined
  | .worldStateRuntimeSwapped => WorldStateReplaced
  | .worldStateStartupRestored => WorldStateReplaced
  | .worldStateStartupRestoreSkipped => WorldStateStartupRestoreSkipped
  | .worldStateStartupRestoreFailed => WorldStateFailed
  | .worldStateAdvanced => WorldStateAdvanced
  | .routeStateReconciled => RouteStateReconciled
  | .packageStateReconciled => PackageStateReconciled
  | .truckPositionReconciled => TruckPositionReconciled
  | .truckRouteReferenceReconciled => TruckRouteReferenceReconciled

instance (eventClass : EventClass) : DecidableEq eventClass.Payload :=
  match eventClass with
  | .customerCreated => inferInstanceAs (DecidableEq CustomerCreated)
  | .packageCreated => inferInstanceAs (DecidableEq PackageCreated)
  | .packageRemoved => inferInstanceAs (DecidableEq PackageRemoved)
  | .packagePickedUp => inferInstanceAs (DecidableEq PackageProgressed)
  | .packageDelivered => inferInstanceAs (DecidableEq PackageProgressed)
  | .routeCreated => inferInstanceAs (DecidableEq RouteCreated)
  | .routeScheduled => inferInstanceAs (DecidableEq RouteScheduled)
  | .packageAssignedToRoute => inferInstanceAs (DecidableEq PackageAssignedToRoute)
  | .packageDetachedFromRoute => inferInstanceAs (DecidableEq PackageDetachedFromRoute)
  | .truckAssignedToRoute => inferInstanceAs (DecidableEq TruckAssignedToRoute)
  | .truckReleasedFromRoute => inferInstanceAs (DecidableEq TruckReleasedFromRoute)
  | .routeStarted => inferInstanceAs (DecidableEq RouteStarted)
  | .routeCompleted => inferInstanceAs (DecidableEq RouteCompleted)
  | .routeRemoved => inferInstanceAs (DecidableEq RouteRemoved)
  | .userRegistered => inferInstanceAs (DecidableEq UserWithRole)
  | .userRegistrationRejected => inferInstanceAs (DecidableEq UserRegistrationRejected)
  | .userPasswordChanged => inferInstanceAs (DecidableEq UserNamed)
  | .userPasswordChangeRejected => inferInstanceAs (DecidableEq UserPasswordChangeRejected)
  | .userPasswordReset => inferInstanceAs (DecidableEq UserNamed)
  | .userPasswordResetRejected => inferInstanceAs (DecidableEq UserPasswordResetRejected)
  | .userAuthenticated => inferInstanceAs (DecidableEq UserWithRole)
  | .userLoginRejected => inferInstanceAs (DecidableEq UserLoginRejected)
  | .userSessionEnded => inferInstanceAs (DecidableEq UserNamed)
  | .userTokensRevoked => inferInstanceAs (DecidableEq UserTokensRevoked)
  | .authorizationDenied => inferInstanceAs (DecidableEq AuthorizationDenied)
  | .fleetSeeded => inferInstanceAs (DecidableEq FleetSeeded)
  | .worldStateExported => inferInstanceAs (DecidableEq WorldStateExported)
  | .worldStateExportFailed => inferInstanceAs (DecidableEq WorldStateFailed)
  | .worldStateImported => inferInstanceAs (DecidableEq WorldStateReplaced)
  | .worldStateImportFailed => inferInstanceAs (DecidableEq WorldStateFailed)
  | .worldStateCorruptionDetected => inferInstanceAs (DecidableEq WorldStateCorruptionDetected)
  | .worldStateSnapshotQuarantined => inferInstanceAs (DecidableEq WorldStateSnapshotQuarantined)
  | .worldStateRuntimeSwapped => inferInstanceAs (DecidableEq WorldStateReplaced)
  | .worldStateStartupRestored => inferInstanceAs (DecidableEq WorldStateReplaced)
  | .worldStateStartupRestoreSkipped =>
    inferInstanceAs (DecidableEq WorldStateStartupRestoreSkipped)
  | .worldStateStartupRestoreFailed => inferInstanceAs (DecidableEq WorldStateFailed)
  | .worldStateAdvanced => inferInstanceAs (DecidableEq WorldStateAdvanced)
  | .routeStateReconciled => inferInstanceAs (DecidableEq RouteStateReconciled)
  | .packageStateReconciled => inferInstanceAs (DecidableEq PackageStateReconciled)
  | .truckPositionReconciled => inferInstanceAs (DecidableEq TruckPositionReconciled)
  | .truckRouteReferenceReconciled => inferInstanceAs (DecidableEq TruckRouteReferenceReconciled)

end EventClass

/-- An event: its class and its fields. -/
abbrev PublishedEvent := (eventClass : EventClass) × eventClass.Payload

/-- What adapters read of the classes. -/
def eventClasses : EventClasses EventClass where
  name := EventClass.name
  eventVersion eventClass := .int eventClass.eventVersion

end Outbox

end FleetFlow
