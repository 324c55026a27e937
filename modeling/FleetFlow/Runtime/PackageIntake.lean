import FleetFlow.Runtime.Run

/-!
# What a failed package creation leaves behind

Creating a package resolves or stores the customer first and checks the package afterwards.
A creation that fails leaves the repositories as they were unless a rejected package belongs
to a customer that the same command has stored.
-/

namespace FleetFlow

open Program

variable {u : UnicodeTables} {w : World} {now : Datetime}

/-- Contact data of which the customer service stores a new customer. -/
def CustomerService.Stores (u : UnicodeTables) (w : World) (name email phone : String)
    (now : Datetime) (customer : Customer) : Prop :=
  ∃ contact, ContactInfo.new u name email phone = .ok contact ∧
    Customer.create contact w.nextCustomerId now = .ok customer ∧
    CustomerRepository.checkNew w customer = .ok ()

/-- Package data that the package repository stores under its next id. -/
structure PackageRepository.Stores (w : World) (startLocation endLocation : LocationCode)
    (weight : PyFloat) : Prop where
  checked : ∃ kg, DeliveryPackage.check w.nextPackageId startLocation endLocation weight = .ok kg
  fresh : w.packages.find? w.nextPackageId = none

namespace DeliveryPackage

variable {startLocation endLocation : LocationCode} {weight : PyFloat} {customer packageId : Int}
  {package : DeliveryPackage}

/-- Creation succeeds exactly when the constructor's checks do. -/
theorem exists_create_iff :
    (∃ package, create startLocation endLocation weight customer packageId now = .ok package) ↔
      ∃ kg, check packageId startLocation endLocation weight = .ok kg := by
  simp only [create, except_bind_eq_ok_iff, Except.ok.injEq]
  unfold new
  split
  · next kg h => exact iff_of_true ⟨_, _, rfl, rfl⟩ ⟨kg, h⟩
  · next e h => simp [h]

/-- A created package keeps the id and the customer it was created with. -/
theorem ids_of_create
    (h : create startLocation endLocation weight customer packageId now = .ok package) :
    package.packageId = packageId ∧ package.customer = customer := by
  simp only [create, except_bind_eq_ok_iff, Except.ok.injEq] at h
  obtain ⟨made, hmade, rfl⟩ := h
  unfold new at hmade
  split at hmade
  · rw [Except.ok.injEq] at hmade
    subst hmade
    exact ⟨rfl, rfl⟩
  · cases hmade

end DeliveryPackage

namespace PackageRepository

variable {startLocation endLocation : LocationCode} {weight : PyFloat} {customer : Int}

/-- Acceptance depends on the stored packages and the next id only. -/
theorem stores_congr {w1 : World} (hpackages : w1.packages = w.packages)
    (hnext : w1.nextPackageId = w.nextPackageId) :
    Stores w1 startLocation endLocation weight ↔ Stores w startLocation endLocation weight := by
  constructor
  · intro h
    exact ⟨hnext ▸ h.checked, hnext ▸ hpackages ▸ h.fresh⟩
  · intro h
    exact ⟨hnext ▸ h.checked, by rw [hpackages, hnext, h.fresh]⟩

/-- The repository stores accepted package data under its next id and changes nothing else. -/
theorem ensures_create :
    Ensures (create startLocation endLocation weight customer now) w
      (fun package w' ↦ Stores w startLocation endLocation weight ∧
        package.packageId = w.nextPackageId ∧ package.customer = customer ∧
        w'.customers = w.customers ∧ w'.packages = w.packages.put package)
      (fun _ w' ↦ ¬ Stores w startLocation endLocation weight ∧ w' = w) := by
  unfold create add
  simp only [ensures_bind, ensures_get, ensures_lift_require, ensures_set, ensures_pure]
  rw [ensures_lift]
  refine ⟨fun package hpackage ↦ ?_, fun e he ↦ ⟨fun h ↦ ?_, rfl⟩⟩
  · obtain ⟨hid, hcustomer⟩ := DeliveryPackage.ids_of_create hpackage
    rw [hid]
    exact ⟨fun hnew ↦ ⟨⟨DeliveryPackage.exists_create_iff.mp ⟨package, hpackage⟩, hnew⟩, rfl,
      hcustomer, rfl, rfl⟩, fun hstored ↦ ⟨fun h ↦ hstored h.fresh, rfl⟩⟩
  · obtain ⟨package, hpackage⟩ := DeliveryPackage.exists_create_iff.mpr h.checked
    rw [hpackage] at he
    cases he

end PackageRepository

namespace CustomerService

variable {name email phone : String}

/-- The service stores accepted contact data as a customer without packages, or changes
nothing. -/
theorem ensures_create_iff :
    Ensures (create u name email phone now) w
      (fun customer w' ↦ Stores u w name email phone now customer ∧
        w.customers.find? customer.customerId = none ∧ customer.deliveryPackages = [] ∧
        w'.customers.find? customer.customerId = some customer ∧
        w'.packages = w.packages ∧ w'.nextPackageId = w.nextPackageId)
      (fun _ w' ↦ (¬ ∃ customer, Stores u w name email phone now customer) ∧ w' = w) := by
  unfold create CustomerRepository.create CustomerRepository.add
  simp only [ensures_bind, ensures_get, ensures_pure, ensures_set, ensures_lift]
  refine ⟨fun contact hcontact ↦ ⟨fun customer hcustomer ↦ ⟨fun _ hcheck ↦ ?_, fun e he ↦ ?_⟩,
    fun e he ↦ ?_⟩, fun e he ↦ ?_⟩
  · have hfresh : w.customers.find? customer.customerId = none := by
      have hnew := hcheck
      simp only [CustomerRepository.checkNew, require_bind_eq_ok_iff] at hnew
      exact hnew.1
    simp only [Customer.create, except_bind_eq_ok_iff, Customer.new_eq_ok_iff, Except.ok.injEq]
      at hcustomer
    have hstores : Stores u w name email phone now customer := by
      refine ⟨contact, hcontact, ?_, hcheck⟩
      simpa only [Customer.create, except_bind_eq_ok_iff, Customer.new_eq_ok_iff, Except.ok.injEq]
    obtain ⟨c, ⟨-, -, hpackages, -⟩, rfl⟩ := hcustomer
    exact ⟨hstores, hfresh, hpackages, by rw [Store.find?_put, if_pos rfl], trivial, trivial⟩
  all_goals
    refine ⟨?_, trivial⟩
    rintro ⟨customer', contact', hcontact', hcustomer', hcheck'⟩
  · obtain rfl := Except.ok.inj (hcontact.symm.trans hcontact')
    obtain rfl := Except.ok.inj (hcustomer.symm.trans hcustomer')
    rw [hcheck'] at he
    cases he
  · obtain rfl := Except.ok.inj (hcontact.symm.trans hcontact')
    rw [hcustomer'] at he
    cases he
  · rw [hcontact'] at he
    cases he

end CustomerService

/-- A package of a stored customer is linked unless the customer lists its id already. -/
theorem Customer.ensures_addPackage {customer : Customer} {package : DeliveryPackage}
    (hc : w.customers.find? customer.customerId = some customer)
    (hp : package.customer = customer.customerId) :
    Ensures (Customer.addPackage customer.customerId package) w
      (fun _ _ ↦ package.packageId ∉ customer.deliveryPackages)
      (fun _ w' ↦ package.packageId ∈ customer.deliveryPackages ∧ w' = w) := by
  unfold Customer.addPackage
  simp only [ensures_bind, ensures_get, hc, if_pos hp, ensures_lift_require, ensures_set,
    Decidable.not_not]
  exact ⟨fun h ↦ h, fun h ↦ ⟨h, trivial⟩⟩

namespace CreatePackageUseCase

/-- The command makes a new customer. -/
def AddsCustomer (u : UnicodeTables) (w : World) (now : Datetime) (command : CreatePackageCommand) :
    Prop :=
  CustomerService.findExistingCustomer u w command.name command.email command.phone = .ok none ∧
    ∃ customer, CustomerService.Stores u w command.name command.email command.phone now customer

/-- A command whose failure leaves the repositories alone: unless it names a blank location,
package data that comes with a new customer is accepted, and the id of accepted package data of
a known customer is not on the customer's list. -/
def LeavesNoTrace (u : UnicodeTables) (w : World) (now : Datetime)
    (command : CreatePackageCommand) : Prop :=
  ∀ startCode endCode, LocationCode.new u command.start = .ok startCode →
    LocationCode.new u command.end_ = .ok endCode →
      (AddsCustomer u w now command →
        PackageRepository.Stores w startCode endCode command.weight) ∧
      ∀ customer, CustomerService.findExistingCustomer u w command.name command.email
          command.phone = .ok (some customer) →
        PackageRepository.Stores w startCode endCode command.weight →
          w.nextPackageId ∉ customer.deliveryPackages

variable {command : CreatePackageCommand}

/-- What the customer step of a command establishes about the world it leaves. -/
theorem ensures_resolve :
    Ensures (findOrCreateCustomer u now command) w
      (fun customer w' ↦ w'.customers.find? customer.customerId = some customer ∧
        (CustomerService.findExistingCustomer u w command.name command.email command.phone =
            .ok (some customer) ∧ w' = w ∨
          AddsCustomer u w now command ∧ customer.deliveryPackages = [] ∧
            w.customers.find? customer.customerId = none ∧
            w'.packages = w.packages ∧ w'.nextPackageId = w.nextPackageId))
      (fun _ w' ↦ (¬ AddsCustomer u w now command) ∧ (∀ customer,
        CustomerService.findExistingCustomer u w command.name command.email command.phone ≠
          .ok (some customer)) ∧ w' = w) := by
  unfold findOrCreateCustomer
  simp only [ensures_bind, ensures_get, ensures_lift]
  refine ⟨fun existing hexisting ↦ ?_, fun e he ↦ ?_⟩
  swap
  · simp [AddsCustomer, he]
  cases existing with
  | some customer =>
    exact ensures_pure.mpr
      ⟨CustomerService.find?_of_findExistingCustomer hexisting, .inl ⟨hexisting, rfl⟩⟩
  | none =>
    refine CustomerService.ensures_create_iff.mono (fun customer w1 h ↦ ?_) fun e w1 h ↦ ?_
    · obtain ⟨hstores, hfresh, hpackages, hfind, hsame, hnext⟩ := h
      exact ⟨hfind, .inr ⟨⟨hexisting, customer, hstores⟩, hpackages, hfresh, hsame, hnext⟩⟩
    · exact ⟨fun hadds ↦ h.1 hadds.2, by simp [hexisting], h.2⟩

/-- A creation that returns leaves no trace of a failure, and one that raises leaves the
repositories alone exactly when its data leaves no trace. -/
theorem ensures_execute :
    Ensures (execute u now command) w (fun _ _ ↦ LeavesNoTrace u w now command)
      (fun _ w' ↦ w' = w ↔ LeavesNoTrace u w now command) := by
  unfold execute
  simp only [ensures_bind, ensures_lift, ensures_pure]
  refine ⟨fun startCode hstart ↦ ⟨fun endCode hend ↦ ?_, fun e he ↦ ?_⟩, fun e he ↦ ?_⟩
  · have hcodes : LeavesNoTrace u w now command ↔
        (AddsCustomer u w now command →
          PackageRepository.Stores w startCode endCode command.weight) ∧
        ∀ customer, CustomerService.findExistingCustomer u w command.name command.email
            command.phone = .ok (some customer) →
          PackageRepository.Stores w startCode endCode command.weight →
            w.nextPackageId ∉ customer.deliveryPackages := by
      simp [LeavesNoTrace, hstart, hend]
    simp only [hcodes]
    refine ensures_resolve.mono (fun customer w1 h1 ↦ ?_) fun e w1 h1 ↦ ?_
    · obtain ⟨hfind, hcase⟩ := h1
      refine PackageRepository.ensures_create.mono (fun package w2 h2 ↦ ?_) fun e w2 h2 ↦ ?_
      · obtain ⟨hstores, hid, hcustomer, hcustomers, hpackages⟩ := h2
        refine (Customer.ensures_addPackage (hcustomers ▸ hfind) hcustomer).mono
          (fun _ w3 h3 ↦ ?_) fun e w3 h3 ↦ ?_
        · rcases hcase with ⟨hexisting, rfl⟩ | ⟨hadds, -, -, hsame, hnext⟩
          · refine ⟨fun h ↦ absurd (hexisting.symm.trans h.1) (by simp), fun c hc _ ↦ ?_⟩
            obtain rfl : customer = c := by simpa using hexisting.symm.trans hc
            rwa [← hid]
          · refine ⟨fun _ ↦ ?_, fun c hc ↦ absurd (hadds.1.symm.trans hc) (by simp)⟩
            exact (PackageRepository.stores_congr hsame hnext).mp hstores
        · rcases hcase with ⟨hexisting, rfl⟩ | ⟨-, hempty, -⟩
          · refine iff_of_false (fun h ↦ ?_) fun h ↦ h.2 customer hexisting hstores (hid ▸ h3.1)
            have hfound := congrArg (fun w ↦ w.packages.find? package.packageId) (h3.2.symm.trans h)
            simp only [hpackages, Store.find?_put, if_pos, hid, hstores.fresh] at hfound
            cases hfound
          · rw [hempty] at h3
            cases h3.1
      · rcases hcase with ⟨hexisting, rfl⟩ | ⟨hadds, -, hfresh, hsame, hnext⟩
        · refine iff_of_true h2.2 ⟨fun h ↦ absurd (hexisting.symm.trans h.1) (by simp),
            fun _ _ hstores ↦ absurd hstores h2.1⟩
        · refine iff_of_false (fun h ↦ ?_) fun h ↦ h2.1 ?_
          · have hfound := congrArg (fun w ↦ w.customers.find? customer.customerId)
              (h2.2.symm.trans h)
            simp only [hfind, hfresh] at hfound
            cases hfound
          · exact (PackageRepository.stores_congr hsame hnext).mpr (h.1 hadds)
    · obtain ⟨hadds, hnone, hw⟩ := h1
      exact iff_of_true hw ⟨fun h ↦ absurd h hadds, fun customer h ↦ absurd h (hnone customer)⟩
  · simp [LeavesNoTrace, he]
  · simp [LeavesNoTrace, he]

/-- A failing creation leaves the repositories alone exactly when its data leaves no trace. -/
theorem failure_leaves_repositories_iff (u : UnicodeTables) (w : World) (now : Datetime)
    (command : CreatePackageCommand) :
    Ensures (execute u now command) w (fun _ _ ↦ True) (fun _ w' ↦ w' = w) ↔
      LeavesNoTrace u w now command := by
  constructor
  · intro h
    by_contra hno
    refine absurd (h.and ensures_execute) fun hboth ↦ ?_
    rw [ensures_iff] at hboth
    split at hboth
    · exact hno hboth.2
    · exact hno (hboth.2.mp hboth.1)
  · intro h
    exact ensures_execute.mono (fun _ _ _ ↦ trivial) fun _ _ hiff ↦ hiff.mpr h

/-- In a sound world only package data that is rejected after its customer was stored leaves a
trace. -/
theorem leavesNoTrace_iff {allowed : Option LocationCode → Prop} {clock : Option Datetime}
    (h : w.Sound u allowed clock) : LeavesNoTrace u w now command ↔
      ∀ startCode endCode, LocationCode.new u command.start = .ok startCode →
        LocationCode.new u command.end_ = .ok endCode → AddsCustomer u w now command →
          PackageRepository.Stores w startCode endCode command.weight := by
  constructor
  · intro hleaves startCode endCode hstart hend
    exact (hleaves startCode endCode hstart hend).1
  · intro hstores startCode endCode hstart hend
    refine ⟨hstores startCode endCode hstart hend, fun customer hfind hfresh hmem ↦ ?_⟩
    obtain ⟨_, hlisted, -⟩ := h.linked.package_of_customer
      (CustomerService.find?_of_findExistingCustomer hfind) hmem
    rw [hfresh.fresh] at hlisted
    cases hlisted

end CreatePackageUseCase

namespace Scenario

/-- A package that is to be delivered where it is picked up. -/
def nowhere : CreatePackageCommand := ⟨"syd", "syd", .finite 1200, "Ada Stone", "", ""⟩

/-- In a fresh world a rejected package leaves a new customer behind. -/
theorem not_failure_leaves_repositories_nowhere :
    Reachable .asciiOnly fleet none (.initial fleet) ∧
    ¬ Ensures (CreatePackageUseCase.execute .asciiOnly (hour 0) nowhere) (.initial fleet)
      (fun _ _ ↦ True) (fun _ w' ↦ w' = .initial fleet) := by
  refine ⟨.start, fun h ↦ ?_⟩
  have hraises : raisesIn (CreatePackageUseCase.execute .asciiOnly (hour 0) nowhere)
      (.initial fleet) (fun w' ↦ (w'.customers.find? 1).isSome) = true := by
    decide +kernel
  obtain ⟨e, w', rfl, hstored⟩ := h.not_of_raisesIn hraises
  cases hstored

end Scenario
end FleetFlow
