import FleetFlow.Runtime.Run

/-!
# Finding customers by their contacts

The customer repository keeps an index of emails and one of phone numbers, and the customer
service looks both up with its own normalization of the given texts. Every change of the
repository keeps the indexes exact, so a lookup that finds nothing says that the contact is free,
and a customer that is created from the texts is found by them.
-/

namespace FleetFlow

open Program

variable {u : UnicodeTables} {w : World}

/-! ### Changes of the repository -/

namespace CustomerRepository

/-- Remove a customer and its index entries; `customer_repository.py:75–92`. -/
def remove (customerId : Int) : Action PUnit := do
  let w ← get
  match w.customers.find? customerId with
  | none => pure ⟨⟩
  | some customer =>
    set { w with
      customers := w.customers.remove customerId
      idByEmail := Index.drop "" w.idByEmail customer.contact.email
      idByPhone := Index.drop "" w.idByPhone customer.contact.phoneNumber }

/-- Replace all customers and rebuild the indexes; `customer_repository.py:170–188`. The customers
stand in the order of the replacement mapping. -/
def replaceCustomers (customers : List Customer) (nextId : Int) : Action PUnit := do
  let w ← get
  set { w with
    customers := .ofList customers
    idByEmail :=
      Index.ofList "" (fun c : Customer ↦ c.contact.email) Customer.customerId customers
    idByPhone :=
      Index.ofList "" (fun c : Customer ↦ c.contact.phoneNumber) Customer.customerId customers
    nextCustomerId := nextId }

/-- A call that changes the repository. -/
inductive Change where
  | create (contact : ContactInfo) (occurredAt : Datetime)
  | add (customer : Customer)
  | remove (customerId : Int)
  | replaceCustomers (customers : List Customer) (nextId : Int)

/-- Make a call. -/
def Change.perform : Change → Action PUnit
  | create contact occurredAt => do
    let _ ← CustomerRepository.create contact occurredAt
    pure ⟨⟩
  | add customer => CustomerRepository.add customer
  | remove customerId => CustomerRepository.remove customerId
  | replaceCustomers customers nextId => CustomerRepository.replaceCustomers customers nextId

/-- Make calls in turn; a call that raises ends in the world it leaves. -/
def afterChanges (w : World) (changes : List Change) : World :=
  changes.foldl (fun w change ↦ change.perform.finalState w) w

/-- Customers of a mapping by id, no two of which share an email or a phone number. -/
structure UniqueContacts (customers : List Customer) : Prop where
  id : (customers.map Customer.customerId).Nodup
  email : customers.Pairwise fun a b ↦ a.contact.email = b.contact.email → a.contact.email = ""
  phone : customers.Pairwise fun a b ↦
    a.contact.phoneNumber = b.contact.phoneNumber → a.contact.phoneNumber = ""

/-- Replacement customers are unique. -/
def Change.Unique : Change → Prop
  | replaceCustomers customers _ => UniqueContacts customers
  | _ => True

end CustomerRepository

/-! ### Exact indexes -/

/-- The indexes hold exactly the emails and phone numbers of the stored customers. -/
structure World.Indexed (w : World) : Prop where
  email : Indexes w.idByEmail "" (·.contact.email) w.customers
  phone : Indexes w.idByPhone "" (·.contact.phoneNumber) w.customers

/-- Neither text of a contact is indexed. -/
structure World.Free (w : World) (contact : ContactInfo) : Prop where
  email : contact.email = "" ∨ w.idByEmail[contact.email]? = none
  phone : contact.phoneNumber = "" ∨ w.idByPhone[contact.phoneNumber]? = none

namespace World.Indexed

/-- A new customer is entered in both indexes. -/
theorem ensures_add (h : w.Indexed) {customer : Customer} :
    Ensures (CustomerRepository.add customer) w
      (fun _ w' ↦ w'.Indexed ∧ w'.customers.find? customer.customerId = some customer)
      (fun _ w' ↦ w' = w ∧ ¬ (w.customers.find? customer.customerId = none ∧
        w.Free customer.contact)) := by
  unfold CustomerRepository.add
  simp only [ensures_bind, ensures_get, ensures_set, ensures_lift]
  refine ⟨?_, fun e he ↦ ⟨trivial, ?_⟩⟩
  · rintro ⟨⟩ hcheck
    simp only [CustomerRepository.checkNew, require_bind_eq_ok_iff, require_eq_ok_iff] at hcheck
    obtain ⟨hnew, hemail, hphone⟩ := hcheck
    refine ⟨⟨?_, ?_⟩, by rw [Store.find?_put, if_pos rfl]⟩
    · exact World.indexed_put h.email hnew (by simpa using hemail)
    · exact World.indexed_put h.phone hnew (by simpa using hphone)
  · rintro ⟨hnew, hemail, hphone⟩
    have hcheck : CustomerRepository.checkNew w customer = .ok () := by
      simp only [CustomerRepository.checkNew, require_bind_eq_ok_iff, require_eq_ok_iff]
      refine ⟨hnew, hemail.imp_right fun hnone ↦ ?_, hphone.imp_right fun hnone ↦ ?_⟩
      · simp [hnone]
      · simp [hnone]
    rw [hcheck] at he
    cases he

/-- A created customer has the given contact. Creation fails only over a taken id or contact. -/
theorem ensures_create (h : w.Indexed) {contact : ContactInfo} {now : Datetime} :
    Ensures (CustomerRepository.create contact now) w
      (fun customer w' ↦ w'.Indexed ∧ customer.contact = contact ∧
        w'.customers.find? customer.customerId = some customer)
      (fun _ w' ↦ w' = w ∧ ¬ (0 < w.nextCustomerId ∧
        w.customers.find? w.nextCustomerId = none ∧ w.Free contact)) := by
  unfold CustomerRepository.create
  simp only [ensures_bind, ensures_get, ensures_lift, ensures_pure]
  refine ⟨fun customer hcustomer ↦ ?_, fun e he ↦ ⟨trivial, fun hfree ↦ ?_⟩⟩
  · simp only [Customer.create, except_bind_eq_ok_iff, Customer.new_eq_ok_iff, Except.ok.injEq]
      at hcustomer
    obtain ⟨c, ⟨hid, hcontact, -, -⟩, rfl⟩ := hcustomer
    refine h.ensures_add.mono (fun _ w' hadd ↦ ⟨hadd.1, hcontact, hadd.2⟩) fun e w' hadd ↦ ?_
    refine ⟨hadd.1, fun hfree ↦ hadd.2 ⟨?_, ?_⟩⟩
    · exact hid.symm ▸ hfree.2.1
    · exact hcontact.symm ▸ hfree.2.2
  · simp [Customer.create, Customer.new, hfree.1, bind, Except.bind] at he

/-- A removed customer leaves both indexes. -/
theorem ensures_remove (h : w.Indexed) {customerId : Int} :
    Ensures (CustomerRepository.remove customerId) w (fun _ w' ↦ w'.Indexed)
      (fun _ _ ↦ False) := by
  unfold CustomerRepository.remove
  simp only [ensures_bind, ensures_get]
  cases hfind : w.customers.find? customerId with
  | none => exact ensures_pure.mpr h
  | some customer => exact ensures_set.mpr ⟨h.email.remove hfind, h.phone.remove hfind⟩

/-- Every call keeps the indexes exact. -/
theorem ensures_perform (h : w.Indexed) {change : CustomerRepository.Change}
    (hunique : change.Unique) :
    Ensures change.perform w (fun _ w' ↦ w'.Indexed) (fun _ w' ↦ w'.Indexed) := by
  cases change with
  | create contact occurredAt =>
    unfold CustomerRepository.Change.perform
    simp only [ensures_bind, ensures_pure]
    exact h.ensures_create.mono (fun _ _ hw ↦ hw.1) fun _ _ hw ↦ hw.1 ▸ h
  | add customer =>
    exact h.ensures_add.mono (fun _ _ hw ↦ hw.1) fun _ _ hw ↦ hw.1 ▸ h
  | remove customerId =>
    exact h.ensures_remove.mono (fun _ _ hw ↦ hw) fun _ _ hw ↦ hw.elim
  | replaceCustomers customers nextId =>
    unfold CustomerRepository.Change.perform CustomerRepository.replaceCustomers
    simp only [ensures_bind, ensures_get, ensures_set]
    exact ⟨indexes_ofList hunique.id hunique.email, indexes_ofList hunique.id hunique.phone⟩

/-- Every run of calls keeps the indexes exact. -/
theorem afterChanges (h : w.Indexed) {changes : List CustomerRepository.Change}
    (hunique : ∀ change ∈ changes, change.Unique) :
    (CustomerRepository.afterChanges w changes).Indexed := by
  induction changes generalizing w with
  | nil => exact h
  | cons change rest ih =>
    exact ih (h.ensures_perform (hunique change (by simp))).finalState
      fun c hc ↦ hunique c (by simp [hc])

end World.Indexed

/-- A repository without customers is indexed. -/
theorem World.indexed_initial (trucks : Fleet) : (World.initial trucks).Indexed :=
  ⟨indexes_empty, indexes_empty⟩

/-! ### Looking contacts up -/

namespace CustomerService

/-- A text finds nobody when it is empty or not indexed. -/
theorem getIfGiven_eq_none_iff {index : Std.ExtTreeMap String Int} {text : String} :
    getIfGiven w index text = .ok none ↔ text = "" ∨ index[text]? = none := by
  unfold getIfGiven CustomerRepository.getIndexed
  by_cases htext : text = ""
  · simp [htext]
  · cases hi : index[text]? with
    | none => simp [htext]
    | some c => cases hc : w.customers.find? c <;> simp [htext, hc]

/-- The text of a stored customer finds the customer. -/
theorem getIfGiven_eq_some {index : Std.ExtTreeMap String Int} {field : Customer → String}
    {customer : Customer} {text : String} (h : Indexes index "" field w.customers)
    (hfind : w.customers.find? customer.customerId = some customer) (htext : field customer = text)
    (hne : text ≠ "") : getIfGiven w index text = .ok (some customer) := by
  unfold getIfGiven CustomerRepository.getIndexed
  have hi : index[text]? = some customer.customerId := by
    subst htext
    exact h.getElem? hfind hne
  simp [hne, hi, hfind]

/-- A candidate is refused or accepted, never dropped. -/
theorem unlessNamed_ne_none {name message : String} {customer : Customer} :
    unlessNamed u name customer message ≠ .ok none := by
  simp [unlessNamed, require_bind_eq_ok_iff]

/-- A customer with the given name is accepted. -/
theorem unlessNamed_self {name message : String} {customer : Customer}
    (h : customer.contact.name = name) :
    unlessNamed u name customer message = .ok (some customer) := by
  simp [unlessNamed, require_bind_eq_ok_iff, sameName, h]

variable {name email phone : String}

/-- When nobody is found, no index holds the normalized texts. -/
theorem free_of_findExistingCustomer
    (h : findExistingCustomer u w name email phone = .ok none) :
    (PyStr.lower u (PyStr.strip u email) = "" ∨
      w.idByEmail[PyStr.lower u (PyStr.strip u email)]? = none) ∧
    (String.ofList (phone.toList.filter (PyStr.isDigitChar u)) = "" ∨
      w.idByPhone[String.ofList (phone.toList.filter (PyStr.isDigitChar u))]? = none) := by
  simp only [findExistingCustomer, except_bind_eq_ok_iff] at h
  obtain ⟨byEmail, hemail, byPhone, hphone, h⟩ := h
  rw [← getIfGiven_eq_none_iff, ← getIfGiven_eq_none_iff, hemail, hphone]
  suffices hnone : byEmail = none ∧ byPhone = none by
    simp [hnone]
  split at h
  · unfold resolveEmailAndPhone at h
    split at h
    · rw [require_bind_eq_ok_iff] at h
      exact absurd h.2 unlessNamed_ne_none
    · exact absurd h unlessNamed_ne_none
    · exact absurd h unlessNamed_ne_none
    · exact ⟨rfl, rfl⟩
  · split at h
    · exact absurd h unlessNamed_ne_none
    · exact absurd h unlessNamed_ne_none
    · exact ⟨rfl, rfl⟩

/-- A stored customer is found by the texts that its contact normalizes. -/
theorem findExistingCustomer_eq_some (h : w.Indexed) {customer : Customer}
    (hfind : w.customers.find? customer.customerId = some customer)
    (hname : customer.contact.name = PyStr.strip u name)
    (hemail : customer.contact.email = PyStr.lower u (PyStr.strip u email))
    (hphone : customer.contact.phoneNumber =
      String.ofList (phone.toList.filter (PyStr.isDigitChar u)))
    (hgiven : customer.contact.email ≠ "" ∨ customer.contact.phoneNumber ≠ "") :
    findExistingCustomer u w name email phone = .ok (some customer) := by
  unfold findExistingCustomer
  dsimp only
  rw [← hname, ← hemail, ← hphone]
  by_cases he : customer.contact.email = ""
  · have hp := hgiven.resolve_left (not_not.mpr he)
    rw [getIfGiven_eq_none_iff.mpr (.inl he), getIfGiven_eq_some h.phone hfind rfl hp]
    simp [he, unlessNamed_self, bind, Except.bind]
  · by_cases hp : customer.contact.phoneNumber = ""
    · rw [getIfGiven_eq_some h.email hfind rfl he, getIfGiven_eq_none_iff.mpr (.inl hp)]
      simp [hp, unlessNamed_self, bind, Except.bind]
    · rw [getIfGiven_eq_some h.email hfind rfl he, getIfGiven_eq_some h.phone hfind rfl hp]
      simp [he, hp, resolveEmailAndPhone, unlessNamed_self, bind, Except.bind, require]

end CustomerService

/-- Accepted contact details are the texts as the customer service normalizes them. -/
theorem ContactInfo.normalized_of_new (hu : PyStr.DigitsVisible u) {name email phone : String}
    {contact : ContactInfo} (h : new u name email phone = .ok contact) :
    contact.name = PyStr.strip u name ∧
      contact.email = PyStr.lower u (PyStr.strip u email) ∧
      contact.phoneNumber = String.ofList (phone.toList.filter (PyStr.isDigitChar u)) := by
  simp only [new, except_bind_eq_ok_iff, Except.ok.injEq] at h
  obtain ⟨n, hn, e, he, p, hp, rfl⟩ := h
  refine ⟨?_, ?_, ?_⟩
  · simp only [cleanName, require_bind_eq_ok_iff, Except.ok.injEq] at hn
    exact hn.2.2.symm
  · unfold cleanEmail at he
    dsimp only at he
    split at he
    · next hempty => rw [hempty, Except.ok.inj he]
    · rw [except_bind_eq_ok_iff] at he
      obtain ⟨-, -, he⟩ := he
      exact (Except.ok.inj he).symm
  · unfold cleanPhone at hp
    split at hp
    · next hempty =>
      rw [← Except.ok.inj hp, hempty]
      rfl
    · simp only [require_bind_eq_ok_iff, Except.ok.injEq] at hp
      obtain ⟨hdigits, -, -, rfl⟩ := hp
      exact (PyStr.digits_eq_strip hu hdigits).symm

namespace CustomerService

/-- In every run of changes with unique contacts the indexes are exact, so that no two customers
share an email or a phone number. Of texts that find nobody and form a contact, a customer is
created unless the next id cannot be used, and the same texts then find that customer if they
give an email or a phone number. -/
theorem resolves_created (u : UnicodeTables) (hu : PyStr.DigitsVisible u) (trucks : Fleet)
    (changes : List CustomerRepository.Change) (hunique : ∀ change ∈ changes, change.Unique)
    (w : World) (hw : w = CustomerRepository.afterChanges (.initial trucks) changes) :
    w.Indexed ∧
    (∀ c c' customer customer', w.customers.find? c = some customer →
      w.customers.find? c' = some customer' →
      (customer.contact.email ≠ "" ∧ customer.contact.email = customer'.contact.email ∨
        customer.contact.phoneNumber ≠ "" ∧
          customer.contact.phoneNumber = customer'.contact.phoneNumber) → c = c') ∧
    ∀ name email phone now contact, findExistingCustomer u w name email phone = .ok none →
      ContactInfo.new u name email phone = .ok contact →
      Ensures (create u name email phone now) w
        (fun customer w' ↦ w'.Indexed ∧
          w'.customers.find? customer.customerId = some customer ∧ customer.contact = contact ∧
          (contact.email ≠ "" ∨ contact.phoneNumber ≠ "" →
            findExistingCustomer u w' name email phone = .ok (some customer)))
        (fun _ w' ↦ w' = w ∧ ¬ (0 < w.nextCustomerId ∧
          w.customers.find? w.nextCustomerId = none)) := by
  have hindexed : w.Indexed := hw ▸ (World.indexed_initial trucks).afterChanges hunique
  refine ⟨hindexed, ?_, ?_⟩
  · rintro c c' customer customer' hc hc' (⟨hne, heq⟩ | ⟨hne, heq⟩)
    · exact hindexed.email.key_unique hc hc' hne heq
    · exact hindexed.phone.key_unique hc hc' hne heq
  · intro name email phone now contact hnone hcontact
    obtain ⟨hname, hemail, hphone⟩ := ContactInfo.normalized_of_new hu hcontact
    have hfree : w.Free contact := by
      obtain ⟨he, hp⟩ := free_of_findExistingCustomer hnone
      exact ⟨hemail ▸ he, hphone ▸ hp⟩
    unfold create
    rw [hcontact, ensures_bind, ensures_lift_ok]
    refine hindexed.ensures_create.mono (fun customer w' h ↦ ?_) fun e w' h ↦ ?_
    · obtain ⟨hw', rfl, hfind⟩ := h
      exact ⟨hw', hfind, rfl, findExistingCustomer_eq_some hw' hfind hname hemail hphone⟩
    · exact ⟨h.1, fun hid ↦ h.2 ⟨hid.1, hid.2, hfree⟩⟩

end CustomerService

namespace Scenario

/-- A contact is stored and removed, and a customer with another one is restored. -/
def contactChanges : List CustomerRepository.Change :=
  [.create ⟨"Ada Stone", "ada@example.org", ""⟩ (hour 0), .remove 1,
    .replaceCustomers [⟨5, ⟨"Boris Reed", "", "0411222333"⟩, [], [], by decide⟩] 7]

/-- Texts with blanks and capitals create a customer once. -/
theorem resolves_created_ada :
    Ensures (CustomerService.create .asciiOnly "Ada Stone" " Ada@Example.org " " 0412345678 "
        (hour 0)) (CustomerRepository.afterChanges (.initial fleet) contactChanges)
      (fun customer w' ↦ customer.contact = ⟨"Ada Stone", "ada@example.org", "0412345678"⟩ ∧
        CustomerService.findExistingCustomer .asciiOnly w' "Ada Stone" " Ada@Example.org "
          " 0412345678 " = .ok (some customer))
      (fun _ _ ↦ False) := by
  have hu : PyStr.DigitsVisible .asciiOnly := fun _ _ ↦ rfl
  have hunique : ∀ change ∈ contactChanges, change.Unique := by
    intro change hchange
    rw [contactChanges, List.mem_cons, List.mem_cons, List.mem_singleton] at hchange
    rcases hchange with rfl | rfl | rfl
    · trivial
    · trivial
    · exact ⟨by simp, by simp, by simp⟩
  have hnone : CustomerService.findExistingCustomer .asciiOnly
      (CustomerRepository.afterChanges (.initial fleet) contactChanges) "Ada Stone"
      " Ada@Example.org " " 0412345678 " = .ok none := by
    have hfound : ((CustomerService.findExistingCustomer .asciiOnly
        (CustomerRepository.afterChanges (.initial fleet) contactChanges) "Ada Stone"
        " Ada@Example.org " " 0412345678 ").toOption.any Option.isNone) = true := by
      decide +kernel
    obtain ⟨found, hfound, hempty⟩ := (Option.any_eq_true _ _).mp hfound
    rw [toOption_eq_some_iff] at hfound
    rw [hfound, Option.isNone_iff_eq_none.mp hempty]
  have hcontact : ContactInfo.new .asciiOnly "Ada Stone" " Ada@Example.org " " 0412345678 " =
      .ok ⟨"Ada Stone", "ada@example.org", "0412345678"⟩ := by
    decide +kernel
  have hid : 0 < (CustomerRepository.afterChanges (.initial fleet) contactChanges).nextCustomerId ∧
      (CustomerRepository.afterChanges (.initial fleet) contactChanges).customers.find?
        (CustomerRepository.afterChanges (.initial fleet) contactChanges).nextCustomerId = none := by
    rw [← Option.isNone_iff_eq_none]
    decide +kernel
  have h := (CustomerService.resolves_created .asciiOnly hu fleet contactChanges hunique _ rfl).2.2
    "Ada Stone" " Ada@Example.org " " 0412345678 " (hour 0) _ hnone hcontact
  refine h.mono (fun customer w' hw ↦ ⟨hw.2.2.1, hw.2.2.2 (.inl ?_)⟩) fun _ _ hw ↦ hw.2 hid
  show "ada@example.org" ≠ ""
  decide

end Scenario
end FleetFlow
