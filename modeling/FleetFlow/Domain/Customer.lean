import FleetFlow.Base.Validation
import FleetFlow.Domain.Events
import Mathlib.Data.List.Infix

/-!
# Contact details and customers

Follows `domain/value_objects/contact_info.py` and `domain/entities/customer.py`. A cleaned
contact passes its own cleaning unchanged, which is what a saved customer relies on when it
is rebuilt.
-/

namespace FleetFlow

/-- Contact details; `domain/value_objects/contact_info.py:10–16`. -/
structure ContactInfo where
  name : String
  email : String
  phoneNumber : String
deriving DecidableEq, Repr

namespace ContactInfo

/-- Characters of a domain label, `[a-z0-9-]`. -/
def isLabelChar (c : Char) : Bool := c.isLower || c.isDigit || c == '-'

/-- Characters of a local part; the class of `domain/value_objects/contact_info.py:92`. -/
def isLocalChar (c : Char) : Bool :=
  c.isLower || c.isDigit || (".!#$%&'*+/=?^_\x60\x7b|\x7d~-".toList.contains c)

private def invalidEmail : PyError := ⟨.domainValidation, "Invalid email address format."⟩

variable (u : UnicodeTables)

/-- Clean a name; `domain/value_objects/contact_info.py:54–62`. -/
def cleanName (v : String) : Except PyError String := do
  let v := PyStr.strip u v
  require (3 ≤ v.length) ⟨.domainValidation, "Name is too short"⟩
  require (v.length ≤ 30) ⟨.domainValidation, "Name is too long"⟩
  .ok v

/-- Checks of one domain label; `domain/value_objects/contact_info.py:86–90`. -/
def checkLabel (label : List Char) : Except PyError Unit := do
  require (label ≠ [] ∧ label.all isLabelChar = true) invalidEmail
  require (label.head? ≠ some '-' ∧ label.getLast? ≠ some '-') invalidEmail

/-- Format checks of a normalized address; `domain/value_objects/contact_info.py:73–93`. -/
def checkEmail (v : List Char) : Except PyError Unit :=
  match v.splitOn '@' with
  | [localPart, domain] => do
    require (localPart ≠ [] ∧ domain ≠ []) invalidEmail
    require (¬ ['.', '.'] <:+: v) invalidEmail
    let labels := domain.splitOn '.'
    require (2 ≤ labels.length ∧ [] ∉ labels) invalidEmail
    forM labels checkLabel
    require (localPart.all isLocalChar = true) invalidEmail
  | _ => .error invalidEmail

/-- Clean an address; `domain/value_objects/contact_info.py:64–95`. -/
def cleanEmail (v : String) : Except PyError String := do
  let v := PyStr.lower u (PyStr.strip u v)
  if v = "" then .ok ""
  else do
    checkEmail v.toList
    .ok v

/-- Clean a phone number; `domain/value_objects/contact_info.py:97–109`. -/
def cleanPhone (v : String) : Except PyError String :=
  if v = "" then .ok ""
  else do
    let v := PyStr.strip u v
    require (PyStr.isdigit u v = true) ⟨.domainValidation, "Phone number must contain only digits"⟩
    require (v.length = 10) ⟨.domainValidation,
      "Invalid phone number. Phone number must be exactly 10 digits."⟩
    require (v.toList.take 2 = ['0', '4']) ⟨.domainValidation,
      "Australian mobile numbers start with '04'."⟩
    .ok v

/-- Clean and store contact details; `domain/value_objects/contact_info.py:26–52`. -/
def new (name email phoneNumber : String) : Except PyError ContactInfo := do
  let name ← cleanName u name
  let email ← cleanEmail u email
  let phoneNumber ← cleanPhone u phoneNumber
  .ok ⟨name, email, phoneNumber⟩

/-- Contact details that their own cleaning leaves unchanged. -/
def Clean (contact : ContactInfo) : Prop :=
  new u contact.name contact.email contact.phoneNumber = .ok contact

instance (contact : ContactInfo) : Decidable (Clean u contact) :=
  inferInstanceAs (Decidable (_ = _))

/-! ### Cleaning twice -/

variable {u}

/-- Characters that an accepted address can contain. -/
private def isEmailChar (c : Char) : Bool := isLocalChar c || c == '@' || c == '.'

private theorem mem_of_splitOn {cs : List Char} {sep : Char} {p : Char → Prop} (hsep : p sep)
    (h : ∀ part ∈ cs.splitOn sep, ∀ c ∈ part, p c) : ∀ c ∈ cs, p c := by
  rw [← @List.intercalate_splitOn Char cs _ _ sep]
  generalize cs.splitOn sep = parts at h
  induction parts with
  | nil => simp [List.intercalate]
  | cons part parts ih =>
    intro c hc
    cases parts with
    | nil => exact h part (by simp) c (by simpa [List.intercalate] using hc)
    | cons next parts =>
      rw [List.intercalate_cons_cons, List.mem_append, List.mem_append] at hc
      rcases hc with (hc | hc) | hc
      · exact h part (by simp) c hc
      · rw [List.mem_singleton.mp hc]
        exact hsep
      · exact ih (fun q hq ↦ h q (by simp [hq])) c hc

private theorem isEmailChar_of_checkEmail {cs : List Char} (h : checkEmail cs = .ok ()) :
    ∀ c ∈ cs, isEmailChar c = true := by
  unfold checkEmail at h
  split at h
  · next localPart domain hsplit =>
    simp only [require_bind_eq_ok_iff, except_bind_eq_ok_iff (x := forM _ _)] at h
    obtain ⟨-, -, -, ⟨⟩, hlabels, hlocal⟩ := h
    rw [forM_eq_ok_iff] at hlabels
    rw [require_eq_ok_iff, List.all_eq_true] at hlocal
    refine mem_of_splitOn (show isEmailChar '@' = true by decide) ?_
    rw [hsplit]
    intro part hpart
    rw [List.mem_cons, List.mem_singleton] at hpart
    rcases hpart with rfl | rfl
    · exact fun c hc ↦ by simp [isEmailChar, hlocal c hc]
    · refine mem_of_splitOn (show isEmailChar '.' = true by decide) fun label hlabel c hc ↦ ?_
      have hl := hlabels label hlabel
      simp only [checkLabel, require_bind_eq_ok_iff, List.all_eq_true] at hl
      have hchar := hl.1.2 c hc
      simp only [isLabelChar, Bool.or_eq_true, beq_iff_eq] at hchar
      rcases hchar with (hchar | hchar) | rfl
      · simp [isEmailChar, isLocalChar, hchar]
      · simp [isEmailChar, isLocalChar, hchar]
      · decide
  · cases h

private theorem isAsciiChar_of_isEmailChar {c : Char} (h : isEmailChar c = true) :
    c.toNat < 128 := by
  simp only [isEmailChar, isLocalChar, Bool.or_eq_true, beq_iff_eq, List.contains_iff_mem] at h
  rcases h with ((((h | h) | h) | rfl) | rfl)
  · have hrange : (decide (97 ≤ c.val) && decide (c.val ≤ 122)) = true := h
    rw [Bool.and_eq_true, decide_eq_true_eq, decide_eq_true_eq] at hrange
    have hz : c.toNat ≤ 122 := UInt32.le_iff_toNat_le.mp hrange.2
    omega
  · simp only [Char.isDigit, Bool.and_eq_true, decide_eq_true_eq] at h
    have h9 : c.toNat ≤ 57 := UInt32.le_iff_toNat_le.mp h.2
    omega
  · have hall : ".!#$%&'*+/=?^_\x60\x7b|\x7d~-".toList.all (·.toNat < 128) = true := by decide
    exact of_decide_eq_true (List.all_eq_true.mp hall c h)
  · decide
  · decide

private theorem emailChar_plain {c : Char} (h : isEmailChar c = true) :
    isAsciiChar c = true ∧ isAsciiSpace c = false ∧ c.toLower = c := by
  have hall : ∀ n < 128, isEmailChar (Char.ofNat n) = true → isAsciiChar (Char.ofNat n) = true ∧
      isAsciiSpace (Char.ofNat n) = false ∧ (Char.ofNat n).toLower = Char.ofNat n := by
    decide +kernel
  have := hall c.toNat (isAsciiChar_of_isEmailChar h)
  rw [Char.ofNat_toNat] at this
  exact this h

/-- An accepted name is accepted again, unchanged. -/
theorem cleanName_of_cleanName {v w : String} (h : cleanName u v = .ok w) :
    cleanName u w = .ok w := by
  simp only [cleanName, require_bind_eq_ok_iff, Except.ok.injEq] at h ⊢
  obtain ⟨h1, h2, rfl⟩ := h
  rw [PyStr.strip_strip]
  exact ⟨h1, h2, rfl⟩

/-- An accepted address is accepted again, unchanged. -/
theorem cleanEmail_of_cleanEmail {v w : String} (h : cleanEmail u v = .ok w) :
    cleanEmail u w = .ok w := by
  unfold cleanEmail at h
  dsimp only at h
  split at h
  · rw [Except.ok.injEq] at h
    subst h
    rfl
  · next hne =>
    rw [except_bind_eq_ok_iff] at h
    obtain ⟨⟨⟩, hcheck, hw⟩ := h
    rw [Except.ok.injEq] at hw
    rw [hw] at hcheck hne
    have hplain := fun c hc ↦ emailChar_plain (isEmailChar_of_checkEmail hcheck c hc)
    have hstrip : PyStr.strip u w = w :=
      PyStr.strip_eq_self fun c hc ↦ by simp [PyStr.isSpace, (hplain c hc).1, (hplain c hc).2.1]
    have hlower : PyStr.lower u w = w :=
      PyStr.lower_eq_self fun c hc ↦ ⟨(hplain c hc).1, (hplain c hc).2.2⟩
    unfold cleanEmail
    simp only [hstrip, hlower, hne, if_false, hcheck]
    rfl

/-- An accepted phone number is accepted again, unchanged. -/
theorem cleanPhone_of_cleanPhone {v w : String} (h : cleanPhone u v = .ok w) :
    cleanPhone u w = .ok w := by
  unfold cleanPhone at h
  split at h
  · rw [Except.ok.injEq] at h
    subst h
    rfl
  · simp only [require_bind_eq_ok_iff, Except.ok.injEq] at h
    obtain ⟨h1, h2, h3, rfl⟩ := h
    unfold cleanPhone
    split
    · next h0 => rw [h0]
    · simp only [PyStr.strip_strip, require_bind_eq_ok_iff]
      exact ⟨h1, h2, h3, trivial⟩

/-- Accepted contact details are clean. -/
theorem clean_of_new {name email phoneNumber : String} {contact : ContactInfo}
    (h : new u name email phoneNumber = .ok contact) : Clean u contact := by
  simp only [new, except_bind_eq_ok_iff, Except.ok.injEq] at h
  obtain ⟨n, hn, e, he, p, hp, rfl⟩ := h
  simp only [Clean, new, except_bind_eq_ok_iff, Except.ok.injEq]
  exact ⟨n, cleanName_of_cleanName hn, e, cleanEmail_of_cleanEmail he, p,
    cleanPhone_of_cleanPhone hp, rfl⟩

/-- A stored address has no NUL. -/
theorem Clean.nul_notMem_email {contact : ContactInfo} (h : Clean u contact) :
    Char.ofNat 0 ∉ contact.email.toList := by
  simp only [Clean, new, except_bind_eq_ok_iff, Except.ok.injEq] at h
  obtain ⟨n, -, e, he, p, -, rfl⟩ := h
  show Char.ofNat 0 ∉ e.toList
  unfold cleanEmail at he
  dsimp only at he
  split at he
  · rw [← Except.ok.inj he]
    decide
  · simp only [check_bind_eq_ok_iff, Except.ok.injEq] at he
    obtain ⟨hcheck, heq⟩ := he
    rw [heq] at hcheck
    intro hmem
    have hchar := isEmailChar_of_checkEmail hcheck _ hmem
    have hnul : isEmailChar (Char.ofNat 0) = false := by decide
    rw [hnul] at hchar
    cases hchar

/-- A stored phone number has no NUL. -/
theorem Clean.nul_notMem_phoneNumber {contact : ContactInfo} (h : Clean u contact) :
    Char.ofNat 0 ∉ contact.phoneNumber.toList := by
  simp only [Clean, new, except_bind_eq_ok_iff, Except.ok.injEq] at h
  obtain ⟨n, -, e, -, p, hp, rfl⟩ := h
  show Char.ofNat 0 ∉ p.toList
  unfold cleanPhone at hp
  split at hp
  · rw [← Except.ok.inj hp]
    decide
  · simp only [require_bind_eq_ok_iff, Except.ok.injEq] at hp
    obtain ⟨hdigits, -, -, heq⟩ := hp
    rw [heq] at hdigits
    intro hmem
    rw [PyStr.isdigit, Bool.and_eq_true, List.all_eq_true] at hdigits
    have hchar : PyStr.isDigitChar u (Char.ofNat 0) = true := hdigits.2 _ hmem
    cases hchar

/-- A stored address is empty or survives stripping and lowering. -/
theorem Clean.strip_lower_email {contact : ContactInfo} (h : Clean u contact) :
    PyStr.lower u (PyStr.strip u contact.email) = contact.email := by
  simp only [Clean, new, except_bind_eq_ok_iff, Except.ok.injEq] at h
  obtain ⟨n, -, e, he, p, -, hc⟩ := h
  have hee : e = contact.email := by rw [← hc]
  rw [hee] at he
  unfold cleanEmail at he
  dsimp only at he
  split at he
  · next h0 =>
    rw [Except.ok.injEq] at he
    rw [← he] at h0 ⊢
    exact h0
  · rw [except_bind_eq_ok_iff] at he
    obtain ⟨-, -, hw⟩ := he
    exact Except.ok.inj hw

/-- A stored phone number is empty or survives stripping. -/
theorem Clean.strip_phoneNumber {contact : ContactInfo} (h : Clean u contact) :
    PyStr.strip u contact.phoneNumber = contact.phoneNumber := by
  simp only [Clean, new, except_bind_eq_ok_iff, Except.ok.injEq] at h
  obtain ⟨n, -, e, -, p, hp, hc⟩ := h
  have hpp : p = contact.phoneNumber := by rw [← hc]
  rw [hpp] at hp
  unfold cleanPhone at hp
  split at hp
  · next h0 =>
    rw [h0]
    rfl
  · simp only [require_bind_eq_ok_iff, Except.ok.injEq] at hp
    exact hp.2.2.2

end ContactInfo

/-- A customer and the ids of its active packages; `domain/entities/customer.py:19–42`. -/
structure Customer where
  customerId : Int
  contact : ContactInfo
  deliveryPackages : List Int
  pendingEvents : List DomainEvent
  customerId_pos : 0 < customerId

namespace Customer

/-- Construct a customer without packages; `domain/entities/customer.py:24–42`. -/
def new (contact : ContactInfo) (customerId : Int) : Except PyError Customer :=
  if h : 0 < customerId then .ok ⟨customerId, contact, [], [], h⟩
  else .error ⟨.domainValidation, "customer_id must be a positive integer."⟩

/-- Buffer one event; `shared/event_recorder_mixin.py`. -/
def recordEvent (customer : Customer) (event : DomainEvent) : Customer :=
  { customer with pendingEvents := customer.pendingEvents ++ [event] }

/-- Construct a customer and record its creation; `domain/entities/customer.py:68–99`. -/
def create (contact : ContactInfo) (customerId : Int) (occurredAt : Datetime) :
    Except PyError Customer := do
  let customer ← new contact customerId
  .ok (customer.recordEvent (.customerCreated { customerId := customer.customerId, occurredAt }))

/-- Link a package that is not listed yet; `domain/entities/customer.py:125–135`. -/
def restorePackageLink (customer : Customer) (packageId : Int) : Customer :=
  if packageId ∈ customer.deliveryPackages then customer
  else { customer with deliveryPackages := customer.deliveryPackages ++ [packageId] }

/-- Drop a package from the active list; `domain/entities/customer.py:137–153`. -/
def removePackage (customer : Customer) (packageId : Int) : Except PyError Customer :=
  if packageId ∈ customer.deliveryPackages then
    .ok { customer with deliveryPackages := customer.deliveryPackages.erase packageId }
  else .error ⟨.entityNotFound, s!"Package with id {packageId} does not exist."⟩

/-- Construction succeeds exactly with a positive id. -/
theorem new_eq_ok_iff {contact : ContactInfo} {customerId : Int} {c : Customer} :
    new contact customerId = .ok c ↔ c.customerId = customerId ∧ c.contact = contact ∧
      c.deliveryPackages = [] ∧ c.pendingEvents = [] := by
  obtain ⟨id, contact', packages, events, hpos⟩ := c
  unfold new
  split
  · simp only [Except.ok.injEq, Customer.mk.injEq]
    constructor
    · rintro ⟨rfl, rfl, rfl, rfl⟩
      exact ⟨rfl, rfl, rfl, rfl⟩
    · rintro ⟨rfl, rfl, rfl, rfl⟩
      exact ⟨rfl, rfl, rfl, rfl⟩
  · next h =>
    simp only [reduceCtorEq, false_iff]
    rintro ⟨rfl, -⟩
    exact h hpos

end Customer
end FleetFlow
