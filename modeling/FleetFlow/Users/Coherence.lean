import FleetFlow.Users.Repository

/-!
# Coherent user indexes

What every repository keeps up: both indexes hold the same records, each under its own keys,
in the order of their ids, and each in a form that the JSON store reads back unchanged.
-/

namespace FleetFlow

variable {u : UnicodeTables}

/-- The lookup key of a record. -/
def UserRecord.key (u : UnicodeTables) (record : UserRecord) : String :=
  normalizeUsername u record.username

/-- A record whose fields pass their own checks and normalizations unchanged. -/
structure UserRecord.Loadable (u : UnicodeTables) (record : UserRecord) : Prop where
  userId_pos : 1 ≤ record.userId
  username_stripped : PyStr.strip u record.username = record.username
  key_ne : record.key u ≠ ""
  role_valid : ∃ role : Role, record.role = role.value
  contact_clean : ContactInfo.Clean u ⟨record.name, record.email, record.phoneNumber⟩
  password_valid : ∃ hash, PasswordHash.parse u record.password = .ok hash ∧
    hash.serialize = record.password
  tokenVersion_pos : 1 ≤ record.tokenVersion

/-- Two records of one user: everything but the password and the token version agrees. -/
structure UserRecord.SameUser (a b : UserRecord) : Prop where
  userId_eq : b.userId = a.userId
  username_eq : b.username = a.username
  role_eq : b.role = a.role
  name_eq : b.name = a.name
  email_eq : b.email = a.email
  phoneNumber_eq : b.phoneNumber = a.phoneNumber

namespace UserRecord

theorem SameUser.refl (a : UserRecord) : a.SameUser a := ⟨rfl, rfl, rfl, rfl, rfl, rfl⟩

theorem SameUser.trans {a b c : UserRecord} (h : a.SameUser b) (h' : b.SameUser c) :
    a.SameUser c :=
  ⟨h'.userId_eq.trans h.userId_eq, h'.username_eq.trans h.username_eq,
    h'.role_eq.trans h.role_eq, h'.name_eq.trans h.name_eq, h'.email_eq.trans h.email_eq,
    h'.phoneNumber_eq.trans h.phoneNumber_eq⟩

theorem SameUser.key_eq {a b : UserRecord} (h : a.SameUser b) : b.key u = a.key u := by
  rw [key, key, h.username_eq]

/-- A new password and a later token version keep a record loadable. -/
theorem Loadable.update {record : UserRecord} (h : record.Loadable u) {password : String}
    {tokenVersion : Int} (hpassword : ∃ hash, PasswordHash.parse u password = .ok hash ∧
      hash.serialize = password) (hversion : record.tokenVersion ≤ tokenVersion) :
    { record with password, tokenVersion }.Loadable u where
  userId_pos := h.userId_pos
  username_stripped := h.username_stripped
  key_ne := h.key_ne
  role_valid := h.role_valid
  contact_clean := h.contact_clean
  password_valid := hpassword
  tokenVersion_pos := h.tokenVersion_pos.trans hversion

end UserRecord

/-- A produced hash is read back from the text that stores it. -/
theorem PasswordHash.Produced.parse_serialize {kdf : Kdf} {hash : PasswordHash}
    (h : hash.Produced u kdf) : PasswordHash.parse u hash.serialize = .ok hash := by
  obtain ⟨salt, plain, h⟩ := h
  rw [hashPassword, except_bind_eq_ok_iff] at h
  obtain ⟨-, -, h⟩ := h
  rw [← Except.ok.inj h]
  exact PasswordHash.parse_serialize_derive

namespace UserIndexes

/-- Both indexes hold the same loadable records, by id, and the counter is past every id. -/
structure Coherent (u : UnicodeTables) (s : UserIndexes) : Prop where
  usernames : s.byUsername.Keyed (UserRecord.key u)
  ids : s.byId.Keyed UserRecord.userId
  values_eq : s.byUsername.values = s.byId.values
  sorted : (s.byId.values.map UserRecord.userId).Pairwise (· < ·)
  bounded : ∀ r ∈ s.byId.values, r.userId < s.nextId
  loadable : ∀ r ∈ s.byId.values, r.Loadable u
  nextId_pos : 1 ≤ s.nextId

/-- What a later state keeps of an earlier one: no id is given out twice, no user is lost,
and no token version goes back. -/
structure Continues (s s' : UserIndexes) : Prop where
  nextId_le : s.nextId ≤ s'.nextId
  kept : ∀ r ∈ s.byId.values, ∃ r' ∈ s'.byId.values,
    r.SameUser r' ∧ r.tokenVersion ≤ r'.tokenVersion
  not_reused : ∀ r' ∈ s'.byId.values, r'.userId < s.nextId →
    ∃ r ∈ s.byId.values, r.SameUser r'

variable {s s' s'' : UserIndexes} {r r' : UserRecord}

theorem Continues.refl (s : UserIndexes) : s.Continues s where
  nextId_le := le_rfl
  kept r hr := ⟨r, hr, .refl r, le_rfl⟩
  not_reused r hr _ := ⟨r, hr, .refl r⟩

theorem Continues.trans (h : s.Continues s') (h' : s'.Continues s'') : s.Continues s'' where
  nextId_le := h.nextId_le.trans h'.nextId_le
  kept r hr := by
    obtain ⟨r', hr', hsame, hle⟩ := h.kept r hr
    obtain ⟨r'', hr'', hsame', hle'⟩ := h'.kept r' hr'
    exact ⟨r'', hr'', hsame.trans hsame', hle.trans hle'⟩
  not_reused r'' hr'' hlt := by
    obtain ⟨r', hr', hsame⟩ := h'.not_reused r'' hr'' (hlt.trans_le h.nextId_le)
    obtain ⟨r, hr, hsame'⟩ := h.not_reused r' hr' (hsame.userId_eq ▸ hlt)
    exact ⟨r, hr, hsame'.trans hsame⟩

namespace Coherent

theorem empty : Coherent u UserIndexes.empty where
  usernames entry hentry := by cases hentry
  ids entry hentry := by cases hentry
  values_eq := rfl
  sorted := List.Pairwise.nil
  bounded r hr := by cases hr
  loadable r hr := by cases hr
  nextId_pos := le_rfl

/-- A lookup by id finds the record with that id. -/
theorem getById_eq_some_iff (h : s.Coherent u) {userId : Int} :
    s.getById userId = some r ↔ r ∈ s.byId.values ∧ r.userId = userId :=
  h.ids.get?_eq_some_iff

/-- A lookup by name finds the record with that key. -/
theorem byUsername_eq_some_iff (h : s.Coherent u) {key : String} :
    s.byUsername.get? key = some r ↔ r ∈ s.byId.values ∧ r.key u = key := by
  rw [h.usernames.get?_eq_some_iff, h.values_eq]

/-- Two records with one id are one record. -/
theorem eq_of_userId (h : s.Coherent u) (hr : r ∈ s.byId.values) (hr' : r' ∈ s.byId.values)
    (heq : r.userId = r'.userId) : r = r' :=
  List.inj_on_of_nodup_map h.ids.nodup_values hr hr' heq

/-- Two records with one lookup key are one record. -/
theorem eq_of_key (h : s.Coherent u) (hr : r ∈ s.byId.values) (hr' : r' ∈ s.byId.values)
    (heq : r.key u = r'.key u) : r = r' := by
  have hnodup := h.usernames.nodup_values
  rw [h.values_eq] at hnodup
  exact List.inj_on_of_nodup_map hnodup hr hr' heq

/-- Storing a newer record of a user replaces the old one. -/
theorem values_store (h : s.Coherent u) (hr : r ∈ s.byId.values) (hsame : r.SameUser r') :
    (s.store (r'.key u) r').byId.values =
      s.byId.values.map fun b ↦ if b.userId = r'.userId then r' else b :=
  h.ids.values_set_of_mem ⟨r, hr, hsame.userId_eq.symm⟩

/-- The records after storing a newer record of a user. -/
theorem mem_values_store (h : s.Coherent u) (hr : r ∈ s.byId.values) (hsame : r.SameUser r')
    {b : UserRecord} (hb : b ∈ (s.store (r'.key u) r').byId.values) :
    b = r' ∨ b ∈ s.byId.values := by
  rw [h.values_store hr hsame, List.mem_map] at hb
  obtain ⟨c, hc, rfl⟩ := hb
  split
  · exact .inl rfl
  · exact .inr hc

/-- Storing a newer record of a user keeps the indexes coherent. -/
theorem store (h : s.Coherent u) (hr : r ∈ s.byId.values) (hsame : r.SameUser r')
    (hload : r'.Loadable u) : (s.store (r'.key u) r').Coherent u where
  usernames := h.usernames.set
  ids := h.ids.set
  values_eq := by
    have hnames : (s.byUsername.set (r'.key u) r').values =
        s.byUsername.values.map fun b ↦ if b.key u = r'.key u then r' else b :=
      h.usernames.values_set_of_mem ⟨r, h.values_eq ▸ hr, hsame.key_eq.symm⟩
    rw [UserIndexes.store, hnames, h.values_eq]
    refine .trans (List.map_congr_left fun b hb ↦ ?_) (h.values_store hr hsame).symm
    -- the record to replace is the only one with its key, and the only one with its id
    by_cases hbr : b = r
    · rw [hbr, if_pos hsame.key_eq.symm, if_pos hsame.userId_eq.symm]
    · rw [if_neg fun hk ↦ hbr (h.eq_of_key hb hr (hk.trans hsame.key_eq)),
        if_neg fun hk ↦ hbr (h.eq_of_userId hb hr (hk.trans hsame.userId_eq))]
  sorted := by
    have hids : (s.store (r'.key u) r').byId.values.map UserRecord.userId =
        s.byId.values.map UserRecord.userId := by
      rw [h.values_store hr hsame, List.map_map]
      refine List.map_congr_left fun b _ ↦ ?_
      rw [Function.comp_apply]
      split
      · next hb => exact hb.symm
      · rfl
    rw [hids]
    exact h.sorted
  bounded b hb := by
    rcases h.mem_values_store hr hsame hb with rfl | hb
    · exact hsame.userId_eq ▸ h.bounded r hr
    · exact h.bounded b hb
  loadable b hb := by
    rcases h.mem_values_store hr hsame hb with rfl | hb
    · exact hload
    · exact h.loadable b hb
  nextId_pos := h.nextId_pos

/-- Storing a newer record of a user continues the state. -/
theorem continues_store (h : s.Coherent u) (hr : r ∈ s.byId.values) (hsame : r.SameUser r')
    (hversion : r.tokenVersion ≤ r'.tokenVersion) :
    s.Continues (s.store (r'.key u) r') where
  nextId_le := le_rfl
  kept b hb := by
    rw [h.values_store hr hsame]
    by_cases hbr : b.userId = r'.userId
    · have heq : b = r := h.eq_of_userId hb hr (hbr.trans hsame.userId_eq)
      refine ⟨r', List.mem_map.mpr ⟨b, hb, if_pos hbr⟩, ?_, ?_⟩
      · rw [heq]
        exact hsame
      · rw [heq]
        exact hversion
    · exact ⟨b, List.mem_map.mpr ⟨b, hb, if_neg hbr⟩, .refl b, le_rfl⟩
  not_reused b hb _ := by
    rcases h.mem_values_store hr hsame hb with rfl | hb
    · exact ⟨r, hr, hsame⟩
    · exact ⟨b, hb, .refl b⟩

end Coherent

/-! ### The operations -/

variable {kdf : Kdf}

/-- What a successful `create` does, and which checks its arguments passed. -/
structure Created (u : UnicodeTables) (s : UserIndexes) (new : NewUser) (r : UserRecord)
    (s' : UserIndexes) : Prop where
  key_eq : r.key u = normalizeUsername u new.username
  key_ne : r.key u ≠ ""
  absent : s.byUsername.contains (r.key u) = false
  userId_eq : r.userId = s.nextId
  username_eq : r.username = PyStr.strip u new.username
  role_valid : ∃ role : Role, r.role = role.value
  contact_clean : ContactInfo.Clean u ⟨r.name, r.email, r.phoneNumber⟩
  password_eq : r.password = new.passwordHash.serialize
  tokenVersion_eq : r.tokenVersion = 1
  state_eq : s' = { s.store (r.key u) r with nextId := s.nextId + 1 }

/-- Every successful `create` is described by `Created`. -/
theorem created_of_create {new : NewUser} (h : s.create u new = .ok (r, s')) :
    Created u s new r s' := by
  simp only [create, require_bind_eq_ok_iff, except_bind_eq_ok_iff (x := normalizeRole u _),
    except_bind_eq_ok_iff (x := ContactInfo.new u _ _ _), Except.ok.injEq, Prod.mk.injEq] at h
  obtain ⟨hne, habsent, role, hrole, contact, hcontact, rfl, rfl⟩ := h
  have hkey : normalizeUsername u (PyStr.strip u new.username) =
      normalizeUsername u new.username := normalizeUsername_strip _
  exact {
    key_eq := hkey
    key_ne := fun hk ↦ hne (hkey.symm.trans hk)
    absent := by rw [UserRecord.key, hkey, habsent]
    userId_eq := rfl
    username_eq := rfl
    role_valid := exists_role_of_normalizeRole hrole
    contact_clean := ContactInfo.clean_of_new hcontact
    password_eq := rfl
    tokenVersion_eq := rfl
    state_eq := by rw [UserRecord.key, hkey] }

namespace Created

variable {new : NewUser}

theorem loadable (h : Created u s new r s') (hs : s.Coherent u)
    (hhash : new.passwordHash.Produced u kdf) : r.Loadable u where
  userId_pos := h.userId_eq ▸ hs.nextId_pos
  username_stripped := by rw [h.username_eq, PyStr.strip_strip]
  key_ne := h.key_ne
  role_valid := h.role_valid
  contact_clean := h.contact_clean
  password_valid := ⟨new.passwordHash, by rw [h.password_eq, hhash.parse_serialize],
    h.password_eq.symm⟩
  tokenVersion_pos := h.tokenVersion_eq.ge

theorem key_absent (h : Created u s new r s') (hs : s.Coherent u) :
    ∀ b ∈ s.byUsername.values, b.key u ≠ r.key u := by
  intro b hb heq
  have hcontains := hs.usernames.contains_iff.mpr ⟨b, hb, heq⟩
  rw [h.absent] at hcontains
  cases hcontains

theorem userId_absent (h : Created u s new r s') (hs : s.Coherent u) :
    ∀ b ∈ s.byId.values, b.userId ≠ r.userId := by
  intro b hb heq
  have hlt := hs.bounded b hb
  rw [heq, h.userId_eq] at hlt
  exact lt_irrefl _ hlt

/-- The created record is stored last. -/
theorem values_eq (h : Created u s new r s') (hs : s.Coherent u) :
    s'.byId.values = s.byId.values ++ [r] := by
  rw [h.state_eq]
  exact hs.ids.values_set_of_notMem (h.userId_absent hs)

theorem coherent (h : Created u s new r s') (hs : s.Coherent u)
    (hhash : new.passwordHash.Produced u kdf) : s'.Coherent u := by
  have hvalues := h.values_eq hs
  have hnext : s'.nextId = s.nextId + 1 := by rw [h.state_eq]
  have hmem : ∀ b ∈ s'.byId.values, b ∈ s.byId.values ∨ b = r := by
    intro b hb
    rwa [hvalues, List.mem_append, List.mem_singleton] at hb
  refine ⟨?_, ?_, ?_, ?_, ?_, ?_, ?_⟩
  · rw [h.state_eq]
    exact hs.usernames.set
  · rw [h.state_eq]
    exact hs.ids.set
  · rw [hvalues, ← hs.values_eq, h.state_eq]
    exact hs.usernames.values_set_of_notMem (h.key_absent hs)
  · rw [hvalues, List.map_append, List.pairwise_append]
    refine ⟨hs.sorted, List.pairwise_singleton _ _, ?_⟩
    intro a ha b hb
    obtain ⟨c, hc, rfl⟩ := List.mem_map.mp ha
    obtain rfl : b = r.userId := by simpa using hb
    rw [h.userId_eq]
    exact hs.bounded c hc
  · intro b hb
    rcases hmem b hb with hb | rfl
    · have hlt := hs.bounded b hb
      omega
    · rw [h.userId_eq, hnext]
      omega
  · intro b hb
    rcases hmem b hb with hb | rfl
    · exact hs.loadable b hb
    · exact h.loadable hs hhash
  · have hpos := hs.nextId_pos
    omega

theorem continues (h : Created u s new r s') (hs : s.Coherent u) : s.Continues s' where
  nextId_le := by
    rw [h.state_eq]
    exact (lt_add_one s.nextId).le
  kept b hb := by
    refine ⟨b, ?_, .refl b, le_rfl⟩
    rw [h.values_eq hs]
    exact List.mem_append_left _ hb
  not_reused b hb hlt := by
    rw [h.values_eq hs, List.mem_append, List.mem_singleton] at hb
    rcases hb with hb | rfl
    · exact ⟨b, hb, .refl b⟩
    · rw [h.userId_eq] at hlt
      exact absurd hlt (lt_irrefl _)

end Created

/-- A newer version of a stored record, with a password that can be read back. -/
structure Renews (u : UnicodeTables) (s : UserIndexes) (r r' : UserRecord) : Prop where
  mem : r ∈ s.byId.values
  sameUser : r.SameUser r'
  password_valid : ∃ hash, PasswordHash.parse u r'.password = .ok hash ∧
    hash.serialize = r'.password
  tokenVersion_eq : r'.tokenVersion = r.tokenVersion + 1

theorem Renews.coherent (h : Renews u s r r') (hs : s.Coherent u) :
    (s.store (r'.key u) r').Coherent u := by
  refine hs.store h.mem h.sameUser ?_
  have hversion := h.tokenVersion_eq
  have hload : { r with password := r'.password, tokenVersion := r'.tokenVersion }.Loadable u :=
    (hs.loadable r h.mem).update h.password_valid (by omega)
  obtain ⟨hid, hname, hrole, hfull, hemail, hphone⟩ := h.sameUser
  cases r'
  subst hid hname hrole hfull hemail hphone
  exact hload

theorem Renews.continues (h : Renews u s r r') (hs : s.Coherent u) :
    s.Continues (s.store (r'.key u) r') :=
  hs.continues_store h.mem h.sameUser (by have hversion := h.tokenVersion_eq; omega)

/-- A successful `update_password` renews the record under the username. -/
theorem renews_of_updatePassword (hs : s.Coherent u) {username : String} {hash : PasswordHash}
    (hhash : hash.Produced u kdf) (h : s.updatePassword u username hash = .ok s') :
    ∃ r, s.byUsername.get? (normalizeUsername u username) = some r ∧
      ∃ r', Renews u s r r' ∧ r'.password = hash.serialize ∧ s' = s.store (r'.key u) r' := by
  unfold updatePassword at h
  dsimp only at h
  split at h
  · cases h
  · next r hfind =>
    have hmem := hs.byUsername_eq_some_iff.mp hfind
    rw [Except.ok.injEq] at h
    let r' : UserRecord :=
      { r with password := hash.serialize, tokenVersion := r.tokenVersion + 1 }
    have hrenews : Renews u s r r' := {
      mem := hmem.1
      sameUser := ⟨rfl, rfl, rfl, rfl, rfl, rfl⟩
      password_valid := ⟨hash, hhash.parse_serialize, rfl⟩
      tokenVersion_eq := rfl }
    have hkey : r'.key u = normalizeUsername u username := hmem.2
    exact ⟨r, hfind, r', hrenews, rfl, by rw [hkey, ← h]⟩

/-- Advancing the token version of a stored record renews it. -/
theorem renews_of_incrementTokenVersion (hs : s.Coherent u) (hr : r ∈ s.byId.values)
    (h : s.incrementTokenVersion u r = (r', s')) :
    Renews u s r r' ∧ r'.password = r.password ∧ s' = s.store (r'.key u) r' := by
  obtain ⟨rfl, rfl⟩ := Prod.mk.inj h
  exact ⟨⟨hr, ⟨rfl, rfl, rfl, rfl, rfl, rfl⟩, (hs.loadable r hr).password_valid, rfl⟩, rfl, rfl⟩

end UserIndexes
end FleetFlow
