import NestMonorepo.Collections.Separators
import NestMonorepo.Gateway.Throttling

/-! # Keys of the throttlers

Three kinds of keys share one space of texts, and two of them hold text that clients choose.
The character after the address tells them apart: an address has neither a `p` nor a `u`.
-/

namespace NestMonorepo

open Collections FingerprintThrottlerGuard

/-- Whom a request is counted for. -/
inductive Caller where
  | device (fingerprint : String)
  | user (ip userId : String)
  | address (ip : String)
  deriving DecidableEq, Repr

namespace Caller

/-- The key of a caller. -/
def key : Caller → String
  | device fingerprint => "fp:" ++ fingerprint
  | user ip userId => ip ++ ":u:" ++ userId
  | address ip => ip

/-- The address of the caller, where it counts, is one. -/
def Located : Caller → Prop
  | device _ => True
  | user ip _ => IsAddress ip
  | address ip => IsAddress ip

end Caller

namespace Request

/-- A registration with a fingerprint. -/
def RegistersWith (request : Request) (fingerprint : String) : Prop :=
  request.endsWith "/auth/autoreg" = true ∧
    request.deviceFingerprint = some (.string fingerprint) ∧ fingerprint ≠ ""

/-- The request is the caller's: a registration is its device's, any other request is its
user's, and one without a user is its address's. -/
def IsFrom (request : Request) : Caller → Prop
  | .device fingerprint => request.RegistersWith fingerprint
  | .user ip userId => (∀ fingerprint, ¬request.RegistersWith fingerprint) ∧ request.ip = ip ∧
      request.user.map AccessUser.userId = some userId ∧ userId ≠ ""
  | .address ip => (∀ fingerprint, ¬request.RegistersWith fingerprint) ∧ request.ip = ip ∧
      ∀ userId, request.user.map AccessUser.userId = some userId → userId = ""

variable {request : Request} {first second : Caller}

/-- A request is one caller's. -/
theorem IsFrom.unique (isFirst : request.IsFrom first) (isSecond : request.IsFrom second) :
    first = second := by
  cases first with
  | device fingerprint =>
      cases second with
      | device other =>
          injection Option.some.inj (isFirst.2.1.symm.trans isSecond.2.1) with same
          rw [same]
      | user ip userId => exact (isSecond.1 fingerprint isFirst).elim
      | address ip => exact (isSecond.1 fingerprint isFirst).elim
  | user ip userId =>
      cases second with
      | device fingerprint => exact (isFirst.1 fingerprint isSecond).elim
      | user other otherId =>
          rw [← isFirst.2.1, ← isSecond.2.1,
            Option.some.inj (isFirst.2.2.1.symm.trans isSecond.2.2.1)]
      | address other => exact (isFirst.2.2.2 (isSecond.2.2 userId isFirst.2.2.1)).elim
  | address ip =>
      cases second with
      | device fingerprint => exact (isFirst.1 fingerprint isSecond).elim
      | user other userId => exact (isSecond.2.2.2 (isFirst.2.2 userId isSecond.2.2.1)).elim
      | address other => rw [← isFirst.2.1, ← isSecond.2.1]

/-- Outside registrations with a fingerprint the user counts, or the address. -/
theorem isFrom_byUser (other : ∀ fingerprint, ¬request.RegistersWith fingerprint) :
    ∃ caller, request.IsFrom caller ∧ byUser request = caller.key := by
  unfold byUser
  cases named : truthy (request.user.map AccessUser.userId) with
  | some userId =>
      obtain ⟨found, present⟩ := truthy_eq_some.mp named
      exact ⟨.user request.ip userId, ⟨other, rfl, found, present⟩, rfl⟩
  | none =>
      refine ⟨.address request.ip, ⟨other, rfl, fun userId found => ?_⟩, rfl⟩
      by_contra present
      rw [truthy_eq_some.mpr ⟨found, present⟩] at named
      cases named

variable (request) in
/-- Every request is somebody's, and is counted under that caller's key. -/
theorem getTracker_eq_key :
    ∃ caller, request.IsFrom caller ∧ getTracker request = caller.key := by
  unfold getTracker
  split
  · rename_i registers
    split
    · rename_i fingerprint given
      split
      · rename_i present
        exact ⟨.device fingerprint, ⟨registers, given, present⟩, rfl⟩
      · rename_i absent
        apply isFrom_byUser
        intro other registersWith
        injection Option.some.inj (given.symm.trans registersWith.2.1) with same
        exact absent (same ▸ registersWith.2.2)
    · rename_i ungiven
      apply isFrom_byUser
      exact fun fingerprint registersWith => ungiven fingerprint registersWith.2.1
  · rename_i elsewhere
    apply isFrom_byUser
    exact fun fingerprint registersWith => elsewhere registersWith.1

end Request

/-! ## Keys and callers -/

section Keys

variable {ip other : String} {first second : Caller}

/-- An address holds none of the other characters. -/
theorem IsAddress.not_mem (address : IsAddress ip) {character : Char}
    (foreign : isAddressChar character = false) : character ∉ ip.toList := by
  intro member
  rw [address character member] at foreign
  cases foreign

/-- The characters of a user's key, apart from those of the address and its colon. -/
theorem Caller.toList_key_user (ip userId : String) :
    (Caller.user ip userId).key.toList =
      (ip.toList ++ [':']) ++ 'u' :: (":".toList ++ userId.toList) := by
  have separator : ":u:".toList = ':' :: 'u' :: ":".toList := by decide
  rw [Caller.key, String.toList_append, String.toList_append, separator]
  simp only [List.append_assoc, List.cons_append, List.nil_append]

/-- The key of a device, character by character. -/
theorem Caller.toList_key_device (fingerprint : String) :
    (Caller.device fingerprint).key.toList =
      ['f'] ++ 'p' :: (":".toList ++ fingerprint.toList) := by
  have named : "fp:".toList = 'f' :: 'p' :: ":".toList := by decide
  rw [Caller.key, String.toList_append, named]
  rfl

/-- The address and its colon end where a `p` or a `u` stands. -/
theorem IsAddress.not_mem_colon (address : IsAddress ip) {character : Char}
    (foreign : isAddressChar character = false) : character ∉ ip.toList ++ [':'] := by
  intro member
  rcases List.mem_append.mp member with inside | last
  · exact address.not_mem foreign inside
  · rw [List.mem_singleton.mp last] at foreign
    cases foreign

/-- The letter p stands in no address. -/
theorem isAddressChar_p : isAddressChar 'p' = false := by decide

/-- Nor does the letter u. -/
theorem isAddressChar_u : isAddressChar 'u' = false := by decide

/-- A device's key is no user's: its p comes before any u, and the address in front of a
user's u has no p. -/
theorem Caller.device_ne_user (fingerprint userId : String) (address : IsAddress ip) :
    (Caller.device fingerprint).key ≠ (Caller.user ip userId).key := by
  intro same
  have same := congrArg String.toList same
  rw [toList_key_device, toList_key_user] at same
  have apart : 'u' ∉ ['f'] := by decide
  obtain ⟨-, differ, -⟩ := append_cons_inj (address.not_mem_colon isAddressChar_p) apart same
  cases differ

/-- A key with a character foreign to addresses is no address. -/
theorem IsAddress.ne_of_mem (address : IsAddress ip) {character : Char}
    (foreign : isAddressChar character = false) {key : String} (member : character ∈ key.toList) :
    key ≠ ip := by
  rintro rfl
  exact address.not_mem foreign member

/-- Nor is it an address: the p of `fp:` stands in none. -/
theorem Caller.device_ne_address (fingerprint : String) (address : IsAddress ip) :
    (Caller.device fingerprint).key ≠ (Caller.address ip).key := by
  refine address.ne_of_mem isAddressChar_p ?_
  rw [toList_key_device]
  exact List.mem_append_right _ List.mem_cons_self

/-- A user's key is no address, as no address has the letter u. -/
theorem Caller.user_ne_address (ip userId : String) (address : IsAddress other) :
    (Caller.user ip userId).key ≠ (Caller.address other).key := by
  refine address.ne_of_mem isAddressChar_u ?_
  rw [toList_key_user]
  exact List.mem_append_right _ List.mem_cons_self

/-- Two users' keys are one only for the same user at the same address. -/
theorem Caller.user_key_inj {userId otherId : String} (address : IsAddress ip)
    (otherAddress : IsAddress other)
    (same : (Caller.user ip userId).key = (Caller.user other otherId).key) :
    Caller.user ip userId = Caller.user other otherId := by
  have same := congrArg String.toList same
  rw [toList_key_user, toList_key_user] at same
  obtain ⟨addresses, -, rest⟩ := append_cons_inj (otherAddress.not_mem_colon isAddressChar_u)
    (address.not_mem_colon isAddressChar_u) same
  rw [String.toList_injective (List.append_cancel_right addresses),
    String.toList_injective (List.append_cancel_left rest)]

/-- Keys of different callers are different. -/
theorem Caller.key_inj (located : first.Located) (otherLocated : second.Located)
    (same : first.key = second.key) : first = second := by
  cases first with
  | device fingerprint =>
      cases second with
      | device other =>
          rw [Caller.key, Caller.key] at same
          rw [String.append_right_inj _ |>.mp same]
      | user ip userId => exact (device_ne_user fingerprint userId otherLocated same).elim
      | address ip => exact (device_ne_address fingerprint otherLocated same).elim
  | user ip userId =>
      cases second with
      | device fingerprint => exact (device_ne_user fingerprint userId located same.symm).elim
      | user other otherId => exact user_key_inj located otherLocated same
      | address other => exact (user_ne_address ip userId otherLocated same).elim
  | address ip =>
      cases second with
      | device fingerprint => exact (device_ne_address fingerprint located same.symm).elim
      | user other userId => exact (user_ne_address other userId located same.symm).elim
      | address other => exact congrArg Caller.address same

/-- A request from an address comes from a caller that is located there. -/
theorem Request.IsFrom.located {request : Request} {caller : Caller}
    (isFrom : request.IsFrom caller) (address : IsAddress request.ip) : caller.Located := by
  cases caller with
  | device fingerprint => trivial
  | user ip userId => exact isFrom.2.1 ▸ address
  | address ip => exact isFrom.2.1 ▸ address

end Keys

/-- Two requests are counted under one key exactly if they are one caller's: one device, one
user at one address, or one address. This rests on the letters that addresses do not have. -/
theorem getTracker_eq_iff {first second : Request} (address : IsAddress first.ip)
    (otherAddress : IsAddress second.ip) : getTracker first = getTracker second ↔
      ∃ caller, first.IsFrom caller ∧ second.IsFrom caller := by
  obtain ⟨caller, isFrom, counted⟩ := first.getTracker_eq_key
  obtain ⟨other, isFromOther, countedOther⟩ := second.getTracker_eq_key
  rw [counted, countedOther]
  constructor
  · intro same
    have equal := Caller.key_inj (isFrom.located address) (isFromOther.located otherAddress) same
    exact ⟨caller, isFrom, equal ▸ isFromOther⟩
  · rintro ⟨shared, isFirst, isSecond⟩
    rw [isFrom.unique isFirst, isFromOther.unique isSecond]

/-- The premises are met by an IPv6 client and a registration whose fingerprint imitates a
user's key: the two are told apart. -/
theorem getTracker_eq_iff_imitated :
    getTracker ⟨"f::1", "/v1/users/me", none, none⟩ =
        getTracker (AuthController.autoregRequest "10.0.0.1" (some (.string "f::1:u:7"))) ↔
      ∃ caller, Request.IsFrom ⟨"f::1", "/v1/users/me", none, none⟩ caller ∧
        (AuthController.autoregRequest "10.0.0.1" (some (.string "f::1:u:7"))).IsFrom caller :=
  getTracker_eq_iff (List.all_eq_true.mp (by decide)) (List.all_eq_true.mp (by decide))

end NestMonorepo
