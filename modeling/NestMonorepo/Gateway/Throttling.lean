import NestMonorepo.Collections.Quotas
import NestMonorepo.Common.ErrorPaths
import NestMonorepo.Gateway.AccessTokens

/-! # Throttled registration

Three named throttlers stand in front of `POST /v1/auth/autoreg`. All three count
a request under the one key that `getTracker` gives it.
-/

namespace NestMonorepo

open Collections

/-- A hexadecimal digit, a dot or a colon. -/
def isAddressChar (character : Char) : Bool :=
  ('0' ≤ character && character ≤ '9') || ('a' ≤ character && character ≤ 'f') ||
    ('A' ≤ character && character ≤ 'F') || character = '.' || character = ':'

/-- The text may be an IPv4 or IPv6 address. -/
def IsAddress (ip : String) : Prop := ∀ character ∈ ip.toList, isAddressChar character = true

/-- What the guards see of a request: the client's address, the path, the parsed
body, and the user the access guard has found. -/
structure Request where
  ip : String
  path : String
  body : Dynamic.Value
  user : Option AccessUser

namespace Request

def startsWith (request : Request) (text : String) : Bool :=
  text.toList.isPrefixOf request.path.toList

def endsWith (request : Request) (text : String) : Bool :=
  text.toList.isSuffixOf request.path.toList

/-- `body?.deviceFingerprint`. -/
def deviceFingerprint (request : Request) : Dynamic.Value :=
  Dynamic.field "deviceFingerprint" request.body

end Request

namespace FingerprintThrottlerGuard

/-- The part of `getTracker` for requests that are not counted by fingerprint. -/
def byUser (request : Request) : String :=
  match truthy (request.user.map AccessUser.userId) with
  | some userId => request.ip ++ ":u:" ++ userId
  | none => request.ip

def getTracker (request : Request) : String :=
  if request.endsWith "/auth/autoreg" then
    match request.deviceFingerprint with
    | some (.string fingerprint) =>
        if fingerprint ≠ "" then "fp:" ++ fingerprint else byUser request
    | _ => byUser request
  else byUser request

end FingerprintThrottlerGuard

/-- `ThrottlerModule.forRoot`, limits per 60 seconds. -/
def throttlers : List (Quota Request) :=
  [{ name := "default", limit := 200, skipIf := fun _ => false },
    { name := "auth", limit := 5, skipIf := fun request => !request.startsWith "/v1/auth/" },
    { name := "fingerprint", limit := 3,
      skipIf := fun request => !request.endsWith "/auth/autoreg" }]

namespace AuthController

/-- `@Throttle` of `autoreg`. -/
def autoregLimits : String → Option Nat
  | "auth" => some 5
  | "fingerprint" => some 3
  | _ => none

/-- The throttlers with the limits of the route. -/
def autoregThrottlers : List (Quota Request) :=
  throttlers.map fun throttler =>
    { throttler with limit := (autoregLimits throttler.name).getD throttler.limit }

/-- A `POST /v1/auth/autoreg` once the access guard has let it pass: the route is
public, so the guard leaves it without a user whatever token it carries. -/
def autoregRequest (ip : String) (body : Dynamic.Value) : Request where
  ip
  path := "/v1/auth/autoreg"
  body
  user := none

end AuthController

open AuthController FingerprintThrottlerGuard

/-- The requests of one address that the guard lets pass within one window. -/
def mintingRequests (ip : String) (bodies : List Dynamic.Value) : List Request :=
  admitted getTracker autoregThrottlers (bodies.map (autoregRequest ip)) []

/-- The key of a registration with this fingerprint. -/
def autoregTracker (ip : String) : Dynamic.Value → String
  | some (.string fingerprint) => if fingerprint ≠ "" then "fp:" ++ fingerprint else ip
  | _ => ip

/-- At most five requests of an address pass, and at most three with one fingerprint. -/
structure MintingBounded (ip : String) (bodies : List Dynamic.Value) : Prop where
  perAddress : (mintingRequests ip bodies).length ≤ 5
  perFingerprint : ∀ (value : Dynamic.Value) (alike : List Request),
    alike.Sublist (mintingRequests ip bodies) →
    (∀ request ∈ alike, request.deviceFingerprint = value) → alike.length ≤ 3

/-- The fingerprint a registration carries: a non-empty text under `deviceFingerprint`. -/
def carriedFingerprint (body : Dynamic.Value) : Option String :=
  match Dynamic.field "deviceFingerprint" body with
  | some (.string fingerprint) => if fingerprint ≠ "" then some fingerprint else none
  | _ => none

/-! ## What the throttlers count -/

section Counting

variable (ip : String) (bodies : List Dynamic.Value)

/-- The keys the requests are counted under. -/
def trackers : List String := (bodies.map (autoregRequest ip)).map getTracker

/-- The throttlers of the route are told apart by their names. -/
theorem autoregThrottlers_names : (autoregThrottlers.map Quota.name).Nodup := by decide

/-- No throttler skips the route. -/
theorem autoregThrottlers_count {request : Request}
    (member : request ∈ bodies.map (autoregRequest ip)) :
    ∀ throttler ∈ autoregThrottlers, throttler.skipIf request = false := by
  obtain ⟨body, -, rfl⟩ := List.mem_map.mp member
  have starts : "/v1/auth/".toList.isPrefixOf "/v1/auth/autoreg".toList = true := by decide
  have ends : "/auth/autoreg".toList.isSuffixOf "/v1/auth/autoreg".toList = true := by decide
  intro throttler member
  simp only [autoregThrottlers, throttlers, List.map_cons, List.map_nil, List.mem_cons,
    List.not_mem_nil, or_false] at member
  rcases member with rfl | rfl | rfl
  · rfl
  · simp only [Request.startsWith, autoregRequest, starts, Bool.not_true]
  · simp only [Request.endsWith, autoregRequest, ends, Bool.not_true]

/-- The fingerprint throttler is the only one that ever matters. -/
theorem autoregThrottlers_tightest : Tightest autoregThrottlers 3 := by
  intro served
  have limits : autoregThrottlers.map Quota.limit = [200, 5, 3] := by decide
  rw [← List.forall_mem_map (P := fun limit => served < limit), limits]
  simp only [List.forall_mem_cons, List.not_mem_nil, false_implies, implies_true, and_true]
  omega

/-- Of each tracker three requests pass, or all of its requests where they are fewer; the
requests that pass are as many as that makes together. -/
theorem mintingRequests_length : (mintingRequests ip bodies).length =
    ∑ tracker ∈ (trackers ip bodies).toFinset, min ((trackers ip bodies).count tracker) 3 :=
  admitted_length autoregThrottlers_names
    (fun _ member => autoregThrottlers_count ip bodies member) autoregThrottlers_tightest

/-- Requests of one address and fingerprint are counted under one key. -/
theorem getTracker_autoregRequest (body : Dynamic.Value) :
    getTracker (autoregRequest ip body) =
      autoregTracker ip (autoregRequest ip body).deviceFingerprint := by
  have ends : (autoregRequest ip body).endsWith "/auth/autoreg" = true := by
    change "/auth/autoreg".toList.isSuffixOf "/v1/auth/autoreg".toList = true
    decide
  rw [getTracker, if_pos ends]
  rfl

/-- Of requests that carry one and the same fingerprint value three pass at most. -/
theorem mintingRequests_alike {value : Dynamic.Value} {alike : List Request}
    (passed : alike.Sublist (mintingRequests ip bodies))
    (share : ∀ request ∈ alike, request.deviceFingerprint = value) : alike.length ≤ 3 := by
  apply admitted_length_le autoregThrottlers_names
    (fun _ member => autoregThrottlers_count ip bodies member) autoregThrottlers_tightest passed
  intro request member
  have same := share request member
  obtain ⟨body, -, rfl⟩ := List.mem_map.mp ((admitted_sublist []).subset (passed.subset member))
  rw [getTracker_autoregRequest, same]

variable {ip} in
/-- Registrations that carry different fingerprints, or one and none, have different keys. -/
theorem IsAddress.key_injective (address : IsAddress ip) :
    Function.Injective fun carried : Option String => match carried with
      | some fingerprint => "fp:" ++ fingerprint
      | none => ip := by
  have apart : ∀ fingerprint, "fp:" ++ fingerprint ≠ ip := by
    rintro fingerprint rfl
    have inside : 'p' ∈ ("fp:" ++ fingerprint).toList := by
      rw [String.toList_append]
      exact List.mem_append_left _ (by decide)
    exact absurd (address 'p' inside) (by decide)
  intro first second same
  cases first with
  | none =>
      cases second with
      | none => rfl
      | some fingerprint => exact (apart fingerprint same.symm).elim
  | some fingerprint =>
      cases second with
      | none => exact (apart fingerprint same).elim
      | some other => exact congrArg some (String.append_right_inj _ |>.mp same)

/-- A registration is counted under the fingerprint that its body carries, and under the
address where it carries none. -/
theorem trackers_eq : trackers ip bodies = (bodies.map carriedFingerprint).map fun carried =>
    match carried with
    | some fingerprint => "fp:" ++ fingerprint
    | none => ip := by
  rw [trackers, List.map_map, List.map_map]
  apply List.map_congr_left
  intro body _
  change getTracker (autoregRequest ip body) = _
  rw [getTracker_autoregRequest]
  change autoregTracker ip (Dynamic.field "deviceFingerprint" body) = _
  simp only [Function.comp_apply, carriedFingerprint, autoregTracker]
  split
  · split <;> rfl
  · rfl

/-- What passes: of each fingerprint, and of the registrations without one, three at most. -/
theorem mintingRequests_length_eq (address : IsAddress ip) : (mintingRequests ip bodies).length =
    ∑ carried ∈ (bodies.map carriedFingerprint).toFinset,
      min ((bodies.map carriedFingerprint).count carried) 3 := by
  have keys : ∀ {f : Option String → String} {carried : List (Option String)},
      (carried.map f).toFinset = carried.toFinset.image f := by
    intro f carried
    ext tracker
    simp only [List.mem_toFinset, Finset.mem_image, List.mem_map]
  rw [mintingRequests_length, trackers_eq, keys, Finset.sum_image address.key_injective.injOn]
  apply Finset.sum_congr rfl
  intro carried _
  rw [List.count_map_of_injective _ _ address.key_injective]

/-- The cap per address holds exactly if the registrations of each fingerprint that is
carried, and those that carry none, each counted up to three, are five at most. -/
theorem mintingBounded_iff (address : IsAddress ip) : MintingBounded ip bodies ↔
    ∑ carried ∈ (bodies.map carriedFingerprint).toFinset,
      min ((bodies.map carriedFingerprint).count carried) 3 ≤ 5 := by
  rw [← mintingRequests_length_eq ip bodies address]
  constructor
  · intro bounded
    exact bounded.perAddress
  · intro within
    exact ⟨within, fun value alike => mintingRequests_alike ip bodies⟩

end Counting

/-- Six registrations of one device. -/
def oneDevice : List Dynamic.Value :=
  List.replicate 6 (some (.object [("deviceFingerprint",
    .string "01b2c3d4e5f6a1b2c3d4e5f6a1b2c3d4")]))

/-- The premises are met by registrations that carry one fingerprint: no more than three of
them pass. -/
theorem mintingBounded_of_oneDevice : MintingBounded "203.0.113.7" oneDevice :=
  (mintingBounded_iff "203.0.113.7" oneDevice (List.all_eq_true.mp (by decide))).mpr (by decide)

/-- Six devices behind one address. -/
def sixDevices : List Dynamic.Value :=
  ["0", "1", "2", "3", "4", "5"].map fun digit =>
    some (.object [("deviceFingerprint",
      .string (digit ++ "1b2c3d4e5f6a1b2c3d4e5f6a1b2c3d4"))])

/-- Six registrations of one address pass when each has a fingerprint of its own: every
throttler counts them under their fingerprints, and none under the address. -/
theorem not_mintingBounded_of_sixDevices : ¬MintingBounded "203.0.113.7" sixDevices := by
  intro bounded
  have passed : (mintingRequests "203.0.113.7" sixDevices).length = 6 := by decide
  have capped := bounded.perAddress
  omega

end NestMonorepo
