import NestMonorepo.Collections.Routes
import NestMonorepo.Gateway.Throttling

/-! # Routes and throttlers

The router takes a path in any case and with a slash at its end; the throttlers compare
the path as it was sent. They agree on a path exactly if it is spelled as registered.
-/

namespace NestMonorepo

open Collections FingerprintThrottlerGuard

/-! ## The routes of the controller -/

/-- The `POST` handlers of `AuthController`. -/
inductive AuthRoute where
  | autoreg
  | upgrade
  | login
  | refresh
  | logout
  | forgot
  | reset
  | oauth
  deriving DecidableEq, Repr

namespace AuthController

/-- `@Controller('v1/auth')`. -/
def controllerPath : List (List Char) := ["".toList, "v1".toList, "auth".toList]

/-- The path of the `@Post` decorator. -/
def post : AuthRoute → List Segment
  | .autoreg => [.literal "autoreg".toList]
  | .upgrade => [.literal "upgrade".toList]
  | .login => [.literal "login".toList]
  | .refresh => [.literal "refresh".toList]
  | .logout => [.literal "logout".toList]
  | .forgot => [.literal "forgot".toList]
  | .reset => [.literal "reset".toList]
  | .oauth => [.literal "oauth".toList, .parameter]

/-- No route is the empty path. -/
theorem post_ne_nil (route : AuthRoute) : post route ≠ [] := by
  cases route <;> exact nofun

/-- The router hands a `POST` request of this path to the handler. -/
def Dispatches (route : AuthRoute) (path : String) : Prop :=
  Matches (controllerPath.map .literal ++ post route) path.toList

instance (route : AuthRoute) (path : String) : Decidable (Dispatches route path) :=
  inferInstanceAs (Decidable (Matches _ _))

end AuthController

open AuthController

/-! ## Limits that follow the routes -/

/-- No request of this path escapes a limit of its route. -/
structure LimitsFollow (route : AuthRoute) (path : String) : Prop where
  auth : ∀ throttler ∈ throttlers, throttler.name = "auth" →
    ∀ request : Request, request.path = path → throttler.skipIf request = false
  fingerprint : route = .autoreg → ∀ throttler ∈ throttlers, throttler.name = "fingerprint" →
    ∀ request : Request, request.path = path → throttler.skipIf request = false
  tracker : route = .autoreg → ∀ (request : Request) (fingerprint : String),
    request.path = path → request.deviceFingerprint = some (.string fingerprint) →
      fingerprint ≠ "" → getTracker request = "fp:" ++ fingerprint

/-- The path is spelled as registered: its first nine characters are in lower case; for
`autoreg` the whole path is, and it ends without a slash. -/
def Spelled : AuthRoute → String → Prop
  | .autoreg, path => Lowered path.toList ∧ path.toList.getLast? ≠ some '/'
  | _, path => Lowered (path.toList.take 9)

instance : ∀ (route : AuthRoute) (path : String), Decidable (Spelled route path)
  | .autoreg, _ => inferInstanceAs (Decidable (_ ∧ _))
  | .upgrade, _ | .login, _ | .refresh, _ | .logout, _ | .forgot, _ | .reset, _ | .oauth, _ =>
      inferInstanceAs (Decidable (Lowered _))

/-! ## Spellings -/

/-- A request of the path, with nothing else in it. -/
def plainRequest (path : String) : Request where
  ip := ""
  path
  body := none
  user := none

/-- The throttler of the auth routes is skipped for every path that does not start with the
lower case prefix. -/
theorem skipIf_auth {throttler : Quota Request} (member : throttler ∈ throttlers)
    (named : throttler.name = "auth") (request : Request) :
    throttler.skipIf request = !request.startsWith "/v1/auth/" := by
  simp only [throttlers, List.mem_cons, List.not_mem_nil, or_false] at member
  rcases member with rfl | rfl | rfl
  · exact absurd named (by decide)
  · rfl
  · exact absurd named (by decide)

/-- The fingerprint throttler is skipped for every path that does not end in the
registration's. -/
theorem skipIf_fingerprint {throttler : Quota Request} (member : throttler ∈ throttlers)
    (named : throttler.name = "fingerprint") (request : Request) :
    throttler.skipIf request = !request.endsWith "/auth/autoreg" := by
  simp only [throttlers, List.mem_cons, List.not_mem_nil, or_false] at member
  rcases member with rfl | rfl | rfl
  · exact absurd named (by decide)
  · exact absurd named (by decide)
  · rfl

section Spelling

variable {route : AuthRoute} {path : String}

/-- Every path that is dispatched begins with the controller's, up to case. -/
theorem lowered_take_of_dispatches (dispatched : Dispatches route path) :
    lowered (path.toList.take 9) = "/v1/auth/".toList := by
  obtain ⟨tail, spells⟩ := Matches.starts (post_ne_nil route) dispatched
  calc lowered (path.toList.take 9) = (lowered path.toList).take 9 := List.map_take
    _ = ("/v1/auth/".toList ++ tail).take 9 := congrArg (List.take 9) spells
    _ = "/v1/auth/".toList := List.take_left' rfl

/-- A path to `autoreg` is the canonical one, up to case and a slash at its end. -/
theorem lowered_of_dispatches_autoreg (dispatched : Dispatches .autoreg path) :
    lowered (unslashed path.toList) = "/v1/auth/autoreg".toList := by
  obtain ⟨others, accepts, spells⟩ := Matches.spelled (post_ne_nil .autoreg) dispatched
  cases accepts with
  | cons same none =>
      cases none
      rw [spells, List.intercalate_singleton, show lowered _ = _ from same]
      rfl

/-- The `auth` throttler counts exactly the paths whose first segments are in lower case. -/
theorem startsWith_iff (dispatched : Dispatches route path) (request : Request)
    (sent : request.path = path) :
    request.startsWith "/v1/auth/" = true ↔ Lowered (path.toList.take 9) := by
  have spells := lowered_take_of_dispatches dispatched
  rw [Request.startsWith, sent, List.isPrefixOf_iff_prefix, List.prefix_iff_eq_take]
  constructor
  · intro same
    rw [show path.toList.take 9 = _ from same.symm]
    decide
  · intro lower
    rw [lower.eq] at spells
    exact spells.symm

/-- The canonical path of `autoreg` alone is spelled as registered. -/
theorem spelled_autoreg_iff (dispatched : Dispatches .autoreg path) :
    Spelled .autoreg path ↔ path.toList = "/v1/auth/autoreg".toList := by
  have spells := lowered_of_dispatches_autoreg dispatched
  constructor
  · rintro ⟨lower, bare⟩
    rcases unslashed_cases path.toList with ⟨same, _⟩ | slashed
    · rw [← same, lower.eq] at spells
      exact spells
    · rw [slashed] at bare
      exact (bare List.getLast?_concat).elim
  · intro same
    rw [Spelled, same]
    decide

/-- The `fingerprint` throttler counts exactly the paths to `autoreg` that end as registered. -/
theorem endsWith_of_spelled (request : Request)
    (sent : request.path.toList = "/v1/auth/autoreg".toList) :
    request.endsWith "/auth/autoreg" = true := by
  rw [Request.endsWith, sent]
  decide

/-- A path to `autoreg` that is counted by both throttlers is the canonical one, since the
comparisons by prefix and by suffix leave no other spelling of it. -/
theorem canonical_of_counted (dispatched : Dispatches .autoreg path)
    (starts : (plainRequest path).startsWith "/v1/auth/" = true)
    (ends : (plainRequest path).endsWith "/auth/autoreg" = true) :
    path.toList = "/v1/auth/autoreg".toList := by
  have spells := lowered_of_dispatches_autoreg dispatched
  rw [Request.startsWith, List.isPrefixOf_iff_prefix] at starts
  rw [Request.endsWith, List.isSuffixOf_iff_suffix] at ends
  obtain ⟨tail, starts⟩ : "/v1/auth/".toList <+: path.toList := starts
  obtain ⟨front, ends⟩ : "/auth/autoreg".toList <:+ path.toList := ends
  rcases unslashed_cases path.toList with ⟨same, _⟩ | slashed
  · have long : path.toList.length = 16 := by
      have lengths := congrArg List.length spells
      rw [← same, lowered, List.length_map] at lengths
      exact lengths
    have short : front.length = 3 := by
      rw [← ends, List.length_append, show "/auth/autoreg".toList.length = 13 from rfl] at long
      omega
    calc path.toList = front ++ "/auth/autoreg".toList := ends.symm
      _ = path.toList.take 3 ++ "/auth/autoreg".toList := by
          rw [← ends, List.take_left' short]
      _ = "/v1/auth/autoreg".toList := by rw [← starts]; rfl
  · have last := congrArg List.getLast? (ends.trans slashed)
    rw [List.getLast?_concat, List.getLast?_append_of_ne_nil _ (by decide)] at last
    cases last

/-- No request of a dispatched path escapes a limit exactly if the path is spelled as
registered. -/
theorem limitsFollow_iff (dispatched : Dispatches route path) :
    LimitsFollow route path ↔ Spelled route path := by
  have auth : (∀ throttler ∈ throttlers, throttler.name = "auth" → ∀ request : Request,
      request.path = path → throttler.skipIf request = false) ↔
        Lowered (path.toList.take 9) := by
    constructor
    · intro counts
      have counted := counts throttlers[1] (List.getElem_mem _) rfl (plainRequest path) rfl
      rw [skipIf_auth (List.getElem_mem _) rfl, Bool.not_eq_false'] at counted
      exact (startsWith_iff dispatched (plainRequest path) rfl).mp counted
    · intro lower throttler member named request sent
      rw [skipIf_auth member named, (startsWith_iff dispatched request sent).mpr lower]
      rfl
  have others : route ≠ .autoreg → (LimitsFollow route path ↔ Lowered (path.toList.take 9)) :=
    fun other => ⟨fun follow => auth.mp follow.auth,
      fun lower => ⟨auth.mpr lower, fun same => absurd same other, fun same => absurd same other⟩⟩
  cases route with
  | autoreg =>
      rw [spelled_autoreg_iff dispatched]
      constructor
      · intro follow
        have ends := follow.fingerprint rfl throttlers[2] (List.getElem_mem _) rfl
          (plainRequest path) rfl
        rw [skipIf_fingerprint (List.getElem_mem _) rfl, Bool.not_eq_false'] at ends
        exact canonical_of_counted dispatched
          ((startsWith_iff dispatched (plainRequest path) rfl).mpr (auth.mp follow.auth)) ends
      · intro canonical
        have ends : ∀ request : Request, request.path = path →
            request.endsWith "/auth/autoreg" = true := fun request sent =>
          endsWith_of_spelled request (by rw [sent, canonical])
        refine ⟨auth.mpr ?_, fun _ throttler member named request sent => ?_,
          fun _ request fingerprint sent carried given => ?_⟩
        · rw [canonical]
          decide
        · rw [skipIf_fingerprint member named, ends request sent]
          rfl
        · simp only [getTracker, ends request sent, ↓reduceIte, carried, ne_eq, given,
            not_false_eq_true]
  | _ => exact others fun same => by cases same

end Spelling

/-- The premises are met by the path of `login` with one slash at the end: it is routed to
the same handler and counted by the same throttlers. -/
theorem limitsFollow_login : LimitsFollow .login "/v1/auth/login/" :=
  (limitsFollow_iff (by decide)).mpr (by decide)

/-- Spelled with one capital letter the path leads to `login`, since routes are matched
without regard to case, and is not counted, since the prefix is compared as it stands. -/
theorem not_limitsFollow_of_capital :
    Dispatches .login "/V1/auth/login" ∧ ¬LimitsFollow .login "/V1/auth/login" := by
  constructor
  · decide
  · intro follow
    have counted := follow.auth throttlers[1] (List.getElem_mem _) rfl
      (plainRequest "/V1/auth/login") rfl
    have skipped : throttlers[1].skipIf (plainRequest "/V1/auth/login") = true := by decide
    rw [skipped] at counted
    cases counted

end NestMonorepo
